import Mathlib.Data.Bool.AllAny
import MultisiteCrawler.Adapters.Boundary
import MultisiteCrawler.Records.Statements

/-!
# What the tables can hold

The columns of the tables bound the length of texts, and neither a text nor
JSON may contain the character NUL.  A collection can be stored if all its
statements fit, whatever the session replies, and it fails of nothing but a
unique constraint.

The runner checks none of this, so the theorem at the end is about its
results: they can be stored if their ids and headers are short enough and
nothing in them contains NUL.
-/

namespace MultisiteCrawler.Records

open Adapters
open Foundation.CivilTime
open Foundation.Interaction
open Foundation.JsonText
open Foundation.Lists
open Foundation.PythonErrors
open Foundation.PythonText
open Foundation.Transactions

/-! ## Columns -/

/-- The character which PostgreSQL can store nowhere. -/
def nul : Char := Char.ofNat 0

/-- A text can be a parameter of a statement. -/
def isStorableText (text : String) : Bool :=
  !text.toList.contains nul

mutual

/-- All texts and keys inside the value can be stored. -/
def isStorable : Json → Bool
  | .str value => isStorableText value
  | .arr items => isStorableItems items
  | .obj members => isStorableMembers members
  | _ => true

/-- `isStorable` for every item. -/
def isStorableItems : List Json → Bool
  | [] => true
  | item :: rest => isStorable item && isStorableItems rest

/-- `isStorable` for every member and its key. -/
def isStorableMembers : List (String × Json) → Bool
  | [] => true
  | (key, value) :: rest =>
      isStorableText key && isStorable value && isStorableMembers rest

end

/-- A text fits into a column. -/
def FitsColumn (limit : ℕ) (text : String) : Prop :=
  text.length ≤ limit ∧ isStorableText text = true

/-- A row of the table of records. -/
structure Record.Fits (record : Record) : Prop where
  externalId : FitsColumn 256 record.externalId
  payload : isStorableMembers record.payload = true
  contentHash : FitsColumn 128 record.contentHash

/-- A row of the table of events. -/
structure ChangeEvent.Fits (event : ChangeEvent) : Prop where
  eventType : FitsColumn 64 event.eventType
  payload : isStorableMembers event.payload = true

/-- A row of the table of fetch states. -/
structure SourceFetchState.Fits (state : SourceFetchState) : Prop where
  etag : ∀ etag ∈ state.etag, FitsColumn 512 etag
  lastModified : ∀ lastModified ∈ state.lastModified,
    FitsColumn 128 lastModified
  rawResponseHash : ∀ hash ∈ state.rawResponseHash, FitsColumn 64 hash

/-- All values of a request fit. -/
def RepositoryCommand.Fits : RepositoryCommand → Prop
  | .lockRecordKey sourceId externalId =>
      isStorableText (lockKey (sourceId, externalId)) = true
  | .selectRecord _ externalId => isStorableText externalId = true
  | .insertRecord build => ∀ id, (build id).Fits
  | .updateRecord record => record.Fits
  | .insertEvent event => event.Fits
  | .insertFetchState state => state.Fits
  | .updateFetchState state => state.Fits
  | _ => True

/-- Replies of a session: the rows which are stored fit. -/
def Stored : (command : RepositoryCommand) → command.Reply → Prop
  | .selectRecord sourceId externalId, reply =>
      ∀ record ∈ reply, record.key = (sourceId, externalId) ∧ record.Fits
  | .insertRecord _, reply =>
      ∀ error, reply = .error error → error = integrityError
  | .insertFetchState _, reply =>
      ∀ error, reply = .error error → error = integrityError
  | .selectActiveRecords _, reply => ∀ record ∈ reply, record.Fits
  | _, _ => True

/-- Only values which fit are written, and only unique constraints fail. -/
def columns :
    Discipline RepositoryCommand RepositoryCommand.Reply PyError where
  Allowed _ command := command.Fits
  Possible _ command reply := Stored command reply
  Fails _ error := error = integrityError

/-- A program keeps to the columns, whatever the session replies. -/
abbrev KeepsToColumns {Result : Type}
    (history : History RepositoryCommand RepositoryCommand.Reply)
    (program : RepositoryProgram Result) : Prop :=
  Follows columns (fun _ _ => True) history program

/-! ## Digests -/

/-- A digest of 64 hexadecimal digits, such as SHA-256. -/
structure HexDigest where
  digest : ByteArray → String
  length_digest : ∀ bytes, (digest bytes).length = 64
  isHex_digest : ∀ bytes, ∀ character ∈ (digest bytes).toList,
    character ∈ "0123456789abcdef".toList

theorem HexDigest.fits
    (sha256 : HexDigest) {limit : ℕ} (wide : 64 ≤ limit)
    (bytes : ByteArray) : FitsColumn limit (sha256.digest bytes) := by
  constructor
  · rw [sha256.length_digest]
    exact wide
  · rw [isStorableText, Bool.not_eq_true', List.contains_eq_mem,
      decide_eq_false_iff_not]
    intro member
    have isHex := sha256.isHex_digest bytes nul member
    revert isHex
    decide

/-! ## Keys -/

theorem digitChar_ne_nul {digit : ℕ} (small : digit < 16) :
    Nat.digitChar digit ≠ nul := by
  interval_cases digit <;> decide

theorem nul_not_mem_toDigits (value : ℕ) : nul ∉ Nat.toDigits 16 value := by
  induction value using Nat.strongRecOn with
  | ind value induction =>
      by_cases single : value < 16
      · rw [Nat.toDigits_of_lt_base single, List.mem_singleton]
        exact (digitChar_ne_nul single).symm
      · rw [Nat.toDigits_of_base_le (by decide) (not_lt.mp single),
          List.mem_append, List.mem_singleton, not_or]
        have remainder : value % 16 < 16 := Nat.mod_lt _ (by decide)
        exact
          ⟨induction _ (Nat.div_lt_self (by omega) (by decide)),
            (digitChar_ne_nul remainder).symm⟩

theorem nul_not_mem_uuidText (value : BitVec 128) :
    nul ∉ (uuidText value).toList := by
  have digits :
      nul ∉ (Nat.toDigits 16 value.toNat).leftpad 32 '0' := by
    rw [List.leftpad, List.mem_append, not_or]
    constructor
    · intro member
      exact absurd (List.eq_of_mem_replicate member) (by decide)
    · exact nul_not_mem_toDigits value.toNat
  have hyphen : nul ∉ "-".toList := by decide
  have start (count : ℕ) :
      nul ∉ ((Nat.toDigits 16 value.toNat).leftpad 32 '0').take count :=
    fun member => digits (List.mem_of_mem_take member)
  have rest (first : ℕ) :
      nul ∉ ((Nat.toDigits 16 value.toNat).leftpad 32 '0').drop first :=
    fun member => digits (List.mem_of_mem_drop member)
  have group (first count : ℕ) :
      nul ∉ (((Nat.toDigits 16 value.toNat).leftpad 32 '0').drop first).take
        count :=
    fun member => rest first (List.mem_of_mem_take member)
  simp only [uuidText, String.intercalate_cons_cons,
    String.intercalate_singleton, String.toList_append, String.toList_ofList,
    List.mem_append, not_or]
  exact ⟨⟨start 8, hyphen⟩, ⟨group 8 4, hyphen⟩, ⟨group 12 4, hyphen⟩,
    ⟨group 16 4, hyphen⟩, rest 20⟩

/-- The text which is locked can be stored if the id can. -/
theorem isStorableText_lockKey (sourceId : SourceId) (externalId : String) :
    isStorableText (lockKey (sourceId, externalId)) =
      isStorableText externalId := by
  have colon : ¬ nul = ':' := by decide
  simp [isStorableText, lockKey, List.contains_eq_mem,
    nul_not_mem_uuidText sourceId, colon]

/-! ## Statements which fit -/

/-- The fields of an item which are written fit. -/
structure ItemFits (item : ItemFields) : Prop where
  externalId : FitsColumn 256 item.externalId
  payload : isStorableMembers item.data = true

/-- The headers of a response fit. -/
structure HeadersFit (response : FetchResult) : Prop where
  etag : ∀ etag ∈ response.etag, FitsColumn 512 etag
  lastModified : ∀ lastModified ∈ response.lastModified,
    FitsColumn 128 lastModified

theorem isStorableMembers_writtenPayload
    {stored data : BusinessData} (fits : isStorableMembers stored = true)
    (dataFits : isStorableMembers data = true) :
    isStorableMembers (writtenPayload stored data) = true := by
  rw [writtenPayload]
  split_ifs
  · exact fits
  · exact dataFits

section Statements

variable (sha256 : HexDigest) (sourceId : SourceId) (now : NaiveDateTime)
variable (history : History RepositoryCommand RepositoryCommand.Reply)

/-- The statements for an item which fits. -/
theorem keepsToColumns_persistItem
    {item : ItemFields} (compatible : JsonCompatible item.data)
    (fits : ItemFits item) :
    KeepsToColumns history
      (persistItem sha256.digest sourceId now item) := by
  have idFits : isStorableText item.externalId = true := fits.externalId.2
  have hashFits :
      FitsColumn 128 (fingerprint sha256.digest item.data) :=
    sha256.fits (by decide) _
  have announced (id : RecordId) (eventType : String)
      (short : FitsColumn 64 eventType) :
      ChangeEvent.Fits ⟨id, eventType, item.data⟩ :=
    ⟨short, fits.payload⟩
  unfold persistItem
  rw [fingerprintBusinessData_of_compatible sha256.digest compatible]
  refine ⟨?_, fun _ _ => ⟨idFits, ?_⟩⟩
  · show isStorableText (lockKey (sourceId, item.externalId)) = true
    rw [isStorableText_lockKey]
    exact idFits
  · intro found stored
    cases found with
    | none =>
        refine ⟨fun id => ⟨fits.externalId, fits.payload, hashFits⟩, ?_⟩
        intro reply refused
        cases reply with
        | error error => exact refused error rfl
        | ok id =>
            exact
              ⟨announced id "created" ⟨by decide, by decide⟩,
                fun _ _ => trivial⟩
    | some record =>
        have recordFits : record.Fits := (stored record rfl).2
        have seenFits (contentHash : String)
            (fitsHash : FitsColumn 128 contentHash) :
            (seenRecord item contentHash now record).Fits :=
          ⟨recordFits.externalId,
            isStorableMembers_writtenPayload recordFits.payload fits.payload,
            fitsHash⟩
        show Follows columns _ _ (ite _ _ _)
        split_ifs
        · exact
            ⟨seenFits _ hashFits, fun _ _ =>
              ⟨announced record.id "updated" ⟨by decide, by decide⟩,
                fun _ _ => trivial⟩⟩
        · exact
            ⟨seenFits _ recordFits.contentHash, fun _ _ => trivial⟩

/-- The statements for items which fit. -/
theorem keepsToColumns_persistItems
    (items : List ItemFields) (observedIds : List String)
    (compatible : ∀ item ∈ items, JsonCompatible item.data)
    (fits : ∀ item ∈ items, ItemFits item) :
    KeepsToColumns history
      (persistItems sha256.digest sourceId now items observedIds) := by
  induction items generalizing observedIds history with
  | nil => trivial
  | cons item rest induction =>
      rw [List.forall_mem_cons] at compatible fits
      rw [persistItems]
      apply Follows.bind
        (keepsToColumns_persistItem sha256 sourceId now history compatible.1
          fits.1)
      intro later _ _
      exact induction later _ compatible.2 fits.2

/-- The statements for a fetch state which fits. -/
theorem keepsToColumns_updateFetchState
    (result : AdapterResult)
    (stateFits :
      SourceFetchState.Fits
        ⟨sourceId, result.response.etag, result.response.lastModified,
          some result.rawResponseHash, now⟩) :
    KeepsToColumns history (updateFetchState sourceId result now) := by
  refine ⟨trivial, ?_⟩
  intro found _
  cases found with
  | none =>
      refine ⟨stateFits, ?_⟩
      intro reply refused
      cases reply with
      | error error => exact refused error rfl
      | ok reply => trivial
  | some state => exact ⟨stateFits, fun _ _ => trivial⟩

/-- A missing record is written back as it was stored. -/
theorem keepsToColumns_missRecord {record : Record} (fits : record.Fits) :
    KeepsToColumns history (missRecord record) := by
  have inactive : FitsColumn 64 "inactive" := ⟨by decide, by decide⟩
  unfold missRecord
  split_ifs
  · exact
      ⟨⟨fits.externalId, fits.payload, fits.contentHash⟩, fun _ _ =>
        ⟨⟨inactive, fits.payload⟩, fun _ _ => trivial⟩⟩
  · exact
      ⟨⟨fits.externalId, fits.payload, fits.contentHash⟩,
        fun _ _ => trivial⟩

/-- Records which are stored fit again. -/
theorem keepsToColumns_missRecords
    (observedIds : List String) (records : List Record)
    (fits : ∀ record ∈ records, record.Fits) :
    KeepsToColumns history (missRecords observedIds records) := by
  induction records generalizing history with
  | nil => trivial
  | cons record rest induction =>
      rw [List.forall_mem_cons] at fits
      rw [missRecords]
      split_ifs
      · exact induction history fits.2
      · apply Follows.bind (keepsToColumns_missRecord history fits.1)
        intro later _ _
        exact induction later fits.2

/-- The statements for a collection which fits. -/
theorem keepsToColumns_persistCollection
    {result : AdapterResult} (compatible : result.Compatible)
    {bytes : ByteArray} (isHash : result.rawResponseHash = sha256.digest bytes)
    (itemsFit : ∀ item ∈ result.items, ItemFits item)
    (headersFit : HeadersFit result.response) :
    KeepsToColumns history
      (persistCollection sha256.digest sourceId result) := by
  have hashFits : FitsColumn 64 result.rawResponseHash := by
    rw [isHash]
    exact sha256.fits le_rfl bytes
  refine ⟨trivial, ?_⟩
  intro now _
  apply Follows.bind
    (keepsToColumns_persistItems sha256 sourceId now _ result.items []
      compatible itemsFit)
  intro later observedIds _
  apply Follows.bind
    (keepsToColumns_updateFetchState sourceId now later result
      ⟨headersFit.etag, headersFit.lastModified, ?_⟩)
  · intro last _ _
    refine ⟨trivial, ?_⟩
    intro records stored
    exact keepsToColumns_missRecords _ observedIds records stored
  · rintro hash ⟨⟩
    exact hashFits

/-! ## Collections which fit -/

variable {Output : Type}
variable {ends :
  History RepositoryCommand RepositoryCommand.Reply → Output → Prop}
variable {history}

/-- A record which is not found is inserted, so the item has to fit. -/
theorem itemFits_of_follows
    {item : ItemFields} (compatible : JsonCompatible item.data)
    {continuation : Unit → RepositoryProgram Output}
    (follows :
      Follows columns ends history
        (persistItem sha256.digest sourceId now item >>= continuation)) :
    ItemFits item ∧ ∃ later, Follows columns ends later (continuation ()) := by
  rw [persistItem,
    fingerprintBusinessData_of_compatible sha256.digest compatible] at follows
  rcases follows.2 () trivial with ⟨_, selected⟩
  rcases selected none nofun with ⟨inserted, announced⟩
  rcases announced (.ok 0) nofun with ⟨_, continued⟩
  exact ⟨⟨(inserted 0).externalId, (inserted 0).payload⟩, _,
    continued () trivial⟩

theorem itemsFit_of_follows
    (items : List ItemFields) {observedIds : List String}
    (compatible : ∀ item ∈ items, JsonCompatible item.data)
    {continuation : List String → RepositoryProgram Output}
    (follows :
      Follows columns ends history
        (persistItems sha256.digest sourceId now items observedIds >>=
          continuation)) :
    (∀ item ∈ items, ItemFits item) ∧
      ∃ later observed,
        Follows columns ends later (continuation observed) := by
  induction items generalizing observedIds history with
  | nil => exact ⟨List.forall_mem_nil _, history, observedIds, follows⟩
  | cons item rest induction =>
      rw [List.forall_mem_cons] at compatible ⊢
      have split :
          persistItems sha256.digest sourceId now (item :: rest)
              observedIds >>= continuation =
            persistItem sha256.digest sourceId now item >>= fun _ =>
              persistItems sha256.digest sourceId now rest
                (item.externalId :: observedIds) >>= continuation :=
        Program.bind_assoc _ _ _
      rw [split] at follows
      rcases itemFits_of_follows sha256 sourceId now compatible.1 follows with
        ⟨fits, later, continued⟩
      rcases induction compatible.2 continued with ⟨restFits, remaining⟩
      exact ⟨⟨fits, restFits⟩, remaining⟩

/-- The state which is not found is inserted, so the headers have to fit. -/
theorem headersFit_of_follows
    (result : AdapterResult) {continuation : Unit → RepositoryProgram Output}
    (follows :
      Follows columns ends history
        (updateFetchState sourceId result now >>= continuation)) :
    HeadersFit result.response := by
  rcases follows.2 none trivial with ⟨inserted, _⟩
  exact ⟨inserted.etag, inserted.lastModified⟩

/-- The statements for a collection fit just if its items and headers do. -/
theorem keepsToColumns_iff
    {result : AdapterResult} (compatible : result.Compatible)
    {bytes : ByteArray}
    (isHash : result.rawResponseHash = sha256.digest bytes) :
    KeepsToColumns history
        (persistCollection sha256.digest sourceId result) ↔
      (∀ item ∈ result.items, ItemFits item) ∧
        HeadersFit result.response := by
  constructor
  · intro keeps
    have someTime : NaiveDateTime := ⟨0, zero_lt_calendar⟩
    rcases itemsFit_of_follows sha256 sourceId someTime result.items
        compatible (keeps.2 someTime trivial) with
      ⟨itemsFit, later, observed, continued⟩
    exact ⟨itemsFit, headersFit_of_follows sourceId _ result continued⟩
  · rintro ⟨itemsFit, headersFit⟩
    exact keepsToColumns_persistCollection sha256 sourceId history compatible
      isHash itemsFit headersFit

end Statements

/-! ## Results of the runner -/

/-- A result has fields of the declared types, and all it writes fits. -/
def CanBeStored (sha256 : HexDigest) (returned : RunnerResult) : Prop :=
  ∃ result, IsResult returned result ∧
    ∀ sourceId, KeepsToColumns []
      (persistCollection sha256.digest sourceId result)

/-- A header is missing, or a text which fits. -/
def HeaderFits (limit : ℕ) : HeaderValue → Prop
  | .missing => True
  | .text value => FitsColumn limit value
  | .other => False

/-- The id is a short text, and there is no NUL. -/
structure ObjectFits (object : ItemObject) : Prop where
  externalId : ∃ externalId, object.externalId = some externalId ∧
    FitsColumn 256 externalId
  payload : ∀ data, object.data = .json data → isStorableMembers data = true

/-- The items and the headers of a result fit. -/
structure FieldsFit (returned : RunnerResult) : Prop where
  items : ∀ object ∈ returned.items, ObjectFits object
  etag : HeaderFits 512 returned.response.etag
  lastModified : HeaderFits 128 returned.response.lastModified

section Results

variable (sha256 : HexDigest)

theorem headerFits_iff
    {limit : ℕ} {found : HeaderValue} {header : Option String}
    (isHeader : found.header = some header) :
    HeaderFits limit found ↔ ∀ value ∈ header, FitsColumn limit value := by
  cases found with
  | missing =>
      cases isHeader
      exact iff_of_true trivial nofun
  | text value =>
      cases isHeader
      simp [HeaderFits]
  | other => cases isHeader

theorem exists_header
    {limit : ℕ} {found : HeaderValue} (fits : HeaderFits limit found) :
    ∃ header, found.header = some header := by
  cases found with
  | missing => exact ⟨none, rfl⟩
  | text value => exact ⟨some value, rfl⟩
  | other => cases fits

/-- What passes the checks of the runner is JSON-compatible. -/
theorem compatible_of_passes
    {Raw : Type} {adapter : Adapter Raw} {digest : ByteArray → String}
    {yielded : List (RawObject Raw × ℕ)} {objects : List ItemObject}
    (passes :
      List.Forall₂
        (fun yielded item =>
          Passes digest adapter yielded.2 yielded.1.value item)
        yielded objects) :
    ∀ object ∈ objects, ∃ data,
      object.data = .json data ∧ JsonCompatible data := by
  induction passes with
  | nil => exact List.forall_mem_nil _
  | cons here _ induction =>
      rw [List.forall_mem_cons]
      rcases here.fingerprint with ⟨data, _, isData, compatible, _⟩
      exact ⟨⟨data, isData, compatible⟩, induction⟩

theorem objectFits_iff
    {object : ItemObject} {item : ItemFields} (isItem : IsItem object item) :
    ObjectFits object ↔ ItemFits item := by
  rcases isItem with ⟨isId, isData⟩
  constructor
  · rintro ⟨⟨externalId, found, fits⟩, payload⟩
    rw [isId] at found
    cases found
    exact ⟨fits, payload item.data isData⟩
  · rintro ⟨fits, payload⟩
    refine ⟨⟨item.externalId, isId, fits⟩, ?_⟩
    intro data found
    rw [isData] at found
    cases found
    exact payload

/-- An object which fits has fields of the declared types. -/
theorem exists_isItem
    {object : ItemObject} (fits : ObjectFits object) {data : BusinessData}
    (isData : object.data = .json data) : ∃ item, IsItem object item := by
  rcases fits.externalId with ⟨externalId, isId, _⟩
  exact ⟨⟨externalId, data⟩, isId, isData⟩

/-- A result whose fields fit has the fields of an adapter result. -/
theorem exists_isResult
    {returned : RunnerResult} (fits : FieldsFit returned)
    {content : ByteArray} (body : returned.response.body.content = some content)
    (data : ∀ object ∈ returned.items, ∃ data, object.data = .json data) :
    ∃ result, IsResult returned result := by
  rcases exists_header fits.etag with ⟨etag, isEtag⟩
  rcases exists_header fits.lastModified with ⟨lastModified, isLastModified⟩
  have items : ∃ items, List.Forall₂ IsItem returned.items items := by
    apply exists_forall₂
    intro object member
    rcases data object member with ⟨data, isData⟩
    exact exists_isItem (fits.items object member) isData
  rcases items with ⟨items, isItems⟩
  exact
    ⟨⟨⟨content, etag, lastModified⟩, items, returned.rawResponseHash⟩,
      body, isEtag, isLastModified, isItems, rfl⟩

theorem content_of_digest
    {body : BodyValue} {hash : String}
    (digested : body.digest sha256.digest = .ok hash) :
    ∃ content, body.content = some content ∧
      hash = sha256.digest content := by
  cases body with
  | bytes content => exact ⟨content, rfl, (Except.ok.inj digested).symm⟩
  | buffer content => exact ⟨content, rfl, (Except.ok.inj digested).symm⟩
  | neither raised => cases digested

/--
What the runner returns can be stored just if its ids and headers are short
enough and nothing in it contains NUL.
-/
theorem canBeStored_iff
    {Raw : Type} (adapter : Adapter Raw) {returned : RunnerResult}
    (ran : AdapterRunner.run sha256.digest adapter = .ok returned) :
    CanBeStored sha256 returned ↔ FieldsFit returned := by
  rcases (AdapterRunner.run_eq_ok_iff sha256.digest adapter returned).mp ran
    with ⟨parsed, collects, digested⟩
  rcases content_of_digest sha256 digested with ⟨content, body, isHash⟩
  have data := compatible_of_passes collects.passes
  have stored (sourceId : SourceId) {result : AdapterResult}
      (isResult : IsResult returned result) :
      KeepsToColumns []
          (persistCollection sha256.digest sourceId result) ↔
        FieldsFit returned := by
    have sameData : ∀ object item, IsItem object item →
        ((∃ data, object.data = .json data ∧ JsonCompatible data) ↔
          JsonCompatible item.data) := by
      rintro object item ⟨_, isData⟩
      simp [isData]
    have compatible : result.Compatible :=
      (forall_mem_iff_of_forall₂ isResult.items sameData).mp data
    have sameItems :
        (∀ object ∈ returned.items, ObjectFits object) ↔
          ∀ item ∈ result.items, ItemFits item :=
      forall_mem_iff_of_forall₂ isResult.items fun _ _ => objectFits_iff
    rw [keepsToColumns_iff sha256 sourceId compatible
      (isResult.rawResponseHash.trans isHash), ← sameItems]
    constructor
    · rintro ⟨items, headersFit⟩
      exact
        ⟨items, (headerFits_iff isResult.etag).mpr headersFit.etag,
          (headerFits_iff isResult.lastModified).mpr headersFit.lastModified⟩
    · rintro ⟨items, etag, lastModified⟩
      exact
        ⟨items, (headerFits_iff isResult.etag).mp etag,
          (headerFits_iff isResult.lastModified).mp lastModified⟩
  constructor
  · rintro ⟨result, isResult, keeps⟩
    exact (stored 0 isResult).mp (keeps 0)
  · intro fits
    have isData : ∀ object ∈ returned.items, ∃ data,
        object.data = .json data := by
      intro object member
      rcases data object member with ⟨data, isData, _⟩
      exact ⟨data, isData⟩
    rcases exists_isResult fits body isData with ⟨result, isResult⟩
    refine ⟨result, isResult, ?_⟩
    intro sourceId
    exact (stored sourceId isResult).mpr fits

end Results

/-! ## Examples -/

/-- The SHA-256 of nothing, and that of the empty object for all else. -/
def sampleDigest : HexDigest where
  digest bytes :=
    if bytes.size = 0 then
      "e3b0c44298fc1c149afbf4c8996fb92427ae41e4649b934ca495991b7852b855"
    else "44136fa355b3678a1146ad16f7e8649e94fb4fc21fe77e8310c060f61caaff8a"
  length_digest bytes := by split_ifs <;> decide
  isHex_digest bytes := by
    refine List.all_iff_forall_prop.mp ?_
    split_ifs <;> rfl

/-- An adapter with one item without data. -/
def oneItem (externalId : String) : Adapter Unit where
  fetch := .ok (.ok (some { body := .bytes ByteArray.empty }))
  parse _ :=
    .ok (.ok (some ⟨⟨[⟨(), .ok true⟩], none⟩, ⟨[⟨(), .ok true⟩], none⟩⟩))
  normalize _ _ := .ok (.ok (some ⟨some externalId, .json []⟩))
  fingerprint _ _ :=
    .ok (.text
      "44136fa355b3678a1146ad16f7e8649e94fb4fc21fe77e8310c060f61caaff8a")

/-- What the runner returns for that adapter. -/
def oneItemResult (externalId : String) : RunnerResult where
  response := { body := .bytes ByteArray.empty }
  items := [⟨some externalId, .json []⟩]
  rawResponseHash :=
    "e3b0c44298fc1c149afbf4c8996fb92427ae41e4649b934ca495991b7852b855"

theorem run_oneItem (externalId : String) :
    AdapterRunner.run sampleDigest.digest (oneItem externalId) =
      .ok (oneItemResult externalId) := by
  rfl

/-- A short id without NUL can be stored. -/
theorem canBeStored_shortId : CanBeStored sampleDigest (oneItemResult "1") := by
  apply (canBeStored_iff sampleDigest (oneItem "1") (run_oneItem "1")).mpr
  refine ⟨?_, trivial, trivial⟩
  rw [oneItemResult, List.forall_mem_singleton]
  constructor
  · exact ⟨"1", rfl, by decide, by decide⟩
  · rintro _ ⟨⟩
    rfl

/-- The runner returns an id which is too long for its column. -/
theorem not_canBeStored_longId :
    AdapterRunner.run sampleDigest.digest
        (oneItem (String.ofList (List.replicate 257 'a'))) =
      .ok (oneItemResult (String.ofList (List.replicate 257 'a'))) ∧
    ¬ CanBeStored sampleDigest
        (oneItemResult (String.ofList (List.replicate 257 'a'))) := by
  refine ⟨run_oneItem _, ?_⟩
  rintro ⟨result, isResult, keeps⟩
  rcases List.forall₂_cons_left_iff.mp isResult.items with
    ⟨item, rest, ⟨isId, isData⟩, noMore, isItems⟩
  cases noMore
  have compatible : result.Compatible := by
    intro other member
    rw [isItems, List.mem_singleton] at member
    rw [member, ← DataObject.json.inj isData]
    rfl
  have isHash :
      result.rawResponseHash = sampleDigest.digest ByteArray.empty :=
    isResult.rawResponseHash
  have fits :=
    (keepsToColumns_iff sampleDigest 0 compatible isHash).mp (keeps 0)
  have here : item ∈ result.items := by
    rw [isItems]
    apply List.mem_singleton_self
  have short := (fits.1 item here).externalId.1
  rw [← Option.some.inj isId, String.length_ofList, List.length_replicate]
    at short
  omega

end MultisiteCrawler.Records
