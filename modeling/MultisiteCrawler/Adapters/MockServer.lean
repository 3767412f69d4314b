import MultisiteCrawler.Adapters.DemoApi
import MultisiteCrawler.Foundation.JsonRoundTrip

/-!
# Collecting from the mock server

`MockCrawlerServer` serves a list of mappings as a JSON document, or fails in
one of the ways its mode names, or because its handler raises: before it has
sent anything, over an ETag which is not latin-1, or after the headers, over a
document which `json.dumps` does not write.  A run of the demo adapter against
it collects the mappings as they were served, in their order, or fails as the
mode, the handler and the first mapping which is not an item make it fail.

Nothing is said of an ETag with line breaks: the server sends it as it is, and
with it whatever headers and body are written in it.
-/

namespace MultisiteCrawler.Adapters

open Foundation.EscapingErrors
open Foundation.JsonText
open Foundation.PythonErrors
open Foundation.PythonText

/-! ## The server -/

/-- `MockServerState`. -/
structure MockServerState where
  mode : String := "normal"
  items : List BusinessData := [[("id", .str "one")]]
  etag : String := "\"v1\""

/-- A response of the server. -/
structure HttpResponse where
  status : ℕ
  headers : List (String × String)
  body : ByteArray

/-- `{"items": items}`. -/
def itemsDocument (items : List BusinessData) : Json :=
  .obj [("items", .arr (items.map .obj))]

/--
The text which is sent in a response with a body.  Where `json.dumps` raises
the headers have been sent, and the connection is closed without a body.
-/
def MockServerState.bodyText (library : HttpLibrary)
    (state : MockServerState) : String :=
  if state.mode = "invalid_json" then "\x7b"
  else if state.mode = "empty" then "\x7b\"items\": []\x7d"
  else if state.mode = "missing_field" then
    "\x7b\"items\": [\x7b\x7d]\x7d"
  else if library.unwritable (itemsDocument state.items) then ""
  else dumps {} (itemsDocument state.items)

/-- A text which `send_header` can encode. -/
def isLatin1 (text : String) : Bool :=
  text.toList.all fun character => decide (character.toNat < 256)

/--
`do_GET`, given the header `If-None-Match`: the response, or nothing if the
handler raises before the headers are sent.  The mode `timeout` only delays
the response.
-/
def MockServerState.doGet (library : HttpLibrary) (state : MockServerState)
    (ifNoneMatch : Option String) : Option HttpResponse :=
  if state.mode = "429" then some ⟨429, [("Retry-After", "7")], .empty⟩
  else if state.mode = "500" then some ⟨500, [], .empty⟩
  else if ifNoneMatch = some state.etag then some ⟨304, [], .empty⟩
  else if isLatin1 state.etag then
    some
      ⟨200, [("Content-Type", "application/json"), ("ETag", state.etag)],
        (state.bodyText library).toUTF8⟩
  else none

/-- The exception for a connection which is closed without a response. -/
def remoteDisconnected : Raised where
  error := ⟨.other "RemoteDisconnected",
    some "Remote end closed connection without response"⟩

/--
`urlopen` and the reading of the response.  An `HTTPError` is raised on other
statuses than successes; what the HTTP client raises over a header is neither
this nor an `URLError`.
-/
def urlopen (library : HttpLibrary) : Option HttpResponse → HttpReply
  | none => .broken remoteDisconnected
  | some response =>
      if 200 ≤ response.status ∧ response.status < 300 then
        match lookup "ETag" response.headers with
        | none => .received response.body none
        | some etag =>
            match library.header etag with
            | .ok text => .received response.body (some text)
            | .error raised => .broken raised
      else .refused

/--
What the adapter is replied, if the response arrives before
`timeout_seconds`; the adapter sends no `If-None-Match`.
-/
def MockServerState.reply (library : HttpLibrary) (state : MockServerState)
    (arrives : Bool) : HttpReply :=
  if arrives then urlopen library (state.doGet library none) else .refused

/-! ## What is sent is what is read -/

section Transport

variable (library : HttpLibrary)

theorem fromUTF8?_toUTF8 (text : String) :
    String.fromUTF8? text.toUTF8 = some text := by
  rw [String.toUTF8_eq_toByteArray, String.fromUTF8?,
    dif_pos text.isValidUTF8]
  rfl

/-- The bytes of a text, character by character. -/
theorem bytes_ofList (characters : List Char) :
    (String.ofList characters).toUTF8.data.toList =
      characters.flatMap String.utf8EncodeChar := by
  rw [String.toUTF8_eq_toByteArray, String.toByteArray_ofList,
    List.utf8Encode, List.toList_data_toByteArray]

theorem detectEncoding_object (rest : List UInt8) :
    detectEncoding (0x7b :: 0x22 :: rest) = .utf8 := by
  rcases rest with _ | ⟨third, _ | ⟨fourth, rest⟩⟩
  · rfl
  · rfl
  · rfl

/-- A JSON object is decoded as the text which was encoded. -/
theorem decodeBytes_object (rest : List Char) :
    decodeBytes library (String.ofList ('{' :: '"' :: rest)).toUTF8 =
      .ok (String.ofList ('{' :: '"' :: rest)) := by
  have bytes :
      (String.ofList ('{' :: '"' :: rest)).toUTF8.data.toList =
        0x7b :: 0x22 :: rest.flatMap String.utf8EncodeChar := by
    rw [bytes_ofList]
    rfl
  rw [decodeBytes, bytes, detectEncoding_object, fromUTF8?_toUTF8]

theorem decodeBytes_brace :
    decodeBytes library "\x7b".toUTF8 = .ok "\x7b" := by
  have bytes : "\x7b".toUTF8.data.toList = [0x7b] :=
    bytes_ofList ['{']
  rw [decodeBytes, bytes, fromUTF8?_toUTF8]
  rfl

/-- A document whose first key is `items` starts as an object does. -/
theorem dumps_itemsDocument (items : List BusinessData) :
    ∃ rest, dumps {} (itemsDocument items) =
      String.ofList ('{' :: '"' :: rest) :=
  ⟨_, rfl⟩

/-- What is served in place of the items, if a document is served. -/
def MockServerState.served (state : MockServerState) : List BusinessData :=
  if state.mode = "empty" then []
  else if state.mode = "missing_field" then [[]]
  else state.items

/-- The body of a response is a document. -/
def MockServerState.HasDocument (state : MockServerState) : Prop :=
  state.mode ≠ "invalid_json" ∧
    (library.unwritable (itemsDocument state.items) = true →
      state.mode = "empty" ∨ state.mode = "missing_field")

instance (state : MockServerState) : Decidable (state.HasDocument library) :=
  inferInstanceAs (Decidable (_ ∧ (_ → _)))

variable {library} in
theorem bodyText_of_document {state : MockServerState}
    (document : state.HasDocument library) :
    state.bodyText library = dumps {} (itemsDocument state.served) := by
  rcases document with ⟨notGarbled, written⟩
  rw [MockServerState.bodyText, MockServerState.served, if_neg notGarbled]
  split_ifs with isEmpty isMissing unwritable
  · rfl
  · rfl
  · exact absurd (written unwritable) (not_or.mpr ⟨isEmpty, isMissing⟩)
  · rfl

variable {library} in
/-- Otherwise it is a brace, or it is empty. -/
theorem bodyText_of_not_document {state : MockServerState}
    (garbled : ¬ state.HasDocument library) :
    state.bodyText library = "\x7b" ∨ state.bodyText library = "" := by
  rw [MockServerState.bodyText]
  split_ifs with isGarbled isEmpty isMissing unwritable
  · exact Or.inl rfl
  · exact absurd ⟨isGarbled, fun _ => Or.inl isEmpty⟩ garbled
  · exact absurd ⟨isGarbled, fun _ => Or.inr isMissing⟩ garbled
  · exact Or.inr rfl
  · exact absurd ⟨isGarbled, fun raises => absurd raises unwritable⟩ garbled

/-- Objects in a list are the mappings in it. -/
theorem mappings_map_obj (items : List BusinessData) :
    mappings (items.map .obj) = some items := by
  induction items with
  | nil => rfl
  | cons members rest induction =>
      rw [List.map_cons, mappings, induction]
      rfl

theorem uniqueKeysItems_map_obj {items : List BusinessData}
    (unique : ∀ members ∈ items, (Json.obj members).UniqueKeys) :
    uniqueKeysItems (items.map .obj) := by
  induction items with
  | nil => trivial
  | cons members rest induction =>
      rw [List.forall_mem_cons] at unique
      exact ⟨unique.1, induction unique.2⟩

theorem decodeBytes_empty : decodeBytes library "".toUTF8 = .ok "" := by
  have bytes : "".toUTF8.data.toList = [] :=
    bytes_ofList []
  rw [decodeBytes, bytes, fromUTF8?_toUTF8]
  rfl

/-- What is sent is read as the text which was encoded. -/
theorem decodeBytes_bodyText (state : MockServerState) :
    decodeBytes library (state.bodyText library).toUTF8 =
      .ok (state.bodyText library) := by
  by_cases document : state.HasDocument library
  · rcases dumps_itemsDocument state.served with ⟨rest, isText⟩
    rw [bodyText_of_document document, isText]
    exact decodeBytes_object library rest
  · rcases bodyText_of_not_document document with isBrace | isEmpty
    · rw [isBrace, decodeBytes_brace]
    · rw [isEmpty, decodeBytes_empty]

/-- What is sent is read as the document it is the text of, if any. -/
theorem loadsBytes_bodyText {state : MockServerState}
    (within : library.exceeds (state.bodyText library) = none) :
    loadsBytes library (state.bodyText library).toUTF8 =
      .ok (loads (state.bodyText library)) := by
  rw [loadsBytes, decodeBytes_bodyText, ok_bind, within]

theorem uniqueKeysItems_served {state : MockServerState}
    (unique : ∀ members ∈ state.items, (Json.obj members).UniqueKeys) :
    uniqueKeysItems (state.served.map .obj) := by
  apply uniqueKeysItems_map_obj
  rw [MockServerState.served]
  split_ifs
  · exact List.forall_mem_nil _
  · exact List.forall_mem_singleton.mpr ⟨List.nodup_nil, trivial⟩
  · exact unique

/-- The adapter parses a document as the items it was made of. -/
theorem demoParse_document {state : MockServerState}
    (document : state.HasDocument library)
    (unique : ∀ members ∈ state.items, (Json.obj members).UniqueKeys)
    (within : library.exceeds (state.bodyText library) = none) :
    demoParse library (state.bodyText library).toUTF8 = .ok state.served := by
  have uniqueDocument : (itemsDocument state.served).UniqueKeys :=
    ⟨List.nodup_singleton _, uniqueKeysItems_served unique, trivial⟩
  have loaded :
      loads (state.bodyText library) = some (itemsDocument state.served) := by
    rw [bodyText_of_document document]
    exact loads_dumps {} _ uniqueDocument
  have isItems :
      (some (itemsDocument state.served)).bind itemsMember =
        some (.arr (state.served.map .obj)) := rfl
  rw [demoParse, loadsBytes_bodyText library within, loaded, ok_bind, isItems]
  dsimp only
  rw [mappings_map_obj]

/-- What `json.loads` raises beyond its limits is not handled. -/
theorem demoParse_of_exceeds {state : MockServerState} {raised : Raised}
    (beyond : library.exceeds (state.bodyText library) = some raised) :
    demoParse library (state.bodyText library).toUTF8 = .error raised := by
  rw [demoParse, loadsBytes, decodeBytes_bodyText, ok_bind, beyond]
  rfl

/-- What is not a document is not parsed. -/
theorem demoParse_garbled {state : MockServerState}
    (garbled : ¬ state.HasDocument library)
    (within : library.exceeds (state.bodyText library) = none) :
    demoParse library (state.bodyText library).toUTF8 =
      .error
        (parseError "demo_api response is not a valid items document") := by
  have notLoaded : loads (state.bodyText library) = none := by
    rcases bodyText_of_not_document garbled with isBrace | isEmpty
    · rw [isBrace]
      decide
    · rw [isEmpty]
      decide
  rw [demoParse, loadsBytes_bodyText library within, notLoaded]
  rfl

end Transport

/-! ## Runs against the server -/

section Runs

variable (sha256 : ByteArray → String) (library : HttpLibrary)

/-- The item a mapping stands for: the mapping itself, under its id. -/
structure IsDemoItem (members : BusinessData) (item : CrawlItem) : Prop where
  id : lookup "id" members = some (.str item.externalId)
  data : item.data = members
  encodable : library.unencodable members = none
  compatible : JsonCompatible members

/-- Why a mapping stands for no item. -/
inductive DemoFault (members : BusinessData) : Raised → Prop where
  | noText (missing : ∀ text, lookup "id" members ≠ some (.str text)) :
      DemoFault members (parseError "demo_api item is missing string id")
  | blank {text : String} (id : lookup "id" members = some (.str text))
      (blank : strip text = "") :
      DemoFault members
        (normalizationError
          "normalize returned invalid CrawlItem data: external_id.")
  | unencodable {text : String} {raised : Raised}
      (id : lookup "id" members = some (.str text))
      (notBlank : strip text ≠ "")
      (beyond : library.unencodable members = some raised) :
      DemoFault members (unencodableError raised)
  | notFinite {text : String} (id : lookup "id" members = some (.str text))
      (notBlank : strip text ≠ "")
      (encodable : library.unencodable members = none)
      (infinite : ¬ JsonCompatible members) :
      DemoFault members
        (contractError "CrawlItem data must be JSON-compatible.")

theorem collectItem_eq_ok_iff (members : BusinessData) (item : CrawlItem) :
    collectItem library members = .ok item ↔
      IsDemoItem library members item := by
  constructor
  · intro made
    rw [collectItem] at made
    split at made
    · rename_i identifier isId
      by_cases blank : strip identifier = ""
      · rw [dif_pos blank] at made
        cases made
      · rw [dif_neg blank] at made
        cases limit : library.unencodable members with
        | some raised =>
            rw [limit] at made
            cases made
        | none =>
            rw [limit] at made
            dsimp only at made
            split_ifs at made with finite
            cases made
            exact ⟨isId, rfl, limit, finite⟩
    · cases made
  · rintro ⟨id, data, encodable, compatible⟩
    have finite : isFiniteMembers members = true := compatible
    rw [collectItem, id]
    dsimp only
    rw [dif_neg item.notBlank, encodable]
    dsimp only
    rw [if_pos finite]
    rcases item with ⟨⟨externalId, data⟩, _, _⟩
    cases data
    rfl

theorem collectItem_of_fault {members : BusinessData} {raised : Raised}
    (fault : DemoFault library members raised) :
    collectItem library members = .error raised := by
  rw [collectItem]
  cases fault with
  | noText missing =>
      split
      · exact absurd (by assumption) (missing _)
      · rfl
  | blank id blank =>
      rw [id]
      dsimp only
      rw [dif_pos blank]
  | unencodable id notBlank beyond =>
      rw [id]
      dsimp only
      rw [dif_neg notBlank, beyond]
  | notFinite id notBlank encodable infinite =>
      have notFinite : ¬ isFiniteMembers members = true := infinite
      rw [id]
      dsimp only
      rw [dif_neg notBlank, encodable]
      dsimp only
      rw [if_neg notFinite]

/-- A response without a document, or none in time. -/
def MockServerState.Refuses (state : MockServerState) (arrives : Bool) :
    Prop :=
  arrives = false ∨ state.mode = "429" ∨ state.mode = "500"

/-- A response is sent whose ETag is one line. -/
structure MockServerState.Answers (state : MockServerState) (arrives : Bool) :
    Prop where
  notRefused : ¬ state.Refuses arrives
  latin1 : isLatin1 state.etag = true
  oneLine : ∀ character ∈ state.etag.toList,
    character ≠ '\r' ∧ character ≠ '\n'

/-- A response with a body arrives, with this ETag. -/
structure MockServerState.Sends (state : MockServerState) (arrives : Bool)
    (etag : String) : Prop extends state.Answers arrives where
  header : library.header state.etag = .ok etag

/-- The run against the server. -/
abbrev MockServerState.run (state : MockServerState) (arrives : Bool) :
    Except Raised RunnerResult :=
  AdapterRunner.run sha256
    (demoApi sha256 library (state.reply library arrives))

/--
A run ends as the mode of the server, its handler and the mappings it serves
say.
-/
structure RunsAsServed (state : MockServerState) (arrives : Bool) :
    Prop where
  refused : state.Refuses arrives →
    state.run sha256 library arrives =
      .error (fetchError "demo_api request failed")
  unsent : ¬ state.Refuses arrives → isLatin1 state.etag = false →
    state.run sha256 library arrives =
      .error (fetchError "Adapter fetch failed.")
  unread : state.Answers arrives →
    ∀ raised, library.header state.etag = .error raised →
      state.run sha256 library arrives =
        .error
          (if raised.isAdapterRunError then raised
            else fetchError "Adapter fetch failed.")
  beyond : ∀ etag, state.Sends library arrives etag → ∀ raised,
    library.exceeds (state.bodyText library) = some raised →
      state.run sha256 library arrives =
        .error
          (if raised.isAdapterRunError then raised
            else parseError "Adapter parse failed.")
  garbled : ∀ etag, state.Sends library arrives etag →
    library.exceeds (state.bodyText library) = none →
      ¬ state.HasDocument library →
        state.run sha256 library arrives =
          .error
            (parseError "demo_api response is not a valid items document")
  collects : ∀ etag, state.Sends library arrives etag →
    library.exceeds (state.bodyText library) = none →
      state.HasDocument library → ∀ items : List CrawlItem,
        List.Forall₂ (IsDemoItem library) state.served items →
          state.run sha256 library arrives =
            .ok
              ⟨receivedObject (state.bodyText library).toUTF8 (some etag),
                items.map CrawlItem.object,
                sha256 (state.bodyText library).toUTF8⟩
  faults : ∀ etag, state.Sends library arrives etag →
    library.exceeds (state.bodyText library) = none →
      state.HasDocument library → ∀ before members after raised,
        state.served = before ++ members :: after →
          (∀ earlier ∈ before, ∃ item, IsDemoItem library earlier item) →
            DemoFault library members raised →
              state.run sha256 library arrives = .error raised

theorem reply_of_refuses {state : MockServerState} {arrives : Bool}
    (refuses : state.Refuses arrives) :
    state.reply library arrives = .refused := by
  rw [MockServerState.reply]
  rcases refuses with late | isMode | isMode
  · rw [late]
    rfl
  · rw [MockServerState.doGet, if_pos isMode]
    exact ite_self _
  · have other : ¬ state.mode = "429" := by
      rw [isMode]
      decide
    rw [MockServerState.doGet, if_neg other, if_pos isMode]
    exact ite_self _

/-- What is read of a response with a body and an ETag. -/
theorem urlopen_etag (etag : String) (body : ByteArray) :
    urlopen library
        (some
          ⟨200, [("Content-Type", "application/json"), ("ETag", etag)],
            body⟩) =
      match library.header etag with
      | .ok text => .received body (some text)
      | .error raised => .broken raised := by
  have success : 200 ≤ 200 ∧ 200 < 300 := by decide
  rw [urlopen, if_pos success]
  rfl

/-- What the server answers otherwise. -/
theorem reply_of_answers {state : MockServerState} {arrives : Bool}
    (answers : ¬ state.Refuses arrives) :
    state.reply library arrives =
      urlopen library
        (if isLatin1 state.etag then
          some
            ⟨200,
              [("Content-Type", "application/json"), ("ETag", state.etag)],
              (state.bodyText library).toUTF8⟩
        else none) := by
  rw [MockServerState.Refuses, not_or, not_or, Bool.not_eq_false] at answers
  have noTag : ¬ (none : Option String) = some state.etag := nofun
  rw [MockServerState.reply, if_pos answers.1, MockServerState.doGet,
    if_neg answers.2.1, if_neg answers.2.2, if_neg noTag]

/-- Against a server which refuses a run fails. -/
theorem run_of_refuses {state : MockServerState} {arrives : Bool}
    (refuses : state.Refuses arrives) :
    state.run sha256 library arrives =
      .error (fetchError "demo_api request failed") := by
  rw [MockServerState.run, reply_of_refuses library refuses,
    run_demoApi_refused]

/-- Against a server whose handler raises a run fails. -/
theorem run_of_unsent {state : MockServerState} {arrives : Bool}
    (answers : ¬ state.Refuses arrives)
    (unsent : isLatin1 state.etag = false) :
    state.run sha256 library arrives =
      .error (fetchError "Adapter fetch failed.") := by
  have broken :
      state.reply library arrives = .broken remoteDisconnected := by
    rw [reply_of_answers library answers, unsent]
    rfl
  rw [MockServerState.run, broken, run_demoApi_broken]
  rfl

/-- Where the ETag cannot be read a run fails. -/
theorem run_of_unread
    {state : MockServerState} {arrives : Bool} {raised : Raised}
    (answers : state.Answers arrives)
    (unread : library.header state.etag = .error raised) :
    state.run sha256 library arrives =
      .error
        (if raised.isAdapterRunError then raised
          else fetchError "Adapter fetch failed.") := by
  have broken : state.reply library arrives = .broken raised := by
    rw [reply_of_answers library answers.notRefused, if_pos answers.latin1,
      urlopen_etag, unread]
  rw [MockServerState.run, broken, run_demoApi_broken]

theorem reply_of_sends
    {state : MockServerState} {arrives : Bool} {etag : String}
    (sends : state.Sends library arrives etag) :
    state.reply library arrives =
      .received (state.bodyText library).toUTF8 (some etag) := by
  rw [reply_of_answers library sends.notRefused, if_pos sends.latin1,
    urlopen_etag, sends.header]

/-- A run against a server which sends a body. -/
theorem run_of_sends
    {state : MockServerState} {arrives : Bool} {etag : String}
    (sends : state.Sends library arrives etag) :
    state.run sha256 library arrives =
      (collected library (state.bodyText library).toUTF8).map fun items =>
        ⟨receivedObject (state.bodyText library).toUTF8 (some etag),
          items.map CrawlItem.object,
          sha256 (state.bodyText library).toUTF8⟩ := by
  rw [MockServerState.run, reply_of_sends library sends,
    run_demoApi_received]

/-- Against a server which sends what is beyond the limits a run fails. -/
theorem run_of_exceeds
    {state : MockServerState} {arrives : Bool} {etag : String}
    {raised : Raised} (sends : state.Sends library arrives etag)
    (beyond : library.exceeds (state.bodyText library) = some raised) :
    state.run sha256 library arrives =
      .error
        (if raised.isAdapterRunError then raised
          else parseError "Adapter parse failed.") := by
  rw [run_of_sends sha256 library sends, collected,
    demoParse_of_exceeds library beyond]
  rfl

/-- Against a server which sends no document a run fails. -/
theorem run_of_garbled
    {state : MockServerState} {arrives : Bool} {etag : String}
    (sends : state.Sends library arrives etag)
    (within : library.exceeds (state.bodyText library) = none)
    (garbled : ¬ state.HasDocument library) :
    state.run sha256 library arrives =
      .error
        (parseError "demo_api response is not a valid items document") := by
  rw [run_of_sends sha256 library sends, collected,
    demoParse_garbled library garbled within]
  rfl

/-- What a run against a server which sends a document makes of it. -/
theorem run_of_document
    {state : MockServerState} {arrives : Bool} {etag : String}
    (sends : state.Sends library arrives etag)
    (within : library.exceeds (state.bodyText library) = none)
    (document : state.HasDocument library)
    (unique : ∀ members ∈ state.items, (Json.obj members).UniqueKeys) :
    state.run sha256 library arrives =
      (state.served.mapM (collectItem library)).map fun items =>
        ⟨receivedObject (state.bodyText library).toUTF8 (some etag),
          items.map CrawlItem.object,
          sha256 (state.bodyText library).toUTF8⟩ := by
  rw [run_of_sends sha256 library sends, collected,
    demoParse_document library document unique within]
  rfl

/-- Items are collected if and only if all mappings stand for them. -/
theorem mapM_collectItem_eq_ok_iff
    (found : List BusinessData) (items : List CrawlItem) :
    found.mapM (collectItem library) = .ok items ↔
      List.Forall₂ (IsDemoItem library) found items := by
  rw [mapM_eq_ok_iff]
  constructor
  · intro made
    exact made.imp fun members item => (collectItem_eq_ok_iff _ _ _).mp
  · intro isItems
    exact isItems.imp fun members item => (collectItem_eq_ok_iff _ _ _).mpr

/-- A run collects what is served, or fails as the server makes it fail. -/
theorem runs_as_served (state : MockServerState) (arrives : Bool)
    (unique : ∀ members ∈ state.items, (Json.obj members).UniqueKeys) :
    RunsAsServed sha256 library state arrives where
  refused := run_of_refuses sha256 library
  unsent := run_of_unsent sha256 library
  unread answers _ := run_of_unread sha256 library answers
  beyond _ sends _ := run_of_exceeds sha256 library sends
  garbled _ sends := run_of_garbled sha256 library sends
  collects _ sends within document items isItems := by
    rw [run_of_document sha256 library sends within document unique,
      (mapM_collectItem_eq_ok_iff library state.served items).mpr isItems]
    rfl
  faults _ sends within document before members after raised split earlier
      fault := by
    have passed :
        ∀ other ∈ before, ∃ item, collectItem library other = .ok item := by
      intro other member
      rcases earlier other member with ⟨item, isItem⟩
      exact ⟨item, (collectItem_eq_ok_iff _ _ _).mpr isItem⟩
    have failed :
        state.served.mapM (collectItem library) = .error raised := by
      rw [split]
      exact mapM_eq_error _ after passed (collectItem_of_fault library fault)
    rw [run_of_document sha256 library sends within document unique, failed]
    rfl

end Runs

/-- A library without limits. -/
def plainLibrary : HttpLibrary where
  exceeds _ := none
  unencodable _ := none
  unwritable _ := false
  decodeOther _ :=
    .error
      { error := ⟨.other "UnicodeDecodeError", none⟩, isValueError := true }
  header := .ok

theorem runs_as_served_normal :
    RunsAsServed (fun _ => "") plainLibrary {} true :=
  runs_as_served (fun _ => "") plainLibrary {} true
    (List.forall_mem_singleton.mpr
      ⟨List.nodup_singleton _, trivial, trivial⟩)

end MultisiteCrawler.Adapters
