import MultisiteCrawler.Adapters.MockServer
import MultisiteCrawler.Records.History
import MultisiteCrawler.Records.Storable

/-!
# Recording what the mock server serves

Each visit runs the demo adapter against the server as it is then, and
persists what was collected; a visit which fails leaves the tables as they
are.  After any visits the tables keep, for every business key, the history of
the mappings which were served under it to the visits which could collect and
store them all.
-/

namespace MultisiteCrawler.Records

open Adapters
open Foundation.ChangeTracking
open Foundation.CivilTime
open Foundation.EscapingErrors
open Foundation.JsonText
open Foundation.Lists
open Foundation.PythonErrors
open Foundation.PythonText

/-! ## Visits -/

/-- The server at the time of a visit and the source it is visited for. -/
structure DemoVisit where
  sourceId : SourceId
  server : MockServerState
  /-- The mappings of the server are those of dictionaries. -/
  unique : ∀ members ∈ server.items, (Json.obj members).UniqueKeys
  /-- The ETag of the server is one line. -/
  oneLine : ∀ character ∈ server.etag.toList,
    character ≠ '\r' ∧ character ≠ '\n'
  arrives : Bool
  persistedAt : NaiveDateTime
  scan : ScanOrder

section Visits

variable (sha256 : HexDigest) (library : HttpLibrary)

/-- The run of a visit. -/
def DemoVisit.run (visit : DemoVisit) : Except Raised RunnerResult :=
  visit.server.run sha256.digest library visit.arrives

/--
`persist_collection(source.id, AdapterRunner(adapter).run())` and a commit:
what is persisted has the fields of what was returned.  A transaction which
does not fit into the columns is rolled back.
-/
inductive Visited (visit : DemoVisit) (before : Database) : Database → Prop
  | persisted {returned : RunnerResult} {collection : Collection}
      (isReturned : visit.run sha256 library = .ok returned)
      (fits : FieldsFit returned)
      (isResult : IsResult returned collection.result)
      (isSource : collection.sourceId = visit.sourceId)
      (isTime : collection.persistedAt = visit.persistedAt)
      (isScan : collection.scan = visit.scan) :
      Visited visit before (before.persist sha256.digest collection)
  | rolledBack {returned : RunnerResult}
      (isReturned : visit.run sha256 library = .ok returned)
      (unfit : ¬ FieldsFit returned) :
      Visited visit before before
  | failed {raised : Raised}
      (isRaised : visit.run sha256 library = .error raised) :
      Visited visit before before

/-- The database after visits, one after another. -/
inductive Visits : List DemoVisit → Database → Prop
  | nothing : Visits [] .empty
  | next {visits : List DemoVisit} {visit : DemoVisit}
      {before after : Database} (earlier : Visits visits before)
      (visited : Visited sha256 library visit before after) :
      Visits (visits ++ [visit]) after

end Visits

/-! ## What is collected of what is served -/

instance (limit : ℕ) (text : String) : Decidable (FitsColumn limit text) :=
  inferInstanceAs (Decidable (_ ∧ _))

instance (state : MockServerState) (arrives : Bool) :
    Decidable (state.Refuses arrives) :=
  inferInstanceAs (Decidable (_ ∨ _ ∨ _))

/-- The mapping can be collected and stored, under its id. -/
def isStorableItem (library : HttpLibrary) (members : BusinessData) : Bool :=
  match lookup "id" members with
  | some (.str identifier) =>
      decide (strip identifier ≠ "") &&
        (library.unencodable members).isNone &&
        Adapters.isFiniteMembers members &&
        decide (FitsColumn 256 identifier) && isStorableMembers members
  | _ => false

/-- The ETag is sent and read, and what is read can be stored. -/
def hasStorableTag (library : HttpLibrary) (server : MockServerState) :
    Bool :=
  isLatin1 server.etag &&
    match library.header server.etag with
    | .ok etag => decide (FitsColumn 512 etag)
    | .error _ => false

/-- A document is served, and all of it can be collected and stored. -/
def DemoVisit.isCollected (library : HttpLibrary) (visit : DemoVisit) :
    Bool :=
  decide (¬ visit.server.Refuses visit.arrives) &&
    hasStorableTag library visit.server &&
    (library.exceeds (visit.server.bodyText library)).isNone &&
    decide (visit.server.HasDocument library) &&
    visit.server.served.all (isStorableItem library)

/-- The mapping is served under the id. -/
def isUnder (externalId : String) (members : BusinessData) : Bool :=
  match lookup "id" members with
  | some (.str identifier) => decide (identifier = externalId)
  | _ => false

/-- The mappings served under a key, visit by visit which collects them. -/
def servedHistory (library : HttpLibrary) (key : SourceId × String)
    (visits : List DemoVisit) : List (List BusinessData) :=
  (visits.filter fun visit =>
      decide (visit.sourceId = key.1) && visit.isCollected library).map
    fun visit => visit.server.served.filter (isUnder key.2)

/-! ## Items -/

section Items

variable {library : HttpLibrary}

theorem isUnder_of_item {members : BusinessData} {item : CrawlItem}
    (isItem : IsDemoItem library members item) (externalId : String) :
    isUnder externalId members = decide (item.externalId = externalId) := by
  rw [isUnder, isItem.id]

theorem isStorableItem_of_item {members : BusinessData} {item : CrawlItem}
    (isItem : IsDemoItem library members item) :
    isStorableItem library members = true ↔ ItemFits item.toItemFields := by
  have finite : Adapters.isFiniteMembers members = true := isItem.compatible
  rw [isStorableItem, isItem.id]
  simp only [decide_eq_true item.notBlank, isItem.encodable, finite,
    Option.isNone_none, Bool.true_and, Bool.and_eq_true, decide_eq_true_eq]
  constructor
  · rintro ⟨externalId, payload⟩
    rw [← isItem.data] at payload
    exact ⟨externalId, payload⟩
  · rintro ⟨externalId, payload⟩
    rw [isItem.data] at payload
    exact ⟨externalId, payload⟩

theorem exists_item_of_isStorableItem {members : BusinessData}
    (storable : isStorableItem library members = true) :
    ∃ item, IsDemoItem library members item := by
  rw [isStorableItem] at storable
  split at storable
  · simp only [Bool.and_eq_true, decide_eq_true_eq,
      Option.isNone_iff_eq_none] at storable
    rcases storable with ⟨⟨⟨⟨notBlank, encodable⟩, finite⟩, _⟩, _⟩
    exact
      ⟨⟨⟨_, members⟩, length_of_not_blank notBlank,
          accepted_of_not_blank notBlank⟩,
        by assumption, rfl, encodable, finite⟩
  · cases storable

/-- Mappings can be stored if and only if they stand for items which can. -/
theorem all_isStorableItem_iff (found : List BusinessData) :
    found.all (isStorableItem library) = true ↔
      ∃ items, List.Forall₂ (IsDemoItem library) found items ∧
        ∀ item ∈ items, ItemFits item.toItemFields := by
  rw [List.all_eq_true]
  constructor
  · intro storable
    have isItem :
        ∀ members ∈ found, ∃ item, IsDemoItem library members item :=
      fun members member =>
        exists_item_of_isStorableItem (storable members member)
    rcases exists_forall₂ isItem with ⟨items, isItems⟩
    exact
      ⟨items, isItems,
        (forall_mem_iff_of_forall₂ isItems fun _ _ =>
          isStorableItem_of_item).mp storable⟩
  · rintro ⟨items, isItems, fits⟩
    exact
      (forall_mem_iff_of_forall₂ isItems fun _ _ =>
        isStorableItem_of_item).mpr fits

theorem eq_of_isItem_object {item : CrawlItem} {stored : ItemFields}
    (isItem : IsItem item.object stored) : item.toItemFields = stored := by
  rcases isItem with ⟨isId, isData⟩
  have sameId := Option.some.inj isId
  have sameData := DataObject.json.inj isData
  rcases stored with ⟨externalId, data⟩
  cases sameId
  cases sameData
  rfl

/-- Items which are stored for mappings are those of the mappings. -/
theorem occurrences_of_items
    {found : List BusinessData} {items : List CrawlItem}
    (isItems : List.Forall₂ (IsDemoItem library) found items)
    (externalId : String) :
    occurrences externalId (items.map CrawlItem.toItemFields) =
      found.filter (isUnder externalId) := by
  induction isItems with
  | nil => rfl
  | @cons members item _ _ isItem isItems induction =>
      rw [occurrences] at induction ⊢
      rw [List.map_cons, List.filter_cons, List.filter_cons,
        isUnder_of_item isItem]
      split_ifs
      · rw [List.map_cons, induction, isItem.data]
      · exact induction

end Items

/-! ## One visit -/

section Visit

variable (sha256 : HexDigest) (library : HttpLibrary) (visit : DemoVisit)

/-- What the runner returns where it reads this ETag and these items. -/
def DemoVisit.returned (etag : String) (items : List CrawlItem) :
    RunnerResult :=
  ⟨receivedObject (visit.server.bodyText library).toUTF8 (some etag),
    items.map CrawlItem.object,
    sha256.digest (visit.server.bodyText library).toUTF8⟩

/-- The server sends a document which is within the limits. -/
structure DemoVisit.Sends (etag : String) : Prop where
  sends : visit.server.Sends library visit.arrives etag
  within : library.exceeds (visit.server.bodyText library) = none
  document : visit.server.HasDocument library

/-- A run which returns something was sent a response. -/
theorem DemoVisit.exists_sends
    {returned : RunnerResult} (ran : visit.run sha256 library = .ok returned) :
    ∃ etag, visit.server.Sends library visit.arrives etag := by
  rw [run] at ran
  by_cases refuses : visit.server.Refuses visit.arrives
  · rw [run_of_refuses _ library refuses] at ran
    cases ran
  cases latin1 : isLatin1 visit.server.etag with
  | false =>
      rw [run_of_unsent _ library refuses latin1] at ran
      cases ran
  | true =>
      have answers : visit.server.Answers visit.arrives :=
        ⟨refuses, latin1, visit.oneLine⟩
      cases read : library.header visit.server.etag with
      | error raised =>
          rw [run_of_unread _ library answers read] at ran
          cases ran
      | ok etag => exact ⟨etag, answers, read⟩

theorem DemoVisit.run_eq_ok_iff (returned : RunnerResult) :
    visit.run sha256 library = .ok returned ↔
      ∃ etag items, visit.Sends library etag ∧
        List.Forall₂ (IsDemoItem library) visit.server.served items ∧
          returned = visit.returned sha256 library etag items := by
  constructor
  · intro ran
    rcases visit.exists_sends sha256 library ran with ⟨etag, sends⟩
    cases within : library.exceeds (visit.server.bodyText library) with
    | some raised =>
        rw [run, run_of_exceeds _ library sends within] at ran
        cases ran
    | none =>
        by_cases document : visit.server.HasDocument library
        · rw [run, run_of_document _ library sends within document
            visit.unique] at ran
          cases made : visit.server.served.mapM (collectItem library) with
          | error raised =>
              rw [made] at ran
              cases ran
          | ok items =>
              rw [made] at ran
              exact
                ⟨etag, items, ⟨sends, within, document⟩,
                  (mapM_collectItem_eq_ok_iff _ _ _).mp made,
                  (Except.ok.inj ran).symm⟩
        · rw [run, run_of_garbled _ library sends within document] at ran
          cases ran
  · rintro ⟨etag, items, ⟨sends, within, document⟩, isItems, rfl⟩
    rw [run, run_of_document _ library sends within document visit.unique,
      (mapM_collectItem_eq_ok_iff _ _ items).mpr isItems]
    rfl

theorem DemoVisit.fieldsFit_returned_iff
    (etag : String) (items : List CrawlItem) :
    FieldsFit (visit.returned sha256 library etag items) ↔
      (∀ item ∈ items, ItemFits item.toItemFields) ∧
        FitsColumn 512 etag := by
  have sameItems :
      (∀ object ∈ items.map CrawlItem.object, ObjectFits object) ↔
        ∀ item ∈ items, ItemFits item.toItemFields := by
    rw [List.forall_mem_map]
    exact forall₂_congr fun item _ => objectFits_iff ⟨rfl, rfl⟩
  rw [← sameItems]
  constructor
  · rintro ⟨fits, etag, _⟩
    exact ⟨fits, etag⟩
  · rintro ⟨fits, etag⟩
    exact ⟨fits, etag, trivial⟩

/-- The ETag which is read can be stored. -/
theorem hasStorableTag_iff (server : MockServerState) :
    hasStorableTag library server = true ↔
      isLatin1 server.etag = true ∧
        ∃ etag, library.header server.etag = .ok etag ∧
          FitsColumn 512 etag := by
  rw [hasStorableTag, Bool.and_eq_true]
  cases library.header server.etag <;> simp

/-- A visit collects if and only if its result is returned and fits. -/
theorem DemoVisit.isCollected_iff :
    visit.isCollected library = true ↔
      ∃ returned, visit.run sha256 library = .ok returned ∧
        FieldsFit returned := by
  simp only [isCollected, Bool.and_eq_true, decide_eq_true_eq,
    all_isStorableItem_iff, Option.isNone_iff_eq_none, hasStorableTag_iff]
  constructor
  · rintro ⟨⟨⟨⟨answers, latin1, etag, read, tagFits⟩, within⟩, document⟩,
      items, isItems, fits⟩
    refine ⟨visit.returned sha256 library etag items, ?_, ?_⟩
    · rw [run_eq_ok_iff]
      exact
        ⟨etag, items,
          ⟨⟨⟨answers, latin1, visit.oneLine⟩, read⟩, within, document⟩,
          isItems, rfl⟩
    · rw [fieldsFit_returned_iff]
      exact ⟨fits, tagFits⟩
  · rintro ⟨returned, ran, fits⟩
    rw [run_eq_ok_iff] at ran
    rcases ran with ⟨etag, items, ⟨sends, within, document⟩, isItems, rfl⟩
    rw [fieldsFit_returned_iff] at fits
    exact
      ⟨⟨⟨⟨sends.notRefused, sends.latin1, etag, sends.header, fits.2⟩,
            within⟩,
          document⟩,
        items, isItems, fits.1⟩

/-- What is persisted of a returned result are the mappings served. -/
theorem DemoVisit.occurrences_of_isResult
    {returned : RunnerResult} {result : AdapterResult}
    (ran : visit.run sha256 library = .ok returned)
    (isResult : IsResult returned result) (externalId : String) :
    occurrences externalId result.items =
      visit.server.served.filter (isUnder externalId) := by
  rw [run_eq_ok_iff] at ran
  rcases ran with ⟨etag, items, _, isItems, rfl⟩
  have stored : List.Forall₂ IsItem (items.map CrawlItem.object) result.items :=
    isResult.items
  rw [List.forall₂_map_left_iff] at stored
  have same :
      List.Forall₂ (fun item stored => item.toItemFields = stored) items
        result.items :=
    stored.imp fun _ _ => eq_of_isItem_object
  rw [← List.forall₂_map_left_iff , List.forall₂_eq_eq_eq]
    at same
  rw [← same]
  exact occurrences_of_items isItems externalId

/-- What is returned for mappings can be persisted. -/
theorem DemoVisit.exists_collection
    {returned : RunnerResult} (ran : visit.run sha256 library = .ok returned) :
    ∃ collection : Collection, IsResult returned collection.result ∧
      collection.sourceId = visit.sourceId ∧
      collection.persistedAt = visit.persistedAt ∧
      collection.scan = visit.scan := by
  rw [run_eq_ok_iff] at ran
  rcases ran with ⟨etag, items, _, isItems, rfl⟩
  let body := (visit.server.bodyText library).toUTF8
  let result : AdapterResult :=
    ⟨⟨body, some etag, none⟩, items.map CrawlItem.toItemFields,
      sha256.digest body⟩
  have compatible : result.Compatible := by
    have data : ∀ members item, IsDemoItem library members item →
        (True ↔ JsonCompatible item.data) := by
      rintro members item ⟨_, rfl, _, compatible⟩
      exact iff_of_true trivial compatible
    rw [AdapterResult.Compatible, List.forall_mem_map]
    exact
      (forall_mem_iff_of_forall₂ isItems data).mp fun _ _ => trivial
  have same :
      List.Forall₂ IsItem (items.map CrawlItem.object)
        (items.map CrawlItem.toItemFields) := by
    rw [List.forall₂_map_left_iff, List.forall₂_map_right_iff,
      List.forall₂_same]
    exact fun _ _ => ⟨rfl, rfl⟩
  exact
    ⟨⟨visit.sourceId, result, compatible, visit.persistedAt, visit.scan⟩,
      ⟨rfl, rfl, rfl, same, rfl⟩, rfl, rfl, rfl⟩

/-- A visit persists a collection of what is served, or nothing. -/
theorem visited_iff {before after : Database}
    (visited : Visited sha256 library visit before after) :
    (visit.isCollected library = true ∧
      ∃ collection, after = before.persist sha256.digest collection ∧
        collection.sourceId = visit.sourceId ∧
        ∀ externalId, occurrences externalId collection.result.items =
          visit.server.served.filter (isUnder externalId)) ∨
      (visit.isCollected library = false ∧ after = before) := by
  cases visited with
  | @persisted returned collection isReturned fits isResult isSource =>
      refine Or.inl ⟨?_, collection, rfl, isSource, ?_⟩
      · rw [DemoVisit.isCollected_iff sha256]
        exact ⟨returned, isReturned, fits⟩
      · intro externalId
        exact visit.occurrences_of_isResult sha256 library isReturned isResult
          externalId
  | rolledBack isReturned unfit =>
      refine Or.inr ⟨?_, rfl⟩
      rw [← Bool.not_eq_true, DemoVisit.isCollected_iff sha256]
      rintro ⟨other, ran, fits⟩
      rw [isReturned] at ran
      cases ran
      exact unfit fits
  | failed isRaised =>
      refine Or.inr ⟨?_, rfl⟩
      rw [← Bool.not_eq_true, DemoVisit.isCollected_iff sha256]
      rintro ⟨other, ran, _⟩
      rw [isRaised] at ran
      cases ran

/-- Every visit comes to an end. -/
theorem exists_visited (before : Database) :
    ∃ after, Visited sha256 library visit before after := by
  cases ran : visit.run sha256 library with
  | error raised => exact ⟨before, .failed ran⟩
  | ok returned =>
      by_cases fits : FieldsFit returned
      · rcases visit.exists_collection sha256 library ran with
          ⟨collection, isResult, isSource, isTime, isScan⟩
        exact ⟨_, .persisted ran fits isResult isSource isTime isScan⟩
      · exact ⟨before, .rolledBack ran fits⟩

end Visit

/-! ## All visits -/

section Visits

variable (sha256 : HexDigest) (library : HttpLibrary)

theorem servedHistory_concat (key : SourceId × String)
    (visits : List DemoVisit) (visit : DemoVisit) :
    servedHistory library key (visits ++ [visit]) =
      servedHistory library key visits ++
        if visit.sourceId = key.1 ∧ visit.isCollected library = true then
          [visit.server.served.filter (isUnder key.2)]
        else [] := by
  rw [servedHistory, servedHistory, List.filter_append, List.map_append,
    List.filter_cons]
  simp only [Bool.and_eq_true, decide_eq_true_eq]
  split_ifs <;> rfl

/-- The visits persist collections with the history which was served. -/
theorem visits_persist {visits : List DemoVisit} {database : Database}
    (visited : Visits sha256 library visits database) :
    ∃ collections, database = persistAll sha256.digest collections ∧
      ∀ key, sightings key collections = servedHistory library key visits := by
  induction visited with
  | nothing => exact ⟨[], rfl, fun _ => rfl⟩
  | @next visits visit before after _ visited induction =>
      rcases induction with ⟨collections, rfl, same⟩
      rcases visited_iff sha256 library visit visited with
        ⟨isCollected, collection, rfl, isSource, found⟩ | ⟨missed, rfl⟩
      · refine ⟨collections ++ [collection], ?_, ?_⟩
        · rw [persistAll_concat]
        · intro key
          rw [servedHistory_concat, ← same]
          by_cases own : visit.sourceId = key.1
          · rw [sightings_concat_own _ (isSource.trans own), found,
              if_pos ⟨own, isCollected⟩]
          · rw [sightings_concat_other _ (isSource ▸ own),
              if_neg fun both => own both.1, List.append_nil]
      · refine ⟨collections, rfl, ?_⟩
        intro key
        have notCollected :
            ¬ (visit.sourceId = key.1 ∧ visit.isCollected library = true) := by
          rw [missed]
          exact fun both => Bool.false_ne_true both.2
        rw [servedHistory_concat, same, if_neg notCollected, List.append_nil]

/-- Visits come to an end, one after another. -/
theorem exists_visits (visits : List DemoVisit) :
    ∃ database, Visits sha256 library visits database := by
  induction visits using List.reverseRecOn with
  | nil => exact ⟨.empty, .nothing⟩
  | append_singleton earlier visit induction =>
      rcases induction with ⟨before, visited⟩
      rcases exists_visited sha256 library visit before with ⟨after, last⟩
      exact ⟨after, .next visited last⟩

/--
Tables which hold what was served: exactly one row for each key which was
ever served, which keeps the history of the key, and the events of the
history, absences being told with the payload which is kept.
-/
structure RecordsServed (visits : List DemoVisit) (database : Database) :
    Prop where
  absent : ∀ key, (servedHistory library key visits).flatten = [] →
    database.rows key = []
  present : ∀ key, (servedHistory library key visits).flatten ≠ [] →
    ∃ record, database.rows key = [record] ∧
      KeepsHistory sha256.digest (servedHistory library key visits) record
  events : ∀ key, (database.eventsFor key).map ChangeEvent.notice =
    (changes (fingerprint sha256.digest) inactiveAfterSuccessfulAbsences
      (stored comparedData) (servedHistory library key visits)).map notice

/-- After any visits the tables hold what was served. -/
theorem records_served {visits : List DemoVisit} {database : Database}
    (visited : Visits sha256 library visits database) :
    RecordsServed sha256 library visits database := by
  rcases visits_persist sha256 library visited with ⟨collections, rfl, same⟩
  constructor
  · intro key unseen
    rw [← same key] at unseen
    exact rows_persistAll_eq_nil sha256.digest unseen
  · intro key seen
    rw [← same key] at seen ⊢
    exact exists_find_persistAll sha256.digest seen
  · intro key
    rw [← same key]
    exact notices_persistAll sha256.digest collections key

end Visits

/-- A server which serves one mapping, visited on time. -/
def firstVisit : DemoVisit where
  sourceId := 1
  server := {}
  unique :=
    List.forall_mem_singleton.mpr ⟨List.nodup_singleton _, trivial, trivial⟩
  oneLine := by simp
  arrives := true
  persistedAt := ⟨0, zero_lt_calendar⟩
  scan := ⟨id, fun _ => .rfl⟩

theorem records_served_twice :
    ∃ database, RecordsServed sampleDigest plainLibrary
      [firstVisit, firstVisit] database := by
  rcases exists_visits sampleDigest plainLibrary [firstVisit, firstVisit] with
    ⟨database, visited⟩
  exact ⟨database, records_served sampleDigest plainLibrary visited⟩

end MultisiteCrawler.Records
