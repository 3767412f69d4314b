import Mathlib
import MultisiteCrawler.Records.Refinement

/-!
# Records and the collection history

What the record tables hold after any collections were persisted one after
another: for every business key that ever occurred exactly one record, and the
events of its history.  The payload of a record, and of an 'inactive' event, is
the one with which the last run of data equal to Python began.  It is the data
seen last, as a JSON value, unless the run mixes numbers of different types.
-/

namespace MultisiteCrawler.Records

open Adapters
open Foundation.ChangeTracking
open Foundation.CivilTime
open Foundation.JsonOrder
open Foundation.JsonText
open Foundation.PythonErrors

/-! ## Histories of a business key -/

/-- The occurrences of a key in each collection of its source, in order. -/
def sightings (key : SourceId × String) (collections : List Collection) :
    List (List BusinessData) :=
  (collections.filter fun collection =>
      decide (collection.sourceId = key.1)).map
    fun collection => occurrences key.2 collection.result.items

theorem sightings_concat_own
    {key : SourceId × String} (collections : List Collection)
    {collection : Collection} (own : collection.sourceId = key.1) :
    sightings key (collections ++ [collection]) =
      sightings key collections ++
        [occurrences key.2 collection.result.items] := by
  simp [sightings, List.filter_append, own]

theorem sightings_concat_other
    {key : SourceId × String} (collections : List Collection)
    {collection : Collection} (other : collection.sourceId ≠ key.1) :
    sightings key (collections ++ [collection]) =
      sightings key collections := by
  simp [sightings, List.filter_append, other]

/-- Everything seen has a fingerprint. -/
theorem compatible_of_mem
    {key : SourceId × String} {collections : List Collection}
    {data : BusinessData}
    (member : data ∈ (sightings key collections).flatten) :
    JsonCompatible data := by
  simp only [sightings, occurrences, List.mem_flatten, List.mem_map,
    List.mem_filter] at member
  rcases member with ⟨_, ⟨collection, _, rfl⟩, isOccurrence⟩
  rcases List.mem_map.mp isOccurrence with ⟨item, itemMember, rfl⟩
  exact collection.compatible item (List.mem_of_mem_filter itemMember)

theorem compatible_of_lastSeen
    {key : SourceId × String} {collections : List Collection}
    {data : BusinessData}
    (seen : lastSeen (sightings key collections) = some data) :
    JsonCompatible data :=
  compatible_of_mem (List.mem_of_getLast? seen)

/-- The same JSON value, whatever the order of keys at any level. -/
def SameData (data other : BusinessData) : Prop :=
  Same (.obj data) (.obj other)

/-- The same data have one fingerprint. -/
theorem SameData.fingerprint_eq
    {data other : BusinessData} (same : SameData data other)
    (sha256 : ByteArray → String) :
    fingerprint sha256 data = fingerprint sha256 other := by
  rw [fingerprint, fingerprint, canonicalText, canonicalText,
    Same.sortKeys_eq same]

/--
The data with which the last run of data equal to Python begins are the data
seen last.
-/
def ShowsLast (history : List (List BusinessData)) : Prop :=
  ∀ first last, BeginsLastRun comparedData history.flatten first →
    lastSeen history = some last → SameData first last

theorem showsLast_iff (history : List (List BusinessData)) :
    ShowsLast history ↔
      ∀ data ∈ stored comparedData history, ∀ last ∈ lastSeen history,
        SameData data last := by
  simp only [Option.mem_def, stored_eq_some_iff]
  exact
    ⟨fun shows data begins last => shows data last begins,
      fun shows data last begins => shows data begins last⟩

/-- An absence changes neither what was seen last nor what is kept. -/
theorem showsLast_concat_nil (past : List (List BusinessData)) :
    ShowsLast (past ++ [[]]) ↔ ShowsLast past := by
  rw [ShowsLast, ShowsLast, lastSeen_concat_nil, List.flatten_append,
    List.flatten_singleton, List.append_nil]

/-! ## The whole run -/

section Run

variable (sha256 : ByteArray → String)

theorem persistAll_concat
    (collections : List Collection) (collection : Collection) :
    persistAll sha256 (collections ++ [collection]) =
      (persistAll sha256 collections).persist sha256 collection := by
  simp [persistAll]

theorem wellFormed_persistAll (collections : List Collection) :
    (persistAll sha256 collections).WellFormed := by
  induction collections using List.reverseRecOn with
  | nil => exact Database.wellFormed_empty
  | append_singleton earlier collection induction =>
      rw [persistAll_concat]
      exact (advances_persist sha256 induction
        collection).preserves.wellFormed

theorem threshold_pos : 0 < inactiveAfterSuccessfulAbsences :=
  Nat.succ_pos 2

/-- The tables hold of every key what its history describes. -/
theorem view_persistAll
    (collections : List Collection) (key : SourceId × String) :
    (persistAll sha256 collections).view key =
      ⟨described comparedData (fingerprint sha256)
          inactiveAfterSuccessfulAbsences (sightings key collections),
        (changes (fingerprint sha256) inactiveAfterSuccessfulAbsences
          (stored comparedData) (sightings key collections)).map notice⟩ := by
  induction collections using List.reverseRecOn with
  | nil => rfl
  | append_singleton earlier collection induction =>
      have advances :=
        advances_persist sha256 (wellFormed_persistAll sha256 earlier)
          collection
      rw [persistAll_concat, advances.view, induction]
      split_ifs with own
      · rw [sightings_concat_own earlier own.symm, View.collect,
          collect_described _ _ _ threshold_pos, changes_concat,
          List.map_append]
      · rw [sightings_concat_other earlier (Ne.symm own)]

end Run

/-! ## Records -/

/-- The rows of a business key. -/
def Database.rows (database : Database) (key : SourceId × String) :
    List Record :=
  database.records.filter fun record => decide (record.key = key)

theorem Database.WellFormed.rows_eq
    {database : Database} (wellFormed : database.WellFormed)
    (key : SourceId × String) :
    database.rows key = (database.find key).toList := by
  have isRow (record : Record) :
      record ∈ database.rows key ↔ database.find key = some record := by
    rw [wellFormed.find_eq_some_iff, rows, List.mem_filter,
      decide_eq_true_eq]
  cases found : database.find key with
  | none =>
      refine List.eq_nil_iff_forall_not_mem.mpr ?_
      intro record member
      rw [isRow, found] at member
      cases member
  | some record =>
      have distinct : (database.rows key).Nodup :=
        (wellFormed.keys.of_map _).filter _
      refine List.perm_singleton.mp ?_
      rw [List.perm_ext_iff_of_nodup distinct (List.nodup_singleton record)]
      intro other
      rw [isRow, found, List.mem_singleton, Option.some.injEq, eq_comm]

/--
A record keeps a history: its payload begins the last run of data equal to
Python, its hash is that of the data seen last, and it counts the collections
since up to three, being active below three.
-/
structure KeepsHistory (sha256 : ByteArray → String)
    (history : List (List BusinessData)) (record : Record) : Prop where
  payload : BeginsLastRun comparedData history.flatten record.payload
  contentHash : ∃ last, lastSeen history = some last ∧
    fingerprintBusinessData sha256 last = .ok record.contentHash
  missingCount : record.missingCount = min 3 (absences history)
  isActive : record.isActive = true ↔ record.missingCount < 3

/--
A record describes a history: its payload was seen last, its hash is that of
the payload, and it counts the collections since up to three, being active
below three.
-/
structure Describes (sha256 : ByteArray → String)
    (history : List (List BusinessData)) (record : Record) : Prop where
  payload : ∃ last, lastSeen history = some last ∧
    SameData record.payload last
  contentHash :
    fingerprintBusinessData sha256 record.payload = .ok record.contentHash
  missingCount : record.missingCount = min 3 (absences history)
  isActive : record.isActive = true ↔ record.missingCount < 3

variable (sha256 : ByteArray → String)

theorem flatten_eq_nil_iff_lastSeen (history : List (List BusinessData)) :
    history.flatten = [] ↔ lastSeen history = none :=
  List.getLast?_eq_none_iff.symm

/-- A record found under a key keeps the history of the key. -/
theorem keeps_of_find
    {collections : List Collection} {key : SourceId × String}
    {record : Record}
    (found : (persistAll sha256 collections).find key = some record) :
    KeepsHistory sha256 (sightings key collections) record := by
  have view := view_persistAll sha256 collections key
  rw [Database.view_of_find found, View.mk.injEq] at view
  rcases Option.map₂_eq_some_iff.mp view.1.symm with
    ⟨data, last, isStored, isLast, isTracked⟩
  simp only [Record.tracked, Tracked.mk.injEq] at isTracked
  rcases isTracked with ⟨payload, hash, missing, active⟩
  subst payload
  constructor
  · exact (stored_eq_some_iff comparedData _ _).mp isStored
  · refine ⟨last, isLast, ?_⟩
    rw [fingerprintBusinessData_of_compatible sha256
      (compatible_of_lastSeen isLast), hash]
  · exact missing.symm
  · rw [← active, ← missing, decide_eq_true_eq]
    exact (min_lt_iff.trans (or_iff_right (lt_irrefl _))).symm

/-- It describes the history if it shows the data seen last. -/
theorem KeepsHistory.describes_iff
    {collections : List Collection} {key : SourceId × String}
    {record : Record}
    (keeps : KeepsHistory sha256 (sightings key collections) record) :
    Describes sha256 (sightings key collections) record ↔
      ShowsLast (sightings key collections) := by
  rcases keeps with ⟨payload, ⟨last, isLast, hash⟩, missing, active⟩
  have isStored := (stored_eq_some_iff comparedData _ _).mpr payload
  constructor
  · rintro ⟨⟨other, isOther, same⟩, -, -, -⟩ first final begins isFinal
    rw [← stored_eq_some_iff, isStored] at begins
    rw [isOther] at isFinal
    cases begins
    cases isFinal
    exact same
  · intro shows
    have same := shows _ last payload isLast
    have member : record.payload ∈ (sightings key collections).flatten := by
      rcases payload with ⟨earlier, rest, parts, -⟩
      rw [parts]
      exact List.mem_append_right _ List.mem_cons_self
    refine ⟨⟨last, isLast, same⟩, ?_, missing, active⟩
    rw [fingerprintBusinessData_of_compatible sha256
      (compatible_of_lastSeen isLast)] at hash
    rw [fingerprintBusinessData_of_compatible sha256
      (compatible_of_mem member), same.fingerprint_eq, hash]

theorem find_persistAll_eq_none_iff
    (collections : List Collection) (key : SourceId × String) :
    (persistAll sha256 collections).find key = none ↔
      (sightings key collections).flatten = [] := by
  have kept :=
    congrArg View.kept (view_persistAll sha256 collections key)
  rw [flatten_eq_nil_iff_lastSeen]
  constructor
  · intro absent
    rw [Database.view_of_not_find absent] at kept
    have data := map_data_described comparedData (fingerprint sha256)
      inactiveAfterSuccessfulAbsences (sightings key collections)
    have unkept :
        described comparedData (fingerprint sha256)
            inactiveAfterSuccessfulAbsences (sightings key collections) =
          none := kept.symm
    rw [unkept] at data
    exact (stored_eq_none_iff comparedData _).mp data.symm
  · intro unseen
    cases found : (persistAll sha256 collections).find key with
    | none => rfl
    | some record =>
        rcases (keeps_of_find sha256 found).contentHash with
          ⟨last, isLast, -⟩
        rw [unseen] at isLast
        cases isLast

/--
Every business key which ever occurred has exactly one row, which describes its
history, and no other key has a row; and persisting one more collection deletes
no record and changes none of another source.
-/
structure DescribesHistories (collections : List Collection) : Prop where
  absent : ∀ key, (sightings key collections).flatten = [] →
    (persistAll sha256 collections).rows key = []
  present : ∀ key, (sightings key collections).flatten ≠ [] →
    ∃ record, (persistAll sha256 collections).rows key = [record] ∧
      Describes sha256 (sightings key collections) record
  keeps : ∀ collection : Collection,
    ∀ record ∈ (persistAll sha256 collections).records,
      ∃ later ∈ (persistAll sha256 (collections ++ [collection])).records,
        later.id = record.id ∧ later.key = record.key
  spares : ∀ collection : Collection, ∀ record : Record,
    record.sourceId ≠ collection.sourceId →
      (record ∈ (persistAll sha256 (collections ++ [collection])).records ↔
        record ∈ (persistAll sha256 collections).records)

theorem rows_persistAll_eq_nil
    {collections : List Collection} {key : SourceId × String}
    (unseen : (sightings key collections).flatten = []) :
    (persistAll sha256 collections).rows key = [] := by
  rw [(wellFormed_persistAll sha256 collections).rows_eq,
    (find_persistAll_eq_none_iff sha256 collections key).mpr unseen]
  rfl

theorem exists_find_persistAll
    {collections : List Collection} {key : SourceId × String}
    (seen : (sightings key collections).flatten ≠ []) :
    ∃ record, (persistAll sha256 collections).rows key = [record] ∧
      KeepsHistory sha256 (sightings key collections) record := by
  rw [Ne, ← find_persistAll_eq_none_iff sha256, ← Ne,
    Option.ne_none_iff_exists'] at seen
  rcases seen with ⟨record, found⟩
  refine ⟨record, ?_, keeps_of_find sha256 found⟩
  rw [(wellFormed_persistAll sha256 collections).rows_eq, found]
  rfl

/-- A key which never occurred shows whatever is asked. -/
theorem showsLast_of_flatten_eq_nil
    {history : List (List BusinessData)} (unseen : history.flatten = []) :
    ShowsLast history := by
  intro first last begins
  rw [unseen] at begins
  exact absurd begins (not_beginsLastRun_nil comparedData first)

/-- The row of a key which occurred describes it if it shows its last data. -/
theorem exists_describes_iff
    {collections : List Collection} {key : SourceId × String}
    (seen : (sightings key collections).flatten ≠ []) :
    (∃ record, (persistAll sha256 collections).rows key = [record] ∧
        Describes sha256 (sightings key collections) record) ↔
      ShowsLast (sightings key collections) := by
  rcases exists_find_persistAll sha256 seen with ⟨record, row, keeps⟩
  rw [← keeps.describes_iff]
  constructor
  · rintro ⟨other, otherRow, describes⟩
    rw [row] at otherRow
    cases otherRow
    exact describes
  · exact fun describes => ⟨record, row, describes⟩

/--
The tables describe the collections exactly if for every key the last run of
data equal to Python begins with the data seen last.
-/
theorem records_describe_history_iff (collections : List Collection) :
    DescribesHistories sha256 collections ↔
      ∀ key, ShowsLast (sightings key collections) := by
  constructor
  · intro describes key
    by_cases unseen : (sightings key collections).flatten = []
    · exact showsLast_of_flatten_eq_nil unseen
    · exact (exists_describes_iff sha256 unseen).mp
        (describes.present key unseen)
  · intro shows
    have wellFormed := wellFormed_persistAll sha256 collections
    have preserves (collection : Collection) :=
      (advances_persist sha256 wellFormed collection).preserves
    constructor
    · exact fun _ unseen => rows_persistAll_eq_nil sha256 unseen
    · exact fun key seen => (exists_describes_iff sha256 seen).mpr (shows key)
    · intro collection record member
      rw [persistAll_concat]
      exact (preserves collection).exists_of_mem wellFormed member
    · intro collection record other
      rw [persistAll_concat]
      exact (preserves collection).mem_iff wellFormed other

/-! ### A score which becomes a boolean -/

/-- An item which has nothing but a score. -/
def scoreItem (score : Json) : ItemFields where
  externalId := "one"
  data := [("score", score)]

/-- A collection of items, persisted at the start of the calendar. -/
def scoreCollection (items : List ItemFields)
    (compatible : ∀ item ∈ items, JsonCompatible item.data) : Collection where
  sourceId := 1
  result := ⟨{ body := "".toUTF8 }, items, ""⟩
  compatible := compatible
  persistedAt := ⟨0, zero_lt_calendar⟩
  scan := ⟨id, fun rows => .refl rows⟩

/-- The score `1` is collected and then the score `True`. -/
def scoreThenTrue : List Collection :=
  [scoreCollection [scoreItem (.int 1)] (List.forall_mem_singleton.mpr rfl),
    scoreCollection [scoreItem (.bool true)]
      (List.forall_mem_singleton.mpr rfl)]

/-- The SHA-256 digests of the data of the two. -/
def scoreTrueDigest (bytes : ByteArray) : String :=
  if bytes = "\x7b\"score\":1\x7d".toUTF8 then
    "9b9b3a1471309177261cfe65ea9c298e0dd372e4b5d087f8d35d7b732485373d"
  else if bytes = "\x7b\"score\":true\x7d".toUTF8 then
    "2bff3f990dbc698c162d8d385aeb4ff00895e91f17a2700ba9868aed3aa3cf11"
  else ""

/-- `==` does not tell the scores apart, but they are different JSON values. -/
theorem not_showsLast_scoreTrue {history : List (List BusinessData)}
    (scores : history.flatten =
      [[("score", .int 1)], [("score", .bool true)]]) :
    ¬ ShowsLast history := by
  intro shows
  have begins :
      BeginsLastRun comparedData history.flatten [("score", .int 1)] := by
    refine ⟨[], [[("score", .bool true)]], scores, ?_, nofun⟩
    exact List.forall_mem_singleton.mpr (by decide)
  have isLast : lastSeen history = some [("score", .bool true)] := by
    rw [lastSeen, scores]
    rfl
  cases Same.sortKeys_eq (shows _ _ begins isLast)

/-- The row keeps the score `1` beside the hash of the score `True`. -/
theorem not_describesHistories_scoreTrue :
    ¬ DescribesHistories scoreTrueDigest scoreThenTrue := by
  intro describes
  have seen : (sightings (1, "one") scoreThenTrue).flatten ≠ [] :=
    List.cons_ne_nil _ _
  exact not_showsLast_scoreTrue rfl
    ((exists_describes_iff scoreTrueDigest seen).mp
      (describes.present _ seen))

/-! ## Events -/

/-- The events of the rows of a business key, in order of insertion. -/
def Database.eventsFor (database : Database) (key : SourceId × String) :
    List ChangeEvent :=
  (database.rows key).flatMap fun record => database.eventsOf record.id

theorem Database.WellFormed.eventsFor_notices
    {database : Database} (wellFormed : database.WellFormed)
    (key : SourceId × String) :
    (database.eventsFor key).map ChangeEvent.notice =
      (database.view key).told := by
  rw [eventsFor, wellFormed.rows_eq, Database.view]
  cases database.find key with
  | none => rfl
  | some record => simp

/-- The payload of an event which tells of a sighting. -/
def ChangeEvent.content (event : ChangeEvent) : Option BusinessData :=
  if event.eventType = "created" ∨ event.eventType = "updated" then
    some event.payload
  else none

/-- The payload of the last 'created' or 'updated' event. -/
def lastContent (events : List ChangeEvent) : Option BusinessData :=
  (events.filterMap ChangeEvent.content).getLast?

/-- The notice of a change determines the content. -/
theorem content_of_notice
    {event : ChangeEvent} {change : Change BusinessData}
    (same : event.notice = notice change) :
    event.content = change.sighted := by
  rcases event with ⟨recordId, eventType, payload⟩
  rcases Prod.ext_iff.mp same with ⟨rfl, rfl⟩
  cases change <;> rfl

/-- The notices alone determine the contents. -/
theorem contents_of_notices
    {events : List ChangeEvent} {told : List (Change BusinessData)}
    (notices : events.map ChangeEvent.notice = told.map notice) :
    events.filterMap ChangeEvent.content =
      told.filterMap Change.sighted := by
  induction events generalizing told with
  | nil =>
      rw [List.map_nil, eq_comm, List.map_eq_nil_iff] at notices
      rw [notices]
      rfl
  | cons event rest induction =>
      cases told with
      | nil => cases notices
      | cons change others =>
          rw [List.map_cons, List.map_cons, List.cons.injEq] at notices
          rw [List.filterMap_cons, List.filterMap_cons,
            content_of_notice notices.1, induction notices.2]

theorem lastContent_of_notices
    {events : List ChangeEvent} {told : List (Change BusinessData)}
    (notices : events.map ChangeEvent.notice = told.map notice) :
    lastContent events = lastSighted told := by
  rw [lastContent, lastSighted, contents_of_notices notices]

/-- Notices of one type whose payloads are the same JSON value. -/
def SameNotice (first second : Notice) : Prop :=
  first.1 = second.1 ∧ SameData first.2 second.2

/--
The events of a business key are exactly those its history tells, in order,
absences being told with the data seen last; and the payload of its last
'created' or 'updated' event has the content hash of its record as fingerprint.
-/
structure TellsHistory (collections : List Collection)
    (key : SourceId × String) : Prop where
  events : List.Forall₂ SameNotice
    (((persistAll sha256 collections).eventsFor key).map
      ChangeEvent.notice)
    ((changes (fingerprint sha256) 3 lastSeen
      (sightings key collections)).map notice)
  contentHash :
    (lastContent ((persistAll sha256 collections).eventsFor key)).map
        (fingerprint sha256) =
      ((persistAll sha256 collections).find key).map Record.contentHash

/-- The events of a key; an absence is told with the payload which is kept. -/
theorem notices_persistAll
    (collections : List Collection) (key : SourceId × String) :
    ((persistAll sha256 collections).eventsFor key).map
        ChangeEvent.notice =
      (changes (fingerprint sha256) 3 (stored comparedData)
        (sightings key collections)).map notice := by
  rw [(wellFormed_persistAll sha256 collections).eventsFor_notices,
    view_persistAll]
  rfl

/-- The last content of a key has the content hash of its record. -/
theorem lastContent_persistAll
    (collections : List Collection) (key : SourceId × String) :
    (lastContent ((persistAll sha256 collections).eventsFor key)).map
        (fingerprint sha256) =
      ((persistAll sha256 collections).find key).map
        Record.contentHash := by
  rw [lastContent_of_notices (notices_persistAll sha256 collections key),
    lastSighted_changes]
  cases found : (persistAll sha256 collections).find key with
  | none =>
      have unseen :=
        (find_persistAll_eq_none_iff sha256 collections key).mp found
      rw [(flatten_eq_nil_iff_lastSeen _).mp unseen]
      rfl
  | some record =>
      rcases (keeps_of_find sha256 found).contentHash with
        ⟨last, isLast, hash⟩
      rw [fingerprintBusinessData_of_compatible sha256
        (compatible_of_lastSeen isLast)] at hash
      rw [isLast, Option.map_some, Except.ok.inj hash]
      rfl

/-- Events carry the data seen last if absences find them in the record. -/
theorem forall₂_notices_iff (history : List (List BusinessData)) :
    List.Forall₂ SameNotice
        ((changes (fingerprint sha256) 3 (stored comparedData)
          history).map notice)
        ((changes (fingerprint sha256) 3 lastSeen history).map notice) ↔
      ∀ moment, moment <+: history → absences moment = 3 →
        ShowsLast moment := by
  have refl (change : Change BusinessData) :
      SameNotice (notice change) (notice change) :=
    ⟨rfl, .refl _⟩
  rw [List.forall₂_map_left_iff, List.forall₂_map_right_iff,
    forall₂_changes_iff _ _ refl (stored_eq_none_iff comparedData)]
  constructor
  · intro each moment isPrefix reached
    rcases List.eq_nil_or_concat' moment with rfl | ⟨past, now, rfl⟩
    · cases reached
    · have related := each past now isPrefix reached
      have absent : 0 < absences (past ++ [now]) := by omega
      rw [eq_nil_of_absences_concat_pos absent, showsLast_concat_nil,
        showsLast_iff]
      exact fun data isData last isLast => (related data isData last isLast).2
  · intro each past now isPrefix reached data isData last isLast
    have shows := each _ isPrefix reached
    have absent : 0 < absences (past ++ [now]) := by omega
    rw [eq_nil_of_absences_concat_pos absent, showsLast_concat_nil,
      showsLast_iff] at shows
    exact ⟨rfl, shows data isData last isLast⟩

/--
The events of a key tell its history exactly if the data with which the last
run of data equal to Python begins are those seen last, each time the third
collection in a row omits the key.
-/
theorem events_tell_history_iff
    (collections : List Collection) (key : SourceId × String) :
    TellsHistory sha256 collections key ↔
      ∀ moment, moment <+: sightings key collections →
        absences moment = 3 → ShowsLast moment := by
  rw [← forall₂_notices_iff sha256, ← notices_persistAll]
  constructor
  · exact TellsHistory.events
  · exact fun events =>
      ⟨events, lastContent_persistAll sha256 collections key⟩

/-- The two scores, and three collections which omit the item. -/
def scoreThenAbsent : List Collection :=
  scoreThenTrue ++
    List.replicate 3 (scoreCollection [] (List.forall_mem_nil _))

/-- The 'inactive' event carries the score `1`. -/
theorem not_tellsHistory_scoreTrue :
    ¬ TellsHistory scoreTrueDigest scoreThenAbsent (1, "one") := by
  intro tells
  have events := tells.events
  rw [notices_persistAll, forall₂_notices_iff] at events
  exact not_showsLast_scoreTrue rfl (events _ List.prefix_rfl rfl)

end MultisiteCrawler.Records
