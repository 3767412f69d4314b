import Mathlib
import MultisiteCrawler.Records.History

/-!
# Delivering a collection again

A task may be delivered a second time after its collection was persisted.
Every key of the collection is then sighted once more, starting from the data
it was left with: its record does not change, and its events tell the steps
between sightings whose data have different hashes.
-/

namespace MultisiteCrawler.Records

open Adapters
open Foundation.ChangeTracking
open Foundation.CivilTime

/-- The same collection, persisted at another time. -/
def Collection.redelivered (collection : Collection)
    (persistedAt : NaiveDateTime) (scan : ScanOrder) : Collection :=
  { collection with
    persistedAt := persistedAt
    scan := scan }

/--
A second delivery adds neither 'created' nor 'updated' events, and leaves
every record of the collection with the payload, hash, absence count and
activity it had.
-/
structure Redelivers (collection : Collection) (first second : Database) :
    Prop where
  events : ∃ added, second.events = first.events ++ added ∧
    ∀ event ∈ added,
      event.eventType ≠ "created" ∧ event.eventType ≠ "updated"
  records : ∀ item ∈ collection.result.items,
    (second.find (collection.sourceId, item.externalId)).map
        Record.tracked =
      (first.find (collection.sourceId, item.externalId)).map
        Record.tracked

theorem ChangeEvent.content_eq_none_iff (event : ChangeEvent) :
    event.content = none ↔
      event.eventType ≠ "created" ∧ event.eventType ≠ "updated" := by
  rw [ChangeEvent.content, ite_eq_right_iff, ← not_or]
  simp

theorem Database.view_kept (database : Database) (key : SourceId × String) :
    (database.view key).kept = (database.find key).map Record.tracked := by
  rw [Database.view]
  cases database.find key <;> rfl

/-- What a key is told by appended events. -/
theorem Database.view_told_of_appended
    {before after : Database} {key : SourceId × String}
    {record later : Record} {added : List ChangeEvent}
    (appended : after.events = before.events ++ added)
    (found : before.find key = some record)
    (foundLater : after.find key = some later)
    (sameId : later.id = record.id) :
    (after.view key).told =
      (before.view key).told ++
        (added.filter fun event => decide (event.recordId = record.id)).map
          ChangeEvent.notice := by
  rw [Database.view_of_find found, Database.view_of_find foundLater, sameId]
  simp only [Database.eventsOf, appended, List.filter_append,
    List.map_append]

/-! ## One key -/

section Key

variable (sha256 : ByteArray → String)

/-- A collection leaves a key it names with a record. -/
theorem View.collect_kept_ne_none
    (view : View) {now : List BusinessData} (named : now ≠ []) :
    (view.collect sha256 now).kept ≠ none := by
  rcases List.exists_cons_of_ne_nil named with ⟨first, rest, rfl⟩
  rcases exists_observeAll comparedData (fingerprint sha256) view.kept first
      rest with
    ⟨data, last, _, _, left⟩
  have kept :
      (view.collect sha256 (first :: rest)).kept =
        some ⟨data, fingerprint sha256 last, 0, true⟩ := left
  rw [kept]
  exact Option.some_ne_none _

/-- The notices of a key which is named in the same collection again. -/
theorem View.collect_again
    (view : View) {now : List BusinessData} (named : now ≠ []) :
    (view.collect sha256 now).collect sha256 now =
      ⟨(view.collect sha256 now).kept,
        (view.collect sha256 now).told ++
          (sightingChanges (fingerprint sha256) now.getLast? now).map
            notice⟩ := by
  rcases List.exists_cons_of_ne_nil named with ⟨first, rest, rfl⟩
  have again :
      Foundation.ChangeTracking.collect comparedData (fingerprint sha256)
          inactiveAfterSuccessfulAbsences
          (view.collect sha256 (first :: rest)).kept (first :: rest) =
        ((view.collect sha256 (first :: rest)).kept,
          sightingChanges (fingerprint sha256) (first :: rest).getLast?
            (first :: rest)) :=
    observeAll_again comparedData (fingerprint sha256) view.kept first rest
  rw [View.collect, again]

/-- The notices of a key which is not named are those of an absence. -/
theorem View.collect_nil_told (view : View) :
    ∃ told : List (Change BusinessData),
      (view.collect sha256 []).told = view.told ++ told.map notice ∧
        ∀ change ∈ told, change.sighted = none := by
  refine ⟨_, rfl, ?_⟩
  intro change member
  cases kept : view.kept with
  | none =>
      rw [kept] at member
      cases member
  | some tracked =>
      rw [kept] at member
      exact sighted_of_mem_miss _ member

/-- Nothing is told again exactly if all sightings have the same hash. -/
theorem sightingChanges_again_eq_nil_iff (now : List BusinessData) :
    sightingChanges (fingerprint sha256) now.getLast? now = [] ↔
      ∀ data ∈ now, ∀ other ∈ now,
        fingerprint sha256 data = fingerprint sha256 other := by
  cases last : now.getLast? with
  | none =>
      rw [List.getLast?_eq_none_iff.mp last]
      simp [sightingChanges]
  | some final =>
      have finalMember := List.mem_of_getLast? last
      rw [sightingChanges_eq_nil_iff]
      constructor
      · intro same data member other otherMember
        exact (same data member).trans (same other otherMember).symm
      · intro same data member
        exact same data member final finalMember

theorem mem_occurrences
    {externalId : String} {items : List ItemFields} {data : BusinessData} :
    data ∈ occurrences externalId items ↔
      ∃ item ∈ items, item.externalId = externalId ∧ item.data = data := by
  simp [occurrences, and_assoc]

end Key

/-! ## One collection -/

/-- Items with the same external id have data with the same hash. -/
def AgreeingItems (sha256 : ByteArray → String) (items : List ItemFields) :
    Prop :=
  ∀ item ∈ items, ∀ other ∈ items, item.externalId = other.externalId →
    fingerprint sha256 item.data = fingerprint sha256 other.data

theorem agreeingItems_iff
    (sha256 : ByteArray → String) (items : List ItemFields) :
    AgreeingItems sha256 items ↔
      ∀ externalId : String,
        sightingChanges (fingerprint sha256)
            (occurrences externalId items).getLast?
            (occurrences externalId items) =
          [] := by
  simp only [sightingChanges_again_eq_nil_iff, mem_occurrences]
  constructor
  · rintro agreeing externalId _ ⟨item, member, own, rfl⟩ _
      ⟨other, otherMember, otherOwn, rfl⟩
    exact agreeing item member other otherMember (own.trans otherOwn.symm)
  · intro agreeing item member other otherMember same
    exact agreeing item.externalId _ ⟨item, member, rfl, rfl⟩ _
      ⟨other, otherMember, same.symm, rfl⟩

section Collection

variable (sha256 : ByteArray → String) {database : Database}
variable (collection : Collection) (persistedAt : NaiveDateTime)
variable (scan : ScanOrder)

/-- The second delivery moves the keys of the source once more. -/
theorem view_redelivered
    (wellFormed : database.WellFormed) (key : SourceId × String) :
    ((database.persist sha256 collection).persist sha256
          (collection.redelivered persistedAt scan)).view key =
      if key.1 = collection.sourceId then
        ((database.persist sha256 collection).view key).collect sha256
          (occurrences key.2 collection.result.items)
      else (database.persist sha256 collection).view key :=
  (advances_persist sha256
    (advances_persist sha256 wellFormed collection).preserves.wellFormed
    (collection.redelivered persistedAt scan)).view key

/-- The record of a named key is as the first delivery left it. -/
theorem find_redelivered
    (wellFormed : database.WellFormed) {externalId : String}
    (named : occurrences externalId collection.result.items ≠ []) :
    (((database.persist sha256 collection).persist sha256
          (collection.redelivered persistedAt scan)).find
        (collection.sourceId, externalId)).map Record.tracked =
      ((database.persist sha256 collection).find
        (collection.sourceId, externalId)).map Record.tracked := by
  have first := advances_persist sha256 wellFormed collection
  rw [← Database.view_kept, ← Database.view_kept,
    view_redelivered sha256 collection persistedAt scan wellFormed,
    if_pos rfl, first.view, if_pos rfl]
  rw [View.collect_again sha256 _ named]

/-- A key of the source without a record is not named. -/
theorem occurrences_eq_nil_of_not_found
    (wellFormed : database.WellFormed) {externalId : String}
    (absent :
      (database.persist sha256 collection).find
        (collection.sourceId, externalId) = none) :
    occurrences externalId collection.result.items = [] := by
  by_contra named
  have first := advances_persist sha256 wellFormed collection
  have view := first.view (collection.sourceId, externalId)
  rw [Database.view_of_not_find absent, if_pos rfl] at view
  refine View.collect_kept_ne_none sha256
    (database.view (collection.sourceId, externalId)) named ?_
  exact (congrArg View.kept view).symm

/-- A record found after the second delivery was there after the first. -/
theorem exists_found_first
    (wellFormed : database.WellFormed) {key : SourceId × String}
    {later : Record}
    (foundLater :
      ((database.persist sha256 collection).persist sha256
        (collection.redelivered persistedAt scan)).find key = some later) :
    ∃ record,
      (database.persist sha256 collection).find key = some record ∧
        later.id = record.id := by
  have first := advances_persist sha256 wellFormed collection
  have second :=
    advances_persist sha256 first.preserves.wellFormed
      (collection.redelivered persistedAt scan)
  cases found : (database.persist sha256 collection).find key with
  | some record =>
      rcases second.preserves.kept key record found with
        ⟨kept, foundKept, sameId⟩
      rw [foundLater] at foundKept
      cases foundKept
      exact ⟨record, rfl, sameId⟩
  | none =>
      have view :=
        view_redelivered sha256 collection persistedAt scan wellFormed key
      rw [Database.view_of_find foundLater,
        Database.view_of_not_find found] at view
      split_ifs at view with own
      · have isKey : key = (collection.sourceId, key.2) := Prod.ext own rfl
        rw [isKey] at found
        rw [occurrences_eq_nil_of_not_found sha256 collection wellFormed
          found] at view
        cases congrArg View.kept view
      · cases congrArg View.kept view

/-- What a key of the source is told by the second delivery. -/
theorem told_redelivered
    (wellFormed : database.WellFormed) (externalId : String) :
    ∃ told : List (Change BusinessData),
      (((database.persist sha256 collection).persist sha256
            (collection.redelivered persistedAt scan)).view
          (collection.sourceId, externalId)).told =
        ((database.persist sha256 collection).view
            (collection.sourceId, externalId)).told ++
          told.map notice ∧
      ((∀ change ∈ told, change.sighted = none) ↔
        sightingChanges (fingerprint sha256)
            (occurrences externalId collection.result.items).getLast?
            (occurrences externalId collection.result.items) =
          []) := by
  have firstView :=
    (advances_persist sha256 wellFormed collection).view
      (collection.sourceId, externalId)
  rw [if_pos rfl] at firstView
  rw [view_redelivered sha256 collection persistedAt scan wellFormed,
    if_pos rfl]
  by_cases named : occurrences externalId collection.result.items = []
  · rw [named]
    rcases View.collect_nil_told sha256
        ((database.persist sha256 collection).view
          (collection.sourceId, externalId)) with
      ⟨told, isTold, unsighted⟩
    exact ⟨told, isTold, iff_of_true unsighted rfl⟩
  · refine
      ⟨sightingChanges (fingerprint sha256)
        (occurrences externalId collection.result.items).getLast?
        (occurrences externalId collection.result.items), ?_, ?_⟩
    · rw [firstView]
      exact congrArg View.told (View.collect_again sha256 _ named)
    · constructor
      · intro unsighted
        refine List.eq_nil_iff_forall_not_mem.mpr ?_
        intro change member
        exact sighted_of_mem_sightingChanges _ member
          (unsighted change member)
      · intro silent change member
        rw [silent] at member
        cases member

variable {sha256 collection persistedAt scan} {added : List ChangeEvent}

/-- The added events of a record of the source. -/
theorem silent_for_record_iff
    (wellFormed : database.WellFormed)
    (appended :
      ((database.persist sha256 collection).persist sha256
          (collection.redelivered persistedAt scan)).events =
        (database.persist sha256 collection).events ++ added)
    {externalId : String} {record later : Record}
    (found :
      (database.persist sha256 collection).find
        (collection.sourceId, externalId) = some record)
    (foundLater :
      ((database.persist sha256 collection).persist sha256
          (collection.redelivered persistedAt scan)).find
        (collection.sourceId, externalId) = some later)
    (sameId : later.id = record.id) :
    (∀ event ∈ added, event.recordId = record.id → event.content = none) ↔
      sightingChanges (fingerprint sha256)
          (occurrences externalId collection.result.items).getLast?
          (occurrences externalId collection.result.items) =
        [] := by
  rcases told_redelivered sha256 collection persistedAt scan wellFormed
      externalId with
    ⟨told, isTold, silent⟩
  rw [Database.view_told_of_appended appended found foundLater sameId,
    List.append_cancel_left_eq] at isTold
  have contents := contents_of_notices isTold
  rw [← silent, ← List.filterMap_eq_nil_iff, ← contents,
    List.filterMap_eq_nil_iff]
  simp only [List.mem_filter, decide_eq_true_eq, and_imp]

/-- The added events tell no sighting exactly if items agree. -/
theorem silent_iff
    (wellFormed : database.WellFormed)
    (appended :
      ((database.persist sha256 collection).persist sha256
          (collection.redelivered persistedAt scan)).events =
        (database.persist sha256 collection).events ++ added) :
    (∀ event ∈ added, event.content = none) ↔
      AgreeingItems sha256 collection.result.items := by
  have first := advances_persist sha256 wellFormed collection
  have second :=
    advances_persist sha256 first.preserves.wellFormed
      (collection.redelivered persistedAt scan)
  rw [agreeingItems_iff]
  constructor
  · intro silent externalId
    cases found :
        (database.persist sha256 collection).find
          (collection.sourceId, externalId) with
    | none =>
        rw [occurrences_eq_nil_of_not_found sha256 collection wellFormed
          found]
        rfl
    | some record =>
        rcases second.preserves.kept _ record found with
          ⟨later, foundLater, sameId⟩
        rw [← silent_for_record_iff wellFormed appended found foundLater
          sameId]
        intro event member _
        exact silent event member
  · intro silent event member
    have stored := List.mem_append_right
      (database.persist sha256 collection).events member
    rw [← appended] at stored
    rcases second.preserves.wellFormed.exists_of_id_lt
        (second.preserves.wellFormed.events event stored) with
      ⟨later, laterMember, isLater⟩
    have foundLater := second.preserves.wellFormed.find_of_mem laterMember
    rcases exists_found_first sha256 collection persistedAt scan wellFormed
        foundLater with
      ⟨record, found, sameId⟩
    by_cases own : later.key.1 = collection.sourceId
    · have isKey :
          later.key = (collection.sourceId, later.externalId) :=
        Prod.ext own rfl
      rw [isKey] at found foundLater
      refine (silent_for_record_iff wellFormed appended found foundLater
        sameId).mpr (silent later.externalId) event member ?_
      exact isLater.symm.trans sameId
    · have unmoved :=
        view_redelivered sha256 collection persistedAt scan wellFormed
          later.key
      rw [if_neg own] at unmoved
      have told := congrArg View.told unmoved
      rw [Database.view_told_of_appended appended found foundLater sameId,
        List.append_right_eq_self, List.map_eq_nil_iff,
        List.filter_eq_nil_iff] at told
      refine absurd ?_ (told event member)
      rw [decide_eq_true_eq]
      exact isLater.symm.trans sameId

/--
A second delivery changes nothing exactly if items with the same external id
have data with the same hash.
-/
theorem redelivers_iff (wellFormed : database.WellFormed) :
    Redelivers collection (database.persist sha256 collection)
        ((database.persist sha256 collection).persist sha256
          (collection.redelivered persistedAt scan)) ↔
      AgreeingItems sha256 collection.result.items := by
  have first := advances_persist sha256 wellFormed collection
  have second :=
    advances_persist sha256 first.preserves.wellFormed
      (collection.redelivered persistedAt scan)
  constructor
  · rintro ⟨⟨added, appended, silent⟩, _⟩
    rw [← silent_iff wellFormed appended]
    intro event member
    exact event.content_eq_none_iff.mpr (silent event member)
  · intro agreeing
    rcases second.preserves.appends with ⟨added, appended⟩
    rw [← silent_iff wellFormed appended.symm] at agreeing
    constructor
    · refine ⟨added, appended.symm, ?_⟩
      intro event member
      exact event.content_eq_none_iff.mp (agreeing event member)
    · intro item member
      refine find_redelivered sha256 collection persistedAt scan wellFormed
        ?_
      refine List.ne_nil_of_mem (a := item.data) ?_
      exact mem_occurrences.mpr ⟨item, member, rfl, rfl⟩

end Collection

/--
After any collections, a second delivery of one more changes nothing exactly
if its items with the same external id have data with the same hash.
-/
theorem redelivers_persistAll_iff (sha256 : ByteArray → String)
    (collections : List Collection) (collection : Collection)
    (persistedAt : NaiveDateTime) (scan : ScanOrder) :
    Redelivers collection
        ((persistAll sha256 collections).persist sha256 collection)
        (((persistAll sha256 collections).persist sha256 collection).persist
          sha256 (collection.redelivered persistedAt scan)) ↔
      AgreeingItems sha256 collection.result.items :=
  redelivers_iff (wellFormed_persistAll sha256 collections)

/-! ## A response which names an item twice -/

/-- An item of the demo API, with its score. -/
def scoredItem (score : ℤ) : ItemFields where
  externalId := "one"
  data := [("id", .str "one"), ("score", .int score)]

/-- A response body of the demo API. -/
def twiceNamedBody : String :=
  "\x7b\"items\":[\x7b\"id\":\"one\",\"score\":1\x7d," ++
    "\x7b\"id\":\"one\",\"score\":2\x7d]\x7d"

/-- The SHA-256 digests of the body and of the data of its two items. -/
def scoreDigest (bytes : ByteArray) : String :=
  if bytes = twiceNamedBody.toUTF8 then
    "a49b8a16ac7bc38d9511f52942b018cd661ffc7e8c5621ec3f8d94fcf3ed7b9e"
  else if bytes = "\x7b\"id\":\"one\",\"score\":1\x7d".toUTF8 then
    "5f3e808e481e26d47bd38e02343b432a2fa7953f9f3d94df81cc712ec26e2a0f"
  else if bytes = "\x7b\"id\":\"one\",\"score\":2\x7d".toUTF8 then
    "be6833dda87deef808fd6249f2d292d486745fd0f4469efdc7df3967356be5bb"
  else ""

/-- What the adapter runner returns for the body. -/
def twiceNamed : AdapterResult where
  response := { body := twiceNamedBody.toUTF8 }
  items := [scoredItem 1, scoredItem 2]
  rawResponseHash := scoreDigest twiceNamedBody.toUTF8

/-- The result is persisted at the start of the calendar. -/
def twiceNamedCollection : Collection where
  sourceId := 1
  result := twiceNamed
  compatible := by
    intro item member
    rcases List.mem_pair.mp member with rfl | rfl
    · rfl
    · rfl
  persistedAt := ⟨0, zero_lt_calendar⟩
  scan := ⟨id, fun rows => .refl rows⟩

/-- The second delivery of the result tells both items as updates. -/
theorem not_redelivers_twiceNamed :
    ¬ Redelivers twiceNamedCollection
        ((persistAll scoreDigest []).persist scoreDigest
          twiceNamedCollection)
        (((persistAll scoreDigest []).persist scoreDigest
            twiceNamedCollection).persist scoreDigest
          (twiceNamedCollection.redelivered twiceNamedCollection.persistedAt
            twiceNamedCollection.scan)) := by
  rw [redelivers_iff (wellFormed_persistAll scoreDigest [])]
  intro agreeing
  have same :=
    agreeing (scoredItem 1) List.mem_cons_self (scoredItem 2)
      (List.mem_cons_of_mem _ List.mem_cons_self) rfl
  revert same
  decide

end MultisiteCrawler.Records
