import MultisiteCrawler.Foundation.ChangeTracking
import MultisiteCrawler.Records.Tables

/-!
# Persisting a collection, key by key

Seen from one business key, the tables are a tracker and the changes it has
told.  Persisting a collection of a source moves every key of the source by
one `collect` and leaves the keys of other sources alone.
-/

namespace MultisiteCrawler.Records

open Adapters
open Foundation.ChangeTracking
open Foundation.CivilTime
open Foundation.Interaction
open Foundation.JsonComparison
open Foundation.JsonOrder
open Foundation.PythonErrors

/-! ## One business key -/

/-- What a record keeps of the collections. -/
def Record.tracked (record : Record) : Tracked BusinessData String :=
  ⟨record.payload, record.contentHash, record.missingCount, record.isActive⟩

/-- The type and the payload of an event. -/
abbrev Notice := String × BusinessData

/-- The notice an event carries. -/
def ChangeEvent.notice (event : ChangeEvent) : Notice :=
  (event.eventType, event.payload)

/-- The notice of a change. -/
def notice : Change BusinessData → Notice
  | .created data => ("created", data)
  | .updated data => ("updated", data)
  | .inactive data => ("inactive", data)

/-- What the tables hold of one business key. -/
structure View where
  kept : Option (Tracked BusinessData String)
  told : List Notice

/-- The view of a key which never occurred. -/
def View.empty : View :=
  ⟨none, []⟩

/-- The view of a business key. -/
def Database.view (database : Database) (key : SourceId × String) : View :=
  match database.find key with
  | none => .empty
  | some record =>
      ⟨some record.tracked,
        (database.eventsOf record.id).map ChangeEvent.notice⟩

section Views

variable {database : Database} {record old : Record} {event : ChangeEvent}
variable (key : SourceId × String)

theorem Database.view_of_find
    {key : SourceId × String} (found : database.find key = some record) :
    database.view key =
      ⟨some record.tracked,
        (database.eventsOf record.id).map ChangeEvent.notice⟩ := by
  rw [Database.view, found]

theorem Database.view_of_not_find
    {key : SourceId × String} (absent : database.find key = none) :
    database.view key = .empty := by
  rw [Database.view, absent]

/-- A new record and its first event. -/
theorem Database.WellFormed.view_insertRecord
    (wellFormed : database.WellFormed)
    (isNext : record.id = database.records.length)
    (fresh : database.find record.key = none)
    (belongs : event.recordId = record.id) :
    ((database.insertRecord record).insertEvent event).view key =
      if key = record.key then ⟨some record.tracked, [event.notice]⟩
      else database.view key := by
  have found :
      ((database.insertRecord record).insertEvent event).find key =
        if key = record.key then some record else database.find key :=
    Database.find_insertRecord key fresh
  have events (id : RecordId) :
      ((database.insertRecord record).insertEvent event).eventsOf id =
        database.eventsOf id ++ if event.recordId = id then [event] else [] :=
    Database.eventsOf_insertEvent id
  split_ifs at found ⊢ with same
  · rw [Database.view_of_find found, events, if_pos belongs,
      wellFormed.eventsOf_eq_nil isNext.ge]
    rfl
  · unfold Database.view
    rw [found]
    cases isFound : database.find key with
    | none => rfl
    | some other =>
        have below := wellFormed.id_lt (Database.mem_of_find isFound)
        have different : event.recordId ≠ other.id := by
          rw [belongs, isNext]
          exact below.ne'
        dsimp only
        rw [events, if_neg different, List.append_nil]

/-- A record is replaced by one with the same keys. -/
theorem Database.WellFormed.view_updateRecord
    (wellFormed : database.WellFormed)
    (member : old ∈ database.records)
    (sameId : record.id = old.id) (sameKey : record.key = old.key) :
    (database.updateRecord record).view key =
      if key = record.key then
        ⟨some record.tracked, (database.view key).told⟩
      else database.view key := by
  have found :=
    wellFormed.find_updateRecord key member sameId sameKey
  split_ifs at found ⊢ with same
  · have isOld : database.find key = some old := by
      rw [same, sameKey]
      exact wellFormed.find_of_mem member
    rw [Database.view_of_find found, Database.view_of_find isOld, sameId]
    rfl
  · unfold Database.view
    rw [found]
    rfl

/-- An event is added to a record. -/
theorem Database.WellFormed.view_insertEvent
    (wellFormed : database.WellFormed)
    (member : old ∈ database.records)
    (belongs : event.recordId = old.id) :
    (database.insertEvent event).view key =
      if key = old.key then
        ⟨(database.view key).kept,
          (database.view key).told ++ [event.notice]⟩
      else database.view key := by
  have sameFind :
      (database.insertEvent event).find key = database.find key := rfl
  unfold Database.view
  rw [sameFind]
  cases isFound : database.find key with
  | none =>
      have different : key ≠ old.key := by
        rintro rfl
        rw [wellFormed.find_of_mem member] at isFound
        cases isFound
      rw [if_neg different]
  | some other =>
      dsimp only
      rw [Database.eventsOf_insertEvent, belongs]
      by_cases same : key = old.key
      · rw [same, wellFormed.find_of_mem member] at isFound
        cases isFound
        rw [if_pos rfl, if_pos same, List.map_append]
        rfl
      · have different : old.id ≠ other.id := by
          intro sameId
          rw [wellFormed.eq_of_id member (Database.mem_of_find isFound)
            sameId] at same
          exact same (Database.key_of_find isFound).symm
        rw [if_neg different, if_neg same, List.append_nil]

end Views

/-! ## Statements as programs -/

section Run

variable (scan : ScanOrder) (now : NaiveDateTime) (database : Database)

@[simp]
theorem run_beijingNow :
    RepositoryProgram.beijingNow.run (databaseHandler scan now) database =
      (.ok now, database) := rfl

@[simp]
theorem run_lockRecordKey (sourceId : SourceId) (externalId : String) :
    (RepositoryProgram.lockRecordKey sourceId externalId).run
        (databaseHandler scan now) database =
      (.ok (), database) := rfl

@[simp]
theorem run_selectRecord (sourceId : SourceId) (externalId : String) :
    (RepositoryProgram.selectRecord sourceId externalId).run
        (databaseHandler scan now) database =
      (.ok (database.find (sourceId, externalId)), database) := rfl

theorem run_insertRecord
    (build : RecordId → Record)
    (fresh : database.find (build database.records.length).key = none) :
    (RepositoryProgram.insertRecord build).run (databaseHandler scan now)
        database =
      (.ok (build database.records.length).id,
        database.insertRecord (build database.records.length)) := by
  simp [RepositoryProgram.insertRecord, databaseHandler, fresh]

@[simp]
theorem run_updateRecord (record : Record) :
    (RepositoryProgram.updateRecord record).run (databaseHandler scan now)
        database =
      (.ok (), database.updateRecord record) := rfl

@[simp]
theorem run_insertEvent
    (recordId : RecordId) (eventType : String) (payload : BusinessData) :
    (RepositoryProgram.insertEvent recordId eventType payload).run
        (databaseHandler scan now) database =
      (.ok (), database.insertEvent ⟨recordId, eventType, payload⟩) := rfl

@[simp]
theorem run_selectFetchState (sourceId : SourceId) :
    (RepositoryProgram.selectFetchState sourceId).run
        (databaseHandler scan now) database =
      (.ok (database.findState sourceId), database) := rfl

theorem run_insertFetchState
    (state : SourceFetchState)
    (fresh : database.findState state.sourceId = none) :
    (RepositoryProgram.insertFetchState state).run
        (databaseHandler scan now) database =
      (.ok (), database.insertFetchState state) := by
  simp [RepositoryProgram.insertFetchState, databaseHandler, fresh]

@[simp]
theorem run_updateFetchStateStatement (state : SourceFetchState) :
    (RepositoryProgram.updateFetchState state).run
        (databaseHandler scan now) database =
      (.ok (), database.updateFetchState state) := rfl

@[simp]
theorem run_selectActiveRecords (sourceId : SourceId) :
    (RepositoryProgram.selectActiveRecords sourceId).run
        (databaseHandler scan now) database =
      (.ok (scan.arrange (database.activeRecords sourceId)), database) := rfl

end Run

/-! ## Steps of a source -/

/-- A step of a source moves each of its keys as given, and no other key. -/
structure Advances (sourceId : SourceId) (move : String → View → View)
    (before after : Database) : Prop where
  preserves : Database.Preserves sourceId before after
  view : ∀ key : SourceId × String,
    after.view key =
      if key.1 = sourceId then move key.2 (before.view key)
      else before.view key

section Advances

variable {sourceId : SourceId} {before between after : Database}
variable {first second : String → View → View}

theorem Advances.trans
    (advancesFirst : Advances sourceId first before between)
    (advancesSecond : Advances sourceId second between after) :
    Advances sourceId
      (fun externalId view => second externalId (first externalId view))
      before after where
  preserves := advancesFirst.preserves.trans advancesSecond.preserves
  view key := by
    rw [advancesSecond.view, advancesFirst.view]
    split_ifs <;> rfl

theorem Advances.congr
    (advances : Advances sourceId first before after)
    (same : ∀ externalId,
      first externalId (before.view (sourceId, externalId)) =
        second externalId (before.view (sourceId, externalId))) :
    Advances sourceId second before after where
  preserves := advances.preserves
  view key := by
    rw [advances.view]
    split_ifs with own
    · rcases key with ⟨keySource, externalId⟩
      cases own
      exact same externalId
    · rfl

/-- Only the view of the one key which moves matters. -/
theorem Advances.congr_at
    (externalId : String) {move other : View → View}
    (advances :
      Advances sourceId
        (fun id view => if id = externalId then move view else view)
        before after)
    (same :
      move (before.view (sourceId, externalId)) =
        other (before.view (sourceId, externalId))) :
    Advances sourceId
      (fun id view => if id = externalId then other view else view)
      before after := by
  refine advances.congr ?_
  intro id
  split_ifs with isKey
  · rw [isKey]
    exact same
  · rfl

theorem Advances.refl (wellFormed : before.WellFormed) :
    Advances sourceId (fun _ view => view) before before where
  preserves := .refl wellFormed
  view key := by split_ifs <;> rfl

end Advances

/-- A condition on the key of a source is one on the external id. -/
theorem key_eq_iff
    {sourceId : SourceId} {record : Record}
    (own : record.sourceId = sourceId) (key : SourceId × String) :
    key = record.key ↔ key.1 = sourceId ∧ key.2 = record.externalId := by
  rw [Prod.ext_iff, ← own]
  exact Iff.rfl

section Statements

variable {sourceId : SourceId} {before : Database} {record old : Record}
variable {event : ChangeEvent}

theorem advances_insertRecord
    (wellFormed : before.WellFormed)
    (isNext : record.id = before.records.length)
    (fresh : before.find record.key = none)
    (belongs : event.recordId = record.id)
    (own : record.sourceId = sourceId) :
    Advances sourceId
      (fun externalId view =>
        if externalId = record.externalId then
          ⟨some record.tracked, [event.notice]⟩
        else view)
      before ((before.insertRecord record).insertEvent event) where
  preserves := by
    have inserted :=
      Database.Preserves.insertRecord wellFormed isNext fresh own
    refine inserted.trans (.insertEvent inserted.wellFormed ?_)
    rw [belongs, isNext]
    simp [Database.insertRecord]
  view key := by
    rw [wellFormed.view_insertRecord key isNext fresh belongs]
    simp only [key_eq_iff own]
    split_ifs <;> simp_all

theorem advances_updateRecord
    (wellFormed : before.WellFormed) (member : old ∈ before.records)
    (sameId : record.id = old.id) (sameKey : record.key = old.key)
    (own : record.sourceId = sourceId) :
    Advances sourceId
      (fun externalId view =>
        if externalId = record.externalId then
          ⟨some record.tracked, view.told⟩
        else view)
      before (before.updateRecord record) where
  preserves := .updateRecord wellFormed member sameId sameKey own
  view key := by
    rw [wellFormed.view_updateRecord key member sameId sameKey]
    simp only [key_eq_iff own]
    split_ifs <;> simp_all

theorem advances_insertEvent
    (wellFormed : before.WellFormed) (member : record ∈ before.records)
    (belongs : event.recordId = record.id)
    (own : record.sourceId = sourceId) :
    Advances sourceId
      (fun externalId view =>
        if externalId = record.externalId then
          ⟨view.kept, view.told ++ [event.notice]⟩
        else view)
      before (before.insertEvent event) where
  preserves := by
    refine .insertEvent wellFormed ?_
    rw [belongs]
    exact wellFormed.id_lt member
  view key := by
    rw [wellFormed.view_insertEvent key member belongs]
    simp only [key_eq_iff own]
    split_ifs <;> simp_all

/-- A record is replaced and an event of it added. -/
theorem advances_updateRecord_insertEvent
    (wellFormed : before.WellFormed) (member : old ∈ before.records)
    (sameId : record.id = old.id) (sameKey : record.key = old.key)
    (belongs : event.recordId = old.id)
    (own : record.sourceId = sourceId) :
    Advances sourceId
      (fun externalId view =>
        if externalId = record.externalId then
          ⟨some record.tracked, view.told ++ [event.notice]⟩
        else view)
      before ((before.updateRecord record).insertEvent event) := by
  have updated :=
    advances_updateRecord wellFormed member sameId sameKey own
  have updatedMember : record ∈ (before.updateRecord record).records :=
    List.mem_map.mpr ⟨old, member, if_pos sameId.symm⟩
  have told :=
    advances_insertEvent updated.preserves.wellFormed updatedMember
      (belongs.trans sameId.symm) own
  refine (updated.trans told).congr ?_
  intro externalId
  split_ifs <;> rfl

end Statements

/-- What `==` sees of business data. -/
def comparedData (data : BusinessData) : Compared :=
  compared (sortKeys (.obj data))

variable (sha256 : ByteArray → String)

/-- The view of a key after a sighting. -/
def View.sight (view : View) (data : BusinessData) : View :=
  ⟨some (observe comparedData (fingerprint sha256) view.kept data).1,
    view.told ++
      (observe comparedData (fingerprint sha256) view.kept data).2.map notice⟩

/-- The data of an external id in a collection, in order. -/
def occurrences (externalId : String) (items : List ItemFields) :
    List BusinessData :=
  (items.filter fun item => decide (item.externalId = externalId)).map
    ItemFields.data

/-- A key which is not found gets a record and its first event. -/
theorem advances_created
    {before : Database} (wellFormed : before.WellFormed)
    {sourceId : SourceId} (now : NaiveDateTime) {item : ItemFields}
    (absent : before.find (sourceId, item.externalId) = none) :
    Advances sourceId
      (fun externalId view =>
        if externalId = item.externalId then view.sight sha256 item.data
        else view)
      before
      ((before.insertRecord
          (createdRecord sourceId item (fingerprint sha256 item.data) now
            before.records.length)).insertEvent
        ⟨before.records.length, "created", item.data⟩) := by
  let record :=
    createdRecord sourceId item (fingerprint sha256 item.data) now
      before.records.length
  let event : ChangeEvent :=
    ⟨before.records.length, "created", item.data⟩
  have fresh : before.find record.key = none := absent
  have belongs : event.recordId = record.id := rfl
  have own : record.sourceId = sourceId := rfl
  refine (advances_insertRecord wellFormed rfl fresh belongs own).congr_at
    item.externalId ?_
  rw [Database.view_of_not_find absent]
  rfl

section Seen

variable {sha256} {before : Database} {sourceId : SourceId}
variable {item : ItemFields} {record : Record}

/-- A record whose data has the same fingerprint is replaced. -/
theorem advances_unchanged
    (wellFormed : before.WellFormed) (now : NaiveDateTime)
    (found : before.find (sourceId, item.externalId) = some record)
    (unchanged : record.contentHash = fingerprint sha256 item.data) :
    Advances sourceId
      (fun externalId view =>
        if externalId = item.externalId then view.sight sha256 item.data
        else view)
      before
      (before.updateRecord
        (seenRecord item record.contentHash now record)) := by
  let seen := seenRecord item record.contentHash now record
  have member := Database.mem_of_find found
  have own : seen.sourceId = sourceId :=
    congrArg Prod.fst (Database.key_of_find found)
  have external : seen.externalId = item.externalId :=
    congrArg Prod.snd (Database.key_of_find found)
  have sameId : seen.id = record.id := rfl
  have sameKey : seen.key = record.key := rfl
  have advances :=
    advances_updateRecord wellFormed member sameId sameKey own
  rw [external] at advances
  refine advances.congr_at item.externalId ?_
  have sameMark : record.tracked.mark = fingerprint sha256 item.data :=
    unchanged
  rw [Database.view_of_find found]
  simp only [View.sight, observe, if_pos sameMark, List.map_nil,
    List.append_nil]
  rw [Record.tracked, Foundation.ChangeTracking.seen, ← unchanged]
  rfl

/-- A record whose data has another fingerprint gets an event as well. -/
theorem advances_changed
    (wellFormed : before.WellFormed) (now : NaiveDateTime)
    (found : before.find (sourceId, item.externalId) = some record)
    (changed : record.contentHash ≠ fingerprint sha256 item.data) :
    Advances sourceId
      (fun externalId view =>
        if externalId = item.externalId then view.sight sha256 item.data
        else view)
      before
      ((before.updateRecord
          (seenRecord item (fingerprint sha256 item.data) now
            record)).insertEvent
        ⟨record.id, "updated", item.data⟩) := by
  let seen := seenRecord item (fingerprint sha256 item.data) now record
  let event : ChangeEvent := ⟨record.id, "updated", item.data⟩
  have member := Database.mem_of_find found
  have own : seen.sourceId = sourceId :=
    congrArg Prod.fst (Database.key_of_find found)
  have external : seen.externalId = item.externalId :=
    congrArg Prod.snd (Database.key_of_find found)
  have sameId : seen.id = record.id := rfl
  have sameKey : seen.key = record.key := rfl
  have belongs : event.recordId = record.id := rfl
  have advances :=
    advances_updateRecord_insertEvent wellFormed member sameId sameKey
      belongs own
  rw [external] at advances
  refine advances.congr_at item.externalId ?_
  have otherMark : record.tracked.mark ≠ fingerprint sha256 item.data :=
    changed
  rw [Database.view_of_find found]
  simp only [View.sight, observe, if_neg otherMark]
  rfl

end Seen

/-- The loop body is one sighting of its key. -/
theorem run_persistItem
    {before : Database} (wellFormed : before.WellFormed)
    (scan : ScanOrder) (sourceId : SourceId) (now : NaiveDateTime)
    (item : ItemFields) (compatible : JsonCompatible item.data) :
    ∃ after : Database,
      (persistItem sha256 sourceId now item).run (databaseHandler scan now)
          before =
        (.ok (), after) ∧
      Advances sourceId
        (fun externalId view =>
          if externalId = item.externalId then view.sight sha256 item.data
          else view)
        before after := by
  have hash := fingerprintBusinessData_of_compatible sha256 compatible
  cases found : before.find (sourceId, item.externalId) with
  | none =>
      have fresh :
          before.find
              (createdRecord sourceId item (fingerprint sha256 item.data) now
                before.records.length).key =
            none := found
      refine ⟨_, ?_, advances_created sha256 wellFormed now found⟩
      simp only [persistItem, Program.run_bind, run_lockRecordKey,
        Program.run_ofOutcome, hash, run_selectRecord, found,
        run_insertRecord scan now before _ fresh, run_insertEvent]
      rfl
  | some record =>
      by_cases unchanged :
          record.contentHash = fingerprint sha256 item.data
      · refine ⟨_, ?_, advances_unchanged wellFormed now found unchanged⟩
        simp only [persistItem, Program.run_bind, run_lockRecordKey,
          Program.run_ofOutcome, hash, run_selectRecord, found,
          if_neg (not_not.mpr unchanged), run_updateRecord]
      · refine ⟨_, ?_, advances_changed wellFormed now found unchanged⟩
        simp only [persistItem, Program.run_bind, run_lockRecordKey,
          Program.run_ofOutcome, hash, run_selectRecord, found,
          if_pos unchanged, run_updateRecord, run_insertEvent]

/-- The view of a key after the sightings of a collection. -/
def View.sightAll (view : View) (now : List BusinessData) : View :=
  now.foldl (View.sight sha256) view

/-- The loop shows every key its occurrences. -/
theorem run_persistItems
    {before : Database} (wellFormed : before.WellFormed)
    (scan : ScanOrder) (sourceId : SourceId) (now : NaiveDateTime)
    (items : List ItemFields) (observedIds : List String)
    (compatible : ∀ item ∈ items, JsonCompatible item.data) :
    ∃ after : Database, ∃ allIds : List String,
      (persistItems sha256 sourceId now items observedIds).run
          (databaseHandler scan now) before =
        (.ok allIds, after) ∧
      (∀ externalId, externalId ∈ allIds ↔
        externalId ∈ observedIds ∨ occurrences externalId items ≠ []) ∧
      Advances sourceId
        (fun externalId view =>
          view.sightAll sha256 (occurrences externalId items))
        before after := by
  induction items generalizing before observedIds with
  | nil =>
      refine ⟨before, observedIds, rfl, ?_, .refl wellFormed⟩
      simp [occurrences]
  | cons item rest induction =>
      rcases run_persistItem sha256 wellFormed scan sourceId now item
          (compatible item List.mem_cons_self) with
        ⟨between, runItem, advancesItem⟩
      rcases induction advancesItem.preserves.wellFormed
          (item.externalId :: observedIds)
          (fun other member =>
            compatible other (List.mem_cons_of_mem _ member)) with
        ⟨after, allIds, runRest, ids, advancesRest⟩
      refine ⟨after, allIds, ?_, ?_, (advancesItem.trans advancesRest).congr ?_⟩
      · simp only [persistItems, Program.run_bind, runItem, runRest]
      · intro externalId
        rw [ids]
        by_cases same : item.externalId = externalId
        · simp [occurrences, same]
        · simp [occurrences, same, Ne.symm same]
      · intro externalId
        by_cases same : item.externalId = externalId
        · simp [occurrences, same, View.sightAll]
        · simp [occurrences, same, Ne.symm same, View.sightAll]

/-- The fetch states are a table of their own. -/
theorem run_updateFetchState
    {before : Database} (wellFormed : before.WellFormed)
    (scan : ScanOrder) (sourceId : SourceId) (result : AdapterResult)
    (now : NaiveDateTime) :
    ∃ after : Database,
      (updateFetchState sourceId result now).run (databaseHandler scan now)
          before =
        (.ok (), after) ∧
      Advances sourceId (fun _ view => view) before after := by
  let state : SourceFetchState :=
    ⟨sourceId, result.response.etag, result.response.lastModified,
      some result.rawResponseHash, now⟩
  have inserted :
      Advances sourceId (fun _ view => view) before
        (before.insertFetchState state) :=
    ⟨.of_same_tables wellFormed rfl rfl, fun key => by split_ifs <;> rfl⟩
  have updated :
      Advances sourceId (fun _ view => view) before
        (before.updateFetchState state) :=
    ⟨.of_same_tables wellFormed rfl rfl, fun key => by split_ifs <;> rfl⟩
  cases found : before.findState sourceId with
  | none =>
      refine ⟨_, ?_, inserted⟩
      have fresh : before.findState state.sourceId = none := found
      simp only [updateFetchState, Program.run_bind, run_selectFetchState,
        found]
      exact run_insertFetchState scan now before state fresh
  | some old =>
      refine ⟨_, ?_, updated⟩
      simp only [updateFetchState, Program.run_bind, run_selectFetchState,
        found, run_updateFetchStateStatement]
      rfl

/-! ## Absences -/

/-- The view of a key after an absence. -/
def View.miss (view : View) : View :=
  ⟨view.kept.map fun tracked =>
      (Foundation.ChangeTracking.miss inactiveAfterSuccessfulAbsences
        tracked).1,
    view.told ++
      ((view.kept.map fun tracked =>
          (Foundation.ChangeTracking.miss inactiveAfterSuccessfulAbsences
            tracked).2).getD []).map notice⟩

/-- The loop body is one absence of its key. -/
theorem run_missRecord
    {before : Database} (wellFormed : before.WellFormed)
    (scan : ScanOrder) (now : NaiveDateTime) {record : Record}
    (member : record ∈ before.records) (active : record.isActive = true) :
    ∃ after : Database,
      (missRecord record).run (databaseHandler scan now) before =
        (.ok (), after) ∧
      (∀ other ∈ before.records, other.id ≠ record.id →
        other ∈ after.records) ∧
      Advances record.sourceId
        (fun externalId view =>
          if externalId = record.externalId then view.miss else view)
        before after := by
  have found := wellFormed.find_of_mem member
  have view :
      before.view (record.sourceId, record.externalId) =
        ⟨some record.tracked,
          (before.eventsOf record.id).map ChangeEvent.notice⟩ :=
    Database.view_of_find found
  have isActive : record.tracked.active = true := active
  by_cases reached :
      inactiveAfterSuccessfulAbsences ≤ record.missingCount + 1
  · let missed : Record :=
      { record with
        missingCount := record.missingCount + 1
        isActive := false }
    let event : ChangeEvent := ⟨record.id, "inactive", record.payload⟩
    have sameId : missed.id = record.id := rfl
    have sameKey : missed.key = record.key := rfl
    have belongs : event.recordId = record.id := rfl
    have own : missed.sourceId = record.sourceId := rfl
    have advances :=
      advances_updateRecord_insertEvent wellFormed member sameId sameKey
        belongs own
    refine ⟨_, ?_, ?_, advances.congr_at record.externalId ?_⟩
    · simp only [missRecord, if_pos reached, Program.run_bind,
        run_updateRecord, run_insertEvent]
      rfl
    · intro other otherMember different
      exact Database.mem_updateRecord_of_ne different otherMember
    · have reachedTracked :
          inactiveAfterSuccessfulAbsences ≤ record.tracked.missing + 1 :=
        reached
      rw [view]
      simp only [View.miss, Foundation.ChangeTracking.miss, Option.map_some,
        isActive, if_pos, if_pos reachedTracked]
      rfl
  · let missed : Record :=
      { record with missingCount := record.missingCount + 1 }
    have sameId : missed.id = record.id := rfl
    have sameKey : missed.key = record.key := rfl
    have own : missed.sourceId = record.sourceId := rfl
    have advances :=
      advances_updateRecord wellFormed member sameId sameKey own
    refine ⟨_, ?_, ?_, advances.congr_at record.externalId ?_⟩
    · simp only [missRecord, if_neg reached, run_updateRecord]
      rfl
    · intro other otherMember different
      exact Database.mem_updateRecord_of_ne different otherMember
    · have belowTracked :
          ¬ inactiveAfterSuccessfulAbsences ≤ record.tracked.missing + 1 :=
        reached
      rw [view]
      simp only [View.miss, Foundation.ChangeTracking.miss, Option.map_some,
        isActive, if_pos, if_neg belowTracked, Option.getD_some,
        List.map_nil, List.append_nil]
      rw [Record.tracked, ← active]
      rfl

theorem missed_cons_of_observed
    {record : Record} {observedIds : List String}
    (observed : record.externalId ∈ observedIds)
    (rest : List Record) (externalId : String) :
    ((∃ other ∈ rest, other.externalId = externalId) ∧
        externalId ∉ observedIds) ↔
      (∃ other ∈ record :: rest, other.externalId = externalId) ∧
        externalId ∉ observedIds := by
  refine and_congr_left fun absent => ?_
  rw [List.exists_mem_cons_iff]
  refine (or_iff_right ?_).symm
  rintro rfl
  exact absent observed

theorem exists_externalId_cons_of_ne
    {record : Record} {externalId : String}
    (different : externalId ≠ record.externalId) (rest : List Record) :
    (∃ other ∈ rest, other.externalId = externalId) ↔
      ∃ other ∈ record :: rest, other.externalId = externalId := by
  rw [List.exists_mem_cons_iff]
  exact (or_iff_right (Ne.symm different)).symm

theorem Database.WellFormed.externalId_notAgain
    {database : Database} (wellFormed : database.WellFormed)
    {sourceId : SourceId} {record : Record} {rest : List Record}
    (recordMember : record ∈ database.records)
    (own : record.sourceId = sourceId)
    (restMembers : ∀ other ∈ rest, other ∈ database.records)
    (restOwn : ∀ other ∈ rest, other.sourceId = sourceId)
    (notInRest : record.id ∉ rest.map Record.id) :
    ¬ ∃ other ∈ rest, other.externalId = record.externalId := by
  rintro ⟨other, member, sameExternal⟩
  have sameKey : other.key = record.key :=
    Prod.ext ((restOwn other member).trans own.symm) sameExternal
  have same :=
    wellFormed.eq_of_key (restMembers other member) recordMember sameKey
  exact notInRest (List.mem_map.mpr ⟨other, member, by rw [same]⟩)

/-- The loop counts an absence of every row which was not observed. -/
theorem run_missRecords
    {before : Database} (wellFormed : before.WellFormed)
    (scan : ScanOrder) (now : NaiveDateTime) (sourceId : SourceId)
    (observedIds : List String) (rows : List Record)
    (members : ∀ record ∈ rows, record ∈ before.records)
    (rowsActive : ∀ record ∈ rows,
      record.sourceId = sourceId ∧ record.isActive = true)
    (distinct : (rows.map Record.id).Nodup) :
    ∃ after : Database,
      (missRecords observedIds rows).run (databaseHandler scan now) before =
        (.ok (), after) ∧
      Advances sourceId
        (fun externalId view =>
          if (∃ record ∈ rows, record.externalId = externalId) ∧
              externalId ∉ observedIds
          then view.miss else view)
        before after := by
  induction rows generalizing before with
  | nil =>
      refine ⟨before, rfl, (Advances.refl wellFormed).congr ?_⟩
      intro externalId
      rw [if_neg]
      rintro ⟨⟨record, member, _⟩, _⟩
      cases member
  | cons record rest induction =>
      have restMembers :
          ∀ other ∈ rest, other ∈ before.records := fun other member =>
        members other (List.mem_cons_of_mem _ member)
      have restActive :
          ∀ other ∈ rest, other.sourceId = sourceId ∧
            other.isActive = true := fun other member =>
        rowsActive other (List.mem_cons_of_mem _ member)
      rcases List.nodup_cons.mp distinct with ⟨notInRest, restDistinct⟩
      have recordMember := members record List.mem_cons_self
      rcases rowsActive record List.mem_cons_self with ⟨own, active⟩
      by_cases observed : record.externalId ∈ observedIds
      · rcases induction wellFormed restMembers restActive restDistinct with
          ⟨after, runRest, advances⟩
        refine ⟨after, ?_, advances.congr ?_⟩
        · rw [missRecords, if_pos observed]
          exact runRest
        · intro externalId
          simp only [missed_cons_of_observed observed rest externalId]
      · rcases run_missRecord wellFormed scan now recordMember active with
          ⟨between, runMiss, othersStay, advancesMiss⟩
        rw [own] at advancesMiss
        have restStay : ∀ other ∈ rest, other ∈ between.records := by
          intro other member
          refine othersStay other (restMembers other member) ?_
          intro sameId
          exact notInRest (List.mem_map.mpr ⟨other, member, sameId⟩)
        rcases induction advancesMiss.preserves.wellFormed restStay restActive
            restDistinct with
          ⟨after, runRest, advances⟩
        refine ⟨after, ?_, (advancesMiss.trans advances).congr ?_⟩
        · simp only [missRecords, if_neg observed, Program.run_bind, runMiss,
            runRest]
        · intro externalId
          by_cases isRecord : externalId = record.externalId
          · have absent : externalId ∉ observedIds := by
              rw [isRecord]
              exact observed
            rw [if_pos isRecord, if_neg, if_pos]
            · exact ⟨⟨record, List.mem_cons_self, isRecord.symm⟩, absent⟩
            · rintro ⟨again, _⟩
              rw [isRecord] at again
              exact wellFormed.externalId_notAgain recordMember own
                restMembers (fun other member => (restActive other member).1)
                notInRest again
          · simp only [if_neg isRecord,
              exists_externalId_cons_of_ne isRecord rest]

theorem Record.miss_of_inactive
    {record : Record} (inactive : record.isActive = false) :
    Foundation.ChangeTracking.miss inactiveAfterSuccessfulAbsences
        record.tracked =
      (record.tracked, []) := by
  have isInactive : record.tracked.active = false := inactive
  rw [Foundation.ChangeTracking.miss, isInactive]
  rfl

/-- A key without an active record does not count absences. -/
theorem Database.miss_view_of_not_active
    {database : Database} {sourceId : SourceId} {externalId : String}
    (notActive : ∀ record ∈ database.activeRecords sourceId,
      record.externalId ≠ externalId) :
    (database.view (sourceId, externalId)).miss =
      database.view (sourceId, externalId) := by
  cases found : database.find (sourceId, externalId) with
  | none =>
      rw [Database.view_of_not_find found]
      rfl
  | some record =>
      have inactive : record.isActive = false := by
        by_contra active
        rw [Bool.not_eq_false] at active
        have key := Database.key_of_find found
        refine notActive record ?_ (congrArg Prod.snd key)
        rw [Database.activeRecords, List.mem_filter]
        refine ⟨Database.mem_of_find found, ?_⟩
        rw [active, Bool.and_true, decide_eq_true_eq]
        exact congrArg Prod.fst key
      rw [Database.view_of_find found, View.miss]
      simp only [Option.map_some, Record.miss_of_inactive inactive,
        Option.getD_some, List.map_nil, List.append_nil]

/-- Every key of the source which was not observed counts an absence. -/
theorem run_reconcileMissing
    {before : Database} (wellFormed : before.WellFormed)
    (scan : ScanOrder) (now : NaiveDateTime) (sourceId : SourceId)
    (observedIds : List String) :
    ∃ after : Database,
      (reconcileMissing sourceId observedIds).run (databaseHandler scan now)
          before =
        (.ok (), after) ∧
      Advances sourceId
        (fun externalId view =>
          if externalId ∈ observedIds then view else view.miss)
        before after := by
  have scanned := scan.perm (before.activeRecords sourceId)
  have isActive :
      ∀ record ∈ scan.arrange (before.activeRecords sourceId),
        record ∈ before.records ∧ record.sourceId = sourceId ∧
          record.isActive = true := by
    intro record member
    have filtered := List.mem_filter.mp (scanned.mem_iff.mp member)
    simp only [Bool.and_eq_true, decide_eq_true_eq] at filtered
    exact filtered
  have distinct :
      ((scan.arrange (before.activeRecords sourceId)).map
        Record.id).Nodup := by
    rw [(scanned.map Record.id).nodup_iff]
    have allDistinct : (before.records.map Record.id).Nodup := by
      rw [wellFormed.ids]
      exact List.nodup_range
    exact allDistinct.sublist (List.filter_sublist.map _)
  rcases run_missRecords wellFormed scan now sourceId observedIds _
      (fun record member => (isActive record member).1)
      (fun record member => (isActive record member).2) distinct with
    ⟨after, runMiss, advances⟩
  refine ⟨after, ?_, advances.congr ?_⟩
  · simp only [reconcileMissing, Program.run_bind, run_selectActiveRecords,
      runMiss]
  · intro externalId
    by_cases observed : externalId ∈ observedIds
    · rw [if_pos observed, if_neg]
      exact fun both => both.2 observed
    · rw [if_neg observed]
      split_ifs with active
      · rfl
      · refine (Database.miss_view_of_not_active ?_).symm
        intro record member sameExternal
        exact active
          ⟨⟨record, scanned.mem_iff.mpr member, sameExternal⟩, observed⟩

/-! ## One collection -/

/-- The view of a key after a collection. -/
def View.collect (view : View) (now : List BusinessData) : View :=
  ⟨(Foundation.ChangeTracking.collect comparedData (fingerprint sha256)
      inactiveAfterSuccessfulAbsences view.kept now).1,
    view.told ++
      (Foundation.ChangeTracking.collect comparedData (fingerprint sha256)
        inactiveAfterSuccessfulAbsences view.kept now).2.map notice⟩

theorem View.sightAll_eq (view : View) (now : List BusinessData) :
    view.sightAll sha256 now =
      ⟨(observeAll comparedData (fingerprint sha256) view.kept now).1,
        view.told ++
          (observeAll comparedData (fingerprint sha256) view.kept now).2.map
            notice⟩ := by
  induction now generalizing view with
  | nil => simp [View.sightAll, observeAll]
  | cons data rest induction =>
      have first : view.sightAll sha256 (data :: rest) =
          (view.sight sha256 data).sightAll sha256 rest := rfl
      rw [first, induction]
      simp [View.sight, observeAll]

/-- Sightings, or an absence if there are none. -/
theorem View.collect_eq (view : View) (now : List BusinessData) :
    view.collect sha256 now =
      if now = [] then view.miss else view.sightAll sha256 now := by
  cases now with
  | nil => rfl
  | cons data rest =>
      rw [if_neg (List.cons_ne_nil data rest), View.sightAll_eq]
      rfl

/-- Persisting a collection moves every key of its source by one collection. -/
theorem run_persistCollection
    {before : Database} (wellFormed : before.WellFormed)
    (scan : ScanOrder) (now : NaiveDateTime) (sourceId : SourceId)
    (result : AdapterResult) (compatible : result.Compatible) :
    ∃ after : Database,
      (persistCollection sha256 sourceId result).run
          (databaseHandler scan now) before =
        (.ok (), after) ∧
      Advances sourceId
        (fun externalId view =>
          view.collect sha256 (occurrences externalId result.items))
        before after := by
  rcases run_persistItems sha256 wellFormed scan sourceId now result.items []
      compatible with
    ⟨observedDatabase, allIds, runItems, ids, advancesItems⟩
  rcases run_updateFetchState advancesItems.preserves.wellFormed scan
      sourceId result now with
    ⟨fetchedDatabase, runState, advancesState⟩
  rcases run_reconcileMissing advancesState.preserves.wellFormed scan now
      sourceId allIds with
    ⟨after, runMissing, advancesMissing⟩
  have advances := (advancesItems.trans advancesState).trans advancesMissing
  refine ⟨after, ?_, advances.congr ?_⟩
  · simp only [persistCollection, Program.run_bind, run_beijingNow, runItems,
      runState, runMissing]
  · intro externalId
    have observed :
        externalId ∈ allIds ↔ occurrences externalId result.items ≠ [] := by
      rw [ids]
      simp
    rw [View.collect_eq]
    by_cases absent : occurrences externalId result.items = []
    · rw [if_pos absent, absent, if_neg]
      · rfl
      · rw [observed, not_not]
        exact absent
    · rw [if_neg absent, if_pos (observed.mpr absent)]

/-- Every accepted collection is committed. -/
theorem advances_persist
    {database : Database} (wellFormed : database.WellFormed)
    (collection : Collection) :
    Advances collection.sourceId
      (fun externalId view =>
        view.collect sha256
          (occurrences externalId collection.result.items))
      database (database.persist sha256 collection) := by
  rcases run_persistCollection sha256 wellFormed collection.scan
      collection.persistedAt collection.sourceId collection.result
      collection.compatible with
    ⟨after, result, advances⟩
  rw [Database.persist, result]
  exact advances

end MultisiteCrawler.Records
