import MultisiteCrawler.Records.Repository

/-!
# The record tables

What holds of the tables at any time: primary keys count the records, no two
records have the same business key, and every event belongs to a record.  A
record is found by its business key, and `Preserves` says that no record is
deleted and that those of other sources stay as they are.
-/

namespace MultisiteCrawler.Records

open Adapters

namespace Database

/-- The constraints of the record tables. -/
structure WellFormed (database : Database) : Prop where
  ids : database.records.map Record.id =
    List.range database.records.length
  keys : (database.records.map Record.key).Nodup
  events : ∀ event ∈ database.events,
    event.recordId < database.records.length

theorem wellFormed_empty : WellFormed empty :=
  ⟨rfl, List.nodup_nil, by rintro event ⟨⟩⟩

section Find

variable {database : Database} {record other : Record}
variable {key : SourceId × String}

theorem WellFormed.id_lt
    (wellFormed : database.WellFormed)
    (member : record ∈ database.records) :
    record.id < database.records.length := by
  rw [← List.mem_range, ← wellFormed.ids]
  exact List.mem_map_of_mem member

/-- Every primary key below the number of records is one of them. -/
theorem WellFormed.exists_of_id_lt
    (wellFormed : database.WellFormed) {id : RecordId}
    (below : id < database.records.length) :
    ∃ record ∈ database.records, record.id = id := by
  rw [← List.mem_range, ← wellFormed.ids] at below
  exact List.mem_map.mp below

theorem WellFormed.eq_of_id
    (wellFormed : database.WellFormed)
    (member : record ∈ database.records)
    (otherMember : other ∈ database.records)
    (same : record.id = other.id) :
    record = other := by
  have nodup : (database.records.map Record.id).Nodup := by
    rw [wellFormed.ids]
    exact List.nodup_range
  exact List.inj_on_of_nodup_map nodup member otherMember same

theorem WellFormed.eq_of_key
    (wellFormed : database.WellFormed)
    (member : record ∈ database.records)
    (otherMember : other ∈ database.records)
    (same : record.key = other.key) :
    record = other :=
  List.inj_on_of_nodup_map wellFormed.keys member otherMember same

theorem mem_of_find (found : database.find key = some record) :
    record ∈ database.records :=
  List.mem_of_find?_eq_some found

theorem key_of_find (found : database.find key = some record) :
    record.key = key := by
  have holds := List.find?_some found
  exact of_decide_eq_true holds

theorem WellFormed.find_of_mem
    (wellFormed : database.WellFormed)
    (member : record ∈ database.records) :
    database.find record.key = some record := by
  cases found : database.find record.key with
  | none =>
      have absent := List.find?_eq_none.mp found record member
      simp at absent
  | some other =>
      rw [wellFormed.eq_of_key (mem_of_find found) member
        (key_of_find found)]

/-- A record is in the table exactly if its key finds it. -/
theorem WellFormed.find_eq_some_iff
    (wellFormed : database.WellFormed) :
    database.find key = some record ↔
      record ∈ database.records ∧ record.key = key := by
  constructor
  · intro found
    exact ⟨mem_of_find found, key_of_find found⟩
  · rintro ⟨member, rfl⟩
    exact wellFormed.find_of_mem member

theorem find_eq_none_iff :
    database.find key = none ↔
      ∀ record ∈ database.records, record.key ≠ key := by
  rw [find, List.find?_eq_none]
  simp

end Find

/-! ## Statements -/

section Statements

variable {database : Database} {record old : Record}
variable (key : SourceId × String)

theorem find_insertRecord
    (fresh : database.find record.key = none) :
    (database.insertRecord record).find key =
      if key = record.key then some record else database.find key := by
  have appended :
      (database.insertRecord record).find key =
        (database.find key).or
          ([record].find? fun row => decide (row.key = key)) :=
    List.find?_append
  rw [appended]
  split_ifs with same
  · subst same
    rw [fresh]
    simp
  · have other : ¬ record.key = key := fun equal => same equal.symm
    simp [other]

theorem WellFormed.insertRecord
    (wellFormed : database.WellFormed)
    (isNext : record.id = database.records.length)
    (fresh : database.find record.key = none) :
    (database.insertRecord record).WellFormed := by
  constructor
  · simp only [Database.insertRecord, List.map_append, List.map_cons,
      List.map_nil, List.length_append, List.length_cons, List.length_nil,
      List.range_succ, wellFormed.ids, isNext]
  · simp only [Database.insertRecord, List.map_append, List.map_cons,
      List.map_nil]
    refine wellFormed.keys.append (List.nodup_singleton _) ?_
    rw [List.disjoint_singleton, List.mem_map]
    rintro ⟨other, member, same⟩
    exact find_eq_none_iff.mp fresh other member same
  · intro event member
    have below := wellFormed.events event member
    simp only [Database.insertRecord, List.length_append]
    exact Nat.lt_add_right _ below

/-- Replacing a record by one with the same keys keeps all keys. -/
theorem WellFormed.map_updateRecord
    (wellFormed : database.WellFormed)
    (member : old ∈ database.records)
    (sameId : record.id = old.id) (sameKey : record.key = old.key) :
    (database.updateRecord record).records.map Record.id =
        database.records.map Record.id ∧
      (database.updateRecord record).records.map Record.key =
        database.records.map Record.key := by
  simp only [Database.updateRecord, List.map_map]
  constructor
  · refine List.map_congr_left ?_
    intro row _
    rw [Function.comp_apply]
    split_ifs with same
    · exact same.symm
    · rfl
  · refine List.map_congr_left ?_
    intro row rowMember
    rw [Function.comp_apply]
    split_ifs with same
    · rw [wellFormed.eq_of_id rowMember member (same.trans sameId)]
      exact sameKey
    · rfl

theorem WellFormed.updateRecord
    (wellFormed : database.WellFormed)
    (member : old ∈ database.records)
    (sameId : record.id = old.id) (sameKey : record.key = old.key) :
    (database.updateRecord record).WellFormed := by
  rcases wellFormed.map_updateRecord member sameId sameKey with ⟨ids, keys⟩
  have sameLength :
      (database.updateRecord record).records.length =
        database.records.length := List.length_map _
  constructor
  · rw [ids, sameLength]
    exact wellFormed.ids
  · rw [keys]
    exact wellFormed.keys
  · rw [sameLength]
    exact wellFormed.events

theorem mem_updateRecord_of_ne
    {other : Record} (different : other.id ≠ record.id)
    (member : other ∈ database.records) :
    other ∈ (database.updateRecord record).records :=
  List.mem_map.mpr ⟨other, member, if_neg different⟩

theorem WellFormed.find_updateRecord
    (wellFormed : database.WellFormed)
    (member : old ∈ database.records)
    (sameId : record.id = old.id) (sameKey : record.key = old.key) :
    (database.updateRecord record).find key =
      if key = record.key then some record else database.find key := by
  have updated := wellFormed.updateRecord member sameId sameKey
  split_ifs with same
  · rw [same, updated.find_eq_some_iff]
    exact ⟨List.mem_map.mpr ⟨old, member, if_pos sameId.symm⟩, rfl⟩
  · refine Option.ext fun other => ?_
    rw [updated.find_eq_some_iff, wellFormed.find_eq_some_iff]
    constructor
    · rintro ⟨otherMember, rfl⟩
      rcases List.mem_map.mp otherMember with ⟨row, rowMember, rfl⟩
      split_ifs at same ⊢ with isRecord
      · exact absurd rfl same
      · exact ⟨rowMember, rfl⟩
    · rintro ⟨otherMember, rfl⟩
      refine ⟨mem_updateRecord_of_ne ?_ otherMember, rfl⟩
      intro isRecord
      rw [wellFormed.eq_of_id otherMember member (isRecord.trans sameId)]
        at same
      exact same sameKey.symm

theorem WellFormed.insertEvent
    (wellFormed : database.WellFormed) {event : ChangeEvent}
    (belongs : event.recordId < database.records.length) :
    (database.insertEvent event).WellFormed := by
  refine ⟨wellFormed.ids, wellFormed.keys, ?_⟩
  intro other member
  rcases List.mem_append.mp member with earlier | isEvent
  · exact wellFormed.events other earlier
  · rw [List.mem_singleton.mp isEvent]
    exact belongs

end Statements

/-! ## Events of a record -/

/-- The events of a primary key, in order of insertion. -/
def eventsOf (database : Database) (id : RecordId) : List ChangeEvent :=
  database.events.filter fun event => decide (event.recordId = id)

section Events

variable {database : Database} {event : ChangeEvent}

theorem eventsOf_insertEvent (id : RecordId) :
    (database.insertEvent event).eventsOf id =
      database.eventsOf id ++ if event.recordId = id then [event] else [] := by
  simp only [eventsOf, insertEvent, List.filter_append]
  split_ifs with same <;> simp [same]

/-- A primary key which is not given out yet has no events. -/
theorem WellFormed.eventsOf_eq_nil
    (wellFormed : database.WellFormed) {id : RecordId}
    (unused : database.records.length ≤ id) :
    database.eventsOf id = [] := by
  rw [eventsOf, List.filter_eq_nil_iff]
  intro event member
  have below := wellFormed.events event member
  rw [decide_eq_true_eq]
  exact (lt_of_lt_of_le below unused).ne

end Events

/-! ## What statements preserve -/

/--
A transaction of a source leaves well-formed tables, deletes no record, does
not touch the records of other sources and only appends events.
-/
structure Preserves (sourceId : SourceId) (before after : Database) :
    Prop where
  wellFormed : after.WellFormed
  kept : ∀ key record, before.find key = some record →
    ∃ later, after.find key = some later ∧ later.id = record.id
  foreign : ∀ key : SourceId × String, key.1 ≠ sourceId →
    after.find key = before.find key
  appends : before.events <+: after.events

section Preserves

variable {sourceId : SourceId} {before between after : Database}

theorem Preserves.refl (wellFormed : before.WellFormed) :
    Preserves sourceId before before where
  wellFormed := wellFormed
  kept _ record found := ⟨record, found, rfl⟩
  foreign _ _ := rfl
  appends := List.prefix_rfl

theorem Preserves.trans
    (first : Preserves sourceId before between)
    (second : Preserves sourceId between after) :
    Preserves sourceId before after where
  wellFormed := second.wellFormed
  kept key record found := by
    rcases first.kept key record found with ⟨later, foundLater, sameId⟩
    rcases second.kept key later foundLater with ⟨last, foundLast, sameLast⟩
    exact ⟨last, foundLast, sameLast.trans sameId⟩
  foreign key other :=
    (second.foreign key other).trans (first.foreign key other)
  appends := first.appends.trans second.appends

variable {record old : Record}

theorem Preserves.insertRecord
    (wellFormed : before.WellFormed)
    (isNext : record.id = before.records.length)
    (fresh : before.find record.key = none)
    (own : record.sourceId = sourceId) :
    Preserves sourceId before (before.insertRecord record) where
  wellFormed := wellFormed.insertRecord isNext fresh
  kept key row found := by
    refine ⟨row, ?_, rfl⟩
    rw [find_insertRecord key fresh, if_neg]
    · exact found
    · rintro rfl
      rw [fresh] at found
      cases found
  foreign key other := by
    rw [find_insertRecord key fresh, if_neg]
    rintro rfl
    exact other own
  appends := List.prefix_rfl

theorem Preserves.updateRecord
    (wellFormed : before.WellFormed) (member : old ∈ before.records)
    (sameId : record.id = old.id) (sameKey : record.key = old.key)
    (own : record.sourceId = sourceId) :
    Preserves sourceId before (before.updateRecord record) where
  wellFormed := wellFormed.updateRecord member sameId sameKey
  kept key row found := by
    rw [wellFormed.find_updateRecord key member sameId sameKey]
    split_ifs with same
    · rw [same, sameKey, wellFormed.find_of_mem member] at found
      cases found
      exact ⟨record, rfl, sameId⟩
    · exact ⟨row, found, rfl⟩
  foreign key other := by
    rw [wellFormed.find_updateRecord key member sameId sameKey, if_neg]
    rintro rfl
    exact other own
  appends := List.prefix_rfl

theorem Preserves.insertEvent
    (wellFormed : before.WellFormed) {event : ChangeEvent}
    (belongs : event.recordId < before.records.length) :
    Preserves sourceId before (before.insertEvent event) where
  wellFormed := wellFormed.insertEvent belongs
  kept _ row found := ⟨row, found, rfl⟩
  foreign _ _ := rfl
  appends := List.prefix_append _ _

/-- Statements about other tables preserve the record tables. -/
theorem Preserves.of_same_tables
    (wellFormed : before.WellFormed)
    (sameRecords : after.records = before.records)
    (sameEvents : after.events = before.events) :
    Preserves sourceId before after where
  wellFormed := by
    constructor
    · rw [sameRecords]
      exact wellFormed.ids
    · rw [sameRecords]
      exact wellFormed.keys
    · rw [sameRecords, sameEvents]
      exact wellFormed.events
  kept key row found := by
    refine ⟨row, ?_, rfl⟩
    rw [find, sameRecords]
    exact found
  foreign key _ := by rw [find, find, sameRecords]
  appends := by rw [sameEvents]

/-- The records of other sources stay as they are. -/
theorem Preserves.mem_iff
    (preserves : Preserves sourceId before after)
    (wellFormed : before.WellFormed)
    (other : record.sourceId ≠ sourceId) :
    record ∈ after.records ↔ record ∈ before.records := by
  have sameFind := preserves.foreign record.key other
  constructor
  · intro member
    have found := preserves.wellFormed.find_of_mem member
    rw [sameFind] at found
    exact mem_of_find found
  · intro member
    have found := wellFormed.find_of_mem member
    rw [← sameFind] at found
    exact mem_of_find found

/-- No record is deleted. -/
theorem Preserves.exists_of_mem
    (preserves : Preserves sourceId before after)
    (wellFormed : before.WellFormed) (member : record ∈ before.records) :
    ∃ later ∈ after.records,
      later.id = record.id ∧ later.key = record.key := by
  rcases preserves.kept record.key record (wellFormed.find_of_mem member) with
    ⟨later, found, sameId⟩
  exact ⟨later, mem_of_find found, sameId, key_of_find found⟩

end Preserves

end Database

end MultisiteCrawler.Records
