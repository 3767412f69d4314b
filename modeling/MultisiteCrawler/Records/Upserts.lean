import Mathlib
import MultisiteCrawler.Records.Journal
import MultisiteCrawler.Records.Tables

/-!
# Concurrent upserts

Any number of transactions persist collections at the same time.  Whoever
inserts a record holds the advisory lock of its business key, so a key which
was not found stays absent until it is inserted, and every committed record
has its own key and one 'created' event.
-/

namespace MultisiteCrawler.Records

open Adapters
open Foundation.Interaction
open Foundation.PythonErrors
open Foundation.Transactions

/-! ## Rows and their announcements -/

/-- A primary key with its business key. -/
abbrev Identity := RecordId × SourceId × String

/-- The identity of a record. -/
def Record.identity (record : Record) : Identity :=
  (record.id, record.key)

/-- The identities of all records. -/
def Database.identities (database : Database) : List Identity :=
  database.records.map Record.identity

/-- The record an event announces. -/
def ChangeEvent.announces (event : ChangeEvent) : Option RecordId :=
  if event.eventType = "created" then some event.recordId else none

/-- The records announced by 'created' events. -/
def Database.announced (database : Database) : List RecordId :=
  database.events.filterMap ChangeEvent.announces

/-- The identity a write inserts. -/
def DatabaseWrite.inserts : DatabaseWrite → Option Identity
  | .insertRecord record => some record.identity
  | _ => none

/-- The record a write announces. -/
def DatabaseWrite.announces : DatabaseWrite → Option RecordId
  | .insertEvent event => event.announces
  | _ => none

section Replay

variable (hashtext : String → ℤ) {database : Database}

@[simp]
theorem identities_insertRecord (record : Record) :
    (database.insertRecord record).identities =
      database.identities ++ [record.identity] := by
  simp [Database.identities, Database.insertRecord]

/-- A row is replaced by one with the same identity, if at all. -/
theorem identities_updateRecord
    {record : Record}
    (same : ∀ identity ∈ database.identities,
      identity.1 = record.id → identity = record.identity) :
    (database.updateRecord record).identities = database.identities := by
  rw [Database.identities, Database.updateRecord, List.map_map]
  refine List.map_congr_left ?_
  intro row member
  rw [Function.comp_apply]
  split_ifs with isRow
  · exact (same row.identity (List.mem_map_of_mem member) isRow).symm
  · rfl

/-- The identities after writes are those before and the inserted ones. -/
theorem identities_replay
    (writes : List DatabaseWrite)
    (ids :
      ((database.identities ++ writes.filterMap DatabaseWrite.inserts).map
        Prod.fst).Nodup)
    (updates : ∀ record, .updateRecord record ∈ writes →
      record.identity ∈
        database.identities ++ writes.filterMap DatabaseWrite.inserts) :
    ((server hashtext).replay database writes).identities =
      database.identities ++ writes.filterMap DatabaseWrite.inserts := by
  induction writes generalizing database with
  | nil => exact (List.append_nil _).symm
  | cons write rest induction =>
      have first :
          (server hashtext).replay database (write :: rest) =
            (server hashtext).replay (write.apply database) rest := rfl
      have restUpdates := fun record member =>
        updates record (List.mem_cons_of_mem write member)
      rw [first]
      cases write with
      | insertRecord record =>
          have moved :
              database.identities ++
                  (DatabaseWrite.insertRecord record :: rest).filterMap
                    DatabaseWrite.inserts =
                (database.insertRecord record).identities ++
                  rest.filterMap DatabaseWrite.inserts := by
            simp [DatabaseWrite.inserts]
          rw [moved] at ids restUpdates ⊢
          exact induction ids restUpdates
      | updateRecord record =>
          have unchanged :
              (database.updateRecord record).identities =
                database.identities := by
            refine identities_updateRecord ?_
            intro identity member sameId
            refine List.inj_on_of_nodup_map ids
              (List.mem_append_left _ member)
              (updates record List.mem_cons_self) sameId
          have moved :
              database.identities ++
                  (DatabaseWrite.updateRecord record :: rest).filterMap
                    DatabaseWrite.inserts =
                (database.updateRecord record).identities ++
                  rest.filterMap DatabaseWrite.inserts := by
            rw [unchanged]
            rfl
          rw [moved] at ids restUpdates ⊢
          exact induction ids restUpdates
      | insertEvent event => exact induction ids restUpdates
      | insertFetchState state => exact induction ids restUpdates
      | updateFetchState state => exact induction ids restUpdates

/-- Events are only appended. -/
theorem announced_replay (writes : List DatabaseWrite) :
    ((server hashtext).replay database writes).announced =
      database.announced ++ writes.filterMap DatabaseWrite.announces := by
  induction writes generalizing database with
  | nil => exact (List.append_nil _).symm
  | cons write rest induction =>
      have first :
          (server hashtext).replay database (write :: rest) =
            (server hashtext).replay (write.apply database) rest := rfl
      rw [first, induction]
      cases write with
      | insertEvent event =>
          simp only [DatabaseWrite.apply, Database.announced,
            Database.insertEvent, List.filterMap_append, List.append_assoc,
            List.append_cancel_left_eq]
          rw [List.filterMap_cons, List.filterMap_cons,
            DatabaseWrite.announces]
          cases event.announces <;> rfl
      | insertRecord record => rfl
      | updateRecord record => rfl
      | insertFetchState state => rfl
      | updateFetchState state => rfl

end Replay

/-! ## One transaction -/

/-- The records which are still to be announced. -/
def Pending.ids : Pending → List RecordId
  | .unannounced id => [id]
  | _ => []

section Consistent

variable (hashtext : String → ℤ)

/-- The identities a transaction has inserted. -/
def inserted (history : StatementHistory) : List Identity :=
  ((server hashtext).writes history).filterMap DatabaseWrite.inserts

/-- The records a transaction has announced. -/
def announcedBy (history : StatementHistory) : List RecordId :=
  ((server hashtext).writes history).filterMap DatabaseWrite.announces

/-- The identities a transaction sees. -/
def identitiesSeen (database : Database) (history : StatementHistory) :
    List Identity :=
  database.identities ++ inserted hashtext history

/--
What holds of the history of a transaction, the committed tables being given:
no identity is seen twice, updates are of rows it sees, what it inserts is
announced and locked, and a key which was not found is locked and not seen.
-/
structure Consistent (database : Database) (history : StatementHistory) :
    Prop where
  ids : ((identitiesSeen hashtext database history).map Prod.fst).Nodup
  keys : ((identitiesSeen hashtext database history).map Prod.snd).Nodup
  updates : ∀ record,
    .updateRecord record ∈ (server hashtext).writes history →
      record.identity ∈ identitiesSeen hashtext database history
  announced :
    (inserted hashtext history).map Prod.fst =
      announcedBy hashtext history ++ (journal history).pending.ids
  insertedLocks : ∀ identity ∈ inserted hashtext history,
    .advisory (hashtext (lockKey identity.2)) ∈
        (server hashtext).locks history ∧
      .recordRow identity.1 ∈ (server hashtext).locks history
  lockedKeys : ∀ key ∈ (journal history).locked,
    .advisory (hashtext (lockKey key)) ∈ (server hashtext).locks history
  rows : ∀ row ∈ (journal history).rows,
    row ∈ identitiesSeen hashtext database history
  absent : ∀ key, (journal history).pending = .absent key →
    key ∈ (journal history).locked ∧
      key ∉ (identitiesSeen hashtext database history).map Prod.snd

variable {hashtext} {database : Database} {history : StatementHistory}
variable {command : StatementCommand} {reply : command.Reply}

theorem inserted_concat :
    inserted hashtext (history ++ [⟨command, reply⟩]) =
      inserted hashtext history ++
        (statementEffects command reply).filterMap DatabaseWrite.inserts := by
  rw [inserted, Semantics.writes_concat, List.filterMap_append]
  rfl

theorem announcedBy_concat :
    announcedBy hashtext (history ++ [⟨command, reply⟩]) =
      announcedBy hashtext history ++
        (statementEffects command reply).filterMap
          DatabaseWrite.announces := by
  rw [announcedBy, Semantics.writes_concat, List.filterMap_append]
  rfl

theorem mem_locks_concat_left
    {lock : DatabaseLock}
    (member : lock ∈ (server hashtext).locks history) :
    lock ∈ (server hashtext).locks (history ++ [⟨command, reply⟩]) := by
  rw [Semantics.locks_concat]
  exact List.mem_append_left _ member

theorem mem_locks_concat_right
    {lock : DatabaseLock}
    (member : lock ∈ statementAcquires hashtext command reply) :
    lock ∈ (server hashtext).locks (history ++ [⟨command, reply⟩]) := by
  rw [Semantics.locks_concat]
  exact List.mem_append_right _ member

/-- A transaction sees the identities it should. -/
theorem Consistent.identities_view
    (consistent : Consistent hashtext database history) :
    ((server hashtext).view database history).identities =
      identitiesSeen hashtext database history :=
  identities_replay hashtext _ consistent.ids consistent.updates

/-- A statement which inserts no record. -/
theorem Consistent.of_no_inserts
    (consistent : Consistent hashtext database history)
    (noInserts :
      (statementEffects command reply).filterMap DatabaseWrite.inserts = [])
    (updates : ∀ record,
      .updateRecord record ∈ statementEffects command reply →
        record.identity ∈ identitiesSeen hashtext database history)
    (announced :
      announcedBy hashtext history ++ (journal history).pending.ids =
        announcedBy hashtext (history ++ [⟨command, reply⟩]) ++
          ((journal history).after command reply).pending.ids)
    (lockedKeys : ∀ key ∈ ((journal history).after command reply).locked,
      key ∈ (journal history).locked ∨
        .advisory (hashtext (lockKey key)) ∈
          statementAcquires hashtext command reply)
    (rows : ∀ row ∈ ((journal history).after command reply).rows,
      row ∈ identitiesSeen hashtext database history)
    (absent : ∀ key,
      ((journal history).after command reply).pending = .absent key →
        key ∈ ((journal history).after command reply).locked ∧
          key ∉ (identitiesSeen hashtext database history).map Prod.snd) :
    Consistent hashtext database (history ++ [⟨command, reply⟩]) := by
  have sameInserted :
      inserted hashtext (history ++ [⟨command, reply⟩]) =
        inserted hashtext history := by
    rw [inserted_concat, noInserts, List.append_nil]
  have sameSeen :
      identitiesSeen hashtext database (history ++ [⟨command, reply⟩]) =
        identitiesSeen hashtext database history := by
    rw [identitiesSeen, sameInserted, identitiesSeen]
  constructor
  · rw [sameSeen]
    exact consistent.ids
  · rw [sameSeen]
    exact consistent.keys
  · intro record member
    rw [sameSeen]
    rw [Semantics.writes_concat] at member
    rcases List.mem_append.mp member with earlier | now
    · exact consistent.updates record earlier
    · exact updates record now
  · rw [sameInserted, journal_concat, ← announced]
    exact consistent.announced
  · intro identity member
    rw [sameInserted] at member
    rcases consistent.insertedLocks identity member with ⟨advisory, row⟩
    exact ⟨mem_locks_concat_left advisory, mem_locks_concat_left row⟩
  · intro key member
    rw [journal_concat] at member
    rcases lockedKeys key member with earlier | now
    · exact mem_locks_concat_left (consistent.lockedKeys key earlier)
    · exact mem_locks_concat_right now
  · rw [sameSeen, journal_concat]
    exact rows
  · rw [sameSeen, journal_concat]
    exact absent

/-- A write which concerns no record and announces none. -/
def DatabaseWrite.Silent (write : DatabaseWrite) : Prop :=
  write.inserts = none ∧ write.announces = none ∧
    ∀ record, write ≠ .updateRecord record

/-- A statement without writes to the records. -/
theorem Consistent.silent
    (consistent : Consistent hashtext database history)
    (silent : ∀ write ∈ statementEffects command reply, write.Silent)
    (pending :
      ((journal history).after command reply).pending.ids =
        (journal history).pending.ids)
    (lockedKeys : ∀ key ∈ ((journal history).after command reply).locked,
      key ∈ (journal history).locked ∨
        .advisory (hashtext (lockKey key)) ∈
          statementAcquires hashtext command reply)
    (rows : ∀ row ∈ ((journal history).after command reply).rows,
      row ∈ identitiesSeen hashtext database history)
    (absent : ∀ key,
      ((journal history).after command reply).pending = .absent key →
        key ∈ ((journal history).after command reply).locked ∧
          key ∉ (identitiesSeen hashtext database history).map Prod.snd) :
    Consistent hashtext database (history ++ [⟨command, reply⟩]) := by
  refine consistent.of_no_inserts ?_ ?_ ?_ lockedKeys rows absent
  · rw [List.filterMap_eq_nil_iff]
    exact fun write member => (silent write member).1
  · intro record member
    exact absurd rfl ((silent _ member).2.2 record)
  · have noAnnounces :
        (statementEffects command reply).filterMap
            DatabaseWrite.announces = [] := by
      rw [List.filterMap_eq_nil_iff]
      exact fun write member => (silent write member).2.1
    rw [announcedBy_concat, noAnnounces, List.append_nil, pending]

/-- A statement which concerns neither records nor their locks. -/
theorem Consistent.unchanged
    (consistent : Consistent hashtext database history)
    (silent : ∀ write ∈ statementEffects command reply, write.Silent)
    (pending :
      ((journal history).after command reply).pending =
        (journal history).pending)
    (locked :
      ((journal history).after command reply).locked =
        (journal history).locked)
    (rows :
      ((journal history).after command reply).rows =
        (journal history).rows) :
    Consistent hashtext database (history ++ [⟨command, reply⟩]) := by
  refine consistent.silent silent (congrArg Pending.ids pending) ?_ ?_ ?_
  · intro key member
    rw [locked] at member
    exact Or.inl member
  · rw [rows]
    exact consistent.rows
  · rw [pending, locked]
    exact consistent.absent

/-- Every record a transaction sees has its identity. -/
theorem Consistent.identity_seen
    (consistent : Consistent hashtext database history) {record : Record}
    (member :
      record ∈ ((server hashtext).view database history).records) :
    record.identity ∈ identitiesSeen hashtext database history := by
  rw [← consistent.identities_view]
  exact List.mem_map_of_mem member

/-- A key which is not found is not seen. -/
theorem Consistent.key_not_seen
    (consistent : Consistent hashtext database history)
    {key : SourceId × String}
    (absent : ((server hashtext).view database history).find key = none) :
    key ∉ (identitiesSeen hashtext database history).map Prod.snd := by
  rw [← consistent.identities_view]
  intro member
  rcases List.mem_map.mp member with ⟨identity, isIdentity, rfl⟩
  rcases List.mem_map.mp isIdentity with ⟨record, isRecord, rfl⟩
  exact Database.find_eq_none_iff.mp absent record isRecord rfl

/-- A key which is not seen is not found. -/
theorem Consistent.find_of_key_not_seen
    (consistent : Consistent hashtext database history)
    {key : SourceId × String}
    (notSeen :
      key ∉ (identitiesSeen hashtext database history).map Prod.snd) :
    ((server hashtext).view database history).find key = none := by
  rw [← consistent.identities_view] at notSeen
  rw [Database.find_eq_none_iff]
  rintro record member rfl
  refine notSeen (List.mem_map.mpr ⟨record.identity, ?_, rfl⟩)
  exact List.mem_map_of_mem member

variable {request : Request}

theorem Consistent.lockRecordKey
    (consistent : Consistent hashtext database history)
    (sourceId : SourceId) (externalId : String) :
    Consistent hashtext database
      (history ++ [⟨.lockRecordKey sourceId externalId, ()⟩]) := by
  refine consistent.silent (by rintro write ⟨⟩) rfl ?_ consistent.rows ?_
  · intro key member
    rcases List.mem_append.mp member with earlier | now
    · exact Or.inl earlier
    · rw [List.mem_singleton.mp now]
      exact Or.inr List.mem_cons_self
  · intro key pending
    rcases consistent.absent key pending with ⟨locked, notSeen⟩
    exact ⟨List.mem_append_left _ locked, notSeen⟩

theorem Consistent.selectRecord
    (consistent : Consistent hashtext database history)
    {sourceId : SourceId} {externalId : String}
    (pending : (journal history).pending = .nothing)
    (locked :
      (journal history).locked =
        (journal history).selected ++ [(sourceId, externalId)])
    {found : Option Record}
    (isFound :
      found = ((server hashtext).view database history).find
        (sourceId, externalId)) :
    Consistent hashtext database
      (history ++ [⟨.selectRecord sourceId externalId, found⟩]) := by
  cases found with
  | none =>
      refine consistent.silent (by rintro write ⟨⟩) ?_ ?_ consistent.rows ?_
      · rw [pending]
        rfl
      · exact fun key member => Or.inl member
      · rintro key ⟨⟩
        refine ⟨?_, consistent.key_not_seen isFound.symm⟩
        have member : (sourceId, externalId) ∈ (journal history).locked := by
          rw [locked]
          exact List.mem_append_right _ List.mem_cons_self
        exact member
  | some record =>
      refine consistent.silent (by rintro write ⟨⟩) rfl ?_ ?_
        consistent.absent
      · exact fun key member => Or.inl member
      · intro row member
        rcases List.mem_cons.mp member with rfl | earlier
        · exact consistent.identity_seen (Database.mem_of_find isFound.symm)
        · exact consistent.rows row earlier

theorem Consistent.lockActiveRecord
    (consistent : Consistent hashtext database history)
    {sourceId : SourceId} {id : RecordId} {reread : Option Record}
    (isReread :
      reread = ((server hashtext).view database history).activeRecord
        sourceId id) :
    (∀ record ∈ reread, record.id = id) ∧
      Consistent hashtext database
        (history ++ [⟨.lockActiveRecord sourceId id, reread⟩]) := by
  cases reread with
  | none =>
      refine ⟨by rintro record ⟨⟩, ?_⟩
      exact consistent.unchanged (by rintro write ⟨⟩) rfl rfl rfl
  | some record =>
      have member := List.mem_of_find?_eq_some isReread.symm
      have isId := List.find?_some isReread.symm
      constructor
      · rintro _ ⟨⟩
        exact of_decide_eq_true isId
      · refine consistent.silent (by rintro write ⟨⟩) rfl ?_ ?_
          consistent.absent
        · exact fun key isLocked => Or.inl isLocked
        · intro row isRow
          rcases List.mem_cons.mp isRow with rfl | earlier
          · exact consistent.identity_seen (List.mem_of_mem_filter member)
          · exact consistent.rows row earlier

/-- A record is inserted under a key which was not found. -/
theorem Consistent.insertRecord
    (consistent : Consistent hashtext database history)
    {build : RecordId → Record} {key : SourceId × String}
    (pending : (journal history).pending = .absent key)
    (isBuilt : ∀ id, (build id).id = id ∧ (build id).key = key)
    {outcome : Except PyError RecordId}
    (answers :
      StatementAnswers (.insertRecord build)
        ((server hashtext).view database history) outcome) :
    (∃ id, outcome = .ok id) ∧
      Consistent hashtext database
        (history ++ [⟨.insertRecord build, outcome⟩]) := by
  rcases consistent.absent key pending with ⟨locked, notSeen⟩
  have notFound :
      ¬ (((server hashtext).view database history).find
        (build 0).key).isSome := by
    rw [(isBuilt 0).2, consistent.find_of_key_not_seen notSeen]
    exact Bool.false_ne_true
  rw [StatementAnswers, if_neg notFound] at answers
  rcases answers with ⟨id, rfl, fresh⟩
  refine ⟨⟨id, rfl⟩, ?_⟩
  have identity : (build id).identity = (id, key) :=
    Prod.ext (isBuilt id).1 (isBuilt id).2
  have newInserted :
      inserted hashtext (history ++ [⟨.insertRecord build, .ok id⟩]) =
        inserted hashtext history ++ [(id, key)] := by
    rw [inserted_concat, ← identity]
    rfl
  have newSeen :
      identitiesSeen hashtext database
          (history ++ [⟨.insertRecord build, .ok id⟩]) =
        identitiesSeen hashtext database history ++ [(id, key)] := by
    rw [identitiesSeen, newInserted, ← List.append_assoc, identitiesSeen]
  have freshId :
      id ∉ (identitiesSeen hashtext database history).map Prod.fst := by
    rw [← consistent.identities_view]
    intro member
    rcases List.mem_map.mp member with ⟨_, isIdentity, sameId⟩
    rcases List.mem_map.mp isIdentity with ⟨record, isRecord, rfl⟩
    exact fresh record isRecord sameId
  constructor
  · rw [newSeen, List.map_append]
    exact consistent.ids.append (List.nodup_singleton _)
      (List.disjoint_singleton.mpr freshId)
  · rw [newSeen, List.map_append]
    exact consistent.keys.append (List.nodup_singleton _)
      (List.disjoint_singleton.mpr notSeen)
  · intro record member
    rw [newSeen]
    rw [Semantics.writes_concat] at member
    rcases List.mem_append.mp member with earlier | now
    · exact List.mem_append_left _ (consistent.updates record earlier)
    · cases List.mem_singleton.mp now
  · have noAnnounces :
        (statementEffects (.insertRecord build) (.ok id)).filterMap
            DatabaseWrite.announces = [] := rfl
    rw [newInserted, announcedBy_concat, noAnnounces, journal_concat,
      List.map_append, consistent.announced, pending]
    simp only [Pending.ids, List.append_nil]
    rfl
  · intro other member
    rw [newInserted] at member
    rcases List.mem_append.mp member with earlier | now
    · rcases consistent.insertedLocks other earlier with ⟨advisory, row⟩
      exact ⟨mem_locks_concat_left advisory, mem_locks_concat_left row⟩
    · rw [List.mem_singleton.mp now]
      constructor
      · exact mem_locks_concat_left (consistent.lockedKeys key locked)
      · refine mem_locks_concat_right ?_
        exact List.mem_cons_of_mem _ List.mem_cons_self
  · rw [journal_concat]
    intro other member
    exact mem_locks_concat_left (consistent.lockedKeys other member)
  · rw [newSeen, journal_concat]
    intro row member
    rcases List.mem_cons.mp member with rfl | earlier
    · rw [(isBuilt id).2]
      exact List.mem_append_right _ List.mem_cons_self
    · exact List.mem_append_left _ (consistent.rows row earlier)
  · rw [journal_concat]
    rintro other ⟨⟩

theorem Consistent.updateRecord
    (consistent : Consistent hashtext database history) {record : Record}
    (isRow : (record.id, record.key) ∈ (journal history).rows) :
    Consistent hashtext database
      (history ++ [⟨.updateRecord record, ()⟩]) := by
  refine consistent.of_no_inserts rfl ?_ ?_ ?_ consistent.rows
    consistent.absent
  · intro other member
    cases List.mem_singleton.mp member
    exact consistent.rows _ isRow
  · rw [announcedBy_concat]
    exact congrArg (· ++ _) (List.append_nil _).symm
  · exact fun key member => Or.inl member

/-- An event announces the pending record, or it announces none. -/
theorem Consistent.insertEvent
    (consistent : Consistent hashtext database history) {event : ChangeEvent}
    (announces :
      (journal history).pending = .unannounced event.recordId ∧
          event.eventType = "created" ∨
        (journal history).pending = .nothing ∧
          event.eventType ≠ "created") :
    Consistent hashtext database (history ++ [⟨.insertEvent event, ()⟩]) := by
  refine consistent.of_no_inserts rfl ?_ ?_ ?_ consistent.rows ?_
  · intro record member
    cases List.mem_singleton.mp member
  · have now :
        (statementEffects (.insertEvent event) ()).filterMap
            DatabaseWrite.announces =
          event.announces.toList := by
      simp only [statementEffects, List.filterMap_cons,
        DatabaseWrite.announces]
      cases event.announces <;> rfl
    have after :
        ((journal history).after (.insertEvent event) ()).pending.ids =
          [] := rfl
    rw [announcedBy_concat, now, after, List.append_nil,
      List.append_cancel_left_eq, ChangeEvent.announces]
    rcases announces with ⟨pending, created⟩ | ⟨pending, other⟩
    · rw [pending, if_pos created]
      rfl
    · rw [pending, if_neg other]
      rfl
  · exact fun key member => Or.inl member
  · rintro key ⟨⟩

/-- Statements of a request keep its history consistent. -/
theorem keeps_consistent :
    Keeps (server hashtext) request.discipline database
      (Consistent hashtext database) := by
  intro history command reply consistent allowed answers
  cases command with
  | beijingNow =>
      refine ⟨trivial, ?_⟩
      exact consistent.unchanged (by rintro write ⟨⟩) rfl rfl rfl
  | lockRecordKey sourceId externalId =>
      exact ⟨trivial, consistent.lockRecordKey sourceId externalId⟩
  | selectRecord sourceId externalId =>
      rcases allowed with ⟨pending, _, _, locked, _⟩
      refine ⟨?_, consistent.selectRecord pending locked answers⟩
      intro record found
      refine Database.key_of_find (answers.symm.trans ?_)
      exact found
  | insertRecord build =>
      rcases allowed with ⟨key, _, pending, _, _, isBuilt⟩
      exact consistent.insertRecord pending isBuilt answers
  | updateRecord record =>
      rcases allowed with ⟨_, isRow, _⟩
      exact ⟨trivial, consistent.updateRecord isRow⟩
  | insertEvent event =>
      refine ⟨trivial, consistent.insertEvent ?_⟩
      rcases allowed with ⟨pending, created, _⟩ | ⟨pending, other, _⟩
      · exact Or.inl ⟨pending, created⟩
      · exact Or.inr ⟨pending, other⟩
  | selectFetchState sourceId =>
      refine ⟨trivial, ?_⟩
      cases reply with
      | none => exact consistent.unchanged (by rintro write ⟨⟩) rfl rfl rfl
      | some state =>
          exact consistent.unchanged (by rintro write ⟨⟩) rfl rfl rfl
  | insertFetchState state =>
      simp only [server, StatementAnswers] at answers
      split_ifs at answers
      · cases answers
        refine ⟨Or.inr rfl, ?_⟩
        exact consistent.unchanged (by rintro write ⟨⟩) rfl rfl rfl
      · cases answers
        refine ⟨Or.inl rfl, consistent.unchanged ?_ rfl rfl rfl⟩
        intro write member
        rw [List.mem_singleton.mp member]
        exact ⟨rfl, rfl, by rintro record ⟨⟩⟩
  | updateFetchState state =>
      refine ⟨trivial, consistent.unchanged ?_ rfl rfl rfl⟩
      intro write member
      rw [List.mem_singleton.mp member]
      exact ⟨rfl, rfl, by rintro record ⟨⟩⟩
  | scanActiveRecords sourceId =>
      refine ⟨trivial, ?_⟩
      exact consistent.unchanged (by rintro write ⟨⟩) rfl rfl rfl
  | lockActiveRecord sourceId id =>
      exact consistent.lockActiveRecord answers

end Consistent

/-! ## Any number of transactions -/

/-- Neither primary keys nor business keys of records repeat. -/
structure Database.Unique (database : Database) : Prop where
  ids : (database.identities.map Prod.fst).Nodup
  keys : (database.identities.map Prod.snd).Nodup

/-- Each record has been announced once. -/
structure Database.Announced (database : Database) : Prop extends
    database.Unique where
  announced : database.announced = database.identities.map Prod.fst

/-- Every key of the request has a record. -/
def Request.Recorded (request : Request) (database : Database) : Prop :=
  ∀ key ∈ request.keys, key ∈ database.identities.map Prod.snd

section Commit

variable {hashtext : String → ℤ} {database : Database}
variable {request : Request} {history otherHistory : StatementHistory}

theorem Consistent.announced_view
    (announced : database.Announced)
    (consistent : Consistent hashtext database history)
    (ends : request.Ends history ()) :
    ((server hashtext).view database history).Announced := by
  have identities := consistent.identities_view
  refine ⟨⟨?_, ?_⟩, ?_⟩
  · rw [identities]
    exact consistent.ids
  · rw [identities]
    exact consistent.keys
  · have all := consistent.announced
    have nothing : Pending.nothing.ids = [] := rfl
    rw [ends.1.pending, nothing, List.append_nil] at all
    rw [identities, identitiesSeen, List.map_append, all,
      ← announced.announced]
    exact announced_replay hashtext _

theorem Consistent.recorded_view
    (consistent : Consistent hashtext database history)
    (ends : request.Ends history ()) :
    request.Recorded ((server hashtext).view database history) := by
  intro key member
  rcases ends.1.known key member with ⟨id, isRow⟩
  rw [consistent.identities_view]
  exact List.mem_map.mpr ⟨(id, key), consistent.rows _ isRow, rfl⟩

/-- Records stay. -/
theorem Consistent.recorded_of_recorded
    (consistent : Consistent hashtext database history)
    (recorded : request.Recorded database) :
    request.Recorded ((server hashtext).view database history) := by
  intro key member
  rw [consistent.identities_view, identitiesSeen, List.map_append]
  exact List.mem_append_left _ (recorded key member)

/-- Two lists without common values, each without a value of a third. -/
theorem nodup_map_append_append {Item Value : Type} {value : Item → Value}
    {stored first second : List Item}
    (firstDistinct : ((stored ++ first).map value).Nodup)
    (secondDistinct : ((stored ++ second).map value).Nodup)
    (apart : ∀ one ∈ first, ∀ other ∈ second, value one ≠ value other) :
    ((stored ++ first ++ second).map value).Nodup := by
  rw [List.map_append] at secondDistinct ⊢
  rw [List.nodup_append'] at secondDistinct
  rcases secondDistinct with ⟨_, distinct, storedApart⟩
  refine firstDistinct.append distinct ?_
  intro found inStoredOrFirst inSecond
  rw [List.map_append] at inStoredOrFirst
  rcases List.mem_append.mp inStoredOrFirst with inStored | inFirst
  · exact storedApart inStored inSecond
  · rcases List.mem_map.mp inFirst with ⟨one, oneMember, rfl⟩
    rcases List.mem_map.mp inSecond with ⟨other, otherMember, same⟩
    exact apart one oneMember other otherMember same.symm

/-- What a transaction knows survives the commit of another one. -/
theorem Consistent.of_commit
    (consistent : Consistent hashtext database history)
    (other : Consistent hashtext database otherHistory)
    (disjoint : ∀ lock ∈ (server hashtext).locks history,
      lock ∉ (server hashtext).locks otherHistory) :
    Consistent hashtext ((server hashtext).view database history)
      otherHistory := by
  have seen :
      identitiesSeen hashtext ((server hashtext).view database history)
          otherHistory =
        identitiesSeen hashtext database history ++
          inserted hashtext otherHistory := by
    rw [identitiesSeen, consistent.identities_view]
  have stillSeen : ∀ identity,
      identity ∈ identitiesSeen hashtext database otherHistory →
        identity ∈ identitiesSeen hashtext database history ++
          inserted hashtext otherHistory := by
    intro identity member
    rcases List.mem_append.mp member with stored | isInserted
    · exact List.mem_append_left _ (List.mem_append_left _ stored)
    · exact List.mem_append_right _ isInserted
  have apart : ∀ identity ∈ inserted hashtext history,
      ∀ otherIdentity ∈ inserted hashtext otherHistory,
        identity.1 ≠ otherIdentity.1 ∧ identity.2 ≠ otherIdentity.2 := by
    intro identity member otherIdentity otherMember
    rcases consistent.insertedLocks identity member with ⟨advisory, row⟩
    rcases other.insertedLocks otherIdentity otherMember with
      ⟨otherAdvisory, otherRow⟩
    constructor
    · intro same
      rw [← same] at otherRow
      exact disjoint _ row otherRow
    · intro same
      rw [← same] at otherAdvisory
      exact disjoint _ advisory otherAdvisory
  constructor
  · rw [seen]
    exact nodup_map_append_append consistent.ids other.ids
      fun identity member otherIdentity otherMember =>
        (apart identity member otherIdentity otherMember).1
  · rw [seen]
    exact nodup_map_append_append consistent.keys other.keys
      fun identity member otherIdentity otherMember =>
        (apart identity member otherIdentity otherMember).2
  · intro record member
    rw [seen]
    exact stillSeen _ (other.updates record member)
  · exact other.announced
  · exact other.insertedLocks
  · exact other.lockedKeys
  · intro row member
    rw [seen]
    exact stillSeen _ (other.rows row member)
  · intro key pending
    rcases other.absent key pending with ⟨locked, notSeen⟩
    refine ⟨locked, ?_⟩
    rw [seen, List.map_append, List.mem_append, not_or]
    rw [identitiesSeen, List.map_append, List.mem_append, not_or] at notSeen
    refine ⟨?_, notSeen.2⟩
    rw [identitiesSeen, List.map_append, List.mem_append, not_or]
    refine ⟨notSeen.1, ?_⟩
    intro member
    rcases List.mem_map.mp member with ⟨identity, isInserted, rfl⟩
    exact disjoint _ (consistent.insertedLocks identity isInserted).1
      (other.lockedKeys _ locked)

end Commit

section Upserts

variable {Worker : Type}

/-- The certificate of any number of transactions. -/
theorem upserts_certificate (hashtext : String → ℤ)
    (requests : Worker → Request) :
    Certificate (server hashtext) (fun worker => (requests worker).discipline)
      (fun worker => (requests worker).Ends) Database.Announced
      (fun _ => Consistent hashtext)
      fun worker => (requests worker).Recorded where
  keeps _ _ _ := keeps_consistent
  commits _ _ _ _ announced consistent ends :=
    ⟨consistent.announced_view announced ends,
      consistent.recorded_view ends⟩
  stable _ _ _ _ _ consistent _ _ _ :=
    ⟨consistent.recorded_of_recorded,
      fun _ otherConsistent disjoint =>
        consistent.of_commit otherConsistent disjoint⟩

/-- The 'created' events of a record. -/
def Database.createdEvents (database : Database) (id : RecordId) :
    List ChangeEvent :=
  database.events.filter fun event =>
    decide (event.eventType = "created" ∧ event.recordId = id)

/-- Every record has been announced once. -/
theorem Database.Announced.createdEvents_length
    {database : Database} (announced : database.Announced) {record : Record}
    (member : record ∈ database.records) :
    (database.createdEvents record.id).length = 1 := by
  have isId : record.id ∈ database.announced := by
    rw [announced.announced]
    exact List.mem_map.mpr
      ⟨record.identity, List.mem_map_of_mem member, rfl⟩
  have distinct : database.announced.Nodup := by
    rw [announced.announced]
    exact announced.ids
  rw [← List.count_eq_one_of_mem distinct isId, Database.announced,
    List.count_filterMap, List.countP_eq_length_filter]
  refine congrArg List.length (List.filter_congr ?_)
  intro event _
  rw [ChangeEvent.announces]
  split_ifs with created
  · rw [Bool.eq_iff_iff]
    simp [created]
  · simp [created]

/-- A worker which has got the lock of a key. -/
def HasLocked
    (state : State StatementCommand StatementCommand.Reply PyError Unit
      Database Worker)
    (worker : Worker) (key : SourceId × String) : Prop :=
  ∃ program history,
    state.transactions worker = .active program history ∧
      key ∈ (journal history).locked

/-- The next statement of a worker. -/
def IsAt
    (state : State StatementCommand StatementCommand.Reply PyError Unit
      Database Worker)
    (worker : Worker) (command : StatementCommand)
    (next : command.Reply → StatementProgram Unit)
    (history : StatementHistory) : Prop :=
  state.transactions worker = .active (.perform command next) history

/-- What is certified of a state. -/
abbrev UpsertsCertified (hashtext : String → ℤ) (requests : Worker → Request) :=
  Certified (server hashtext) (fun worker => (requests worker).discipline)
    (fun worker => (requests worker).Ends) Database.Announced
    (fun _ => Consistent hashtext) fun worker => (requests worker).Recorded

theorem announced_empty : Database.empty.Announced :=
  ⟨⟨List.nodup_nil, List.nodup_nil⟩, rfl⟩

theorem consistent_nil (hashtext : String → ℤ) {database : Database}
    (unique : database.Unique) :
    Consistent hashtext database [] := by
  have seen :
      identitiesSeen hashtext database [] = database.identities :=
    List.append_nil _
  constructor
  · rw [seen]
    exact unique.ids
  · rw [seen]
    exact unique.keys
  · rintro record ⟨⟩
  · rfl
  · rintro identity ⟨⟩
  · rintro key ⟨⟩
  · rintro row ⟨⟩
  · rintro key ⟨⟩

section Certified

variable {hashtext : String → ℤ} {requests : Worker → Request}
variable {state :
  State StatementCommand StatementCommand.Reply PyError Unit Database Worker}
variable {worker : Worker} {history : StatementHistory}

theorem insertRecord_accepted
    (certified : UpsertsCertified hashtext requests state)
    {build : RecordId → Record}
    {next : Except PyError RecordId → StatementProgram Unit}
    (isAt : IsAt state worker (.insertRecord build) next history)
    {outcome : Except PyError RecordId}
    (answers :
      StatementAnswers (.insertRecord build)
        ((server hashtext).view state.store history) outcome) :
    ∃ id, outcome = .ok id := by
  rcases certified.active worker _ history isAt with
    ⟨consistent, allowed, _⟩
  exact (keeps_consistent history (.insertRecord build) outcome consistent
    allowed answers).1

/-- Who has waited for a lock gets it when its holder has ended. -/
theorem holder_ended
    {waiting :
      State StatementCommand StatementCommand.Reply PyError Unit Database
        Worker}
    [DecidableEq Worker]
    (certified : UpsertsCertified hashtext requests state)
    (later : Reached (server hashtext) waiting state)
    {holder : Worker} {sourceId : SourceId} {externalId : String}
    {next : Unit → StatementProgram Unit}
    (isAt :
      IsAt waiting worker (.lockRecordKey sourceId externalId) next history)
    (waits : Waits (server hashtext) waiting worker holder)
    (hasLocked : HasLocked state worker (sourceId, externalId))
    (program : StatementProgram Unit) (holderHistory : StatementHistory) :
    state.transactions holder ≠ .active program holderHistory := by
  intro holderActive
  rcases waits with
    ⟨command, ownNext, ownHistory, active, lock, demanded, different, held⟩
  rw [IsAt, active] at isAt
  cases isAt
  have isLock :
      lock = .advisory (hashtext (lockKey (sourceId, externalId))) :=
    (Option.mem_some.mp demanded).symm
  rcases later.grows program holderHistory holderActive with
    ⟨earlier, earlierHistory, wasActive, grows⟩
  rw [wasActive] at held
  rcases hasLocked with ⟨ownProgram, laterHistory, ownActive, locked⟩
  rcases certified.active worker _ laterHistory ownActive with
    ⟨consistent, _⟩
  refine certified.exclusive.disjoint different ownActive holderActive
    (consistent.lockedKeys _ locked) ?_
  rw [← isLock]
  exact (server hashtext).mem_locks_of_initial grows held

/-- Who looks up a committed key finds its record. -/
theorem committed_found
    (certified : UpsertsCertified hashtext requests state)
    {sourceId : SourceId} {externalId : String}
    {next : Option Record → StatementProgram Unit}
    (isAt :
      IsAt state worker (.selectRecord sourceId externalId) next history)
    {winner : Worker} (committed : state.transactions winner = .committed)
    (isKey : (sourceId, externalId) ∈ (requests winner).keys)
    {found : Option Record}
    (answers :
      StatementAnswers (.selectRecord sourceId externalId)
        ((server hashtext).view state.store history) found) :
    ∃ record, found = some record ∧ record.key = (sourceId, externalId) ∧
      ∀ build rest, next found ≠ .perform (.insertRecord build) rest := by
  rcases certified.active worker _ history isAt with
    ⟨consistent, allowed, follows⟩
  have recorded := certified.committed winner committed _ isKey
  cases found with
  | none =>
      refine absurd ?_ (consistent.key_not_seen answers.symm)
      rw [identitiesSeen, List.map_append]
      exact List.mem_append_left _ recorded
  | some record =>
      have key := Database.key_of_find answers.symm
      refine ⟨record, rfl, key, ?_⟩
      intro build rest inserts
      have isExpected :
          Expected (.selectRecord sourceId externalId) (some record) := by
        rintro _ ⟨⟩
        exact key
      have continues := follows (some record) isExpected
      rw [inserts] at continues
      rcases continues with ⟨⟨_, _, pending, _⟩, _⟩
      rw [journal_concat] at pending
      have nothing : (journal history).pending = .nothing := allowed.1
      rw [Journal.after, nothing] at pending
      cases pending

end Certified

variable [DecidableEq Worker]

/--
Whatever transactions persist collections, starting with empty tables: no two
records have the same business key, every record has exactly one 'created'
event, and no insertion of a record is refused.  A worker which has waited for
the lock of a key gets it only when the holder has ended; and a worker which
looks a key up after another one has committed it finds its record and goes on
without inserting one.
-/
theorem upserts_never_duplicate (hashtext : String → ℤ)
    (sha256 : ByteArray → String) (requests : Worker → Request)
    {state :
      State StatementCommand StatementCommand.Reply PyError Unit Database
        Worker}
    (reached :
      Reached (server hashtext)
        (begin .empty fun worker => (requests worker).program sha256)
        state) :
    (state.store.records.map Record.key).Nodup ∧
      (∀ record ∈ state.store.records,
        (state.store.createdEvents record.id).length = 1) ∧
      (∀ worker build next history,
        IsAt state worker (.insertRecord build) next history →
          ∀ outcome,
            StatementAnswers (.insertRecord build)
                ((server hashtext).view state.store history) outcome →
              ∃ id, outcome = .ok id) ∧
      (∀ waiting, Reached (server hashtext) waiting state →
        ∀ worker holder sourceId externalId next history,
          IsAt waiting worker (.lockRecordKey sourceId externalId) next
              history →
            Waits (server hashtext) waiting worker holder →
              HasLocked state worker (sourceId, externalId) →
                ∀ program holderHistory,
                  state.transactions holder ≠
                    .active program holderHistory) ∧
      ∀ worker winner sourceId externalId next history,
        IsAt state worker (.selectRecord sourceId externalId) next history →
          state.transactions winner = .committed →
            (sourceId, externalId) ∈ (requests winner).keys →
              ∀ found,
                StatementAnswers (.selectRecord sourceId externalId)
                    ((server hashtext).view state.store history) found →
                  ∃ record, found = some record ∧
                    record.key = (sourceId, externalId) ∧
                    ∀ build rest,
                      next found ≠ .perform (.insertRecord build) rest := by
  have certified : UpsertsCertified hashtext requests state :=
    reached.certified (upserts_certificate hashtext requests)
      announced_empty
      (fun _ => consistent_nil hashtext announced_empty.toUnique)
      fun worker => follows_program sha256 (requests worker)
  refine ⟨?_, ?_, ?_, ?_, ?_⟩
  · have distinct := certified.sound.keys
    rw [Database.identities, List.map_map] at distinct
    exact distinct
  · intro record member
    exact certified.sound.createdEvents_length member
  · intro worker build next history isAt outcome answers
    exact insertRecord_accepted certified isAt answers
  · intro waiting later worker holder sourceId externalId next history isAt
      waits hasLocked program holderHistory
    exact holder_ended certified later isAt waits hasLocked program
      holderHistory
  · intro worker winner sourceId externalId next history isAt committed isKey
      found answers
    exact committed_found certified isAt committed isKey answers

end Upserts

/-! ## Two workers racing for one key -/

/-- The hash PostgreSQL computes of the key of the item. -/
def oneHash (text : String) : ℤ :=
  if text = "00000000-0000-0000-0000-000000000001:one" then 1497261756
  else 0

/-- The SHA-256 digest of an empty JSON object. -/
def emptyObjectDigest (bytes : ByteArray) : String :=
  if bytes = "\x7b\x7d".toUTF8 then
    "44136fa355b3678a1146ad16f7e8649e94fb4fc21fe77e8310c060f61caaff8a"
  else ""

/-- A request to persist one item without data. -/
def oneItemRequest : Request where
  sourceId := 1
  result :=
    { response := { body := "\x7b\x7d".toUTF8 }
      items := [⟨"one", []⟩]
      rawResponseHash := emptyObjectDigest "\x7b\x7d".toUTF8 }
  compatible := by
    intro item member
    rw [List.mem_singleton.mp member]
    rfl

/-- The tables and the transactions of two workers with that request. -/
abbrev RaceState :=
  State StatementCommand StatementCommand.Reply PyError Unit Database Bool

/-- Before their first statements. -/
def raceStart : RaceState :=
  begin .empty fun _ => oneItemRequest.program emptyObjectDigest

/-- From a state on, a worker and the other one can have come so far. -/
structure Race (start : RaceState) (worker : Bool)
    (own others :
      Transaction StatementCommand StatementCommand.Reply PyError Unit)
    (store : Database) (state : RaceState) : Prop where
  reached : Reached (server oneHash) start state
  store : state.store = store
  own : state.transactions worker = own
  others : state.transactions (!worker) = others

section Race

variable {start state : RaceState} {worker : Bool} {store : Database}
variable {own others :
  Transaction StatementCommand StatementCommand.Reply PyError Unit}

/-- The race goes on with the other worker. -/
theorem Race.swap (race : Race start worker own others store state) :
    Race start (!worker) others own store state where
  reached := race.reached
  store := race.store
  own := race.others
  others := by
    rw [Bool.not_not]
    exact race.own

/-- A worker gets every lock as long as the other one holds none. -/
theorem Race.perform
    {command : StatementCommand}
    {next : command.Reply → StatementProgram Unit}
    {history : StatementHistory}
    (race :
      Race start worker (.active (.perform command next) history) others
        store state)
    (reply : command.Reply)
    (answers :
      StatementAnswers command ((server oneHash).view store history) reply)
    (unlocked : (server oneHash).held others = []) :
    ∃ after,
      Race start worker
        (.active (next reply) (history ++ [⟨command, reply⟩])) others store
        after := by
  have free (lock : DatabaseLock) :
      Free (server oneHash) state worker lock := by
    intro other different
    rw [Bool.eq_not.mpr different, race.others, unlocked]
    exact List.not_mem_nil
  refine ⟨_, race.reached.tail ⟨worker, .perform reply race.own ?_ ?_ ?_⟩,
    race.store, State.set_self _ _, ?_⟩
  · exact fun lock _ => free lock
  · rw [race.store]
    exact answers
  · exact fun lock _ => free lock
  · rw [State.set_other _ _ (Bool.not_ne_self worker)]
    exact race.others

theorem Race.commit
    {history : StatementHistory}
    (race : Race start worker (.active (.done ()) history) others store state) :
    ∃ after,
      Race start worker .committed others
        ((server oneHash).view store history) after := by
  refine ⟨_, race.reached.tail ⟨worker, .commit race.own⟩, ?_,
    State.set_self _ _, ?_⟩
  · rw [← race.store]
  · exact (State.set_other _ _ (Bool.not_ne_self worker)).trans race.others

end Race

/--
The second worker comes to the lock which the first one has got; when the
first one has committed, it finds the record and commits too.
-/
theorem exists_race :
    ∃ waiting state,
      Reached (server oneHash) raceStart waiting ∧
        Waits (server oneHash) waiting false true ∧
        Reached (server oneHash) waiting state ∧
        state.transactions true = .committed ∧
        state.transactions false = .committed ∧
        state.store.records.map Record.key = [(1, "one")] := by
  have started :
      Race raceStart true
        (.active (oneItemRequest.program emptyObjectDigest) [])
        (.active (oneItemRequest.program emptyObjectDigest) []) .empty
        raceStart :=
    ⟨Relation.ReflTransGen.refl, rfl, rfl, rfl⟩
  rcases started.perform ⟨0, by decide⟩ trivial rfl with ⟨_, timed⟩
  rcases timed.swap.perform ⟨1, by decide⟩ trivial rfl with ⟨_, bothTimed⟩
  rcases bothTimed.swap.perform () trivial rfl with ⟨waiting, locked⟩
  have holds : waiting.transactions true = _ := locked.own
  have waits : Waits (server oneHash) waiting false true := by
    refine ⟨_, _, _, locked.others,
      .advisory (oneHash (lockKey (1, "one"))), rfl, nofun, ?_⟩
    rw [holds]
    exact List.mem_cons_self
  have onward : Race waiting true _ _ .empty waiting :=
    ⟨Relation.ReflTransGen.refl, locked.store, locked.own, locked.others⟩
  rcases onward.perform none rfl rfl with ⟨_, selected⟩
  rcases selected.perform (.ok 0) ⟨0, rfl, nofun⟩ rfl with ⟨_, inserted⟩
  rcases inserted.perform () trivial rfl with ⟨_, announced⟩
  rcases announced.perform none rfl rfl with ⟨_, asked⟩
  rcases asked.perform (.ok ()) rfl rfl with ⟨_, stated⟩
  rcases stated.perform [0] (List.Perm.refl _) rfl with ⟨_, scanned⟩
  rcases scanned.perform _ rfl rfl with ⟨_, reread⟩
  rcases reread.commit with ⟨_, committed⟩
  rcases committed.swap.perform () trivial rfl with ⟨_, granted⟩
  rcases granted.perform _ rfl rfl with ⟨_, found⟩
  rcases found.perform () trivial rfl with ⟨_, updated⟩
  rcases updated.perform _ rfl rfl with ⟨_, askedAgain⟩
  rcases askedAgain.perform () trivial rfl with ⟨_, statedAgain⟩
  rcases statedAgain.perform [0] (List.Perm.refl _) rfl with
    ⟨_, scannedAgain⟩
  rcases scannedAgain.perform _ rfl rfl with ⟨_, rereadAgain⟩
  rcases rereadAgain.commit with ⟨state, ended⟩
  refine ⟨waiting, state, locked.reached, waits, ended.reached,
    ended.others, ended.own, ?_⟩
  rw [ended.store]
  rfl

/-- The theorem holds of the state then reached. -/
theorem upserts_never_duplicate_oneItem :
    ∃ waiting state : RaceState,
      Waits (server oneHash) waiting false true ∧
        Reached (server oneHash) waiting state ∧
        state.transactions true = .committed ∧
        state.transactions false = .committed ∧
        state.store.records.map Record.key = [(1, "one")] ∧
        ∀ record ∈ state.store.records,
          (state.store.createdEvents record.id).length = 1 := by
  rcases exists_race with
    ⟨waiting, state, reached, waits, later, first, second, keys⟩
  exact ⟨waiting, state, waits, later, first, second, keys,
    (upserts_never_duplicate oneHash emptyObjectDigest
      (fun _ => oneItemRequest) (reached.trans later)).2.1⟩

end MultisiteCrawler.Records
