import MultisiteCrawler.Records.Upserts

/-!
# What a transaction holds before anybody commits

As long as nobody has committed, the tables are those of the start, and the
locks a transaction holds are told by its journal: the advisory locks of the
keys it has locked, the rows and index entries of these keys, and after the
fetch state every active row of the source which it has reread.
-/

namespace MultisiteCrawler.Records

open Adapters
open Foundation.Interaction
open Foundation.PythonErrors
open Foundation.Transactions

/-! ## Journals only grow -/

section Grow

variable (entries : Journal) {command : StatementCommand}
variable (reply : command.Reply)

theorem Journal.locked_subset :
    entries.locked ⊆ (entries.after command reply).locked := by
  cases command with
  | lockRecordKey => exact List.subset_append_left _ _
  | selectRecord => cases reply <;> exact List.Subset.refl _
  | insertRecord => cases reply <;> exact List.Subset.refl _
  | insertFetchState => cases reply <;> exact List.Subset.refl _
  | lockActiveRecord => cases reply <;> exact List.Subset.refl _
  | _ => exact List.Subset.refl _

end Grow

/-! ## Locks and journals -/

/-- The lock which lets one transaction of a source reconcile at a time. -/
def Database.stateLock (database : Database) (sourceId : SourceId) :
    DatabaseLock :=
  if (database.findState sourceId).isSome then .fetchStateRow sourceId
  else .fetchStateEntry sourceId

section Fits

variable (hashtext : String → ℤ) (request : Request)

/-- Why a transaction holds a lock, by its journal. -/
def Reason (seen : List Identity) (entries : Journal) :
    DatabaseLock → Prop
  | .advisory hash =>
      ∃ key ∈ entries.locked, hashtext (lockKey key) = hash
  | .recordEntry key => key ∈ entries.locked
  | .recordRow id =>
      (∃ key ∈ entries.locked, (id, key) ∈ seen) ∨ entries.fetch = .written
  | .fetchStateRow _ => entries.fetch = .present ∨ entries.fetch = .written
  | .fetchStateEntry _ => entries.fetch = .present ∨ entries.fetch = .written

/-- Every lock a transaction holds has its reason. -/
def Reasons (database : Database) (history : StatementHistory) : Prop :=
  ∀ lock ∈ (server hashtext).locks history,
    Reason hashtext (identitiesSeen hashtext database history)
      (journal history) lock

/-- What the journal tells of rows is locked. -/
structure RowsHeld (database : Database) (history : StatementHistory) :
    Prop where
  known : ∀ row ∈ (journal history).rows,
    .recordRow row.1 ∈ (server hashtext).locks history
  updated : ∀ record,
    .updateRecord record ∈ (server hashtext).writes history →
      .recordRow record.id ∈ (server hashtext).locks history
  selected : ∀ record ∈ database.records,
    record.key ∈ (journal history).selected →
      .recordRow record.id ∈ (server hashtext).locks history
  reread : ∀ id ∈ (journal history).held,
    .recordRow id ∈ (server hashtext).locks history

/-- What the journal tells of the fetch state. -/
structure StateKnown (database : Database) (history : StatementHistory) :
    Prop where
  staged : (journal history).fetch ≠ .unasked →
    (journal history).locked = request.keys ∧
      (journal history).selected = request.keys
  unfailed : (journal history).fetch ≠ .failed
  absent : (journal history).fetch = .absent →
    database.findState request.sourceId = none
  present : (journal history).fetch = .present →
    database.findState request.sourceId ≠ none
  unwritten : (journal history).fetch ≠ .written →
    ((server hashtext).view database history).fetchStates =
      database.fetchStates
  held :
    (journal history).fetch = .present ∨
        (journal history).fetch = .written →
      database.stateLock request.sourceId ∈
        (server hashtext).locks history

/-- What the journal tells of the active rows. -/
structure ActiveKnown (database : Database) (history : StatementHistory) :
    Prop where
  found : ∀ ids, (journal history).scanned = some ids → ∀ id ∈ ids,
    .recordRow id ∈ (server hashtext).locks history ∨
      ∃ record ∈ database.activeRecords request.sourceId, record.id = id
  all : ∀ ids, (journal history).scanned = some ids →
    ∀ record ∈ database.activeRecords request.sourceId,
      .recordRow record.id ∈ (server hashtext).locks history ∨
        record.id ∈ ids

/-- What holds of a transaction as long as nobody has committed. -/
structure Fits (database : Database) (history : StatementHistory) :
    Prop where
  consistent : Consistent hashtext database history
  ordered : (journal history).locked <+: request.keys
  reasons : Reasons hashtext database history
  rows : RowsHeld hashtext database history
  state : StateKnown hashtext request database history
  active : ActiveKnown hashtext request database history

end Fits

section Steps

variable {hashtext : String → ℤ} {request : Request}
variable {database : Database} {history : StatementHistory}
variable {command : StatementCommand} {reply : command.Reply}

theorem identitiesSeen_subset :
    identitiesSeen hashtext database history ⊆
      identitiesSeen hashtext database
        (history ++ [⟨command, reply⟩]) := by
  intro identity member
  rw [identitiesSeen, inserted_concat, ← List.append_assoc]
  exact List.mem_append_left _ member

/-- The fetch state is written once. -/
theorem fetch_written_after
    (allowed : request.Allows (journal history) command)
    (written : (journal history).fetch = .written) :
    ((journal history).after command reply).fetch = .written := by
  cases command with
  | selectRecord => cases reply <;> exact written
  | insertRecord => cases reply <;> exact written
  | selectFetchState =>
      rcases allowed with ⟨_, unasked, _⟩
      rw [written] at unasked
      cases unasked
  | insertFetchState =>
      rcases allowed with ⟨_, absent, _⟩
      rw [written] at absent
      cases absent
  | lockActiveRecord => cases reply <;> exact written
  | _ => first | exact written | rfl

/-- A fetch state which was found is written afterwards. -/
theorem fetch_present_after
    (allowed : request.Allows (journal history) command)
    (present : (journal history).fetch = .present) :
    ((journal history).after command reply).fetch = .present ∨
      ((journal history).after command reply).fetch = .written := by
  cases command with
  | selectRecord => cases reply <;> exact Or.inl present
  | insertRecord => cases reply <;> exact Or.inl present
  | selectFetchState =>
      rcases allowed with ⟨_, unasked, _⟩
      rw [present] at unasked
      cases unasked
  | insertFetchState =>
      rcases allowed with ⟨_, absent, _⟩
      rw [present] at absent
      cases absent
  | updateFetchState => exact Or.inr rfl
  | lockActiveRecord => cases reply <;> exact Or.inl present
  | _ => exact Or.inl present

/-- Reasons stay. -/
theorem Reason.after
    (allowed : request.Allows (journal history) command)
    {lock : DatabaseLock}
    (reason :
      Reason hashtext (identitiesSeen hashtext database history)
        (journal history) lock) :
    Reason hashtext
      (identitiesSeen hashtext database (history ++ [⟨command, reply⟩]))
      ((journal history).after command reply) lock := by
  have grows := (journal history).locked_subset reply
  have state
      (stage : (journal history).fetch = .present ∨
        (journal history).fetch = .written) :
      ((journal history).after command reply).fetch = .present ∨
        ((journal history).after command reply).fetch = .written := by
    rcases stage with present | written
    · exact fetch_present_after allowed present
    · exact Or.inr (fetch_written_after allowed written)
  cases lock with
  | advisory hash =>
      rcases reason with ⟨key, locked, isHash⟩
      exact ⟨key, grows locked, isHash⟩
  | recordEntry key => exact grows reason
  | recordRow id =>
      rcases reason with ⟨key, locked, seen⟩ | written
      · exact Or.inl ⟨key, grows locked, identitiesSeen_subset seen⟩
      · exact Or.inr (fetch_written_after allowed written)
  | fetchStateRow => exact state reason
  | fetchStateEntry => exact state reason

/-- The reasons for the locks of a statement. -/
theorem reason_acquired
    (consistent : Consistent hashtext database history)
    (allowed : request.Allows (journal history) command)
    (answers :
      StatementAnswers command ((server hashtext).view database history)
        reply)
    {lock : DatabaseLock}
    (acquired : lock ∈ statementAcquires hashtext command reply) :
    Reason hashtext
      (identitiesSeen hashtext database (history ++ [⟨command, reply⟩]))
      ((journal history).after command reply) lock := by
  cases command with
  | lockRecordKey sourceId externalId =>
      rw [List.mem_singleton.mp acquired]
      refine ⟨(sourceId, externalId), ?_, rfl⟩
      exact List.mem_append_right _ List.mem_cons_self
  | selectRecord sourceId externalId =>
      cases reply with
      | none => cases acquired
      | some record =>
          rw [List.mem_singleton.mp acquired]
          rcases allowed with ⟨_, _, _, locked, _⟩
          have key := Database.key_of_find answers.symm
          refine Or.inl ⟨(sourceId, externalId), ?_, ?_⟩
          · have member :
                (sourceId, externalId) ∈ (journal history).locked := by
              rw [locked]
              exact List.mem_append_right _ List.mem_cons_self
            exact member
          · refine identitiesSeen_subset ?_
            rw [← key]
            exact consistent.identity_seen
              (Database.mem_of_find answers.symm)
  | insertRecord build =>
      rcases allowed with ⟨key, locked, _, _, _, isBuilt⟩
      cases reply with
      | error error => cases acquired
      | ok id =>
          rcases List.mem_pair.mp acquired with rfl | rfl
          · have isKey : (build 0).key = key := (isBuilt 0).2
            rw [isKey]
            exact locked
          · refine Or.inl ⟨key, locked, ?_⟩
            have identity : (build id).identity = (id, key) :=
              Prod.ext (isBuilt id).1 (isBuilt id).2
            rw [identitiesSeen, inserted_concat, ← identity]
            refine List.mem_append_right _ (List.mem_append_right _ ?_)
            exact List.mem_cons_self
  | selectFetchState sourceId =>
      cases reply with
      | none => cases acquired
      | some state =>
          rw [List.mem_singleton.mp acquired]
          exact Or.inl rfl
  | insertFetchState state =>
      cases reply with
      | error error => cases acquired
      | ok _ =>
          rw [List.mem_singleton.mp acquired]
          exact Or.inr rfl
  | lockActiveRecord sourceId id =>
      rcases allowed with ⟨reconciling, _⟩
      rw [List.mem_singleton.mp acquired]
      refine Or.inr ?_
      cases reply <;> exact reconciling.fetch
  | _ => cases acquired

/-- Every lock keeps its reason. -/
theorem Reasons.step
    (reasons : Reasons hashtext database history)
    (consistent : Consistent hashtext database history)
    (allowed : request.Allows (journal history) command)
    (answers :
      StatementAnswers command ((server hashtext).view database history)
        reply) :
    Reasons hashtext database (history ++ [⟨command, reply⟩]) := by
  intro lock member
  rw [Semantics.locks_concat] at member
  rw [journal_concat]
  rcases List.mem_append.mp member with earlier | now
  · exact (reasons lock earlier).after allowed
  · exact reason_acquired consistent allowed answers now

/-- A row which becomes known is locked. -/
theorem RowsHeld.known_concat
    (held : RowsHeld hashtext database history)
    (answers :
      StatementAnswers command ((server hashtext).view database history)
        reply) :
    ∀ row ∈ (journal (history ++ [⟨command, reply⟩])).rows,
      .recordRow row.1 ∈
        (server hashtext).locks (history ++ [⟨command, reply⟩]) := by
  intro row member
  rw [journal_concat] at member
  cases command with
  | selectRecord sourceId externalId =>
      cases reply with
      | none => exact mem_locks_concat_left (held.known row member)
      | some record =>
          rcases List.mem_cons.mp member with rfl | earlier
          · exact mem_locks_concat_right List.mem_cons_self
          · exact mem_locks_concat_left (held.known row earlier)
  | insertRecord build =>
      cases reply with
      | error error => exact mem_locks_concat_left (held.known row member)
      | ok id =>
          rcases List.mem_cons.mp member with rfl | earlier
          · refine mem_locks_concat_right ?_
            exact List.mem_cons_of_mem _ List.mem_cons_self
          · exact mem_locks_concat_left (held.known row earlier)
  | insertFetchState =>
      cases reply <;> exact mem_locks_concat_left (held.known row member)
  | lockActiveRecord sourceId id =>
      cases reply with
      | none => exact mem_locks_concat_left (held.known row member)
      | some record =>
          rcases List.mem_cons.mp member with rfl | earlier
          · have isId := List.find?_some answers.symm
            rw [← of_decide_eq_true isId]
            exact mem_locks_concat_right List.mem_cons_self
          · exact mem_locks_concat_left (held.known row earlier)
  | _ => exact mem_locks_concat_left (held.known row member)

/-- A row which is updated is known, so it is locked. -/
theorem RowsHeld.updated_concat
    (held : RowsHeld hashtext database history)
    (allowed : request.Allows (journal history) command) :
    ∀ record,
      .updateRecord record ∈
          (server hashtext).writes (history ++ [⟨command, reply⟩]) →
        .recordRow record.id ∈
          (server hashtext).locks (history ++ [⟨command, reply⟩]) := by
  intro record member
  rw [Semantics.writes_concat] at member
  rcases List.mem_append.mp member with earlier | now
  · exact mem_locks_concat_left (held.updated record earlier)
  · cases command with
    | updateRecord other =>
        cases List.mem_singleton.mp now
        exact mem_locks_concat_left (held.known _ allowed.2.1)
    | insertRecord => cases reply <;> simp [server, statementEffects] at now
    | insertFetchState =>
        cases reply <;> simp [server, statementEffects] at now
    | insertEvent => simp [server, statementEffects] at now
    | updateFetchState => simp [server, statementEffects] at now
    | _ => cases now

/-- A row which is selected is found, so it is locked. -/
theorem RowsHeld.selected_concat
    (held : RowsHeld hashtext database history)
    (consistent : Consistent hashtext database history)
    (answers :
      StatementAnswers command ((server hashtext).view database history)
        reply) :
    ∀ record ∈ database.records,
      record.key ∈ (journal (history ++ [⟨command, reply⟩])).selected →
        .recordRow record.id ∈
          (server hashtext).locks (history ++ [⟨command, reply⟩]) := by
  intro record member selected
  rw [journal_concat] at selected
  cases command with
  | selectRecord sourceId externalId =>
      have seen :
          record.identity ∈ identitiesSeen hashtext database history :=
        List.mem_append_left _ (List.mem_map_of_mem member)
      have wasSelected :
          record.key ∈ (journal history).selected ++
            [(sourceId, externalId)] := by
        cases reply <;> exact selected
      rcases List.mem_append.mp wasSelected with earlier | now
      · exact mem_locks_concat_left (held.selected record member earlier)
      · have key := List.mem_singleton.mp now
        cases reply with
        | none =>
            refine absurd ?_ (consistent.key_not_seen answers.symm)
            exact List.mem_map.mpr ⟨record.identity, seen, key⟩
        | some row =>
            have rowSeen :=
              consistent.identity_seen (Database.mem_of_find answers.symm)
            have rowKey := Database.key_of_find answers.symm
            have same : row.identity = record.identity :=
              List.inj_on_of_nodup_map consistent.keys rowSeen seen
                (rowKey.trans key.symm)
            have sameId : row.id = record.id := congrArg Prod.fst same
            rw [← sameId]
            exact mem_locks_concat_right List.mem_cons_self
  | insertRecord =>
      cases reply <;>
        exact mem_locks_concat_left (held.selected record member selected)
  | insertFetchState =>
      cases reply <;>
        exact mem_locks_concat_left (held.selected record member selected)
  | lockActiveRecord =>
      cases reply <;>
        exact mem_locks_concat_left (held.selected record member selected)
  | _ => exact mem_locks_concat_left (held.selected record member selected)

/-- A row which is read again is locked. -/
theorem RowsHeld.reread_concat
    (held : RowsHeld hashtext database history) :
    ∀ id ∈ (journal (history ++ [⟨command, reply⟩])).held,
      .recordRow id ∈
        (server hashtext).locks (history ++ [⟨command, reply⟩]) := by
  intro id member
  rw [journal_concat] at member
  cases command with
  | lockActiveRecord sourceId other =>
      have grown : id ∈ other :: (journal history).held := by
        cases reply <;> exact member
      rcases List.mem_cons.mp grown with rfl | earlier
      · exact mem_locks_concat_right List.mem_cons_self
      · exact mem_locks_concat_left (held.reread id earlier)
  | selectRecord =>
      cases reply <;> exact mem_locks_concat_left (held.reread id member)
  | insertRecord =>
      cases reply <;> exact mem_locks_concat_left (held.reread id member)
  | insertFetchState =>
      cases reply <;> exact mem_locks_concat_left (held.reread id member)
  | _ => exact mem_locks_concat_left (held.reread id member)

/-- The rows of the journal stay locked. -/
theorem RowsHeld.step
    (held : RowsHeld hashtext database history)
    (consistent : Consistent hashtext database history)
    (allowed : request.Allows (journal history) command)
    (answers :
      StatementAnswers command ((server hashtext).view database history)
        reply) :
    RowsHeld hashtext database (history ++ [⟨command, reply⟩]) :=
  ⟨held.known_concat answers, held.updated_concat allowed,
    held.selected_concat consistent answers, held.reread_concat⟩

/-- Writes to other tables leave the fetch states. -/
theorem fetchStates_replay
    (writes : List DatabaseWrite)
    (others : ∀ write ∈ writes,
      (∀ state, write ≠ .insertFetchState state) ∧
        ∀ state, write ≠ .updateFetchState state) :
    ((server hashtext).replay database writes).fetchStates =
      database.fetchStates := by
  induction writes generalizing database with
  | nil => rfl
  | cons write rest induction =>
      have first :
          (server hashtext).replay database (write :: rest) =
            (server hashtext).replay (write.apply database) rest := rfl
      rw [first, induction fun other member =>
        others other (List.mem_cons_of_mem _ member)]
      rcases others write List.mem_cons_self with ⟨noInsert, noUpdate⟩
      cases write with
      | insertFetchState state => exact absurd rfl (noInsert state)
      | updateFetchState state => exact absurd rfl (noUpdate state)
      | _ => rfl

/-- A transaction which has not written the fetch state sees the old one. -/
theorem StateKnown.findState_view
    (known : StateKnown hashtext request database history)
    (unwritten : (journal history).fetch ≠ .written)
    (sourceId : SourceId) :
    ((server hashtext).view database history).findState sourceId =
      database.findState sourceId := by
  rw [Database.findState, known.unwritten unwritten, Database.findState]

/-- A statement which does not concern the fetch state. -/
theorem StateKnown.other
    (known : StateKnown hashtext request database history)
    (fetch :
      ((journal history).after command reply).fetch =
        (journal history).fetch)
    (others : ∀ write ∈ statementEffects command reply,
      (∀ state, write ≠ .insertFetchState state) ∧
        ∀ state, write ≠ .updateFetchState state)
    (places : (journal history).fetch ≠ .unasked →
      ((journal history).after command reply).locked =
          (journal history).locked ∧
        ((journal history).after command reply).selected =
          (journal history).selected) :
    StateKnown hashtext request database
      (history ++ [⟨command, reply⟩]) := by
  constructor
  · rw [journal_concat, fetch]
    intro asked
    rcases places asked with ⟨locked, selected⟩
    rw [locked, selected]
    exact known.staged asked
  · rw [journal_concat, fetch]
    exact known.unfailed
  · rw [journal_concat, fetch]
    exact known.absent
  · rw [journal_concat, fetch]
    exact known.present
  · rw [journal_concat, fetch, Semantics.view_concat]
    intro unwritten
    exact (fetchStates_replay _ others).trans (known.unwritten unwritten)
  · rw [journal_concat, fetch]
    intro stage
    exact mem_locks_concat_left (known.held stage)

theorem StateKnown.selectFetchState
    (known : StateKnown hashtext request database history)
    (between : (journal history).Between request.keys)
    (unasked : (journal history).fetch = .unasked)
    {found : Option SourceFetchState}
    (isFound :
      found = ((server hashtext).view database history).findState
        request.sourceId) :
    StateKnown hashtext request database
      (history ++ [⟨.selectFetchState request.sourceId, found⟩]) := by
  have notWritten : (journal history).fetch ≠ .written := by
    rw [unasked]
    decide
  rw [known.findState_view notWritten] at isFound
  have unwritten :
      ((server hashtext).view database
          (history ++ [⟨.selectFetchState request.sourceId,
            found⟩])).fetchStates =
        database.fetchStates := by
    rw [Semantics.view_concat]
    exact known.unwritten notWritten
  cases found with
  | none =>
      refine ⟨fun _ => ?_, ?_, fun _ => isFound.symm, ?_,
        fun _ => unwritten, ?_⟩
      · rw [journal_concat]
        exact ⟨between.locked, between.selected⟩
      · rw [journal_concat]
        rintro ⟨⟩
      · rw [journal_concat]
        rintro ⟨⟩
      · rw [journal_concat]
        rintro (⟨⟨⟩⟩ | ⟨⟨⟩⟩)
  | some state =>
      refine ⟨fun _ => ?_, ?_, ?_, fun _ => ?_, fun _ => unwritten,
        fun _ => ?_⟩
      · rw [journal_concat]
        exact ⟨between.locked, between.selected⟩
      · rw [journal_concat]
        rintro ⟨⟩
      · rw [journal_concat]
        rintro ⟨⟩
      · rw [← isFound]
        exact Option.some_ne_none state
      · rw [Database.stateLock, ← isFound]
        exact mem_locks_concat_right List.mem_cons_self

/-- The fetch state is written, once it has been asked for. -/
theorem StateKnown.written
    (known : StateKnown hashtext request database history)
    (asked : (journal history).fetch ≠ .unasked)
    (places :
      ((journal history).after command reply).locked =
          (journal history).locked ∧
        ((journal history).after command reply).selected =
          (journal history).selected)
    (written :
      ((journal history).after command reply).fetch = .written)
    (held :
      database.stateLock request.sourceId ∈
        (server hashtext).locks (history ++ [⟨command, reply⟩])) :
    StateKnown hashtext request database
      (history ++ [⟨command, reply⟩]) := by
  refine ⟨fun _ => ?_, ?_, ?_, ?_, ?_, fun _ => held⟩
  · rw [journal_concat, places.1, places.2]
    exact known.staged asked
  · rw [journal_concat, written]
    rintro ⟨⟩
  · rw [journal_concat, written]
    rintro ⟨⟩
  · rw [journal_concat, written]
    rintro ⟨⟩
  · rw [journal_concat, written]
    exact fun notWritten => absurd rfl notWritten

/-- As long as nobody commits, the fetch state is not inserted by others. -/
theorem StateKnown.insertFetchState
    (known : StateKnown hashtext request database history)
    (absent : (journal history).fetch = .absent)
    {state : SourceFetchState} (isOwn : state.sourceId = request.sourceId)
    {outcome : Except PyError Unit}
    (answers :
      StatementAnswers (.insertFetchState state)
        ((server hashtext).view database history) outcome) :
    outcome = .ok () ∧
      StateKnown hashtext request database
        (history ++ [⟨.insertFetchState state, outcome⟩]) := by
  have notWritten : (journal history).fetch ≠ .written := by
    rw [absent]
    decide
  have asked : (journal history).fetch ≠ .unasked := by
    rw [absent]
    decide
  have notFound := known.absent absent
  have isOk : outcome = .ok () := by
    rw [StatementAnswers, isOwn, known.findState_view notWritten,
      notFound] at answers
    exact answers
  subst isOk
  refine ⟨rfl, known.written asked ⟨rfl, rfl⟩ rfl ?_⟩
  rw [Database.stateLock, notFound, ← isOwn]
  exact mem_locks_concat_right List.mem_cons_self

/-- What is known of the fetch state stays known. -/
theorem StateKnown.step
    (known : StateKnown hashtext request database history)
    (allowed : request.Allows (journal history) command)
    (answers :
      StatementAnswers command ((server hashtext).view database history)
        reply) :
    StateKnown hashtext request database
      (history ++ [⟨command, reply⟩]) := by
  cases command with
  | lockRecordKey =>
      exact known.other rfl (by rintro write ⟨⟩)
        fun asked => absurd allowed.2.1 asked
  | selectRecord =>
      refine known.other ?_ (by rintro write ⟨⟩)
        fun asked => absurd allowed.2.1 asked
      cases reply <;> rfl
  | insertRecord =>
      cases reply with
      | error error =>
          exact known.other rfl (by rintro write ⟨⟩) fun _ => ⟨rfl, rfl⟩
      | ok id =>
          refine known.other rfl ?_ fun _ => ⟨rfl, rfl⟩
          intro write member
          rw [List.mem_singleton.mp member]
          exact ⟨by rintro state ⟨⟩, by rintro state ⟨⟩⟩
  | updateRecord =>
      refine known.other rfl ?_ fun _ => ⟨rfl, rfl⟩
      intro write member
      rw [List.mem_singleton.mp member]
      exact ⟨by rintro state ⟨⟩, by rintro state ⟨⟩⟩
  | insertEvent =>
      refine known.other rfl ?_ fun _ => ⟨rfl, rfl⟩
      intro write member
      rw [List.mem_singleton.mp member]
      exact ⟨by rintro state ⟨⟩, by rintro state ⟨⟩⟩
  | selectFetchState sourceId =>
      rcases allowed with ⟨between, unasked, rfl⟩
      exact known.selectFetchState between unasked answers
  | insertFetchState state =>
      rcases allowed with ⟨_, absent, matches_⟩
      exact (known.insertFetchState absent matches_.1 answers).2
  | updateFetchState state =>
      rcases allowed with ⟨_, present, _⟩
      refine known.written ?_ ⟨rfl, rfl⟩ rfl ?_
      · rw [present]
        decide
      · exact mem_locks_concat_left (known.held (Or.inl present))
  | lockActiveRecord =>
      refine known.other ?_ (by rintro write ⟨⟩) fun _ => ?_
      · cases reply <;> rfl
      · cases reply <;> exact ⟨rfl, rfl⟩
  | _ => exact known.other rfl (by rintro write ⟨⟩) fun _ => ⟨rfl, rfl⟩

/-- Rows which no write concerns are kept. -/
theorem mem_replay_iff
    {record : Record} (writes : List DatabaseWrite)
    (notUpdated : ∀ other, .updateRecord other ∈ writes →
      other.id ≠ record.id)
    (notInserted : ∀ other, .insertRecord other ∈ writes →
      other.id ≠ record.id) :
    record ∈ ((server hashtext).replay database writes).records ↔
      record ∈ database.records := by
  induction writes generalizing database with
  | nil => exact Iff.rfl
  | cons write rest induction =>
      have first :
          (server hashtext).replay database (write :: rest) =
            (server hashtext).replay (write.apply database) rest := rfl
      rw [first, induction
        (fun other member => notUpdated other (List.mem_cons_of_mem _ member))
        fun other member => notInserted other (List.mem_cons_of_mem _ member)]
      cases write with
      | insertRecord other =>
          have different := notInserted other List.mem_cons_self
          have notOther : record ≠ other := by
            rintro rfl
            exact different rfl
          exact List.mem_append.trans (or_iff_left fun isOther =>
            notOther (List.mem_singleton.mp isOther))
      | updateRecord other =>
          have different := notUpdated other List.mem_cons_self
          constructor
          · intro member
            rcases List.mem_map.mp member with ⟨row, rowMember, isRecord⟩
            split_ifs at isRecord with replaced
            · rw [← isRecord] at different
              exact absurd rfl different
            · rw [← isRecord]
              exact rowMember
          · intro member
            exact Database.mem_updateRecord_of_ne different.symm member
      | _ => exact Iff.rfl

/-- A row which is not locked is seen as it was. -/
theorem mem_view_iff_of_unlocked
    (consistent : Consistent hashtext database history)
    (held : RowsHeld hashtext database history) {record : Record}
    (unlocked :
      .recordRow record.id ∉ (server hashtext).locks history) :
    record ∈ ((server hashtext).view database history).records ↔
      record ∈ database.records := by
  refine mem_replay_iff _ ?_ ?_
  · intro other member same
    rw [← same] at unlocked
    exact unlocked (held.updated other member)
  · intro other member same
    rw [← same] at unlocked
    refine unlocked (consistent.insertedLocks other.identity ?_).2
    exact List.mem_filterMap.mpr ⟨_, member, rfl⟩

theorem mem_activeRecords_iff {sourceId : SourceId} {record : Record} :
    record ∈ database.activeRecords sourceId ↔
      record ∈ database.records ∧ record.sourceId = sourceId ∧
        record.isActive = true := by
  rw [Database.activeRecords, List.mem_filter, Bool.and_eq_true,
    decide_eq_true_eq]

/-- A statement which does not look for active rows. -/
theorem ActiveKnown.other
    (known : ActiveKnown hashtext request database history)
    (scanned :
      ((journal history).after command reply).scanned =
        (journal history).scanned) :
    ActiveKnown hashtext request database
      (history ++ [⟨command, reply⟩]) := by
  constructor
  · intro ids isScanned id member
    rw [journal_concat, scanned] at isScanned
    rcases known.found ids isScanned id member with locked | isActive
    · exact Or.inl (mem_locks_concat_left locked)
    · exact Or.inr isActive
  · intro ids isScanned record member
    rw [journal_concat, scanned] at isScanned
    rcases known.all ids isScanned record member with locked | isFound
    · exact Or.inl (mem_locks_concat_left locked)
    · exact Or.inr isFound

/-- The active rows are found. -/
theorem ActiveKnown.scanned
    (consistent : Consistent hashtext database history)
    (held : RowsHeld hashtext database history) {ids : List RecordId}
    (found :
      ids.Perm
        ((((server hashtext).view database history).activeRecords
          request.sourceId).map Record.id)) :
    ActiveKnown hashtext request database
      (history ++ [⟨.scanActiveRecords request.sourceId, ids⟩]) := by
  constructor
  · intro scanned isScanned id member
    rw [journal_concat] at isScanned
    cases isScanned
    rcases List.mem_map.mp (found.mem_iff.mp member) with
      ⟨record, isActive, rfl⟩
    by_cases locked :
        .recordRow record.id ∈ (server hashtext).locks history
    · exact Or.inl (mem_locks_concat_left locked)
    · rw [mem_activeRecords_iff,
        mem_view_iff_of_unlocked consistent held locked] at isActive
      exact Or.inr ⟨record, mem_activeRecords_iff.mpr isActive, rfl⟩
  · intro scanned isScanned record isActive
    rw [journal_concat] at isScanned
    cases isScanned
    by_cases locked :
        .recordRow record.id ∈ (server hashtext).locks history
    · exact Or.inl (mem_locks_concat_left locked)
    · rw [mem_activeRecords_iff,
        ← mem_view_iff_of_unlocked consistent held locked,
        ← mem_activeRecords_iff] at isActive
      exact Or.inr (found.mem_iff.mpr (List.mem_map_of_mem isActive))

/-- What is known of the active rows stays known. -/
theorem ActiveKnown.step
    (known : ActiveKnown hashtext request database history)
    (consistent : Consistent hashtext database history)
    (held : RowsHeld hashtext database history)
    (allowed : request.Allows (journal history) command)
    (answers :
      StatementAnswers command ((server hashtext).view database history)
        reply) :
    ActiveKnown hashtext request database
      (history ++ [⟨command, reply⟩]) := by
  cases command with
  | scanActiveRecords sourceId =>
      rcases allowed with ⟨_, _, _, rfl⟩
      exact ActiveKnown.scanned consistent held answers
  | selectRecord => cases reply <;> exact known.other rfl
  | insertRecord => cases reply <;> exact known.other rfl
  | insertFetchState => cases reply <;> exact known.other rfl
  | lockActiveRecord => cases reply <;> exact known.other rfl
  | _ => exact known.other rfl

/-- Keys are locked in the order of the items. -/
theorem ordered_step
    (ordered : (journal history).locked <+: request.keys)
    (allowed : request.Allows (journal history) command) :
    (journal (history ++ [⟨command, reply⟩])).locked <+: request.keys := by
  rw [journal_concat]
  cases command with
  | lockRecordKey sourceId externalId =>
      rcases allowed with ⟨_, _, rest, keys⟩
      refine ⟨rest, ?_⟩
      rw [keys]
      exact List.append_assoc _ _ _
  | selectRecord => cases reply <;> exact ordered
  | insertRecord => cases reply <;> exact ordered
  | insertFetchState => cases reply <;> exact ordered
  | lockActiveRecord => cases reply <;> exact ordered
  | _ => exact ordered

/-- Before anybody commits, statements keep what holds. -/
theorem keeps_fits :
    Keeps (server hashtext) request.discipline database
      (Fits hashtext request database) := by
  intro history command reply fits allowed answers
  rcases keeps_consistent history command reply fits.consistent allowed
      answers with
    ⟨expected, consistent⟩
  refine ⟨expected, consistent, ?_, ?_, ?_, ?_, ?_⟩
  · exact ordered_step fits.ordered allowed
  · exact fits.reasons.step fits.consistent allowed answers
  · exact fits.rows.step fits.consistent allowed answers
  · exact fits.state.step allowed answers
  · exact fits.active.step fits.consistent fits.rows allowed answers

theorem fits_nil (unique : database.Unique) :
    Fits hashtext request database [] := by
  refine ⟨consistent_nil hashtext unique, List.nil_prefix, ?_, ?_, ?_, ?_⟩
  · rintro lock ⟨⟩
  · constructor
    · rintro row ⟨⟩
    · rintro record ⟨⟩
    · rintro record _ ⟨⟩
    · rintro id ⟨⟩
  · constructor
    · exact fun asked => absurd rfl asked
    · rintro ⟨⟩
    · rintro ⟨⟩
    · rintro ⟨⟩
    · exact fun _ => rfl
    · rintro (⟨⟨⟩⟩ | ⟨⟨⟩⟩)
  · constructor
    · rintro ids ⟨⟩
    · rintro ids ⟨⟩

end Steps

/-! ## Two transactions of one source -/

/-- Why one transaction waits for another one, by their journals. -/
inductive WaitsFor (hashtext : String → ℤ) (database : Database)
    (request : Request) (own other : Journal) : Prop where
  | key (key : SourceId × String) (rest : List (SourceId × String))
      (unasked : own.fetch = .unasked)
      (isNext : request.keys = own.locked ++ key :: rest)
      (held : ∃ locked ∈ other.locked,
        hashtext (lockKey locked) = hashtext (lockKey key))
  | row (unasked : own.fetch = .unasked) (written : other.fetch = .written)
  | state (unwritten : own.fetch = .unasked ∨ own.fetch = .absent)
      (locked : own.locked = request.keys)
      (asked : other.fetch = .present ∨ other.fetch = .written)
  | active (record : Record) (written : own.fetch = .written)
      (isActive : record ∈ database.activeRecords request.sourceId)
      (locked : record.key ∈ other.locked)
      (unwritten : other.fetch ≠ .written)

section Two

variable {hashtext : String → ℤ} {request otherRequest : Request}
variable {database : Database} {history otherHistory : StatementHistory}

/-- Two transactions have not locked keys with the same hash. -/
theorem hashes_apart
    (consistent : Consistent hashtext database history)
    (otherConsistent : Consistent hashtext database otherHistory)
    (disjoint : ∀ lock ∈ (server hashtext).locks history,
      lock ∉ (server hashtext).locks otherHistory)
    {key otherKey : SourceId × String}
    (locked : key ∈ (journal history).locked)
    (otherLocked : otherKey ∈ (journal otherHistory).locked) :
    hashtext (lockKey key) ≠ hashtext (lockKey otherKey) := by
  intro same
  have own := consistent.lockedKeys key locked
  rw [same] at own
  exact disjoint _ own (otherConsistent.lockedKeys otherKey otherLocked)

/-- Only one transaction of a source writes the fetch state. -/
theorem not_both_stated
    (fits : Fits hashtext request database history)
    (otherFits : Fits hashtext otherRequest database otherHistory)
    (sameSource : otherRequest.sourceId = request.sourceId)
    (disjoint : ∀ lock ∈ (server hashtext).locks history,
      lock ∉ (server hashtext).locks otherHistory)
    (stated : (journal history).fetch = .present ∨
      (journal history).fetch = .written)
    (otherStated : (journal otherHistory).fetch = .present ∨
      (journal otherHistory).fetch = .written) : False := by
  have other := otherFits.state.held otherStated
  rw [sameSource] at other
  exact disjoint _ (fits.state.held stated) other

/-- A row held by another transaction has a key it has locked. -/
theorem key_of_row_held
    (otherFits : Fits hashtext otherRequest database otherHistory)
    (unwritten : (journal otherHistory).fetch ≠ .written)
    {identity : Identity} (stored : identity ∈ database.identities)
    (held :
      .recordRow identity.1 ∈ (server hashtext).locks otherHistory) :
    identity.2 ∈ (journal otherHistory).locked := by
  rcases otherFits.reasons _ held with ⟨key, locked, seen⟩ | written
  · have same : identity = (identity.1, key) :=
      List.inj_on_of_nodup_map otherFits.consistent.ids
        (List.mem_append_left _ stored) seen rfl
    rw [same]
    exact locked
  · exact absurd written unwritten

/-- Why a transaction waits for another one. -/
theorem waitsFor_of_demand
    (fits : Fits hashtext request database history)
    (otherFits : Fits hashtext otherRequest database otherHistory)
    (sameSource : otherRequest.sourceId = request.sourceId)
    (disjoint : ∀ lock ∈ (server hashtext).locks history,
      lock ∉ (server hashtext).locks otherHistory)
    {command : StatementCommand}
    (allowed : request.Allows (journal history) command)
    {lock : DatabaseLock}
    (demanded :
      lock ∈ statementDemand hashtext command
        ((server hashtext).view database history))
    (held : lock ∈ (server hashtext).locks otherHistory) :
    WaitsFor hashtext database request (journal history)
      (journal otherHistory) := by
  cases command with
  | lockRecordKey sourceId externalId =>
      rcases allowed with ⟨_, unasked, rest, isNext⟩
      cases demanded
      exact .key _ rest unasked isNext (otherFits.reasons _ held)
  | selectRecord sourceId externalId =>
      rcases allowed with ⟨_, unasked, _, isLocked, _⟩
      rcases Option.mem_map.mp demanded with ⟨record, found, rfl⟩
      by_cases written : (journal otherHistory).fetch = .written
      · exact .row unasked written
      have key := Database.key_of_find found
      have seen :=
        fits.consistent.identity_seen (Database.mem_of_find found)
      have locked : record.key ∈ (journal history).locked := by
        rw [key, isLocked]
        exact List.mem_append_right _ List.mem_cons_self
      rcases List.mem_append.mp seen with stored | isInserted
      · have otherLocked : record.key ∈ (journal otherHistory).locked :=
          key_of_row_held otherFits written stored held
        exact absurd rfl (hashes_apart fits.consistent otherFits.consistent
          disjoint locked otherLocked)
      · have own := (fits.consistent.insertedLocks _ isInserted).2
        exact absurd held (disjoint _ own)
  | insertRecord build =>
      rcases allowed with ⟨key, locked, _, _, _, isBuilt⟩
      cases demanded
      have otherLocked : (build 0).key ∈ (journal otherHistory).locked :=
        otherFits.reasons _ held
      rw [(isBuilt 0).2] at otherLocked
      exact absurd rfl (hashes_apart fits.consistent otherFits.consistent
        disjoint locked otherLocked)
  | selectFetchState sourceId =>
      rcases allowed with ⟨between, unasked, _⟩
      rcases Option.mem_map.mp demanded with ⟨_, _, rfl⟩
      exact .state (Or.inl unasked) between.locked
        (otherFits.reasons _ held)
  | insertFetchState state =>
      rcases allowed with ⟨between, absent, _⟩
      cases demanded
      exact .state (Or.inr absent) between.locked
        (otherFits.reasons _ held)
  | lockActiveRecord sourceId id =>
      rcases allowed with ⟨reconciling, _, ids, isScanned, isFound⟩
      cases demanded
      have own : (journal history).fetch = .present ∨
          (journal history).fetch = .written := Or.inr reconciling.fetch
      rcases fits.active.found ids isScanned id isFound with
        ownLock | ⟨record, isActive, rfl⟩
      · exact absurd held (disjoint _ ownLock)
      have unwritten : (journal otherHistory).fetch ≠ .written := by
        intro written
        exact not_both_stated fits otherFits sameSource disjoint own
          (Or.inr written)
      have stored : record.identity ∈ database.identities :=
        List.mem_map_of_mem (mem_activeRecords_iff.mp isActive).1
      exact .active record reconciling.fetch isActive
        (key_of_row_held otherFits unwritten stored held) unwritten
  | _ => cases demanded

end Two

/-! ## Shared hashes -/

section Shared

variable (hashtext : String → ℤ) (request other : Request)

/-- The hashes of the keys of a request. -/
def Request.hashes : List ℤ :=
  request.keys.map fun key => hashtext (lockKey key)

/-- Another request locks the hash of the key as well. -/
def Request.Shares (key : SourceId × String) : Prop :=
  hashtext (lockKey key) ∈ other.hashes hashtext

variable {hashtext request other}

theorem shares_of_same_hash
    {key otherKey : SourceId × String} (member : otherKey ∈ other.keys)
    (same : hashtext (lockKey otherKey) = hashtext (lockKey key)) :
    other.Shares hashtext key := by
  rw [Request.Shares, ← same]
  exact List.mem_map_of_mem member

/-- Requests share hashes with each other. -/
theorem exists_shares_symm
    (shared : ∃ key ∈ request.keys, other.Shares hashtext key) :
    ∃ key ∈ other.keys, request.Shares hashtext key := by
  rcases shared with ⟨key, member, shares⟩
  rcases List.mem_map.mp shares with ⟨otherKey, otherMember, same⟩
  exact ⟨otherKey, otherMember, shares_of_same_hash member same.symm⟩

variable {database : Database} {history otherHistory : StatementHistory}

/-- A transaction which has written the fetch state has locked all keys. -/
theorem Fits.locked_of_written
    (fits : Fits hashtext request database history)
    (written : (journal history).fetch = .written) :
    (journal history).locked = request.keys := by
  have asked : (journal history).fetch ≠ .unasked := by
    rw [written]
    decide
  exact (fits.state.staged asked).1

/-- Keys locked while the other request has locked all of its keys. -/
theorem apart_of_locked
    (fits : Fits hashtext request database history)
    (otherFits : Fits hashtext other database otherHistory)
    (disjoint : ∀ lock ∈ (server hashtext).locks history,
      lock ∉ (server hashtext).locks otherHistory)
    (otherLocked : (journal otherHistory).locked = other.keys) :
    ∀ key ∈ (journal history).locked, ¬ other.Shares hashtext key := by
  intro key member shares
  rcases List.mem_map.mp shares with ⟨otherKey, otherMember, same⟩
  rw [← otherLocked] at otherMember
  exact hashes_apart fits.consistent otherFits.consistent disjoint member
    otherMember same.symm

/-- The fetch state has been written, or it has not. -/
theorem not_stated
    {stage : FetchStage} (unwritten : stage = .unasked ∨ stage = .absent)
    (stated : stage = .present ∨ stage = .written) : False := by
  rcases unwritten with rfl | rfl
  · rcases stated with ⟨⟨⟩⟩ | ⟨⟨⟩⟩
  · rcases stated with ⟨⟨⟩⟩ | ⟨⟨⟩⟩

end Shared

end MultisiteCrawler.Records
