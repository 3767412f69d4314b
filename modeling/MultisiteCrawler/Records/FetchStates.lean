import MultisiteCrawler.Records.Rivals

/-!
# The first fetch state of a source

The fetch state is looked up and then inserted, without a lock in between.
Two first collections of a source are both committed, in whatever order their
statements come, exactly when something else keeps the one from ending between
the look-up and the insertion of the other one.
-/

namespace MultisiteCrawler.Records

open Adapters
open Foundation.Interaction
open Foundation.PythonErrors
open Foundation.Transactions

/-! ## Fetch states of a source -/

/-- The fetch states of a source. -/
def Database.statesOf (database : Database) (sourceId : SourceId) :
    List SourceFetchState :=
  database.fetchStates.filter fun state => decide (state.sourceId = sourceId)

section States

variable {database : Database} {sourceId : SourceId}

theorem findState_eq_head :
    database.findState sourceId = (database.statesOf sourceId).head? :=
  List.head?_filter.symm

theorem statesOf_insertFetchState
    {state : SourceFetchState} (isOwn : state.sourceId = sourceId)
    (absent : database.findState sourceId = none) :
    (database.insertFetchState state).statesOf sourceId = [state] := by
  rw [findState_eq_head, List.head?_eq_none_iff] at absent
  have appended :
      (database.insertFetchState state).statesOf sourceId =
        database.statesOf sourceId ++ [state] := by
    simp [Database.statesOf, Database.insertFetchState, isOwn]
  rw [appended, absent]
  rfl

theorem statesOf_updateFetchState
    {state row : SourceFetchState} (isOwn : state.sourceId = sourceId)
    (single : database.statesOf sourceId = [row]) :
    (database.updateFetchState state).statesOf sourceId = [state] := by
  have isRow : row.sourceId = sourceId := by
    have member : row ∈ database.statesOf sourceId := by
      rw [single]
      exact List.mem_cons_self
    exact of_decide_eq_true (List.mem_filter.mp member).2
  have replaced :
      (database.updateFetchState state).statesOf sourceId =
        (database.statesOf sourceId).map fun row =>
          if row.sourceId = state.sourceId then state else row := by
    rw [Database.statesOf, Database.updateFetchState, List.filter_map,
      Database.statesOf]
    refine congrArg (List.map _) (List.filter_congr ?_)
    intro other _
    rw [Function.comp_apply]
    split_ifs with same
    · rw [same]
    · rfl
  rw [replaced, single, List.map_singleton, isRow, isOwn, if_pos rfl]

end States

/-! ## What one transaction writes -/

section Written

variable (hashtext : String → ℤ) (request : Request)

/-- The fetch state is written once, with what the response tells. -/
structure FetchWrites (database : Database) (history : StatementHistory) :
    Prop where
  unwritten : (journal history).fetch ≠ .written →
    ∀ write ∈ (server hashtext).writes history,
      (∀ state, write ≠ .insertFetchState state) ∧
        ∀ state, write ≠ .updateFetchState state
  written : (journal history).fetch = .written →
    ∃ row,
      ((server hashtext).view database history).statesOf request.sourceId =
          [row] ∧
        request.Matches row

variable {hashtext request} {database : Database}
variable {history : StatementHistory}
variable {command : StatementCommand} {reply : command.Reply}

theorem fetchWrites_nil : FetchWrites hashtext request database [] := by
  constructor
  · rintro _ write ⟨⟩
  · rintro ⟨⟩

/-- A transaction sees the fetch states of others until it writes its own. -/
theorem FetchWrites.fetchStates_view
    (writes : FetchWrites hashtext request database history)
    (unwritten : (journal history).fetch ≠ .written) (store : Database) :
    ((server hashtext).view store history).fetchStates =
      store.fetchStates :=
  fetchStates_replay _ (writes.unwritten unwritten)

/-- A statement which does not write the fetch state. -/
theorem FetchWrites.other
    (writes : FetchWrites hashtext request database history)
    (others : ∀ write ∈ statementEffects command reply,
      (∀ state, write ≠ .insertFetchState state) ∧
        ∀ state, write ≠ .updateFetchState state)
    (same :
      ((journal history).after command reply).fetch = .written ↔
        (journal history).fetch = .written) :
    FetchWrites hashtext request database
      (history ++ [⟨command, reply⟩]) := by
  constructor
  · rw [journal_concat, Semantics.writes_concat]
    intro unwritten write member
    rcases List.mem_append.mp member with earlier | now
    · exact writes.unwritten (fun written => unwritten (same.mpr written))
        write earlier
    · exact others write now
  · rw [journal_concat, Semantics.view_concat]
    intro written
    have unchanged :
        ((server hashtext).replay
            ((server hashtext).view database history)
            (statementEffects command reply)).fetchStates =
          ((server hashtext).view database history).fetchStates :=
      fetchStates_replay _ others
    rcases writes.written (same.mp written) with ⟨row, single, isMatch⟩
    refine ⟨row, ?_, isMatch⟩
    rw [← single]
    exact congrArg (List.filter _) unchanged

/-- The fetch state has just been written. -/
theorem FetchWrites.now
    (fetch : ((journal history).after command reply).fetch = .written)
    {row : SourceFetchState}
    (single :
      ((server hashtext).replay ((server hashtext).view database history)
          (statementEffects command reply)).statesOf request.sourceId =
        [row])
    (isMatch : request.Matches row) :
    FetchWrites hashtext request database
      (history ++ [⟨command, reply⟩]) := by
  constructor
  · rw [journal_concat, fetch]
    exact fun unwritten => absurd rfl unwritten
  · rw [Semantics.view_concat]
    exact fun _ => ⟨row, single, isMatch⟩

/-- Statements keep what is known, if the source had at most one state. -/
theorem FetchWrites.step
    (writes : FetchWrites hashtext request database history)
    (single : (journal history).fetch = .present →
      ∃ row, database.statesOf request.sourceId = [row])
    (allowed : request.Allows (journal history) command)
    (answers :
      StatementAnswers command ((server hashtext).view database history)
        reply) :
    FetchWrites hashtext request database
      (history ++ [⟨command, reply⟩]) := by
  cases command with
  | selectRecord =>
      refine writes.other (by rintro write ⟨⟩) ?_
      cases reply <;> exact Iff.rfl
  | insertRecord =>
      cases reply with
      | error error => exact writes.other (by rintro write ⟨⟩) Iff.rfl
      | ok id =>
          refine writes.other ?_ Iff.rfl
          intro write member
          rw [List.mem_singleton.mp member]
          exact ⟨by rintro state ⟨⟩, by rintro state ⟨⟩⟩
  | updateRecord =>
      refine writes.other ?_ Iff.rfl
      intro write member
      rw [List.mem_singleton.mp member]
      exact ⟨by rintro state ⟨⟩, by rintro state ⟨⟩⟩
  | insertEvent =>
      refine writes.other ?_ Iff.rfl
      intro write member
      rw [List.mem_singleton.mp member]
      exact ⟨by rintro state ⟨⟩, by rintro state ⟨⟩⟩
  | selectFetchState sourceId =>
      rcases allowed with ⟨_, unasked, _⟩
      refine writes.other (by rintro write ⟨⟩) ?_
      rw [unasked]
      cases reply with
      | none => exact ⟨by rintro ⟨⟩, by rintro ⟨⟩⟩
      | some state => exact ⟨by rintro ⟨⟩, by rintro ⟨⟩⟩
  | insertFetchState state =>
      rcases allowed with ⟨_, absent, isMatch⟩
      cases reply with
      | error error =>
          refine writes.other (by rintro write ⟨⟩) ?_
          rw [absent]
          exact ⟨by rintro ⟨⟩, by rintro ⟨⟩⟩
      | ok _ =>
          have notFound :
              ((server hashtext).view database history).findState
                request.sourceId = none := by
            by_contra found
            have isSome := Option.isSome_iff_ne_none.mpr found
            rw [← isMatch.1] at isSome
            rw [StatementAnswers, if_pos isSome] at answers
            cases answers
          exact FetchWrites.now rfl
            (statesOf_insertFetchState isMatch.1 notFound) isMatch
  | updateFetchState state =>
      rcases allowed with ⟨_, present, isMatch⟩
      rcases single present with ⟨row, isSingle⟩
      have unwritten : (journal history).fetch ≠ .written := by
        rw [present]
        decide
      have stillSingle :
          ((server hashtext).view database history).statesOf
            request.sourceId = [row] := by
        rw [← isSingle]
        exact congrArg (List.filter _)
          (writes.fetchStates_view unwritten database)
      exact FetchWrites.now rfl
        (statesOf_updateFetchState isMatch.1 stillSingle) isMatch
  | lockActiveRecord =>
      refine writes.other (by rintro write ⟨⟩) ?_
      cases reply <;> exact Iff.rfl
  | _ => exact writes.other (by rintro write ⟨⟩) Iff.rfl

/-! ## After the other transaction -/

/-- What holds of a transaction once the source has a fetch state. -/
structure Late (hashtext : String → ℤ) (request : Request)
    (database : Database) (history : StatementHistory) : Prop where
  consistent : Consistent hashtext database history
  writes : FetchWrites hashtext request database history
  found : (journal history).fetch ≠ .absent
  unfailed : (journal history).fetch ≠ .failed

/-- Statements keep what holds once the source has a fetch state. -/
theorem keeps_late
    {row : SourceFetchState}
    (single : database.statesOf request.sourceId = [row]) :
    Keeps (server hashtext) request.discipline database
      (Late hashtext request database) := by
  intro history command reply late allowed answers
  rcases keeps_consistent history command reply late.consistent allowed
      answers with
    ⟨expected, consistent⟩
  have writes :=
    late.writes.step (fun _ => ⟨row, single⟩) allowed answers
  have stage :
      ((journal history).after command reply).fetch ≠ .absent ∧
        ((journal history).after command reply).fetch ≠ .failed := by
    cases command with
    | selectRecord => cases reply <;> exact ⟨late.found, late.unfailed⟩
    | insertRecord => cases reply <;> exact ⟨late.found, late.unfailed⟩
    | selectFetchState sourceId =>
        rcases allowed with ⟨_, unasked, rfl⟩
        have unwritten : (journal history).fetch ≠ .written := by
          rw [unasked]
          decide
        have isFound :
            ((server hashtext).view database history).findState
              request.sourceId = some row := by
          rw [Database.findState,
            late.writes.fetchStates_view unwritten database,
            ← Database.findState, findState_eq_head, single]
          rfl
        have isReply : reply = some row := answers.trans isFound
        rw [isReply]
        exact ⟨by rintro ⟨⟩, by rintro ⟨⟩⟩
    | insertFetchState =>
        rcases allowed with ⟨_, absent, _⟩
        exact absurd absent late.found
    | updateFetchState => exact ⟨by rintro ⟨⟩, by rintro ⟨⟩⟩
    | lockActiveRecord => cases reply <;> exact ⟨late.found, late.unfailed⟩
    | _ => exact ⟨late.found, late.unfailed⟩
  refine ⟨expected, consistent, writes, ?_, ?_⟩
  · rw [journal_concat]
    exact stage.1
  · rw [journal_concat]
    exact stage.2

end Written

/-! ## Two first collections -/

section First

variable (hashtext : String → ℤ) (sha256 : ByteArray → String)
variable (sourceId : SourceId) (requests : Side → Request)
variable (database : Database)

/-- No first collection is refused, and one fetch state is left. -/
structure FirstCommits : Prop where
  unrefused : ∀ state : RivalState,
    Reached (server hashtext) (rivals sha256 requests database) state →
      ∀ side history,
        state.transactions side ≠ .active (.fail integrityError) history
  once : ∀ state : RivalState,
    Reached (server hashtext) (rivals sha256 requests database) state →
      (∀ side, state.transactions side = .committed) →
        ∃ row,
          state.store.statesOf sourceId = [row] ∧
            ∃ side, (requests side).Matches row

/--
The collections share a hash, or each has the key of an active record of the
source.
-/
def Meets : Prop :=
  (∃ key ∈ (requests .left).keys, (requests .right).Shares hashtext key) ∨
    ∀ side, ∃ record ∈ database.activeRecords sourceId,
      record.key ∈ (requests side).keys

/-- What holds of a transaction before anybody commits. -/
structure FirstFits (request : Request) (history : StatementHistory) :
    Prop where
  fits : Fits hashtext request database history
  writes : FetchWrites hashtext request database history

variable {hashtext sha256 sourceId requests database}

theorem keeps_firstFits
    {request : Request}
    (absent : database.findState request.sourceId = none) :
    Keeps (server hashtext) request.discipline database
      (FirstFits hashtext database request) := by
  rintro history command reply ⟨fits, writes⟩ allowed answers
  rcases keeps_fits history command reply fits allowed answers with
    ⟨expected, stillFits⟩
  refine ⟨expected, stillFits, writes.step ?_ allowed answers⟩
  intro present
  exact absurd absent (fits.state.present present)

section Pair

variable {request other : Request}
variable {history otherHistory : StatementHistory}

/-- Who shares a hash has not looked for the fetch state. -/
theorem not_absent_of_shared
    (fits : Fits hashtext request database history)
    (otherFits : Fits hashtext other database otherHistory)
    (disjoint : ∀ lock ∈ (server hashtext).locks history,
      lock ∉ (server hashtext).locks otherHistory)
    (ended : other.Ends otherHistory ())
    {key : SourceId × String} (member : key ∈ request.keys)
    (shares : other.Shares hashtext key) :
    (journal history).fetch ≠ .absent := by
  intro absent
  have asked : (journal history).fetch ≠ .unasked := by
    rw [absent]
    decide
  rw [← (fits.state.staged asked).1] at member
  exact apart_of_locked fits otherFits disjoint ended.1.locked key member
    shares

/-- Who has an active record has not looked for the fetch state. -/
theorem not_absent_of_active
    (fits : Fits hashtext request database history)
    (otherFits : Fits hashtext other database otherHistory)
    (sameSource : other.sourceId = request.sourceId)
    (disjoint : ∀ lock ∈ (server hashtext).locks history,
      lock ∉ (server hashtext).locks otherHistory)
    (ended : other.Ends otherHistory ()) {record : Record}
    (isActive : record ∈ database.activeRecords request.sourceId)
    (member : record.key ∈ request.keys) :
    (journal history).fetch ≠ .absent := by
  intro absent
  have asked : (journal history).fetch ≠ .unasked := by
    rw [absent]
    decide
  rw [← (fits.state.staged asked).2] at member
  have held :=
    fits.rows.selected record (mem_activeRecords_iff.mp isActive).1 member
  rcases ended with ⟨_, ids, isScanned, reread⟩
  rw [← sameSource] at isActive
  rcases otherFits.active.all ids isScanned record isActive with
    locked | isFound
  · exact disjoint _ held locked
  · exact disjoint _ held (otherFits.rows.reread _ (reread _ isFound))

end Pair

section Sides

variable {side other : Side}

theorem exists_shares_iff (different : other ≠ side) :
    (∃ key ∈ (requests side).keys,
        (requests other).Shares hashtext key) ↔
      ∃ key ∈ (requests .left).keys,
        (requests .right).Shares hashtext key := by
  cases side with
  | left =>
      cases other with
      | left => exact absurd rfl different
      | right => exact Iff.rfl
  | right =>
      cases other with
      | left => exact ⟨exists_shares_symm, exists_shares_symm⟩
      | right => exact absurd rfl different

/-- When collections meet, one looks for what the other one has left. -/
theorem Meets.unasked
    (meets : Meets hashtext sourceId requests database)
    (sameSource : ∀ whichever, (requests whichever).sourceId = sourceId)
    (absent : database.findState sourceId = none)
    (different : other ≠ side) {history otherHistory : StatementHistory}
    (fits : Fits hashtext (requests side) database history)
    (otherFits : Fits hashtext (requests other) database otherHistory)
    (disjoint : ∀ lock ∈ (server hashtext).locks history,
      lock ∉ (server hashtext).locks otherHistory)
    (ended : (requests other).Ends otherHistory ()) :
    (journal history).fetch = .unasked := by
  have source : (requests other).sourceId = (requests side).sourceId := by
    rw [sameSource side]
    exact sameSource other
  have notAbsent : (journal history).fetch ≠ .absent := by
    rcases meets with shared | active
    · rcases (exists_shares_iff different).mpr shared with
        ⟨key, member, shares⟩
      exact not_absent_of_shared fits otherFits disjoint ended member shares
    · rcases active side with ⟨record, isActive, member⟩
      rw [← sameSource side] at isActive
      exact not_absent_of_active fits otherFits source disjoint ended isActive
        member
  have notPresent : (journal history).fetch ≠ .present := by
    intro present
    refine fits.state.present present ?_
    rw [sameSource side]
    exact absent
  have notWritten : (journal history).fetch ≠ .written := by
    intro written
    exact not_both_stated fits otherFits source disjoint (Or.inr written)
      (Or.inr ended.1.fetch)
  cases stage : (journal history).fetch with
  | unasked => rfl
  | absent => exact absurd stage notAbsent
  | present => exact absurd stage notPresent
  | written => exact absurd stage notWritten
  | failed => exact absurd stage fits.state.unfailed

end Sides

/-! ## After the first commit -/

section Settled

variable (hashtext sourceId requests) in
/-- One transaction has been committed; the other one finds its state. -/
structure Settled (winner loser : Side) (state : RivalState) : Prop where
  different : loser ≠ winner
  committed : state.transactions winner = .committed
  unique : state.store.Unique
  single : ∃ row, state.store.statesOf sourceId = [row] ∧
    ∃ side, (requests side).Matches row
  active : ∀ program history,
    state.transactions loser = .active program history →
      Late hashtext (requests loser) state.store history ∧
        Follows (requests loser).discipline (requests loser).Ends history
          program

variable {state after : RivalState} {winner loser worker : Side}

/-- The identities stay unique when a transaction is committed. -/
theorem Consistent.unique_view
    {history : StatementHistory}
    (consistent : Consistent hashtext database history) :
    ((server hashtext).view database history).Unique := by
  constructor
  · rw [consistent.identities_view]
    exact consistent.ids
  · rw [consistent.identities_view]
    exact consistent.keys

/-- What a transaction leaves when it has been committed. -/
theorem FetchWrites.single_view
    (sameSource : ∀ whichever, (requests whichever).sourceId = sourceId)
    {history : StatementHistory}
    (writes : FetchWrites hashtext (requests worker) database history)
    (written : (journal history).fetch = .written) :
    ∃ row,
      ((server hashtext).view database history).statesOf sourceId = [row] ∧
        ∃ side, (requests side).Matches row := by
  rcases writes.written written with ⟨row, single, isMatch⟩
  rw [sameSource worker] at single
  exact ⟨row, single, worker, isMatch⟩

theorem Settled.step
    (sameSource : ∀ whichever, (requests whichever).sourceId = sourceId)
    (settled : Settled hashtext sourceId requests winner loser state)
    (step : Step (server hashtext) state worker after) :
    Settled hashtext sourceId requests winner loser after := by
  have ⟨different, committed, unique, single, active⟩ := settled
  have isLoser : worker = loser := by
    refine Side.eq_of_ne different ?_
    rintro rfl
    cases step with
    | perform _ isActive => rw [committed] at isActive; cases isActive
    | commit isActive => rw [committed] at isActive; cases isActive
    | rollback isActive => rw [committed] at isActive; cases isActive
  subst isLoser
  cases step with
  | @perform command next history reply isActive granted answers acquired =>
      rcases active _ _ isActive with ⟨late, allowed, follows⟩
      have ⟨row, isSingle, _⟩ := single
      rw [← sameSource worker] at isSingle
      rcases keeps_late isSingle history command reply late allowed
          answers with
        ⟨expected, stillLate⟩
      refine ⟨different, ?_, unique, single, ?_⟩
      · rw [State.set_other _ _ different.symm]
        exact committed
      · intro program laterHistory nowActive
        rw [State.set_self] at nowActive
        cases nowActive
        exact ⟨stillLate, follows reply expected⟩
  | @commit result history isActive =>
      rcases active _ _ isActive with ⟨late, ended⟩
      refine ⟨different, ?_, late.consistent.unique_view,
        late.writes.single_view sameSource ended.1.fetch, ?_⟩
      · exact (State.set_other _ _ different.symm).trans committed
      · intro program laterHistory nowActive
        have isCommitted := (State.set_self state _).symm.trans nowActive
        cases isCommitted
  | rollback isActive =>
      refine ⟨different, ?_, unique, single, ?_⟩
      · rw [State.set_other _ _ different.symm]
        exact committed
      · intro program laterHistory nowActive
        rw [State.set_self] at nowActive
        cases nowActive

variable (hashtext requests database) in
/-- What is known as long as nobody has committed. -/
abbrev Unsettled (state : RivalState) : Prop :=
  Uncommitted (server hashtext) (fun side => (requests side).discipline)
    (fun side => (requests side).Ends) database
    (fun side => FirstFits hashtext database (requests side)) state

/-- The first commit. -/
theorem Unsettled.commit
    (meets : Meets hashtext sourceId requests database)
    (sameSource : ∀ whichever, (requests whichever).sourceId = sourceId)
    (absent : database.findState sourceId = none)
    (unsettled : Unsettled hashtext requests database state)
    (exclusive : Exclusive (server hashtext) state)
    (different : loser ≠ winner) {history : StatementHistory}
    (isActive : state.transactions winner = .active (.done ()) history) :
    Settled hashtext sourceId requests winner loser
      { state.set winner .committed with
        store := (server hashtext).view state.store history } := by
  have ⟨store, active⟩ := unsettled
  rw [store]
  rcases active winner _ history isActive with ⟨⟨fits, writes⟩, ended⟩
  refine ⟨different, State.set_self _ _, fits.consistent.unique_view,
    writes.single_view sameSource ended.1.fetch, ?_⟩
  intro program loserHistory loserActive
  have wasActive :
      state.transactions loser = .active program loserHistory :=
    (State.set_other _ _ different).symm.trans loserActive
  rcases active loser program loserHistory wasActive with
    ⟨⟨loserFits, loserWrites⟩, follows⟩
  have unasked : (journal loserHistory).fetch = .unasked :=
    meets.unasked sameSource absent different.symm loserFits fits
      (fun _ => exclusive.disjoint different.symm wasActive isActive) ended
  have consistent :=
    fits.consistent.of_commit loserFits.consistent fun _ =>
      exclusive.disjoint different isActive wasActive
  refine ⟨⟨consistent, ⟨loserWrites.unwritten, ?_⟩, ?_, ?_⟩, follows⟩
  · rw [unasked]
    rintro ⟨⟩
  · rw [unasked]
    rintro ⟨⟩
  · rw [unasked]
    rintro ⟨⟩

section Reached

variable (sameSource : ∀ whichever, (requests whichever).sourceId = sourceId)
variable (unique : database.Unique)
variable (absent : database.findState sourceId = none)

include sameSource unique absent

theorem unsettled_of_nobody
    (reached :
      Reached (server hashtext) (rivals sha256 requests database) state)
    (nobody : ∀ side, state.transactions side ≠ .committed) :
    Unsettled hashtext requests database state := by
  refine reached.uncommitted ?_ ?_ ?_ nobody
  · intro side
    refine keeps_firstFits ?_
    rw [sameSource side]
    exact absent
  · exact fun side => ⟨fits_nil unique, fetchWrites_nil⟩
  · exact fun side => follows_program sha256 (requests side)

/-- Nobody has committed, or one finds what the other one has left. -/
theorem Meets.reached
    (meets : Meets hashtext sourceId requests database)
    (reached :
      Reached (server hashtext) (rivals sha256 requests database) state) :
    (∀ side, state.transactions side ≠ .committed) ∨
      ∃ winner loser,
        Settled hashtext sourceId requests winner loser state := by
  induction reached with
  | refl =>
      refine Or.inl ?_
      rintro side ⟨⟩
  | @tail between later earlier step induction =>
      rcases step with ⟨worker, step⟩
      rcases induction with nobody | ⟨winner, loser, settled⟩
      · cases step with
        | perform =>
            refine Or.inl ?_
            intro side committed
            rcases State.of_set committed with ⟨_, ⟨⟩⟩ | ⟨_, before⟩
            exact nobody side before
        | commit isActive =>
            rcases Side.exists_other worker with ⟨loser, different⟩
            have unsettled :=
              unsettled_of_nobody sameSource unique absent earlier nobody
            exact Or.inr ⟨worker, loser, unsettled.commit meets sameSource
              absent (Reached.exclusive earlier) different isActive⟩
        | rollback =>
            refine Or.inl ?_
            intro side committed
            rcases State.of_set committed with ⟨_, ⟨⟩⟩ | ⟨_, before⟩
            exact nobody side before
      · exact Or.inr ⟨winner, loser, settled.step sameSource step⟩

/-- Collections which meet are both committed. -/
theorem Meets.firstCommits
    (meets : Meets hashtext sourceId requests database) :
    FirstCommits hashtext sha256 sourceId requests database := by
  constructor
  · intro state reached side history failed
    rcases meets.reached sameSource unique absent reached with
      nobody | ⟨winner, loser, settled⟩
    · have unsettled :=
        unsettled_of_nobody sameSource unique absent reached nobody
      rcases unsettled.active side _ history failed with ⟨known, fails⟩
      exact known.fits.state.unfailed fails.1
    · have isLoser : side = loser := by
        refine Side.eq_of_ne settled.different ?_
        rintro rfl
        rw [settled.committed] at failed
        cases failed
      subst isLoser
      rcases settled.active _ history failed with ⟨late, fails⟩
      exact late.unfailed fails.1
  · intro state reached committed
    rcases meets.reached sameSource unique absent reached with
      nobody | ⟨winner, loser, settled⟩
    · exact absurd (committed .left) (nobody .left)
    · exact settled.single

end Reached

end Settled

/-! ## Losing the race -/

section Race

variable {request : Request} {program : StatementProgram Unit}
variable {history : StatementHistory}

/-- After a refused insertion nothing is left but the error. -/
theorem fails_of_failed
    (follows : Follows request.discipline request.Ends history program)
    (failed : (journal history).fetch = .failed) :
    program = .fail integrityError := by
  have never {stage : FetchStage} (isStage : (journal history).fetch = stage)
      (unfailed : stage ≠ .failed) : False :=
    unfailed (isStage.symm.trans failed)
  cases program with
  | done result => exact (never follows.1.fetch (by decide)).elim
  | fail error => rw [follows.2]
  | perform command next =>
      rcases follows with ⟨allowed, _⟩
      refine False.elim ?_
      cases command with
      | beijingNow => exact never allowed.2 (by decide)
      | lockRecordKey => exact never allowed.2.1 (by decide)
      | selectRecord => exact never allowed.2.1 (by decide)
      | insertRecord =>
          rcases allowed with ⟨_, _, _, unasked, _⟩
          exact never unasked (by decide)
      | updateRecord =>
          rcases allowed with ⟨_, _, unasked | ⟨written, _⟩⟩
          · exact never unasked (by decide)
          · exact never written (by decide)
      | insertEvent =>
          rcases allowed with ⟨_, _, unasked⟩ | ⟨_, _, unasked | written⟩
          · exact never unasked (by decide)
          · exact never unasked (by decide)
          · exact never written (by decide)
      | selectFetchState => exact never allowed.2.1 (by decide)
      | insertFetchState => exact never allowed.2.1 (by decide)
      | updateFetchState => exact never allowed.2.1 (by decide)
      | scanActiveRecords => exact never allowed.1.fetch (by decide)
      | lockActiveRecord => exact never allowed.1.fetch (by decide)

/-- A worker is about to insert the fetch state. -/
def AtInsertion : StatementProgram Unit → Prop
  | .perform (.insertFetchState _) _ => True
  | _ => False

/-- The fetch state has not been found. -/
def Journal.Unstated (journal : Journal) : Prop :=
  journal.fetch = .unasked ∨ journal.fetch = .absent

/-- A worker finds no fetch state before it inserts one. -/
theorem unstated_kept
    (absent : database.findState request.sourceId = none) :
    KeptUntil hashtext database request AtInsertion Journal.Unstated := by
  intro command next history reply fits allowed goesOn answers unstated
  cases command with
  | selectRecord => cases reply <;> exact unstated
  | insertRecord => cases reply <;> exact unstated
  | selectFetchState sourceId =>
      rcases allowed with ⟨_, unasked, rfl⟩
      have unwritten : (journal history).fetch ≠ .written := by
        rw [unasked]
        decide
      rw [StatementAnswers, fits.state.findState_view unwritten,
        absent] at answers
      subst answers
      exact Or.inr rfl
  | insertFetchState => exact absurd trivial goesOn
  | updateFetchState =>
      rcases allowed with ⟨_, present, _⟩
      exact (not_stated unstated (Or.inl present)).elim
  | lockActiveRecord => cases reply <;> exact unstated
  | _ => exact unstated

variable (hashtext sha256 requests database) in
/-- The source has got its fetch state just before the insertion. -/
structure Overtaken (loser : Side) (state : RivalState)
    (fetchState : SourceFetchState)
    (next : Except PyError Unit → StatementProgram Unit)
    (history : StatementHistory) : Prop where
  reached : Reached (server hashtext) (rivals sha256 requests database) state
  active : state.transactions loser =
    .active (.perform (.insertFetchState fetchState) next) history
  free : ∀ lock, Free (server hashtext) state loser lock
  found : (((server hashtext).view state.store history).findState
    fetchState.sourceId).isSome
  fails : next (.error integrityError) = .fail integrityError

/-- The insertion is refused then. -/
theorem Overtaken.refused
    {loser : Side} {state : RivalState} {fetchState : SourceFetchState}
    {next : Except PyError Unit → StatementProgram Unit}
    (overtaken :
      Overtaken hashtext sha256 requests database loser state fetchState next
        history) :
    ∃ refused refusedHistory,
      Reached (server hashtext) (rivals sha256 requests database) refused ∧
        refused.transactions loser =
          .active (.fail integrityError) refusedHistory := by
  have answers :
      (server hashtext).Answers (.insertFetchState fetchState)
        ((server hashtext).view state.store history)
        (.error integrityError) := by
    change ite _ _ _
    rw [if_pos overtaken.found]
  have step :
      Step (server hashtext) state loser
        (state.set loser
          (.active (next (.error integrityError))
            (history ++
              [⟨.insertFetchState fetchState, .error integrityError⟩]))) := by
    refine .perform (.error integrityError) overtaken.active ?_ answers ?_
    · exact fun lock _ => overtaken.free lock
    · rintro lock ⟨⟩
  rw [overtaken.fails] at step
  exact ⟨_, _, overtaken.reached.tail ⟨loser, step⟩, State.set_self _ _⟩

section Refused

variable {winner loser : Side} (different : winner ≠ loser)
variable (sameSource : ∀ whichever, (requests whichever).sourceId = sourceId)
variable (unique : database.Unique)
variable (absent : database.findState sourceId = none)

include different sameSource unique absent

variable (hashtext sha256) in
/-- A worker alone comes to the insertion of the fetch state. -/
theorem exists_insertion :
    ∃ state fetchState next history,
      Rivalry hashtext sha256 requests database loser winner state
          (.perform (.insertFetchState fetchState) next) history
          ((requests winner).program sha256) [] := by
  have start :
      Rivalry hashtext sha256 requests database loser winner
        (rivals sha256 requests database) ((requests loser).program sha256)
        [] ((requests winner).program sha256) [] :=
    rivalry_begin different
  have notFound : database.findState (requests loser).sourceId = none := by
    rw [sameSource loser]
    exact absent
  rcases start.run_alone unique _ (unstated_kept notFound) (Or.inl rfl) with
    ⟨program, history, rivalry, _, running, stopped | ⟨_, ended⟩ | waits⟩
  · cases program with
    | done => exact stopped.elim
    | fail => exact stopped.elim
    | perform command next =>
        cases command with
        | insertFetchState fetchState =>
            exact ⟨_, fetchState, next, history, rivalry⟩
        | _ => exact stopped.elim
  · exact (not_stated running.keeps (Or.inr ended.1.fetch)).elim
  · exact absurd waits (rivalry.not_waits rfl)

variable (hashtext sha256) in
/-- The other worker can end before the insertion. -/
theorem exists_ended
    (apart : ∀ key ∈ (requests winner).keys,
      ¬ (requests loser).Shares hashtext key)
    (inactive : ∀ record ∈ database.activeRecords sourceId,
      record.key ∉ (requests loser).keys) :
    ∃ state fetchState next history winnerHistory,
      Rivalry hashtext sha256 requests database loser winner state
        (.perform (.insertFetchState fetchState) next) history (.done ())
        winnerHistory := by
  rcases exists_insertion hashtext sha256 different sameSource unique
      absent with
    ⟨state, fetchState, next, history, rivalry⟩
  have before := rivalry.before unique
  rcases before.active loser _ history rivalry.active with
    ⟨_, ⟨between, isAbsent, _⟩, _⟩
  have source : (requests loser).sourceId = (requests winner).sourceId := by
    rw [sameSource winner]
    exact sameSource loser
  have never :
      KeptUntil hashtext database (requests winner) (fun _ => False)
        fun _ => True :=
    fun _ _ _ _ _ _ _ _ _ => trivial
  rcases rivalry.swap.run_alone unique (fun _ => False) never trivial with
    ⟨later, winnerHistory, both, _, running, stopped | ⟨rfl, _⟩ | waits⟩
  · exact absurd stopped id
  · exact ⟨_, fetchState, next, history, winnerHistory, both.swap⟩
  · refine False.elim ?_
    cases both.waitsFor unique source waits with
    | key key rest _ isNext held =>
        rcases held with ⟨locked, isLocked, same⟩
        rw [between.locked] at isLocked
        refine apart key ?_ (shares_of_same_hash isLocked same)
        rw [isNext]
        exact List.mem_append_right _ List.mem_cons_self
    | row _ written =>
        exact not_stated (Or.inr isAbsent) (Or.inr written)
    | state _ _ stated => exact not_stated (Or.inr isAbsent) stated
    | active record _ isActive isLocked =>
        rw [between.locked] at isLocked
        rw [sameSource winner] at isActive
        exact inactive record isActive isLocked

variable (hashtext sha256) in
/-- The other worker can be committed before the insertion. -/
theorem exists_overtaken
    (apart : ∀ key ∈ (requests winner).keys,
      ¬ (requests loser).Shares hashtext key)
    (inactive : ∀ record ∈ database.activeRecords sourceId,
      record.key ∉ (requests loser).keys) :
    ∃ state fetchState next history,
      Overtaken hashtext sha256 requests database loser state fetchState next
        history := by
  rcases exists_ended hashtext sha256 different sameSource unique absent
      apart inactive with
    ⟨state, fetchState, next, history, winnerHistory, rivalry⟩
  have ⟨store, active⟩ :=
    unsettled_of_nobody sameSource unique absent rivalry.reached
      rivalry.nobody
  rcases active winner _ winnerHistory rivalry.otherActive with
    ⟨⟨_, winnerWrites⟩, ended⟩
  rcases active loser _ history rivalry.active with
    ⟨⟨_, loserWrites⟩, ⟨_, isAbsent, isMatch⟩, follows⟩
  rcases winnerWrites.single_view sameSource ended.1.fetch with
    ⟨row, single, _⟩
  have unwritten : (journal history).fetch ≠ .written := by
    rw [isAbsent]
    decide
  have committed :
      Step (server hashtext) state winner
        { state.set winner .committed with
          store := (server hashtext).view state.store winnerHistory } :=
    .commit rivalry.otherActive
  rw [store] at committed
  refine ⟨_, fetchState, next, history, rivalry.reached.tail ⟨_, committed⟩,
    ?_, ?_, ?_, ?_⟩
  · exact (State.set_other _ _ different.symm).trans rivalry.active
  · intro lock holder isOther held
    have nothing :
        (state.set winner .committed).transactions holder = .committed := by
      rw [Side.eq_of_ne different isOther]
      exact State.set_self _ _
    rw [nothing] at held
    cases held
  · rw [Database.findState, loserWrites.fetchStates_view unwritten,
      ← Database.findState, findState_eq_head, isMatch.1, sameSource loser,
      single]
    rfl
  · refine fails_of_failed (follows _ (Or.inr rfl)) ?_
    rw [journal_concat]
    rfl

end Refused

end Race

end First

/--
Two workers persist the first collections of a source.  Neither is ever refused
with an integrity error, and one fetch state with the validators of either of
them is left when both have committed, exactly when the collections share a
hash, or each has the key of an active record of the source.
-/
theorem firstCommits_iff_meets (hashtext : String → ℤ)
    (sha256 : ByteArray → String) {sourceId : SourceId}
    (requests : Side → Request)
    (sameSource : ∀ side, (requests side).sourceId = sourceId)
    {database : Database} (unique : database.Unique)
    (absent : database.findState sourceId = none) :
    FirstCommits hashtext sha256 sourceId requests database ↔
      Meets hashtext sourceId requests database := by
  constructor
  · intro commits
    by_contra notMeets
    simp only [Meets, not_or, not_forall, not_exists, not_and] at notMeets
    rcases notMeets with ⟨unshared, loser, inactive⟩
    rcases Side.exists_other loser with ⟨winner, different⟩
    have apart : ∀ key ∈ (requests winner).keys,
        ¬ (requests loser).Shares hashtext key := by
      intro key member shares
      rcases (exists_shares_iff different.symm).mp ⟨key, member, shares⟩ with
        ⟨shared, isShared, alsoShares⟩
      exact unshared shared isShared alsoShares
    rcases exists_overtaken hashtext sha256 different sameSource unique
        absent apart inactive with
      ⟨state, fetchState, next, history, overtaken⟩
    rcases overtaken.refused with ⟨refused, refusedHistory, reached, failed⟩
    exact commits.unrefused refused reached loser refusedHistory failed
  · intro meets
    exact meets.firstCommits sameSource unique absent

/-- Two workers who persist the same item first are both committed. -/
theorem firstCommits_sameItem :
    FirstCommits oneHash emptyObjectDigest 1 (fun _ => oneItemRequest)
      .empty := by
  have source (_ : Side) : oneItemRequest.sourceId = 1 := rfl
  refine (firstCommits_iff_meets oneHash emptyObjectDigest
    (fun _ => oneItemRequest) source announced_empty.toUnique rfl).mpr
    (Or.inl ?_)
  exact ⟨(1, "one"), List.mem_cons_self, List.mem_cons_self⟩

/--
Two workers persist collections without items.  Both find no fetch state; one
inserts it and is committed, and the insertion of the other one is refused.
-/
theorem refused_noItems :
    ∃ (state : RivalState) (history : StatementHistory),
      Reached (server oneHash)
          (rivals emptyObjectDigest (fun _ => noItemsRequest) .empty)
          state ∧
        state.transactions .right =
          .active (.fail integrityError) history := by
  have different : Side.left ≠ Side.right := by
    rintro ⟨⟩
  have source (_ : Side) : noItemsRequest.sourceId = 1 := rfl
  rcases exists_overtaken oneHash emptyObjectDigest different source
      announced_empty.toUnique rfl (by rintro key ⟨⟩)
      (by rintro record ⟨⟩) with
    ⟨state, fetchState, next, history, overtaken⟩
  exact overtaken.refused

end MultisiteCrawler.Records
