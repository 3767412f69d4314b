import Mathlib.Data.Fintype.EquivFin
import MultisiteCrawler.Records.Contention

/-!
# Two workers and one source

Two workers persist collections of the same source at the same time.  As long
as nobody has committed, a worker which runs alone comes to its end or waits
for the other one, for a reason which the journals tell.
-/

namespace MultisiteCrawler.Records

open Adapters
open Foundation.Interaction
open Foundation.PythonErrors
open Foundation.Transactions

/-! ## Two sides -/

/-- One of two workers. -/
inductive Side where
  | left
  | right
deriving DecidableEq

instance : Fintype Side where
  elems := {.left, .right}
  complete side := by
    cases side with
    | left => exact Finset.mem_insert_self _ _
    | right => exact Finset.mem_insert_of_mem (Finset.mem_singleton_self _)

/-- There is only one other side. -/
theorem Side.eq_of_ne {side other different : Side} (isOther : other ≠ side)
    (isDifferent : different ≠ side) : different = other := by
  cases side with
  | left =>
      cases other with
      | left => exact absurd rfl isOther
      | right =>
          cases different with
          | left => exact absurd rfl isDifferent
          | right => rfl
  | right =>
      cases other with
      | right => exact absurd rfl isOther
      | left =>
          cases different with
          | right => exact absurd rfl isDifferent
          | left => rfl

theorem Side.exists_other (side : Side) : ∃ other : Side, other ≠ side := by
  cases side with
  | left => exact ⟨.right, by rintro ⟨⟩⟩
  | right => exact ⟨.left, by rintro ⟨⟩⟩

/-- The tables and the transactions of two workers. -/
abbrev RivalState :=
  State StatementCommand StatementCommand.Reply PyError Unit Database Side

/-! ## Replies -/

/-- The primary key of a row which is locked. -/
def DatabaseLock.recordId : DatabaseLock → Option RecordId
  | .recordRow id => some id
  | _ => none

/-- A primary key which is neither in the tables nor locked. -/
theorem exists_fresh_id (database : Database) (taken : List DatabaseLock) :
    ∃ id, (∀ record ∈ database.records, record.id ≠ id) ∧
      .recordRow id ∉ taken := by
  rcases Infinite.exists_notMem_finset
      (database.records.map Record.id ++
        taken.filterMap DatabaseLock.recordId).toFinset with
    ⟨id, fresh⟩
  rw [List.mem_toFinset, List.mem_append, not_or] at fresh
  refine ⟨id, ?_, ?_⟩
  · rintro record member rfl
    exact fresh.1 (List.mem_map_of_mem member)
  · intro locked
    exact fresh.2 (List.mem_filterMap.mpr ⟨_, locked, rfl⟩)

/-- Every statement has a reply. -/
theorem answerable_server (hashtext : String → ℤ) :
    Answerable (server hashtext) := by
  intro command database taken
  cases command with
  | beijingNow => exact ⟨⟨0, by decide⟩, trivial, by rintro lock ⟨⟩⟩
  | lockRecordKey sourceId externalId =>
      refine ⟨(), trivial, ?_⟩
      intro lock member
      rw [List.mem_singleton.mp member]
      exact Or.inl rfl
  | selectRecord sourceId externalId =>
      refine ⟨database.find (sourceId, externalId), rfl, ?_⟩
      intro lock member
      refine Or.inl ?_
      change lock ∈ Option.map _ (database.find (sourceId, externalId))
      cases found : database.find (sourceId, externalId) with
      | none =>
          rw [found] at member
          cases member
      | some record =>
          rw [found] at member
          rw [List.mem_singleton.mp member]
          rfl
  | insertRecord build =>
      by_cases stored : (database.find (build 0).key).isSome
      · refine ⟨.error integrityError, ?_, by rintro lock ⟨⟩⟩
        change if _ then _ else _
        rw [if_pos stored]
      · rcases exists_fresh_id database taken with ⟨id, fresh, notTaken⟩
        refine ⟨.ok id, ?_, ?_⟩
        · change if _ then _ else _
          rw [if_neg stored]
          exact ⟨id, rfl, fresh⟩
        · intro lock member
          rcases List.mem_pair.mp member with rfl | rfl
          · exact Or.inl rfl
          · exact Or.inr notTaken
  | updateRecord => exact ⟨(), trivial, by rintro lock ⟨⟩⟩
  | insertEvent => exact ⟨(), trivial, by rintro lock ⟨⟩⟩
  | selectFetchState sourceId =>
      refine ⟨database.findState sourceId, rfl, ?_⟩
      intro lock member
      refine Or.inl ?_
      change lock ∈ Option.map _ (database.findState sourceId)
      cases found : database.findState sourceId with
      | none =>
          rw [found] at member
          cases member
      | some state =>
          rw [found] at member
          rw [List.mem_singleton.mp member]
          rfl
  | insertFetchState state =>
      by_cases stored : (database.findState state.sourceId).isSome
      · refine ⟨.error integrityError, ?_, by rintro lock ⟨⟩⟩
        change if _ then _ else _
        rw [if_pos stored]
      · refine ⟨.ok (), ?_, ?_⟩
        · change if _ then _ else _
          rw [if_neg stored]
        · intro lock member
          rw [List.mem_singleton.mp member]
          exact Or.inl rfl
  | updateFetchState => exact ⟨(), trivial, by rintro lock ⟨⟩⟩
  | scanActiveRecords sourceId =>
      exact ⟨_, List.Perm.refl _, by rintro lock ⟨⟩⟩
  | lockActiveRecord sourceId id =>
      refine ⟨database.activeRecord sourceId id, rfl, ?_⟩
      intro lock member
      rw [List.mem_singleton.mp member]
      exact Or.inl rfl

/-! ## Before anybody commits -/

section Rivals

variable (hashtext : String → ℤ) (sha256 : ByteArray → String)
variable (requests : Side → Request) (database : Database)

/-- Before the first statements of two requests. -/
abbrev rivals : RivalState :=
  begin database fun side => (requests side).program sha256

/-- What is known as long as nobody has committed. -/
abbrev BeforeCommit (state : RivalState) : Prop :=
  Uncommitted (server hashtext) (fun side => (requests side).discipline)
    (fun side => (requests side).Ends) database
    (fun side => Fits hashtext (requests side) database) state

/-- What is known of a worker which runs alone. -/
structure Running (request : Request) (keeps : Journal → Prop)
    (program : StatementProgram Unit) (history : StatementHistory) :
    Prop where
  fits : Fits hashtext request database history
  follows : Follows request.discipline request.Ends history program
  keeps : keeps (journal history)

/-- A property of journals which statements keep until the worker stops. -/
def KeptUntil (request : Request) (stops : StatementProgram Unit → Prop)
    (keeps : Journal → Prop) : Prop :=
  ∀ command next history (reply : command.Reply),
    Fits hashtext request database history →
      request.Allows (journal history) command →
        ¬ stops (.perform command next) →
          StatementAnswers command
              ((server hashtext).view database history) reply →
            keeps (journal history) →
              keeps ((journal history).after command reply)

/-- Both workers are active. -/
structure Rivalry (side other : Side) (state : RivalState)
    (program : StatementProgram Unit) (history : StatementHistory)
    (otherProgram : StatementProgram Unit)
    (otherHistory : StatementHistory) : Prop where
  reached : Reached (server hashtext) (rivals sha256 requests database) state
  different : other ≠ side
  active : state.transactions side = .active program history
  otherActive :
    state.transactions other = .active otherProgram otherHistory

variable {hashtext sha256 requests database}
variable {side other : Side} {state : RivalState}
variable {program otherProgram : StatementProgram Unit}
variable {history otherHistory : StatementHistory}

/-- A worker goes on running. -/
theorem Running.perform
    {request : Request} {stops : StatementProgram Unit → Prop}
    {keeps : Journal → Prop} {command : StatementCommand}
    {next : command.Reply → StatementProgram Unit}
    (running :
      Running hashtext database request keeps (.perform command next)
        history)
    (kept : KeptUntil hashtext database request stops keeps)
    (goesOn : ¬ stops (.perform command next)) {reply : command.Reply}
    (answers :
      StatementAnswers command ((server hashtext).view database history)
        reply) :
    Running hashtext database request keeps (next reply)
      (history ++ [⟨command, reply⟩]) := by
  rcases running with ⟨fits, ⟨allowed, follows⟩, isKept⟩
  rcases keeps_fits history command reply fits allowed answers with
    ⟨expected, stillFits⟩
  refine ⟨stillFits, follows reply expected, ?_⟩
  rw [journal_concat]
  exact kept command next history reply fits allowed goesOn answers isKept

theorem rivalry_begin (different : other ≠ side) :
    Rivalry hashtext sha256 requests database side other
      (rivals sha256 requests database) ((requests side).program sha256) []
      ((requests other).program sha256) [] :=
  ⟨Relation.ReflTransGen.refl, different, rfl, rfl⟩

namespace Rivalry

variable (rivalry :
  Rivalry hashtext sha256 requests database side other state program history
    otherProgram otherHistory)

include rivalry

theorem nobody (whichever : Side) :
    state.transactions whichever ≠ .committed := by
  by_cases isSide : whichever = side
  · rw [isSide, rivalry.active]
    rintro ⟨⟩
  · rw [Side.eq_of_ne rivalry.different isSide, rivalry.otherActive]
    rintro ⟨⟩

theorem before (unique : database.Unique) :
    BeforeCommit hashtext requests database state :=
  rivalry.reached.uncommitted (fun _ => keeps_fits) (fun _ => fits_nil unique)
    (fun whichever => follows_program sha256 (requests whichever))
    rivalry.nobody

theorem fits (unique : database.Unique) :
    Fits hashtext (requests side) database history :=
  ((rivalry.before unique).active side _ _ rivalry.active).1

theorem otherFits (unique : database.Unique) :
    Fits hashtext (requests other) database otherHistory :=
  ((rivalry.before unique).active other _ _ rivalry.otherActive).1

/-- The workers hold different locks. -/
theorem disjoint :
    ∀ lock ∈ (server hashtext).locks history,
      lock ∉ (server hashtext).locks otherHistory := by
  intro lock member
  exact rivalry.reached.exclusive.disjoint rivalry.different rivalry.active
    rivalry.otherActive member

theorem swap :
    Rivalry hashtext sha256 requests database other side state otherProgram
      otherHistory program history :=
  ⟨rivalry.reached, rivalry.different.symm, rivalry.otherActive,
    rivalry.active⟩

/-- Why a worker waits for the other one. -/
theorem waitsFor
    (unique : database.Unique)
    (sameSource :
      (requests other).sourceId = (requests side).sourceId)
    (waits : Waits (server hashtext) state side other) :
    WaitsFor hashtext database (requests side) (journal history)
      (journal otherHistory) := by
  rcases waits with
    ⟨command, next, ownHistory, ownActive, lock, demanded, _, held⟩
  have before := rivalry.before unique
  have same := rivalry.active.symm.trans ownActive
  cases same
  rcases before.active side _ _ ownActive with ⟨fits, allowed, _⟩
  rw [before.store] at demanded
  rw [rivalry.otherActive] at held
  exact waitsFor_of_demand fits (rivalry.otherFits unique) sameSource
    rivalry.disjoint allowed demanded held

/-- A lock is free for a worker when the other one does not hold it. -/
theorem free_of_not_held
    {lock : DatabaseLock}
    (notHeld : lock ∉ (server hashtext).locks otherHistory) :
    Free (server hashtext) state side lock := by
  intro holder different held
  rw [Side.eq_of_ne rivalry.different different, rivalry.otherActive] at held
  exact notHeld held

/-- A worker takes a step when the other one holds no locks. -/
theorem perform
    {command : StatementCommand}
    {next : command.Reply → StatementProgram Unit}
    (isNext : program = .perform command next)
    (noLocks : (server hashtext).locks otherHistory = [])
    (reply : command.Reply)
    (answers :
      StatementAnswers command ((server hashtext).view state.store history)
        reply) :
    Rivalry hashtext sha256 requests database side other
      (state.set side
        (.active (next reply) (history ++ [⟨command, reply⟩])))
      (next reply) (history ++ [⟨command, reply⟩]) otherProgram
      otherHistory := by
  have free (lock : DatabaseLock) : Free (server hashtext) state side lock := by
    refine rivalry.free_of_not_held ?_
    rw [noLocks]
    exact List.not_mem_nil
  have active := rivalry.active
  rw [isNext] at active
  refine ⟨rivalry.reached.tail ⟨side, ?_⟩, rivalry.different,
    State.set_self _ _, ?_⟩
  · exact .perform reply active (fun lock _ => free lock) answers
      fun lock _ => free lock
  · rw [State.set_other _ _ rivalry.different]
    exact rivalry.otherActive

/-- Nobody waits for a worker without locks. -/
theorem not_waits
    (noLocks : (server hashtext).locks otherHistory = []) :
    ¬ Waits (server hashtext) state side other := by
  rintro ⟨_, _, _, _, lock, _, _, held⟩
  rw [rivalry.otherActive, Semantics.held, noLocks] at held
  cases held

/--
A worker may run until it stops where it is asked to, has nothing more to do,
or waits for the other one.
-/
theorem run_alone
    (unique : database.Unique) (stops : StatementProgram Unit → Prop)
    {keeps : Journal → Prop}
    (kept : KeptUntil hashtext database (requests side) stops keeps)
    (initial : keeps (journal history)) :
    ∃ later laterHistory,
      Rivalry hashtext sha256 requests database side other
          (state.set side (.active later laterHistory)) later laterHistory
          otherProgram otherHistory ∧
        history <+: laterHistory ∧
        Running hashtext database (requests side) keeps later laterHistory ∧
        (stops later ∨
          (later = .done () ∧ (requests side).Ends laterHistory ()) ∨
          Waits (server hashtext)
            (state.set side (.active later laterHistory)) side other) := by
  have before := rivalry.before unique
  rcases before.active side _ _ rivalry.active with ⟨fits, follows⟩
  have running :
      Running hashtext database (requests side) keeps program history :=
    ⟨fits, follows, initial⟩
  have goes := exists_alone (answerable_server hashtext) stops
    (fun command next earlier reply isRunning goesOn answers =>
      Running.perform isRunning kept goesOn (before.store ▸ answers))
    rivalry.active running
  rcases goes with
    ⟨later, laterHistory, reached, grows, stillRunning, stopped⟩
  refine ⟨later, laterHistory, ?_, grows, stillRunning, ?_⟩
  · refine ⟨rivalry.reached.trans reached, rivalry.different,
      State.set_self _ _, ?_⟩
    rw [State.set_other _ _ rivalry.different]
    exact rivalry.otherActive
  · rcases stopped with stopped | (⟨result, rfl⟩ | ⟨error, rfl⟩) |
      ⟨holder, waits⟩
    · exact Or.inl stopped
    · exact Or.inr (Or.inl ⟨rfl, stillRunning.follows⟩)
    · exact absurd stillRunning.follows.1 stillRunning.fits.state.unfailed
    · have different : holder ≠ side := by
        rcases waits with ⟨_, _, _, _, _, _, different, _⟩
        exact different
      rw [Side.eq_of_ne rivalry.different different] at waits
      exact Or.inr (Or.inr waits)

end Rivalry

end Rivals

/-- A request to persist no items for the source of one item. -/
def noItemsRequest : Request where
  sourceId := 1
  result :=
    { response := { body := "\x7b\x7d".toUTF8 }
      items := []
      rawResponseHash := emptyObjectDigest "\x7b\x7d".toUTF8 }
  compatible := by
    rintro item ⟨⟩

end MultisiteCrawler.Records
