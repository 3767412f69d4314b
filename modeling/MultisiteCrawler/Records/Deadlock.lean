import MultisiteCrawler.Records.Rivals

/-!
# When two collections of one source cannot deadlock

Items are locked in the order of the collection, by the hashes of their keys,
and all active rows once the fetch state has been written.  Two collections
never wait for each other exactly when they come to the same shared hash first
and lock no active row before it.
-/

namespace MultisiteCrawler.Records

open Adapters
open Foundation.Interaction
open Foundation.PythonErrors
open Foundation.Transactions

/-! ## The first shared hash -/

section Shared

variable (hashtext : String → ℤ) (request other : Request)

instance : DecidablePred (other.Shares hashtext) :=
  fun key => inferInstanceAs (Decidable (hashtext (lockKey key) ∈ _))

/-- The first hash of a request which another one locks as well. -/
def Request.firstShared : Option ℤ :=
  (request.keys.find? fun key => decide (other.Shares hashtext key)).map
    fun key => hashtext (lockKey key)

/-- The keys a request locks before it comes to a shared hash. -/
def Request.unshared : List (SourceId × String) :=
  request.keys.takeWhile fun key => decide (¬ other.Shares hashtext key)

variable {hashtext request other}

/-- Keys without a shared hash, up to any place, are unshared. -/
theorem subset_unshared
    {locked : List (SourceId × String)} (ordered : locked <+: request.keys)
    (apart : ∀ key ∈ locked, ¬ other.Shares hashtext key) :
    locked ⊆ request.unshared hashtext other := by
  rcases ordered with ⟨rest, keys⟩
  rw [Request.unshared, ← keys, List.takeWhile_append_of_pos]
  · exact List.subset_append_left _ _
  · intro key member
    exact decide_eq_true (apart key member)

/-- At a shared hash all unshared keys have been locked. -/
theorem unshared_eq
    {locked rest : List (SourceId × String)} {key : SourceId × String}
    (keys : request.keys = locked ++ key :: rest)
    (apart : ∀ earlier ∈ locked, ¬ other.Shares hashtext earlier)
    (shares : other.Shares hashtext key) :
    request.unshared hashtext other = locked := by
  rw [Request.unshared, keys, List.takeWhile_append_of_pos]
  · rw [List.takeWhile_cons, if_neg (by simpa using shares),
      List.append_nil]
  · intro earlier member
    exact decide_eq_true (apart earlier member)

/-- Before a shared hash there is the first one. -/
theorem exists_firstShared
    {locked : List (SourceId × String)} {key : SourceId × String}
    (ordered : locked <+: request.keys) (member : key ∈ locked)
    (shares : other.Shares hashtext key) :
    ∃ first ∈ locked, other.Shares hashtext first ∧
      request.firstShared hashtext other =
        some (hashtext (lockKey first)) := by
  rcases ordered with ⟨rest, keys⟩
  have isSome :
      (locked.find? fun key =>
        decide (other.Shares hashtext key)).isSome := by
    rw [List.find?_isSome]
    exact ⟨key, member, decide_eq_true shares⟩
  rcases Option.isSome_iff_exists.mp isSome with ⟨first, found⟩
  refine ⟨first, List.mem_of_find?_eq_some found, ?_, ?_⟩
  · simpa using List.find?_some found
  · rw [Request.firstShared, ← keys, List.find?_append, found]
    rfl

/-- A shared hash after unshared keys is the first one. -/
theorem firstShared_eq
    {locked rest : List (SourceId × String)} {key : SourceId × String}
    (keys : request.keys = locked ++ key :: rest)
    (apart : ∀ earlier ∈ locked, ¬ other.Shares hashtext earlier)
    (shares : other.Shares hashtext key) :
    request.firstShared hashtext other = some (hashtext (lockKey key)) := by
  have ordered : locked ++ [key] <+: request.keys := by
    rw [keys]
    exact ⟨rest, List.append_assoc _ _ _⟩
  have isLast : key ∈ locked ++ [key] :=
    List.mem_append_right _ List.mem_cons_self
  rcases exists_firstShared ordered isLast shares with
    ⟨first, isFirst, sharesFirst, firstShared⟩
  rcases List.mem_append.mp isFirst with earlier | isKey
  · exact absurd sharesFirst (apart first earlier)
  · rw [List.mem_singleton.mp isKey] at firstShared
    exact firstShared

end Shared

/-! ## Deadlocks -/

section Orders

variable (hashtext : String → ℤ) (sha256 : ByteArray → String)
variable (requests : Side → Request) (database : Database)

/-- No interleaving lets each of two workers wait for the other one. -/
def DeadlockFree : Prop :=
  ∀ state : RivalState,
    Reached (server hashtext) (rivals sha256 requests database) state →
      ¬ (Waits (server hashtext) state .left .right ∧
        Waits (server hashtext) state .right .left)

/-- Both requests meet at the same hash, after no active row. -/
structure Orderly : Prop where
  agree :
    (requests .left).firstShared hashtext (requests .right) =
      (requests .right).firstShared hashtext (requests .left)
  apart : ∀ side other, other ≠ side →
    ∀ record ∈ database.activeRecords (requests side).sourceId,
      record.key ∉ (requests side).unshared hashtext (requests other)

variable {hashtext sha256 requests database}

section Pair

variable {request other : Request}
variable {history otherHistory : StatementHistory}

/-- Nobody waits for an active row which is not locked too early. -/
theorem not_waiting_for_row
    (fits : Fits hashtext request database history)
    (otherFits : Fits hashtext other database otherHistory)
    (disjoint : ∀ lock ∈ (server hashtext).locks history,
      lock ∉ (server hashtext).locks otherHistory)
    (apart : ∀ record ∈ database.activeRecords request.sourceId,
      record.key ∉ other.unshared hashtext request)
    (written : (journal history).fetch = .written) {record : Record}
    (isActive : record ∈ database.activeRecords request.sourceId)
    (locked : record.key ∈ (journal otherHistory).locked) : False := by
  refine apart record isActive ?_
  refine subset_unshared otherFits.ordered ?_ locked
  refine apart_of_locked otherFits fits ?_ (fits.locked_of_written written)
  intro lock otherMember member
  exact disjoint lock member otherMember

/-- Two transactions which meet at the same hash do not lock others first. -/
theorem not_waiting_for_keys
    (fits : Fits hashtext request database history)
    (otherFits : Fits hashtext other database otherHistory)
    (disjoint : ∀ lock ∈ (server hashtext).locks history,
      lock ∉ (server hashtext).locks otherHistory)
    (agree :
      request.firstShared hashtext other =
        other.firstShared hashtext request)
    {key otherKey : SourceId × String} (member : key ∈ request.keys)
    (otherMember : otherKey ∈ other.keys)
    (held : ∃ locked ∈ (journal otherHistory).locked,
      hashtext (lockKey locked) = hashtext (lockKey key))
    (otherHeld : ∃ locked ∈ (journal history).locked,
      hashtext (lockKey locked) = hashtext (lockKey otherKey)) : False := by
  rcases held with ⟨otherLocked, isOtherLocked, otherSame⟩
  rcases otherHeld with ⟨locked, isLocked, same⟩
  rcases exists_firstShared fits.ordered isLocked
      (shares_of_same_hash otherMember same.symm) with
    ⟨first, isFirst, _, firstShared⟩
  rcases exists_firstShared otherFits.ordered isOtherLocked
      (shares_of_same_hash member otherSame.symm) with
    ⟨otherFirst, isOtherFirst, _, otherFirstShared⟩
  rw [firstShared, otherFirstShared] at agree
  exact hashes_apart fits.consistent otherFits.consistent disjoint isFirst
    isOtherFirst (Option.some_injective _ agree)

/-- Two transactions do not wait for each other. -/
theorem not_both_wait
    (fits : Fits hashtext request database history)
    (otherFits : Fits hashtext other database otherHistory)
    (sameSource : other.sourceId = request.sourceId)
    (disjoint : ∀ lock ∈ (server hashtext).locks history,
      lock ∉ (server hashtext).locks otherHistory)
    (agree :
      request.firstShared hashtext other =
        other.firstShared hashtext request)
    (apart : ∀ record ∈ database.activeRecords request.sourceId,
      record.key ∉ request.unshared hashtext other)
    (otherApart : ∀ record ∈ database.activeRecords request.sourceId,
      record.key ∉ other.unshared hashtext request)
    (waits :
      WaitsFor hashtext database request (journal history)
        (journal otherHistory))
    (otherWaits :
      WaitsFor hashtext database other (journal otherHistory)
        (journal history)) : False := by
  cases otherWaits with
  | active record written isActive locked =>
      rw [← sameSource] at apart
      refine not_waiting_for_row otherFits fits ?_ apart written isActive
        locked
      intro lock otherMember member
      exact disjoint lock member otherMember
  | key otherKey otherRest otherUnasked otherNext otherHeld =>
      cases waits with
      | active record written isActive locked =>
          exact not_waiting_for_row fits otherFits disjoint otherApart
            written isActive locked
      | key key rest unasked isNext held =>
          have member : key ∈ request.keys := by
            rw [isNext]
            exact List.mem_append_right _ List.mem_cons_self
          have otherMember : otherKey ∈ other.keys := by
            rw [otherNext]
            exact List.mem_append_right _ List.mem_cons_self
          exact not_waiting_for_keys fits otherFits disjoint agree member
            otherMember held otherHeld
      | row _ otherWritten =>
          exact not_stated (Or.inl otherUnasked) (Or.inr otherWritten)
      | state _ _ otherStated =>
          exact not_stated (Or.inl otherUnasked) otherStated
  | row otherUnasked written =>
      cases waits with
      | active record _ isActive locked =>
          exact not_waiting_for_row fits otherFits disjoint otherApart
            written isActive locked
      | key _ _ unasked =>
          exact not_stated (Or.inl unasked) (Or.inr written)
      | row unasked => exact not_stated (Or.inl unasked) (Or.inr written)
      | state unwritten => exact not_stated unwritten (Or.inr written)
  | state otherUnwritten _ stated =>
      cases waits with
      | active record written isActive locked =>
          exact not_waiting_for_row fits otherFits disjoint otherApart
            written isActive locked
      | key _ _ unasked => exact not_stated (Or.inl unasked) stated
      | row unasked => exact not_stated (Or.inl unasked) stated
      | state unwritten => exact not_stated unwritten stated

end Pair

/-- A worker which waits has not ended. -/
theorem exists_active_of_waits
    {state : RivalState} {side other : Side}
    (waits : Waits (server hashtext) state side other) :
    ∃ program history, state.transactions side = .active program history := by
  rcases waits with ⟨command, next, history, active, _⟩
  exact ⟨_, history, active⟩

theorem Orderly.deadlockFree
    (orderly : Orderly hashtext requests database)
    (unique : database.Unique)
    (sameSource :
      (requests .right).sourceId = (requests .left).sourceId) :
    DeadlockFree hashtext sha256 requests database := by
  rintro state reached ⟨leftWaits, rightWaits⟩
  have different : Side.right ≠ Side.left := by
    rintro ⟨⟩
  rcases exists_active_of_waits leftWaits with ⟨program, history, active⟩
  rcases exists_active_of_waits rightWaits with
    ⟨otherProgram, otherHistory, otherActive⟩
  have rivalry :
      Rivalry hashtext sha256 requests database .left .right state program
        history otherProgram otherHistory :=
    ⟨reached, different, active, otherActive⟩
  have apart := orderly.apart .right .left different.symm
  rw [sameSource] at apart
  exact not_both_wait (rivalry.fits unique) (rivalry.otherFits unique)
    sameSource rivalry.disjoint orderly.agree
    (orderly.apart .left .right different) apart
    (rivalry.waitsFor unique sameSource leftWaits)
    (rivalry.swap.waitsFor unique sameSource.symm rightWaits)

/-! ## Reaching a deadlock -/

section Reach

variable {side other : Side}

/-- Two workers which wait for each other. -/
theorem not_deadlockFree
    {state : RivalState} (different : other ≠ side)
    (reached :
      Reached (server hashtext) (rivals sha256 requests database) state)
    (waits : Waits (server hashtext) state side other)
    (otherWaits : Waits (server hashtext) state other side) :
    ¬ DeadlockFree hashtext sha256 requests database := by
  intro deadlockFree
  refine deadlockFree state reached ?_
  cases side with
  | left =>
      cases other with
      | left => exact absurd rfl different
      | right => exact ⟨waits, otherWaits⟩
  | right =>
      cases other with
      | left => exact ⟨otherWaits, waits⟩
      | right => exact absurd rfl different

/--
One worker has stopped in a place where the other one cannot end, and, once
the other one waits, cannot end itself.
-/
theorem not_deadlockFree_of_blocked
    (unique : database.Unique)
    (sameSource : (requests side).sourceId = (requests other).sourceId)
    {state : RivalState} {program otherProgram : StatementProgram Unit}
    {history : StatementHistory}
    (rivalry :
      Rivalry hashtext sha256 requests database side other state program
        history otherProgram [])
    (unfinished : ∀ otherHistory,
      Fits hashtext (requests other) database otherHistory →
        (∀ lock ∈ (server hashtext).locks otherHistory,
            lock ∉ (server hashtext).locks history) →
          ¬ (requests other).Ends otherHistory ())
    (blocked : ∀ otherHistory later,
      Fits hashtext (requests other) database otherHistory →
        WaitsFor hashtext database (requests other)
            (journal otherHistory) (journal history) →
          Fits hashtext (requests side) database later →
            (∀ lock ∈ (server hashtext).locks later,
                lock ∉ (server hashtext).locks otherHistory) →
              ¬ (requests side).Ends later ()) :
    ¬ DeadlockFree hashtext sha256 requests database := by
  have never (request : Request) :
      KeptUntil hashtext database request (fun _ => False) fun _ => True :=
    fun _ _ _ _ _ _ _ _ _ => trivial
  rcases rivalry.swap.run_alone unique (fun _ => False) (never _) trivial with
    ⟨otherLater, otherHistory, waiting, _, otherRunning,
      stopped | ⟨_, ended⟩ | otherWaits⟩
  · exact absurd stopped id
  · exact absurd ended
      (unfinished otherHistory otherRunning.fits waiting.disjoint)
  have waitsFor := waiting.waitsFor unique sameSource otherWaits
  rcases waiting.swap.run_alone unique (fun _ => False) (never _) trivial with
    ⟨later, laterHistory, both, grows, running,
      stopped | ⟨_, ended⟩ | waits⟩
  · exact absurd stopped id
  · exact absurd ended
      (blocked otherHistory laterHistory otherRunning.fits waitsFor
        running.fits both.disjoint)
  · exact not_deadlockFree rivalry.different both.reached waits
      (otherWaits.set waiting.otherActive grows)

section Boundary

variable (hashtext) (request : Request)

/-- A worker is about to lock a shared hash, or has locked all keys. -/
def AtBoundary : StatementProgram Unit → Prop
  | .perform (.lockRecordKey sourceId externalId) _ =>
      request.Shares hashtext (sourceId, externalId)
  | .perform (.selectFetchState _) _ => True
  | _ => False

/-- No shared hash has been locked. -/
structure Journal.Early (journal : Journal) : Prop where
  unasked : journal.fetch = .unasked
  apart : ∀ key ∈ journal.locked, ¬ request.Shares hashtext key

variable {hashtext request}

/-- A worker locks no shared hash before it comes to one. -/
theorem early_kept (own : Request) :
    KeptUntil hashtext database own (AtBoundary hashtext request)
      (Journal.Early hashtext request) := by
  intro command next history reply _ allowed goesOn _ early
  have ⟨unasked, apart⟩ := early
  cases command with
  | lockRecordKey sourceId externalId =>
      refine ⟨unasked, ?_⟩
      intro key member
      rcases List.mem_append.mp member with earlier | now
      · exact apart key earlier
      · rw [List.mem_singleton.mp now]
        exact goesOn
  | selectRecord => cases reply <;> exact ⟨unasked, apart⟩
  | insertRecord => cases reply <;> exact ⟨unasked, apart⟩
  | selectFetchState => exact absurd trivial goesOn
  | insertFetchState =>
      rcases allowed with ⟨_, absent, _⟩
      exact absurd (unasked.symm.trans absent) (by decide)
  | updateFetchState =>
      rcases allowed with ⟨_, present, _⟩
      exact absurd (unasked.symm.trans present) (by decide)
  | lockActiveRecord => cases reply <;> exact ⟨unasked, apart⟩
  | _ => exact ⟨unasked, apart⟩

/-- At its boundary a worker has locked its unshared keys. -/
theorem locked_of_boundary
    {own : Request} {program : StatementProgram Unit}
    {history : StatementHistory}
    (running :
      Running hashtext database own (Journal.Early hashtext request) program
        history)
    (atBoundary : AtBoundary hashtext request program) :
    (journal history).selected = (journal history).locked ∧
      own.unshared hashtext request ⊆ (journal history).locked := by
  cases program with
  | done => exact atBoundary.elim
  | fail => exact atBoundary.elim
  | perform command next =>
      cases command with
      | lockRecordKey sourceId externalId =>
          rcases running.follows with ⟨⟨between, _, rest, keys⟩, _⟩
          rw [unshared_eq keys running.keeps.apart atBoundary]
          exact ⟨between.selected, List.Subset.refl _⟩
      | selectFetchState =>
          rcases running.follows with ⟨⟨between, _⟩, _⟩
          refine ⟨between.selected.trans between.locked.symm, ?_⟩
          rw [between.locked]
          exact (List.takeWhile_prefix _).subset
      | _ => exact atBoundary.elim

/-- A worker which shares a hash stops before the first shared one. -/
theorem lockRecordKey_of_boundary
    {own : Request} {program : StatementProgram Unit}
    {history : StatementHistory}
    (running :
      Running hashtext database own (Journal.Early hashtext request) program
        history)
    (atBoundary : AtBoundary hashtext request program)
    {shared : SourceId × String} (isShared : shared ∈ own.keys)
    (shares : request.Shares hashtext shared) :
    ∃ sourceId externalId next,
      program = .perform (.lockRecordKey sourceId externalId) next ∧
        (∃ rest, own.keys =
          (journal history).locked ++ (sourceId, externalId) :: rest) ∧
        own.firstShared hashtext request =
          some (hashtext (lockKey (sourceId, externalId))) := by
  cases program with
  | done => exact atBoundary.elim
  | fail => exact atBoundary.elim
  | perform command next =>
      cases command with
      | lockRecordKey sourceId externalId =>
          rcases running.follows with ⟨⟨_, _, rest, keys⟩, _⟩
          refine ⟨sourceId, externalId, next, rfl, ⟨rest, keys⟩, ?_⟩
          exact firstShared_eq keys running.keeps.apart atBoundary
      | selectFetchState sourceId =>
          rcases running.follows with ⟨⟨between, _⟩, _⟩
          rw [← between.locked] at isShared
          exact absurd shares (running.keeps.apart shared isShared)
      | _ => exact atBoundary.elim

end Boundary

variable (hashtext sha256 requests) in
/-- A worker alone comes to its boundary. -/
theorem exists_boundary
    (unique : database.Unique) (different : other ≠ side) :
    ∃ state program history,
      Rivalry hashtext sha256 requests database side other state program
          history ((requests other).program sha256) [] ∧
        Running hashtext database (requests side)
            (Journal.Early hashtext (requests other)) program history ∧
          AtBoundary hashtext (requests other) program := by
  have start :
      Rivalry hashtext sha256 requests database side other
        (rivals sha256 requests database) ((requests side).program sha256) []
        ((requests other).program sha256) [] :=
    rivalry_begin different
  have nothingLocked :
      (journal []).Early hashtext (requests other) :=
    ⟨rfl, by rintro key ⟨⟩⟩
  rcases start.run_alone unique _ (early_kept _)
      nothingLocked with
    ⟨program, history, rivalry, _, running,
      stopped | ⟨_, ended⟩ | waits⟩
  · exact ⟨_, program, history, rivalry, running, stopped⟩
  · exact (not_stated (Or.inl running.keeps.unasked)
      (Or.inr ended.1.fetch)).elim
  · exact absurd waits (rivalry.not_waits rfl)

/-- An active row which is locked too early lets workers deadlock. -/
theorem not_deadlockFree_of_active
    (unique : database.Unique) (different : other ≠ side)
    (sameSource : (requests side).sourceId = (requests other).sourceId)
    {record : Record}
    (isActive :
      record ∈ database.activeRecords (requests other).sourceId)
    (early :
      record.key ∈ (requests side).unshared hashtext (requests other)) :
    ¬ DeadlockFree hashtext sha256 requests database := by
  rcases exists_boundary hashtext sha256 requests unique different with
    ⟨state, program, history, rivalry, running, atBoundary⟩
  have ⟨selected, unshared⟩ := locked_of_boundary running atBoundary
  have isSelected : record.key ∈ (journal history).selected := by
    rw [selected]
    exact unshared early
  have rowHeld :
      .recordRow record.id ∈ (server hashtext).locks history :=
    running.fits.rows.selected record (mem_activeRecords_iff.mp isActive).1
      isSelected
  have unasked := running.keeps.unasked
  refine not_deadlockFree_of_blocked unique sameSource rivalry ?_ ?_
  · rintro otherHistory otherFits disjoint ⟨_, ids, isScanned, held⟩
    rcases otherFits.active.all ids isScanned record isActive with
      locked | isFound
    · exact disjoint _ locked rowHeld
    · have locked := otherFits.rows.reread _ (held _ isFound)
      exact disjoint _ locked rowHeld
  · rintro otherHistory later otherFits otherWaits fits disjoint ⟨ended, _⟩
    cases otherWaits with
    | key key rest _ isNext held =>
        rcases held with ⟨locked, isLocked, same⟩
        refine running.keeps.apart locked isLocked ?_
        refine shares_of_same_hash ?_ same.symm
        rw [isNext]
        exact List.mem_append_right _ List.mem_cons_self
    | row _ written => exact not_stated (Or.inl unasked) (Or.inr written)
    | state _ _ stated => exact not_stated (Or.inl unasked) stated
    | active _ otherWritten =>
        exact not_both_stated fits otherFits sameSource.symm disjoint
          (Or.inr ended.fetch) (Or.inr otherWritten)

/-- Workers which come to different shared hashes first can deadlock. -/
theorem not_deadlockFree_of_disagreement
    (unique : database.Unique) (different : other ≠ side)
    (sameSource : (requests side).sourceId = (requests other).sourceId)
    (disagree :
      (requests side).firstShared hashtext (requests other) ≠
        (requests other).firstShared hashtext (requests side))
    {shared : SourceId × String} (isShared : shared ∈ (requests side).keys)
    (shares : (requests other).Shares hashtext shared) :
    ¬ DeadlockFree hashtext sha256 requests database := by
  rcases exists_boundary hashtext sha256 requests unique different with
    ⟨state, program, history, rivalry, running, atBoundary⟩
  rcases lockRecordKey_of_boundary running atBoundary isShared shares with
    ⟨sourceId, externalId, next, rfl, ⟨rest, keys⟩, firstShared⟩
  have sharesKey :
      (requests other).Shares hashtext (sourceId, externalId) := atBoundary
  have taken := rivalry.perform rfl rfl () trivial
  have isLocked :
      (sourceId, externalId) ∈
        (journal
          (history ++ [⟨.lockRecordKey sourceId externalId, ()⟩])).locked := by
    rw [journal_concat]
    exact List.mem_append_right _ List.mem_cons_self
  have unasked :
      (journal (history ++
        [⟨.lockRecordKey sourceId externalId, ()⟩])).fetch = .unasked := by
    rw [journal_concat]
    exact running.keeps.unasked
  have takenFits := taken.fits unique
  refine not_deadlockFree_of_blocked unique sameSource taken ?_ ?_
  · rintro otherHistory otherFits disjoint ⟨ended, _⟩
    exact apart_of_locked takenFits otherFits
      (fun lock member otherMember => disjoint lock otherMember member)
      ended.locked _ isLocked sharesKey
  · rintro otherHistory later otherFits otherWaits fits disjoint ⟨ended, _⟩
    cases otherWaits with
    | key otherKey otherRest _ otherNext held =>
        have otherMember : otherKey ∈ (requests other).keys := by
          rw [otherNext]
          exact List.mem_append_right _ List.mem_cons_self
        have member : (sourceId, externalId) ∈ (requests side).keys := by
          rw [keys]
          exact List.mem_append_right _ List.mem_cons_self
        rcases held with ⟨locked, isHeld, same⟩
        rw [journal_concat] at isHeld
        rcases List.mem_append.mp isHeld with earlier | now
        · exact running.keeps.apart locked earlier
            (shares_of_same_hash otherMember same.symm)
        rw [List.mem_singleton.mp now] at same
        have ordered :
            (journal otherHistory).locked ++ [otherKey] <+:
              (requests other).keys := by
          rw [otherNext]
          exact ⟨otherRest, List.append_assoc _ _ _⟩
        rcases exists_firstShared ordered
            (List.mem_append_right _ List.mem_cons_self)
            (shares_of_same_hash member same) with
          ⟨first, isFirst, sharesFirst, otherFirstShared⟩
        rcases List.mem_append.mp isFirst with otherLocked | isOtherKey
        · exact apart_of_locked otherFits fits
            (fun lock otherHeld isHeld => disjoint lock isHeld otherHeld)
            ended.locked first otherLocked sharesFirst
        · rw [List.mem_singleton.mp isOtherKey] at otherFirstShared
          refine disagree ?_
          rw [firstShared, otherFirstShared, same]
    | row _ written => exact not_stated (Or.inl unasked) (Or.inr written)
    | state _ _ stated => exact not_stated (Or.inl unasked) stated
    | active _ otherWritten =>
        exact not_both_stated fits otherFits sameSource.symm disjoint
          (Or.inr ended.fetch) (Or.inr otherWritten)

/-- Workers which share a hash come to a first shared one. -/
theorem exists_shared
    {own request : Request}
    (disagree :
      own.firstShared hashtext request ≠ request.firstShared hashtext own) :
    ∃ shared ∈ own.keys, request.Shares hashtext shared := by
  by_contra! none
  have nothing (first second : Request)
      (apart : ∀ key ∈ first.keys, ¬ second.Shares hashtext key) :
      first.firstShared hashtext second = .none := by
    rw [Request.firstShared, Option.map_eq_none_iff, List.find?_eq_none]
    intro key member
    simpa using apart key member
  refine disagree ?_
  rw [nothing own request none, nothing request own]
  intro key member shares
  rcases exists_shares_symm ⟨key, member, shares⟩ with
    ⟨ownKey, ownMember, ownShares⟩
  exact none ownKey ownMember ownShares

end Reach

/--
Two workers persist collections of the same source, to any tables.  No
interleaving of their statements lets each wait for the other one, exactly
when both collections come to the same shared hash first, if to any, and no
active record of the source has the key of an item before it.
-/
theorem deadlockFree_iff_orderly (hashtext : String → ℤ)
    (sha256 : ByteArray → String) (requests : Side → Request)
    {database : Database} (unique : database.Unique)
    (sameSource :
      (requests .right).sourceId = (requests .left).sourceId) :
    DeadlockFree hashtext sha256 requests database ↔
      Orderly hashtext requests database := by
  have different : Side.right ≠ Side.left := by
    rintro ⟨⟩
  constructor
  · intro deadlockFree
    constructor
    · by_contra disagree
      rcases exists_shared disagree with ⟨shared, isShared, shares⟩
      exact not_deadlockFree_of_disagreement unique different
        sameSource.symm disagree isShared shares deadlockFree
    · intro side other isOther record isActive early
      have same : (requests side).sourceId = (requests other).sourceId := by
        cases side with
        | left =>
            rw [Side.eq_of_ne different isOther]
            exact sameSource.symm
        | right =>
            rw [Side.eq_of_ne different.symm isOther]
            exact sameSource
      rw [same] at isActive
      exact not_deadlockFree_of_active unique isOther same isActive early
        deadlockFree
  · intro orderly
    exact orderly.deadlockFree unique sameSource

end Orders

/-- Two workers who persist the same item do not deadlock. -/
theorem deadlockFree_sameItem :
    DeadlockFree oneHash emptyObjectDigest (fun _ => oneItemRequest)
      .empty := by
  refine (deadlockFree_iff_orderly oneHash emptyObjectDigest _
    announced_empty.toUnique rfl).mpr ⟨rfl, ?_⟩
  rintro side other _ record ⟨⟩

/-- One worker persists an item, the other one none. -/
def oneAgainstNone : Side → Request
  | .left => oneItemRequest
  | .right => noItemsRequest

/-- Tables in which the item has an active record. -/
def oneActiveRecord : Database where
  records :=
    [{  id := 0
        sourceId := 1
        externalId := "one"
        payload := []
        contentHash := emptyObjectDigest "\x7b\x7d".toUTF8
        isActive := true
        lastSeenAt := none
        missingCount := 0 }]
  events := []
  fetchStates := []

theorem unique_oneActiveRecord : oneActiveRecord.Unique :=
  ⟨List.nodup_singleton _, List.nodup_singleton _⟩

/--
The first worker locks the record of its item.  The second one writes the fetch
state and waits for the active record, and the first one for the fetch state.
-/
theorem deadlock_oneAgainstNone :
    oneActiveRecord.Unique ∧
      (oneAgainstNone .right).sourceId = (oneAgainstNone .left).sourceId ∧
      ∃ state : RivalState,
        Reached (server oneHash)
            (rivals emptyObjectDigest oneAgainstNone oneActiveRecord) state ∧
          Waits (server oneHash) state .left .right ∧
          Waits (server oneHash) state .right .left := by
  refine ⟨unique_oneActiveRecord, rfl, ?_⟩
  have different : Side.right ≠ Side.left := by
    rintro ⟨⟩
  have isActive :
      oneActiveRecord.records.head (List.cons_ne_nil _ _) ∈
        oneActiveRecord.activeRecords (oneAgainstNone .right).sourceId :=
    mem_activeRecords_iff.mpr ⟨List.mem_cons_self, rfl, rfl⟩
  by_contra! free
  refine not_deadlockFree_of_active unique_oneActiveRecord different rfl
    isActive ?_ fun state reached waits =>
      free state reached waits.1 waits.2
  exact List.mem_cons_self

end MultisiteCrawler.Records
