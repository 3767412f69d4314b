import MultisiteCrawler.Foundation.ExpiringStore
import MultisiteCrawler.Foundation.PythonErrors

/-!
# Renewable leases

A lease is a key which holds its owner's token for a while.  Acquiring it
needs the key to be absent; renewing and releasing it need the key to hold the
token.  Any number of leases share one store and one clock, and their
operations come in any order.

What an owner believes is recorded beside the store: the time of its last
successful acquisition or renewal, until it releases.  `Owned` ties this
belief to the stored deadlines and is kept by every step.
-/

namespace MultisiteCrawler.Locking

open Foundation.ExpiringStore
open Foundation.PythonErrors

/-- The default lock key for a single source task. -/
def sourceLockKey (sourceId : String) : String :=
  "crawler:lock:source:" ++ sourceId

/-- A token-owned lease that can only be renewed or released by its owner. -/
structure RedisLease where
  key : String
  ttlSeconds : ℤ
  token : String
  ttlSeconds_pos : 0 < ttlSeconds

/--
The constructor of a lease.  A missing or empty token is replaced by a fresh
one.
-/
def RedisLease.create (key : String) (ttlSeconds : ℤ)
    (token : Option String) (fresh : String) : Except PyError RedisLease :=
  if positive : 0 < ttlSeconds then
    .ok
      ⟨key, ttlSeconds,
        match token with
        | some given => if given.isEmpty then fresh else given
        | none => fresh,
        positive⟩
  else .error (.value "ttl_seconds must be positive")

/-- The lease is the stored owner of its key. -/
def RedisLease.Owns {Time : Type} [LinearOrder Time] (lease : RedisLease)
    (now : Time)
    (store : Store String String Time) : Prop :=
  read now lease.key store = some lease.token

instance {Time : Type} [LinearOrder Time] (lease : RedisLease) (now : Time)
    (store : Store String String Time) : Decidable (lease.Owns now store) := by
  unfold RedisLease.Owns
  infer_instance

/-- Two owners of one key are the same. -/
theorem index_eq_of_owns
    {Index Time : Type} [LinearOrder Time] {leases : Index → RedisLease}
    (distinct : Function.Injective fun index => (leases index).token)
    {now : Time} {store : Store String String Time} {first second : Index}
    (sameKey : (leases first).key = (leases second).key)
    (firstOwns : (leases first).Owns now store)
    (secondOwns : (leases second).Owns now store) :
    first = second := by
  unfold RedisLease.Owns at firstOwns secondOwns
  rw [sameKey, secondOwns] at firstOwns
  exact distinct (Option.some.inj firstOwns).symm

variable {Time : Type} [CommRing Time] [LinearOrder Time]

namespace RedisLease

/-- `acquire`. -/
def acquire (lease : RedisLease) (now : Time)
    (store : Store String String Time) : Bool × Store String String Time :=
  setIfAbsent now lease.key lease.token lease.ttlSeconds store

/-- `renew`. -/
def renew (lease : RedisLease) (now : Time)
    (store : Store String String Time) : Bool × Store String String Time :=
  compareExpire now lease.key lease.token lease.ttlSeconds store

/-- `release`. -/
def release (lease : RedisLease) (now : Time)
    (store : Store String String Time) : Bool × Store String String Time :=
  compareDelete now lease.key lease.token store

end RedisLease

/-! ## Many leases on one store -/

/-- The clock, the store and what every owner believes. -/
structure LeaseState (Index Time : Type) where
  now : Time
  store : Store String String Time
  touched : Index → Option Time

/-- One operation of one lease, or the passing of time. -/
inductive LeaseAction (Index Time : Type) where
  | acquire (index : Index)
  | renew (index : Index)
  | release (index : Index)
  | wait (later : Time)
deriving DecidableEq, Repr

variable {Index : Type} (leases : Index → RedisLease)

/-- The state after one action.  The clock never goes back. -/
def leaseStep [DecidableEq Index] (state : LeaseState Index Time) :
    LeaseAction Index Time → LeaseState Index Time
  | .acquire index =>
      match (leases index).acquire state.now state.store with
      | (true, store) =>
          { state with
            store := store
            touched := Function.update state.touched index (some state.now) }
      | (false, store) => { state with store := store }
  | .renew index =>
      match (leases index).renew state.now state.store with
      | (true, store) =>
          { state with
            store := store
            touched :=
              Function.update state.touched index
                ((state.touched index).map fun _ => state.now) }
      | (false, store) => { state with store := store }
  | .release index =>
      { state with
        store := ((leases index).release state.now state.store).2
        touched := Function.update state.touched index none }
  | .wait later => { state with now := max state.now later }

/-- The state after a sequence of actions. -/
def leaseRun [DecidableEq Index] (state : LeaseState Index Time)
    (actions : List (LeaseAction Index Time)) : LeaseState Index Time :=
  actions.foldl (leaseStep leases) state

/-- When a lease touched at a time expires. -/
def expiry (lease : RedisLease) (touched : Time) : Time :=
  touched + lease.ttlSeconds

/--
The lease is current: it was acquired and not released, and its lifetime has
not passed since it was last acquired or renewed.
-/
def Current (state : LeaseState Index Time) (index : Index) : Prop :=
  ∃ touched,
    state.touched index = some touched ∧
      state.now < expiry (leases index) touched

/-- Nobody has acquired anything yet. -/
structure Fresh (state : LeaseState Index Time) : Prop where
  untouched : ∀ index, state.touched index = none
  unowned : ∀ index, ¬ (leases index).Owns state.now state.store

/--
The store and the beliefs agree.  A current lease is stored with its token and
its deadline, and only current leases are stored owners.
-/
structure Owned (state : LeaseState Index Time) : Prop where
  stored : ∀ index touched,
    state.touched index = some touched →
      state.now < expiry (leases index) touched →
        state.store (leases index).key =
          some
            ⟨(leases index).token, some (expiry (leases index) touched)⟩
  current : ∀ index,
    (leases index).Owns state.now state.store →
      Current leases state index

theorem Fresh.owned {state : LeaseState Index Time}
    (fresh : Fresh leases state) : Owned leases state where
  stored index touched isTouched := by
    rw [fresh.untouched index] at isTouched
    cases isTouched
  current index owns := absurd owns (fresh.unowned index)

/-- A current lease owns its key. -/
theorem Owned.owns
    {leases : Index → RedisLease} {state : LeaseState Index Time}
    (owned : Owned leases state) {index : Index}
    (current : Current leases state index) :
    (leases index).Owns state.now state.store := by
  rcases current with ⟨touched, isTouched, live⟩
  rw [RedisLease.Owns, read_eq_ite (owned.stored index touched isTouched live),
    if_pos]
  exact (Entry.live_deadline_iff _ _ _).mpr live

variable [DecidableEq Index]

theorem Owned.release
    {leases : Index → RedisLease} {state : LeaseState Index Time}
    (distinct : Function.Injective fun index => (leases index).token)
    (owned : Owned leases state) (index : Index) :
    Owned leases (leaseStep leases state (.release index)) := by
  unfold leaseStep RedisLease.release
  by_cases owns : (leases index).Owns state.now state.store
  · have released :
        compareDelete state.now (leases index).key (leases index).token
            state.store =
          (true, erase (leases index).key state.store) :=
      if_pos owns
    simp only [released]
    constructor
    · intro other touched isTouched live
      dsimp only at isTouched live ⊢
      by_cases same : other = index
      · subst same
        rw [Function.update_self] at isTouched
        cases isTouched
      · rw [Function.update_of_ne same] at isTouched
        have otherOwns := owned.owns ⟨touched, isTouched, live⟩
        have otherKey : (leases other).key ≠ (leases index).key := by
          intro sameKey
          exact same (index_eq_of_owns distinct sameKey otherOwns owns)
        rw [erase_of_ne otherKey]
        exact owned.stored other touched isTouched live
    · intro other otherOwns
      dsimp only at otherOwns
      by_cases sameKey : (leases other).key = (leases index).key
      · unfold RedisLease.Owns at otherOwns
        rw [sameKey, read_eq_none (erase_self _ _)] at otherOwns
        cases otherOwns
      · have before : (leases other).Owns state.now state.store := by
          unfold RedisLease.Owns at otherOwns ⊢
          rw [← otherOwns]
          exact (read_congr (erase_of_ne sameKey _)).symm
        rcases owned.current other before with ⟨touched, isTouched, live⟩
        refine ⟨touched, ?_, live⟩
        rw [← isTouched]
        refine Function.update_of_ne ?_ _ _
        rintro rfl
        exact sameKey rfl
  · simp only [compareDelete_of_ne owns]
    constructor
    · intro other touched isTouched live
      dsimp only at isTouched live ⊢
      by_cases same : other = index
      · subst same
        rw [Function.update_self] at isTouched
        cases isTouched
      · rw [Function.update_of_ne same] at isTouched
        exact owned.stored other touched isTouched live
    · intro other otherOwns
      rcases owned.current other otherOwns with ⟨touched, isTouched, live⟩
      refine ⟨touched, ?_, live⟩
      rw [← isTouched]
      refine Function.update_of_ne ?_ _ _
      rintro rfl
      exact owns otherOwns

theorem Owned.wait
    {leases : Index → RedisLease} {state : LeaseState Index Time}
    (owned : Owned leases state) (later : Time) :
    Owned leases (leaseStep leases state (.wait later)) := by
  constructor
  · intro index touched isTouched live
    exact owned.stored index touched isTouched
      (lt_of_le_of_lt (le_max_left _ _) live)
  · intro index owns
    have before : (leases index).Owns state.now state.store :=
      read_of_le (le_max_left _ _) owns
    rcases owned.current index before with ⟨touched, isTouched, live⟩
    refine ⟨touched, isTouched, ?_⟩
    have present := owned.stored index touched isTouched live
    unfold RedisLease.Owns at owns
    rw [leaseStep, read_eq_ite present] at owns
    split_ifs at owns with isLive
    exact (Entry.live_deadline_iff _ _ _).mp isLive

variable [IsStrictOrderedRing Time]

theorem lt_expiry (lease : RedisLease) (now : Time) :
    now < expiry lease now :=
  lt_add_of_pos_right now (Int.cast_pos.mpr lease.ttlSeconds_pos)

/-- Writing a key for its only owner keeps the store and the beliefs in step. -/
theorem Owned.grant
    {leases : Index → RedisLease} {state : LeaseState Index Time}
    (distinct : Function.Injective fun index => (leases index).token)
    (owned : Owned leases state) (index : Index)
    (alone : ∀ other, (leases other).key = (leases index).key →
      (leases other).Owns state.now state.store → other = index) :
    Owned leases
      { state with
        store :=
          write (leases index).key (leases index).token
            (some (expiry (leases index) state.now)) state.store
        touched := Function.update state.touched index (some state.now) } := by
  constructor
  · intro other touched isTouched live
    dsimp only at isTouched live ⊢
    by_cases same : other = index
    · subst same
      rw [Function.update_self] at isTouched
      cases isTouched
      exact write_self _ _ _ _
    · rw [Function.update_of_ne same] at isTouched
      have otherOwns := owned.owns ⟨touched, isTouched, live⟩
      by_cases sameKey : (leases other).key = (leases index).key
      · exact absurd (alone other sameKey otherOwns) same
      · rw [write_of_ne sameKey]
        exact owned.stored other touched isTouched live
  · intro other owns
    dsimp only at owns
    by_cases same : other = index
    · subst same
      exact ⟨state.now, Function.update_self _ _ _, lt_expiry _ _⟩
    · by_cases sameKey : (leases other).key = (leases index).key
      · unfold RedisLease.Owns at owns
        rw [sameKey, read_eq_ite (write_self _ _ _ _)] at owns
        split_ifs at owns
        exact absurd (distinct (Option.some.inj owns)).symm same
      · have before : (leases other).Owns state.now state.store := by
          unfold RedisLease.Owns at owns ⊢
          rw [← owns]
          exact (read_congr (write_of_ne sameKey _ _ _)).symm
        rcases owned.current other before with ⟨touched, isTouched, live⟩
        refine ⟨touched, ?_, live⟩
        rw [← isTouched]
        exact Function.update_of_ne same _ _

theorem Owned.acquire
    {leases : Index → RedisLease} {state : LeaseState Index Time}
    (distinct : Function.Injective fun index => (leases index).token)
    (owned : Owned leases state) (index : Index) :
    Owned leases (leaseStep leases state (.acquire index)) := by
  unfold leaseStep RedisLease.acquire
  cases held : read state.now (leases index).key state.store with
  | some value =>
      simp only [setIfAbsent_of_present held]
      exact owned
  | none =>
      simp only [setIfAbsent_of_absent held]
      refine owned.grant distinct index ?_
      intro other sameKey owns
      unfold RedisLease.Owns at owns
      rw [sameKey, held] at owns
      cases owns

theorem Owned.renew
    {leases : Index → RedisLease} {state : LeaseState Index Time}
    (distinct : Function.Injective fun index => (leases index).token)
    (owned : Owned leases state) (index : Index) :
    Owned leases (leaseStep leases state (.renew index)) := by
  unfold leaseStep RedisLease.renew
  by_cases owns : (leases index).Owns state.now state.store
  · rcases owned.current index owns with ⟨touched, isTouched, _⟩
    have renewed :
        compareExpire state.now (leases index).key (leases index).token
            ((leases index).ttlSeconds : Time) state.store =
          (true, write (leases index).key (leases index).token
            (some (expiry (leases index) state.now)) state.store) :=
      if_pos owns
    simp only [renewed, isTouched, Option.map_some]
    refine owned.grant distinct index ?_
    intro other sameKey otherOwns
    exact index_eq_of_owns distinct sameKey otherOwns owns
  · simp only [compareExpire_of_ne owns]
    exact owned

/-- An acquisition ends no lease. -/
theorem Current.acquire
    {leases : Index → RedisLease} {state : LeaseState Index Time}
    {index : Index} (current : Current leases state index)
    (other : Index) :
    Current leases (leaseStep leases state (.acquire other)) index := by
  rcases current with ⟨touched, isTouched, live⟩
  rcases attempt : (leases other).acquire state.now state.store with
    ⟨success, store⟩
  cases success with
  | false =>
      simp only [leaseStep, attempt]
      exact ⟨touched, isTouched, live⟩
  | true =>
      simp only [leaseStep, attempt]
      by_cases same : index = other
      · subst same
        exact ⟨state.now, Function.update_self _ _ _, lt_expiry _ _⟩
      · refine ⟨touched, ?_, live⟩
        rw [← isTouched]
        exact Function.update_of_ne same _ _

/-- A renewal ends no lease. -/
theorem Current.renew
    {leases : Index → RedisLease} {state : LeaseState Index Time}
    {index : Index} (current : Current leases state index)
    (other : Index) :
    Current leases (leaseStep leases state (.renew other)) index := by
  rcases current with ⟨touched, isTouched, live⟩
  rcases attempt : (leases other).renew state.now state.store with
    ⟨success, store⟩
  cases success with
  | false =>
      simp only [leaseStep, attempt]
      exact ⟨touched, isTouched, live⟩
  | true =>
      simp only [leaseStep, attempt]
      by_cases same : index = other
      · subst same
        refine ⟨state.now, ?_, lt_expiry _ _⟩
        simp [isTouched]
      · refine ⟨touched, ?_, live⟩
        rw [← isTouched]
        exact Function.update_of_ne same _ _

omit [IsStrictOrderedRing Time] in
/-- A release ends no other lease. -/
theorem Current.release
    {leases : Index → RedisLease} {state : LeaseState Index Time}
    {index : Index} (current : Current leases state index)
    (other : Index) (different : index ≠ other) :
    Current leases (leaseStep leases state (.release other)) index := by
  rcases current with ⟨touched, isTouched, live⟩
  refine ⟨touched, ?_, live⟩
  rw [← isTouched]
  exact Function.update_of_ne different _ _

/-- Every action keeps the store and the beliefs in step. -/
theorem leaseStep_owned
    (distinct : Function.Injective fun index => (leases index).token)
    {state : LeaseState Index Time} (owned : Owned leases state)
    (action : LeaseAction Index Time) :
    Owned leases (leaseStep leases state action) := by
  cases action with
  | acquire index => exact owned.acquire distinct index
  | renew index => exact owned.renew distinct index
  | release index => exact owned.release distinct index
  | wait later => exact owned.wait later

/-- In every run the store and the beliefs stay in step. -/
theorem leaseRun_owned
    (distinct : Function.Injective fun index => (leases index).token)
    {state : LeaseState Index Time} (owned : Owned leases state)
    (actions : List (LeaseAction Index Time)) :
    Owned leases (leaseRun leases state actions) := by
  induction actions generalizing state with
  | nil => exact owned
  | cons action rest induction =>
      exact induction (leaseStep_owned leases distinct owned action)

end MultisiteCrawler.Locking
