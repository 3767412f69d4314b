import MultisiteCrawler.Locking.RedisLease

/-!
# Token safety

Leases with distinct tokens share one store.  In every state of every run at
most one lease of a key is current, its token is what the key holds, nobody
else can acquire the key, and an operation by anyone but the stored owner
changes nothing.
-/

namespace MultisiteCrawler.Locking

open Foundation.ExpiringStore

variable {Index Time : Type} [CommRing Time] [LinearOrder Time]

/-- The empty store, before anyone has acquired a lease. -/
def LeaseState.empty (now : Time) : LeaseState Index Time :=
  ⟨now, fun _ => none, fun _ => none⟩

omit [CommRing Time] in
theorem fresh_empty (leases : Index → RedisLease) (now : Time) :
    Fresh leases (LeaseState.empty now) where
  untouched _ := rfl
  unowned index owns := by
    unfold RedisLease.Owns at owns
    rw [read_eq_none rfl] at owns
    cases owns

/-- Ownership of the leases is safe in a state. -/
structure TokenSafe (leases : Index → RedisLease)
    (state : LeaseState Index Time) : Prop where
  exclusive : ∀ first second,
    Current leases state first →
      Current leases state second →
        (leases first).key = (leases second).key → first = second
  stored : ∀ index,
    Current leases state index →
      read state.now (leases index).key state.store =
        some (leases index).token
  blocked : ∀ index other,
    Current leases state index →
      (leases other).key = (leases index).key →
        (leases other).acquire state.now state.store =
          (false, state.store)
  foreignRenew : ∀ index,
    read state.now (leases index).key state.store ≠
        some (leases index).token →
      (leases index).renew state.now state.store = (false, state.store)
  foreignRelease : ∀ index,
    read state.now (leases index).key state.store ≠
        some (leases index).token →
      (leases index).release state.now state.store = (false, state.store)
  undisturbed : ∀ index other,
    Current leases state index →
      (leases other).key = (leases index).key →
        other ≠ index →
          (leases other).renew state.now state.store =
              (false, state.store) ∧
            (leases other).release state.now state.store =
              (false, state.store)

variable {leases : Index → RedisLease}

/-- Where store and beliefs agree, ownership is safe. -/
theorem Owned.tokenSafe
    (distinct : Function.Injective fun index => (leases index).token)
    {state : LeaseState Index Time} (owned : Owned leases state) :
    TokenSafe leases state where
  exclusive first second firstCurrent secondCurrent sameKey :=
    index_eq_of_owns distinct sameKey (owned.owns firstCurrent)
      (owned.owns secondCurrent)
  stored index current := owned.owns current
  blocked index other current sameKey := by
    have held : read state.now (leases other).key state.store =
        some (leases index).token := by
      rw [sameKey]
      exact owned.owns current
    exact setIfAbsent_of_present held _ _
  foreignRenew index foreign := compareExpire_of_ne foreign _
  foreignRelease index foreign := compareDelete_of_ne foreign
  undisturbed index other current sameKey different := by
    have foreign : ¬ (leases other).Owns state.now state.store := by
      intro owns
      exact different
        (index_eq_of_owns distinct sameKey owns (owned.owns current))
    exact ⟨compareExpire_of_ne foreign _, compareDelete_of_ne foreign⟩

variable [IsStrictOrderedRing Time] [DecidableEq Index]

/-- Ownership is safe in every state of every run. -/
theorem tokenSafe_leaseRun
    (distinct : Function.Injective fun index => (leases index).token)
    (state : LeaseState Index Time) (fresh : Fresh leases state)
    (actions : List (LeaseAction Index Time)) :
    TokenSafe leases (leaseRun leases state actions) :=
  (leaseRun_owned leases distinct fresh.owned actions).tokenSafe distinct

/-- Two leases of one source, told apart by their tokens. -/
def rivals (second : Bool) : RedisLease :=
  ⟨sourceLockKey "demo", 90, if second then "second" else "first", by decide⟩

theorem rivals_token_injective :
    Function.Injective fun second => (rivals second).token := by
  decide

/-- The first owner expires, the second acquires, the first releases late. -/
theorem tokenSafe_late_release :
    TokenSafe rivals
      (leaseRun rivals (LeaseState.empty (0 : ℤ))
        [.acquire false, .wait 90, .acquire true, .release false]) :=
  tokenSafe_leaseRun rivals_token_injective _ (fresh_empty _ _) _

end MultisiteCrawler.Locking
