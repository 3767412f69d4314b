import MultisiteCrawler.Foundation.Interaction

/-!
# Stores whose keys expire

The part of Redis a lease or a cached state rests on.  Every key holds a value
and possibly a deadline; it is present while the clock is before the deadline
and absent from then on.  An absent key and an expired one are the same to
every reader.

Besides plain reads and writes there are the three atomic operations of an
owned lease: `SET NX EX`, and deletion and `EXPIRE` guarded by a comparison
with the stored value.
-/

namespace Foundation.ExpiringStore

open Foundation.Interaction

/-- A value and the time from which it is absent. -/
structure Entry (Value Time : Type) where
  value : Value
  deadline : Option Time
deriving DecidableEq

/-- The entries of a store. -/
abbrev Store (Key Value Time : Type) := Key → Option (Entry Value Time)

variable {Key Value Time : Type}

section Reading

variable [LinearOrder Time]

/-- The entry is present at the time. -/
def Entry.Live (now : Time) (entry : Entry Value Time) : Prop :=
  ∀ deadline ∈ entry.deadline, now < deadline

instance (now : Time) (entry : Entry Value Time) :
    Decidable (entry.Live now) := by
  unfold Entry.Live
  cases entry.deadline with
  | none => exact isTrue fun deadline member => by simp at member
  | some deadline =>
      exact decidable_of_iff (now < deadline) (by simp)

/-- `GET`. -/
def read (now : Time) (key : Key) (store : Store Key Value Time) :
    Option Value :=
  match store key with
  | none => none
  | some entry => if entry.Live now then some entry.value else none

@[simp]
theorem Entry.live_deadline_iff
    (now deadline : Time) (value : Value) :
    (⟨value, some deadline⟩ : Entry Value Time).Live now ↔
      now < deadline := by
  simp [Entry.Live]

theorem read_congr
    {now : Time} {key : Key} {first second : Store Key Value Time}
    (same : first key = second key) :
    read now key first = read now key second := by
  rw [read, read, same]

theorem read_eq_none
    {now : Time} {key : Key} {store : Store Key Value Time}
    (absent : store key = none) :
    read now key store = none := by
  simp only [read, absent]

theorem read_eq_ite
    {now : Time} {key : Key} {store : Store Key Value Time}
    {entry : Entry Value Time} (present : store key = some entry) :
    read now key store =
      if entry.Live now then some entry.value else none := by
  simp only [read, present]

/-- A value which is read is stored and has not expired. -/
theorem exists_entry_of_read
    {now : Time} {key : Key} {store : Store Key Value Time} {value : Value}
    (isRead : read now key store = some value) :
    ∃ entry, store key = some entry ∧ entry.value = value ∧
      entry.Live now := by
  cases present : store key with
  | none =>
      rw [read_eq_none present] at isRead
      cases isRead
  | some entry =>
      rw [read_eq_ite present] at isRead
      split_ifs at isRead with live
      exact ⟨entry, rfl, Option.some.inj isRead, live⟩

/-- What is still present later was present earlier. -/
theorem read_of_le
    {earlier later : Time} {key : Key} {store : Store Key Value Time}
    {value : Value} (ordered : earlier ≤ later)
    (isRead : read later key store = some value) :
    read earlier key store = some value := by
  rcases exists_entry_of_read isRead with ⟨entry, present, rfl, live⟩
  rw [read_eq_ite present, if_pos]
  intro deadline member
  exact lt_of_le_of_lt ordered (live deadline member)

end Reading

section Writing

variable [DecidableEq Key]

/-- `SET`, replacing the value and the deadline. -/
def write (key : Key) (value : Value) (deadline : Option Time)
    (store : Store Key Value Time) : Store Key Value Time :=
  Function.update store key (some ⟨value, deadline⟩)

/-- `DEL`. -/
def erase (key : Key) (store : Store Key Value Time) :
    Store Key Value Time :=
  Function.update store key none

@[simp]
theorem write_self
    (key : Key) (value : Value) (deadline : Option Time)
    (store : Store Key Value Time) :
    write key value deadline store key = some ⟨value, deadline⟩ :=
  Function.update_self _ _ _

theorem write_of_ne
    {key other : Key} (different : other ≠ key)
    (value : Value) (deadline : Option Time)
    (store : Store Key Value Time) :
    write key value deadline store other = store other :=
  Function.update_of_ne different _ _

@[simp]
theorem erase_self (key : Key) (store : Store Key Value Time) :
    erase key store key = none :=
  Function.update_self _ _ _

theorem erase_of_ne
    {key other : Key} (different : other ≠ key)
    (store : Store Key Value Time) :
    erase key store other = store other :=
  Function.update_of_ne different _ _

variable [LinearOrder Time]

section Leases

/-- `SET key value NX EX ttl`, which writes if the key is absent. -/
def setIfAbsent [Add Time] (now : Time) (key : Key) (value : Value) (ttl : Time)
    (store : Store Key Value Time) : Bool × Store Key Value Time :=
  match read now key store with
  | some _ => (false, store)
  | none => (true, write key value (some (now + ttl)) store)

/-- Delete a key which holds the value. -/
def compareDelete [DecidableEq Value] (now : Time) (key : Key)
    (value : Value) (store : Store Key Value Time) :
    Bool × Store Key Value Time :=
  if read now key store = some value then (true, erase key store)
  else (false, store)

/-- `EXPIRE` a key which holds the value. -/
def compareExpire [DecidableEq Value] [Add Time] (now : Time) (key : Key)
    (value : Value) (ttl : Time) (store : Store Key Value Time) :
    Bool × Store Key Value Time :=
  if read now key store = some value then
    (true, write key value (some (now + ttl)) store)
  else (false, store)

theorem setIfAbsent_of_present [Add Time]
    {now : Time} {key : Key} {store : Store Key Value Time} {held : Value}
    (present : read now key store = some held) (value : Value) (ttl : Time) :
    setIfAbsent now key value ttl store = (false, store) := by
  rw [setIfAbsent, present]

theorem setIfAbsent_of_absent [Add Time]
    {now : Time} {key : Key} {store : Store Key Value Time}
    (absent : read now key store = none) (value : Value) (ttl : Time) :
    setIfAbsent now key value ttl store =
      (true, write key value (some (now + ttl)) store) := by
  rw [setIfAbsent, absent]

/-- A guarded operation by anyone but the owner does nothing. -/
theorem compareDelete_of_ne [DecidableEq Value]
    {now : Time} {key : Key} {value : Value} {store : Store Key Value Time}
    (notOwner : read now key store ≠ some value) :
    compareDelete now key value store = (false, store) :=
  if_neg notOwner

theorem compareExpire_of_ne [DecidableEq Value] [Add Time]
    {now : Time} {key : Key} {value : Value} {store : Store Key Value Time}
    (notOwner : read now key store ≠ some value) (ttl : Time) :
    compareExpire now key value ttl store = (false, store) :=
  if_neg notOwner

end Leases

end Writing

/-! ## Running store programs at a time -/

section Handler

variable [DecidableEq Key] [LinearOrder Time] [AddMonoidWithOne Time]

/-- What an expiring store answers at a time; it emits nothing. -/
def expiringHandler (now : Time) :
    Program.Handler (StoreCommand Key Value Empty)
      (StoreCommand.Reply Empty) (Store Key Value Time)
  | .get key, store => (read now key store, store)
  | .set key value expiry, store =>
      ((), write key value (expiry.map fun seconds => now + seconds) store)
  | .emit event, store => (event, store)

@[simp]
theorem expiringHandler_get
    (now : Time) (key : Key) (store : Store Key Value Time) :
    expiringHandler now (.get key) store = (read now key store, store) := rfl

@[simp]
theorem expiringHandler_set
    (now : Time) (key : Key) (value : Value) (expiry : Option ℕ)
    (store : Store Key Value Time) :
    expiringHandler now (.set key value expiry) store =
      ((), write key value (expiry.map fun seconds => now + seconds)
        store) := rfl

end Handler

end Foundation.ExpiringStore
