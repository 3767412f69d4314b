import MultisiteCrawler.Foundation.JsonOrder
import MultisiteCrawler.Foundation.PythonErrors

/-!
# What `json.dumps` does not write

The interpreter bounds the digits of an integer which is written and the
nesting of arrays and objects, and JSON has no numbers which are not finite.
`dumpFault` is the first of these which `json.dumps` meets; there is none
exactly if the scalars of a value can be written and it is not too deep, and
neither depends on the order of keys.
-/

namespace Foundation.JsonLimits

open Foundation.JsonOrder
open Foundation.JsonText
open Foundation.PythonErrors

/-- What the interpreter bounds. -/
structure InterpreterLimits where
  /-- `sys.get_int_max_str_digits()`, where zero is no bound. -/
  maxDigits : ℕ
  /-- How many arrays and objects can be opened one in another. -/
  nesting : ℕ

/-- Why a value is not written. -/
inductive DumpFault where
  | digits
  | notFinite
  | nesting
deriving DecidableEq, Repr

/-- The integer has more digits than are written. -/
def InterpreterLimits.isLong (limits : InterpreterLimits) (value : ℤ) :
    Bool :=
  decide (limits.maxDigits ≠ 0) &&
    decide (10 ^ limits.maxDigits ≤ value.natAbs)

/-- What is wrong with a scalar. -/
def scalarFault (limits : InterpreterLimits) (allowNan : Bool) :
    Json → Option DumpFault
  | .int value => if limits.isLong value then some .digits else none
  | .nonFinite _ => if allowNan then none else some .notFinite
  | _ => none

section Faults

variable (limits : InterpreterLimits) (allowNan : Bool)

/-- A fault inside a container, if it can be opened. -/
def openFault (nesting : ℕ) (inside : ℕ → Option DumpFault) :
    Option DumpFault :=
  match nesting with
  | 0 => some .nesting
  | remaining + 1 => inside remaining

mutual

/-- The first fault of a value of which so many containers can be opened. -/
def dumpFault (nesting : ℕ) : Json → Option DumpFault
  | .arr items =>
      openFault nesting fun remaining => dumpFaultItems remaining items
  | .obj members =>
      openFault nesting fun remaining => dumpFaultMembers remaining members
  | value => scalarFault limits allowNan value

/-- The first fault of the items. -/
def dumpFaultItems (nesting : ℕ) : List Json → Option DumpFault
  | [] => none
  | item :: rest =>
      (dumpFault nesting item).or (dumpFaultItems nesting rest)

/-- The first fault of the member values. -/
def dumpFaultMembers (nesting : ℕ) :
    List (String × Json) → Option DumpFault
  | [] => none
  | (_, value) :: rest =>
      (dumpFault nesting value).or (dumpFaultMembers nesting rest)

end

end Faults

/-! ## Depth and scalars -/

mutual

/-- How many containers are opened one in another. -/
def depth : Json → ℕ
  | .arr items => depthItems items + 1
  | .obj members => depthMembers members + 1
  | _ => 0

/-- The greatest depth of an item. -/
def depthItems : List Json → ℕ
  | [] => 0
  | item :: rest => max (depth item) (depthItems rest)

/-- The greatest depth of a member value. -/
def depthMembers : List (String × Json) → ℕ
  | [] => 0
  | (_, value) :: rest => max (depth value) (depthMembers rest)

end

section Scalars

variable (holds : Json → Bool)

mutual

/-- All scalars of a value have a property. -/
def allScalars : Json → Bool
  | .arr items => allScalarsItems items
  | .obj members => allScalarsMembers members
  | value => holds value

/-- `allScalars` for every item. -/
def allScalarsItems : List Json → Bool
  | [] => true
  | item :: rest => allScalars item && allScalarsItems rest

/-- `allScalars` for every member value. -/
def allScalarsMembers : List (String × Json) → Bool
  | [] => true
  | (_, value) :: rest => allScalars value && allScalarsMembers rest

end

end Scalars

theorem depthMembers_le_iff (members : List (String × Json)) (bound : ℕ) :
    depthMembers members ≤ bound ↔
      ∀ member ∈ members, depth member.2 ≤ bound := by
  induction members with
  | nil => simp [depthMembers]
  | cons member rest induction =>
      rw [depthMembers, max_le_iff, induction, List.forall_mem_cons]

theorem allScalarsMembers_iff
    (holds : Json → Bool) (members : List (String × Json)) :
    allScalarsMembers holds members = true ↔
      ∀ member ∈ members, allScalars holds member.2 = true := by
  induction members with
  | nil => simp [allScalarsMembers]
  | cons member rest induction =>
      rw [allScalarsMembers, Bool.and_eq_true, induction,
        List.forall_mem_cons]

section Both

variable (holds other : Json → Bool)

mutual

/-- All scalars have both of two properties if they have each. -/
theorem allScalars_and :
    (value : Json) →
      allScalars (fun scalar => holds scalar && other scalar) value =
        (allScalars holds value && allScalars other value)
  | .arr items => allScalarsItems_and items
  | .obj members => allScalarsMembers_and members
  | .null => rfl
  | .bool _ => rfl
  | .int _ => rfl
  | .float _ => rfl
  | .nonFinite _ => rfl
  | .str _ => rfl

theorem allScalarsItems_and :
    (items : List Json) →
      allScalarsItems (fun scalar => holds scalar && other scalar) items =
        (allScalarsItems holds items && allScalarsItems other items)
  | [] => rfl
  | item :: rest => by
      rw [allScalarsItems, allScalarsItems, allScalarsItems,
        allScalars_and item, allScalarsItems_and rest]
      ac_rfl

theorem allScalarsMembers_and :
    (members : List (String × Json)) →
      allScalarsMembers (fun scalar => holds scalar && other scalar)
          members =
        (allScalarsMembers holds members && allScalarsMembers other members)
  | [] => rfl
  | (_, value) :: rest => by
      rw [allScalarsMembers, allScalarsMembers, allScalarsMembers,
        allScalars_and value, allScalarsMembers_and rest]
      ac_rfl

end

end Both

section Written

variable (limits : InterpreterLimits) (allowNan : Bool)

/-- The scalar can be written. -/
def isWritable (value : Json) : Bool :=
  (scalarFault limits allowNan value).isNone

/-- No integer inside the value has more digits than are written. -/
def hasShortIntegers : Json → Bool :=
  allScalars (isWritable limits true)

/-- The scalar is not an infinite float, or not a number. -/
def isFiniteScalar : Json → Bool
  | .nonFinite _ => false
  | _ => true

theorem isWritable_finite :
    isWritable limits false =
      fun scalar => isFiniteScalar scalar && isWritable limits true scalar := by
  funext scalar
  cases scalar <;> rfl

mutual

/-- A value without faults is not too deep, and its scalars can be written. -/
theorem dumpFault_eq_none_iff :
    (value : Json) → (nesting : ℕ) →
      (dumpFault limits allowNan nesting value = none ↔
        depth value ≤ nesting ∧
          allScalars (isWritable limits allowNan) value = true)
  | .arr items, 0 => by simp [dumpFault, openFault, depth]
  | .arr items, nesting + 1 => by
      rw [dumpFault, openFault, depth, allScalars, Nat.add_le_add_iff_right]
      exact dumpFaultItems_eq_none_iff items nesting
  | .obj members, 0 => by simp [dumpFault, openFault, depth]
  | .obj members, nesting + 1 => by
      rw [dumpFault, openFault, depth, allScalars, Nat.add_le_add_iff_right]
      exact dumpFaultMembers_eq_none_iff members nesting
  | .null, _ => by simp [dumpFault, depth, allScalars, isWritable]
  | .bool _, _ => by simp [dumpFault, depth, allScalars, isWritable]
  | .int _, _ => by simp [dumpFault, depth, allScalars, isWritable]
  | .float _, _ => by simp [dumpFault, depth, allScalars, isWritable]
  | .nonFinite _, _ => by simp [dumpFault, depth, allScalars, isWritable]
  | .str _, _ => by simp [dumpFault, depth, allScalars, isWritable]

theorem dumpFaultItems_eq_none_iff :
    (items : List Json) → (nesting : ℕ) →
      (dumpFaultItems limits allowNan nesting items = none ↔
        depthItems items ≤ nesting ∧
          allScalarsItems (isWritable limits allowNan) items = true)
  | [], _ => by simp [dumpFaultItems, depthItems, allScalarsItems]
  | item :: rest, nesting => by
      rw [dumpFaultItems, Option.or_eq_none_iff,
        dumpFault_eq_none_iff item nesting,
        dumpFaultItems_eq_none_iff rest nesting, depthItems, max_le_iff,
        allScalarsItems, Bool.and_eq_true]
      exact and_and_and_comm

theorem dumpFaultMembers_eq_none_iff :
    (members : List (String × Json)) → (nesting : ℕ) →
      (dumpFaultMembers limits allowNan nesting members = none ↔
        depthMembers members ≤ nesting ∧
          allScalarsMembers (isWritable limits allowNan) members = true)
  | [], _ => by simp [dumpFaultMembers, depthMembers, allScalarsMembers]
  | (key, value) :: rest, nesting => by
      rw [dumpFaultMembers, Option.or_eq_none_iff,
        dumpFault_eq_none_iff value nesting,
        dumpFaultMembers_eq_none_iff rest nesting, depthMembers, max_le_iff,
        allScalarsMembers, Bool.and_eq_true]
      exact and_and_and_comm

end

end Written

/-! ## Writing within limits -/

/-- `RecursionError`. -/
def recursionError : PyError :=
  .library (.other "RecursionError")

/-- What `json.dumps` raises for a fault. -/
def DumpFault.raised : DumpFault → PyError
  | .nesting => recursionError
  | .digits => .library .valueError
  | .notFinite => .library .valueError

section Fits

variable (limits : InterpreterLimits)

/-- `json.dumps`, where numbers which are not finite are allowed. -/
def dumpsWithin (style : DumpStyle) (value : Json) : Except PyError String :=
  match dumpFault limits true limits.nesting value with
  | none => .ok (dumps style value)
  | some fault => .error fault.raised

/-- The value can be written, numbers which are not finite apart. -/
structure Fits (value : Json) : Prop where
  nests : depth value ≤ limits.nesting
  short : hasShortIntegers limits value = true

variable {limits}

/-- What fits is written as it is without limits, and nothing else is. -/
theorem dumpsWithin_eq_ok_iff
    {style : DumpStyle} {value : Json} {text : String} :
    dumpsWithin limits style value = .ok text ↔
      Fits limits value ∧ dumps style value = text := by
  have fault := dumpFault_eq_none_iff limits true value limits.nesting
  rw [dumpsWithin]
  cases found : dumpFault limits true limits.nesting value with
  | none =>
      have ⟨nests, short⟩ := fault.mp found
      rw [Except.ok.injEq]
      exact (and_iff_right ⟨nests, short⟩).symm
  | some other =>
      refine iff_of_false nofun ?_
      rintro ⟨⟨nests, short⟩, _⟩
      have none := fault.mpr ⟨nests, short⟩
      rw [found] at none
      cases none

end Fits

/-! ## The order of keys -/

mutual

/-- Sorting keys leaves the depth. -/
theorem depth_sortKeys : (value : Json) → depth (sortKeys value) = depth value
  | .arr items => by
      rw [sortKeys, depth, depth, depthItems_sortKeysItems items]
  | .obj members => by
      have sorted (bound : ℕ) :
          depthMembers
                ((sortKeysMembers members).insertionSort keyOrder) ≤ bound ↔
            depthMembers (sortKeysMembers members) ≤ bound := by
        simp only [depthMembers_le_iff, List.mem_insertionSort]
      rw [sortKeys, depth, depth, ← depthMembers_sortKeysMembers members]
      exact congrArg (· + 1) (eq_of_forall_ge_iff sorted)
  | .null => rfl
  | .bool _ => rfl
  | .int _ => rfl
  | .float _ => rfl
  | .nonFinite _ => rfl
  | .str _ => rfl

theorem depthItems_sortKeysItems :
    (items : List Json) → depthItems (sortKeysItems items) = depthItems items
  | [] => rfl
  | item :: rest => by
      rw [sortKeysItems, depthItems, depthItems, depth_sortKeys item,
        depthItems_sortKeysItems rest]

theorem depthMembers_sortKeysMembers :
    (members : List (String × Json)) →
      depthMembers (sortKeysMembers members) = depthMembers members
  | [] => rfl
  | (key, value) :: rest => by
      rw [sortKeysMembers, depthMembers, depthMembers, depth_sortKeys value,
        depthMembers_sortKeysMembers rest]

end

section Sorted

variable (holds : Json → Bool)

mutual

/-- Sorting keys leaves the scalars. -/
theorem allScalars_sortKeys :
    (value : Json) → allScalars holds (sortKeys value) = allScalars holds value
  | .arr items => by
      rw [sortKeys, allScalars, allScalars,
        allScalarsItems_sortKeysItems items]
  | .obj members => by
      rw [sortKeys, allScalars, allScalars,
        ← allScalarsMembers_sortKeysMembers members, Bool.eq_iff_iff,
        allScalarsMembers_iff, allScalarsMembers_iff]
      simp only [List.mem_insertionSort]
  | .null => rfl
  | .bool _ => rfl
  | .int _ => rfl
  | .float _ => rfl
  | .nonFinite _ => rfl
  | .str _ => rfl

theorem allScalarsItems_sortKeysItems :
    (items : List Json) →
      allScalarsItems holds (sortKeysItems items) =
        allScalarsItems holds items
  | [] => rfl
  | item :: rest => by
      rw [sortKeysItems, allScalarsItems, allScalarsItems,
        allScalars_sortKeys item, allScalarsItems_sortKeysItems rest]

theorem allScalarsMembers_sortKeysMembers :
    (members : List (String × Json)) →
      allScalarsMembers holds (sortKeysMembers members) =
        allScalarsMembers holds members
  | [] => rfl
  | (key, value) :: rest => by
      rw [sortKeysMembers, allScalarsMembers, allScalarsMembers,
        allScalars_sortKeys value, allScalarsMembers_sortKeysMembers rest]

end

end Sorted

section Equal

variable {limits : InterpreterLimits} {value other : Json}

/-- Sorting keys changes nothing in what fits. -/
theorem fits_sortKeys_iff :
    Fits limits (sortKeys value) ↔ Fits limits value := by
  constructor
  · rintro ⟨nests, short⟩
    rw [depth_sortKeys] at nests
    rw [hasShortIntegers, allScalars_sortKeys] at short
    exact ⟨nests, short⟩
  · rintro ⟨nests, short⟩
    constructor
    · rw [depth_sortKeys]
      exact nests
    · rw [hasShortIntegers, allScalars_sortKeys]
      exact short

/-- What is equal to what fits fits too. -/
theorem Fits.of_same (fits : Fits limits value) (same : Same value other) :
    Fits limits other := by
  rw [← fits_sortKeys_iff, ← same.sortKeys_eq, fits_sortKeys_iff]
  exact fits

end Equal

end Foundation.JsonLimits
