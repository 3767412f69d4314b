import MultisiteCrawler.Foundation.JsonEquality
import MultisiteCrawler.Foundation.JsonGrammar
import MultisiteCrawler.Foundation.JsonKeys

/-!
# Documents with sorted keys

What sorting the keys of a document leaves as it is: whether its floats are
finite, and the member a key has.
-/

namespace Foundation.JsonOrder

open Foundation.JsonText

theorem uniqueKeysItems_iff (items : List Json) :
    uniqueKeysItems items ↔ ∀ item ∈ items, item.UniqueKeys := by
  induction items with
  | nil => simp [uniqueKeysItems]
  | cons item rest induction =>
      rw [uniqueKeysItems, induction, List.forall_mem_cons]

/-! ## Finite floats -/

theorem isFiniteItems_iff (items : List Json) :
    isFiniteItems items = true ↔ ∀ item ∈ items, item.isFinite = true := by
  induction items with
  | nil => simp [isFiniteItems]
  | cons item rest induction =>
      rw [isFiniteItems, Bool.and_eq_true, induction, List.forall_mem_cons]

theorem isFiniteMembers_iff (members : List (String × Json)) :
    isFiniteMembers members = true ↔
      ∀ member ∈ members, member.2.isFinite = true := by
  induction members with
  | nil => simp [isFiniteMembers]
  | cons member rest induction =>
      rw [isFiniteMembers, Bool.and_eq_true, induction,
        List.forall_mem_cons]

theorem isFiniteMembers_insertionSort (members : List (String × Json)) :
    isFiniteMembers (members.insertionSort keyOrder) =
      isFiniteMembers members := by
  rw [Bool.eq_iff_iff, isFiniteMembers_iff, isFiniteMembers_iff]
  exact forall_congr' fun member =>
    imp_congr_left (List.mem_insertionSort keyOrder)

mutual

/-- Sorting keys changes no float. -/
theorem isFinite_sortKeys :
    (value : Json) → (sortKeys value).isFinite = value.isFinite
  | .arr items => isFiniteItems_sortKeysItems items
  | .obj members => by
      rw [sortKeys, Json.isFinite, Json.isFinite]
      exact (isFiniteMembers_insertionSort _).trans
        (isFiniteMembers_sortKeysMembers members)
  | .null => rfl
  | .bool _ => rfl
  | .int _ => rfl
  | .float _ => rfl
  | .nonFinite _ => rfl
  | .str _ => rfl

theorem isFiniteItems_sortKeysItems :
    (items : List Json) →
      isFiniteItems (sortKeysItems items) = isFiniteItems items
  | [] => rfl
  | item :: rest => by
      rw [sortKeysItems, isFiniteItems, isFiniteItems,
        isFinite_sortKeys item, isFiniteItems_sortKeysItems rest]

theorem isFiniteMembers_sortKeysMembers :
    (members : List (String × Json)) →
      isFiniteMembers (sortKeysMembers members) = isFiniteMembers members
  | [] => rfl
  | (_, value) :: rest => by
      rw [sortKeysMembers, isFiniteMembers, isFiniteMembers,
        isFinite_sortKeys value, isFiniteMembers_sortKeysMembers rest]

end

/-! ## Members -/

/-- The order of the members does not matter to a key. -/
theorem lookup_eq_of_perm
    {Value : Type} {members others : List (String × Value)}
    (distinct : (members.map Prod.fst).Nodup) (perm : members.Perm others)
    (key : String) : lookup key members = lookup key others := by
  have otherDistinct : (others.map Prod.fst).Nodup :=
    (perm.map Prod.fst).nodup_iff.mp distinct
  apply Option.ext
  intro value
  constructor
  · intro found
    exact lookup_of_mem otherDistinct (perm.mem_iff.mp (mem_of_lookup found))
  · intro found
    exact lookup_of_mem distinct (perm.mem_iff.mpr (mem_of_lookup found))

theorem lookup_sortKeysMembers
    (members : List (String × Json)) (key : String) :
    lookup key (sortKeysMembers members) =
      (lookup key members).map sortKeys := by
  induction members with
  | nil => rfl
  | cons member rest induction =>
      rw [sortKeysMembers, lookup, lookup, induction]
      split_ifs <;> rfl

/-- What a key has in an object whose keys have been sorted. -/
theorem exists_sortKeys_obj
    {members : List (String × Json)}
    (distinct : (members.map Prod.fst).Nodup) :
    ∃ sorted, sortKeys (.obj members) = .obj sorted ∧
      (∀ key, key ∈ sorted.map Prod.fst ↔ key ∈ members.map Prod.fst) ∧
      ∀ key, getMember key sorted = sortKeys (getMember key members) := by
  refine ⟨(sortKeysMembers members).insertionSort keyOrder, ?_, ?_, ?_⟩
  · rw [sortKeys]
    rfl
  · intro key
    rw [← map_fst_sortKeysMembers members]
    exact (map_fst_insertionSort_perm _).mem_iff
  · intro key
    rw [← map_fst_sortKeysMembers] at distinct
    have same := lookup_eq_of_perm distinct
      (List.perm_insertionSort keyOrder (sortKeysMembers members)).symm key
    rw [getMember, getMember, ← same, lookup_sortKeysMembers]
    cases lookup key members <;> rfl

/-! ## Texts -/

/-- A document with sorted keys is read back. -/
theorem loads_dumps_sortKeys
    (style : DumpStyle) {value : Json} (unique : value.UniqueKeys) :
    loads (dumps style (sortKeys value)) = some (sortKeys value) :=
  loads_dumps style _ (uniqueKeys_sortKeys value unique)

/-- It is a JSON text exactly if its floats are finite. -/
theorem isJsonText_dumps_sortKeys_iff
    (style : DumpStyle) (value : Json) :
    IsJsonText (dumps style (sortKeys value)) ↔ value.isFinite = true := by
  rw [isJsonText_dumps_iff, isFinite_sortKeys]

end Foundation.JsonOrder
