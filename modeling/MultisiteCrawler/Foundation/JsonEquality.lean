import MultisiteCrawler.Foundation.JsonOrder
import MultisiteCrawler.Foundation.JsonRoundTrip

/-!
# Values told apart by their text

Values with distinct keys have the same text with sorted keys exactly if they
are equal.  Sorting the keys keeps them distinct, so the text is read back;
and values which become the same when their keys are sorted were equal before,
by induction on one of them.
-/

namespace Foundation.JsonOrder

open Foundation.JsonText

/-! ## Keys stay distinct -/

theorem uniqueKeysMembers_iff (members : List (String × Json)) :
    uniqueKeysMembers members ↔
      ∀ member ∈ members, member.2.UniqueKeys := by
  induction members with
  | nil => simp [uniqueKeysMembers]
  | cons member rest induction =>
      rw [uniqueKeysMembers, induction, List.forall_mem_cons]

/-- The keys of a mapping whose members have been sorted. -/
theorem map_fst_insertionSort_perm
    {Value : Type} (members : List (String × Value)) :
    ((members.insertionSort keyOrder).map Prod.fst).Perm
      (members.map Prod.fst) :=
  (List.perm_insertionSort keyOrder members).map Prod.fst

theorem map_fst_sortKeysMembers (members : List (String × Json)) :
    (sortKeysMembers members).map Prod.fst = members.map Prod.fst := by
  rw [sortKeysMembers_eq_map, List.map_map]
  rfl

mutual

/-- Sorting keys keeps them distinct. -/
theorem uniqueKeys_sortKeys :
    (value : Json) → value.UniqueKeys → (sortKeys value).UniqueKeys
  | .arr items, unique => uniqueKeysItems_sortKeysItems items unique
  | .obj members, unique => by
      rw [sortKeys]
      constructor
      · apply (map_fst_insertionSort_perm _).nodup_iff.mpr
        rw [map_fst_sortKeysMembers]
        exact unique.1
      · rw [uniqueKeysMembers_iff]
        intro member isMember
        have kept := uniqueKeysMembers_sortKeysMembers members unique.2
        rw [uniqueKeysMembers_iff] at kept
        exact kept member ((List.mem_insertionSort keyOrder).mp isMember)
  | .null, _ => trivial
  | .bool _, _ => trivial
  | .int _, _ => trivial
  | .float _, _ => trivial
  | .nonFinite _, _ => trivial
  | .str _, _ => trivial

theorem uniqueKeysItems_sortKeysItems :
    (items : List Json) → uniqueKeysItems items →
      uniqueKeysItems (sortKeysItems items)
  | [], _ => trivial
  | item :: rest, unique =>
      ⟨uniqueKeys_sortKeys item unique.1,
        uniqueKeysItems_sortKeysItems rest unique.2⟩

theorem uniqueKeysMembers_sortKeysMembers :
    (members : List (String × Json)) → uniqueKeysMembers members →
      uniqueKeysMembers (sortKeysMembers members)
  | [], _ => trivial
  | (_, value) :: rest, unique =>
      ⟨uniqueKeys_sortKeys value unique.1,
        uniqueKeysMembers_sortKeysMembers rest unique.2⟩

end

/-! ## Values with the same sorted form -/

theorem sortKeys_eq_arr
    {value : Json} {items : List Json} (sorted : sortKeys value = .arr items) :
    ∃ others, value = .arr others ∧ sortKeysItems others = items := by
  cases value with
  | arr others =>
      rw [sortKeys] at sorted
      exact ⟨others, rfl, Json.arr.inj sorted⟩
  | obj members =>
      rw [sortKeys] at sorted
      cases sorted
  | _ => cases sorted

theorem sortKeys_eq_obj
    {value : Json} {members : List (String × Json)}
    (sorted : sortKeys value = .obj members) :
    ∃ others, value = .obj others ∧
      (sortKeysMembers others).insertionSort keyOrder = members := by
  cases value with
  | arr items =>
      rw [sortKeys] at sorted
      cases sorted
  | obj others =>
      rw [sortKeys] at sorted
      exact ⟨others, rfl, Json.obj.inj sorted⟩
  | _ => cases sorted

/-- A value which sorting leaves as it is, and which has no keys inside. -/
theorem same_of_eq_sortKeys
    {value other : Json} (notArr : ∀ items, value ≠ .arr items)
    (notObj : ∀ members, value ≠ .obj members)
    (sorted : value = sortKeys other) : Same value other := by
  cases other with
  | arr items =>
      rw [sortKeys] at sorted
      exact absurd sorted (notArr _)
  | obj members =>
      rw [sortKeys] at sorted
      exact absurd sorted (notObj _)
  | _ =>
      rw [sorted]
      exact .refl _

section Members

variable {members others : List (String × Json)}

/-- Mappings with the same sorted form have the same keys. -/
theorem keys_perm_of_sorted_eq
    (sorted : (sortKeysMembers members).insertionSort keyOrder =
      (sortKeysMembers others).insertionSort keyOrder) :
    (members.map Prod.fst).Perm (others.map Prod.fst) := by
  have keys := map_fst_insertionSort_perm (sortKeysMembers members)
  have otherKeys := map_fst_insertionSort_perm (sortKeysMembers others)
  rw [map_fst_sortKeysMembers] at keys otherKeys
  rw [sorted] at keys
  exact keys.symm.trans otherKeys

/-- In mappings with the same sorted form, a key has one sorted value. -/
theorem sortKeys_eq_of_sorted_eq
    (distinct : (members.map Prod.fst).Nodup)
    (sorted : (sortKeysMembers members).insertionSort keyOrder =
      (sortKeysMembers others).insertionSort keyOrder)
    {key : String} {value other : Json} (member : (key, value) ∈ members)
    (otherMember : (key, other) ∈ others) :
    sortKeys value = sortKeys other := by
  have shown (given : List (String × Json)) {found : Json}
      (isMember : (key, found) ∈ given) :
      (key, sortKeys found) ∈
        (sortKeysMembers given).insertionSort keyOrder := by
    rw [List.mem_insertionSort, sortKeysMembers_eq_map]
    exact List.mem_map_of_mem
      (f := fun entry : String × Json => (entry.1, sortKeys entry.2)) isMember
  have unique :
      (((sortKeysMembers members).insertionSort keyOrder).map
        Prod.fst).Nodup := by
    apply (map_fst_insertionSort_perm _).nodup_iff.mpr
    rw [map_fst_sortKeysMembers]
    exact distinct
  have otherShown := shown others otherMember
  rw [← sorted] at otherShown
  exact congrArg Prod.snd
    (List.inj_on_of_nodup_map unique (shown members member) otherShown rfl)

end Members

mutual

/-- Values with the same sorted form are equal. -/
theorem same_of_sortKeys_eq :
    (value : Json) → {other : Json} → value.UniqueKeys → other.UniqueKeys →
      sortKeys value = sortKeys other → Same value other
  | .arr items, other, unique, otherUnique, sorted => by
      rw [sortKeys] at sorted
      rcases sortKeys_eq_arr sorted.symm with ⟨others, rfl, same⟩
      have pairs :=
        List.forall₂_iff_zip.mp
          (same_items_of_sortKeys_eq items unique otherUnique same.symm)
      exact .arr pairs.1 fun item other pair => pairs.2 pair
  | .obj members, other, unique, otherUnique, sorted => by
      rw [sortKeys] at sorted
      rcases sortKeys_eq_obj sorted.symm with ⟨others, rfl, same⟩
      refine .obj unique.1 (keys_perm_of_sorted_eq same.symm) ?_
      intro key value other member otherMember
      exact same_member_of_sortKeys_eq members unique.2 member
        ((uniqueKeysMembers_iff others).mp otherUnique.2 _ otherMember)
        (sortKeys_eq_of_sorted_eq unique.1 same.symm member otherMember)
  | .null, _, _, _, sorted =>
      same_of_eq_sortKeys nofun nofun sorted
  | .bool _, _, _, _, sorted =>
      same_of_eq_sortKeys nofun nofun sorted
  | .int _, _, _, _, sorted =>
      same_of_eq_sortKeys nofun nofun sorted
  | .float _, _, _, _, sorted =>
      same_of_eq_sortKeys nofun nofun sorted
  | .nonFinite _, _, _, _, sorted =>
      same_of_eq_sortKeys nofun nofun sorted
  | .str _, _, _, _, sorted =>
      same_of_eq_sortKeys nofun nofun sorted

theorem same_items_of_sortKeys_eq :
    (items : List Json) → {others : List Json} → uniqueKeysItems items →
      uniqueKeysItems others →
        sortKeysItems items = sortKeysItems others →
          List.Forall₂ Same items others
  | [], [], _, _, _ => .nil
  | [], _ :: _, _, _, sorted => by cases sorted
  | _ :: _, [], _, _, sorted => by cases sorted
  | item :: rest, other :: others, unique, otherUnique, sorted => by
      rw [sortKeysItems, sortKeysItems, List.cons.injEq] at sorted
      exact .cons
        (same_of_sortKeys_eq item unique.1 otherUnique.1 sorted.1)
        (same_items_of_sortKeys_eq rest unique.2 otherUnique.2 sorted.2)

theorem same_member_of_sortKeys_eq :
    (members : List (String × Json)) → {key : String} →
      {value other : Json} → uniqueKeysMembers members →
        (key, value) ∈ members → other.UniqueKeys →
          sortKeys value = sortKeys other → Same value other
  | (name, first) :: rest, key, value, other, unique, member, otherUnique,
      sorted => by
      rcases List.mem_cons.mp member with isHead | inRest
      · cases isHead
        exact same_of_sortKeys_eq first unique.1 otherUnique sorted
      · exact same_member_of_sortKeys_eq rest unique.2 inRest otherUnique
          sorted

end

/-- Values with distinct keys are equal exactly if their sorted forms are. -/
theorem sortKeys_eq_iff
    {value other : Json} (unique : value.UniqueKeys)
    (otherUnique : other.UniqueKeys) :
    sortKeys value = sortKeys other ↔ Same value other := by
  constructor
  · exact same_of_sortKeys_eq value unique otherUnique
  · exact Same.sortKeys_eq

/-! ## Texts -/

/-- Different values have different texts. -/
theorem dumps_inj
    (style : DumpStyle) {value other : Json} (unique : value.UniqueKeys)
    (otherUnique : other.UniqueKeys) :
    dumps style value = dumps style other ↔ value = other := by
  constructor
  · intro sameText
    have read := loads_dumps style value unique
    rw [sameText, loads_dumps style other otherUnique] at read
    exact (Option.some.inj read).symm
  · intro same
    rw [same]

/-- With sorted keys, exactly the equal values have one text. -/
theorem dumps_sortKeys_eq_iff
    (style : DumpStyle) {value other : Json} (unique : value.UniqueKeys)
    (otherUnique : other.UniqueKeys) :
    dumps style (sortKeys value) = dumps style (sortKeys other) ↔
      Same value other := by
  rw [dumps_inj style (uniqueKeys_sortKeys value unique)
    (uniqueKeys_sortKeys other otherUnique)]
  exact sortKeys_eq_iff unique otherUnique

end Foundation.JsonOrder
