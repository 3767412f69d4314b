import Mathlib.Data.List.Sort
import Mathlib.Data.String.Basic
import MultisiteCrawler.Foundation.JsonText

/-!
# The order of keys in JSON documents

Mappings are equal whatever the order of their keys.  `sortKeys` puts the keys
of every mapping in order, as `json.dumps` does with `sort_keys`, and gives the
same value for equal ones.
-/

namespace Foundation.JsonOrder

open Foundation.JsonText

/-! ## Sorting keys -/

mutual

/-- The value with the keys of every mapping sorted by code points. -/
def sortKeys : Json → Json
  | .arr items => .arr (sortKeysItems items)
  | .obj members =>
      .obj ((sortKeysMembers members).insertionSort
        fun first second => first.1 ≤ second.1)
  | value => value

/-- `sortKeys` for every item. -/
def sortKeysItems : List Json → List Json
  | [] => []
  | item :: rest => sortKeys item :: sortKeysItems rest

/-- `sortKeys` for every member value. -/
def sortKeysMembers : List (String × Json) → List (String × Json)
  | [] => []
  | (key, value) :: rest => (key, sortKeys value) :: sortKeysMembers rest

end

/-! ## Equality of values -/

/-- Python's equality of JSON values, numbers of different types kept apart. -/
inductive Same : Json → Json → Prop where
  | refl (value : Json) : Same value value
  | arr {items others : List Json}
      (length : items.length = others.length)
      (same : ∀ item other, (item, other) ∈ items.zip others →
        Same item other) :
      Same (.arr items) (.arr others)
  | obj {members others : List (String × Json)}
      (distinct : (members.map Prod.fst).Nodup)
      (keys : (members.map Prod.fst).Perm (others.map Prod.fst))
      (same : ∀ key value other, (key, value) ∈ members →
        (key, other) ∈ others → Same value other) :
      Same (.obj members) (.obj others)

theorem sortKeysItems_eq_map (items : List Json) :
    sortKeysItems items = items.map sortKeys := by
  induction items with
  | nil => rfl
  | cons item rest induction =>
      rw [sortKeysItems, induction, List.map_cons]

theorem sortKeysMembers_eq_map (members : List (String × Json)) :
    sortKeysMembers members =
      members.map fun member => (member.1, sortKeys member.2) := by
  induction members with
  | nil => rfl
  | cons member rest induction =>
      rw [sortKeysMembers, induction, List.map_cons]

section Keys

variable {Value : Type} {members others : List (String × Value)}

/-- Mappings with the same values for the same keys. -/
theorem perm_of_same_values
    (distinct : (members.map Prod.fst).Nodup)
    (keys : (members.map Prod.fst).Perm (others.map Prod.fst))
    (same : ∀ key value other, (key, value) ∈ members →
      (key, other) ∈ others → value = other) :
    members.Perm others := by
  have otherDistinct := keys.nodup_iff.mp distinct
  rw [List.perm_ext_iff_of_nodup (.of_map _ distinct)
    (.of_map _ otherDistinct)]
  rintro ⟨key, value⟩
  constructor
  · intro member
    have isKey : key ∈ others.map Prod.fst :=
      keys.mem_iff.mp (List.mem_map_of_mem member)
    rcases List.mem_map.mp isKey with ⟨⟨_, other⟩, otherMember, rfl⟩
    rw [same _ value other member otherMember]
    exact otherMember
  · intro otherMember
    have isKey : key ∈ members.map Prod.fst :=
      keys.mem_iff.mpr (List.mem_map_of_mem otherMember)
    rcases List.mem_map.mp isKey with ⟨⟨_, other⟩, member, rfl⟩
    rw [← same _ other value member otherMember]
    exact member

/-- Members by the code points of their keys. -/
def keyOrder (first second : String × Value) : Prop :=
  first.1 ≤ second.1

instance : DecidableRel (@keyOrder Value) :=
  fun first second => inferInstanceAs (Decidable (first.1 ≤ second.1))

instance : Std.Total (@keyOrder Value) :=
  ⟨fun first second => le_total first.1 second.1⟩

instance : IsTrans (String × Value) keyOrder :=
  ⟨fun _ _ _ => le_trans⟩

/-- The order in which members are given does not matter. -/
theorem insertionSort_eq_of_perm
    (distinct : (members.map Prod.fst).Nodup)
    (perm : members.Perm others) :
    members.insertionSort keyOrder = others.insertionSort keyOrder := by
  have sorted :
      (members.insertionSort keyOrder).Perm
        (others.insertionSort keyOrder) :=
    (List.perm_insertionSort keyOrder members).trans
      (perm.trans (List.perm_insertionSort keyOrder others).symm)
  refine sorted.eq_of_pairwise ?_ (List.pairwise_insertionSort keyOrder _)
    (List.pairwise_insertionSort keyOrder _)
  intro first second isFirst isSecond before after
  have member : first ∈ members := (List.mem_insertionSort keyOrder).mp isFirst
  have otherMember : second ∈ members :=
    perm.mem_iff.mpr ((List.mem_insertionSort keyOrder).mp isSecond)
  exact List.inj_on_of_nodup_map distinct member otherMember
    (le_antisymm before after)

end Keys

/-- Equal values are the same when their keys have been sorted. -/
theorem Same.sortKeys_eq {value other : Json} (same : Same value other) :
    sortKeys value = sortKeys other := by
  induction same with
  | refl value => rfl
  | @arr items others length same induction =>
      rw [sortKeys, sortKeys, sortKeysItems_eq_map, sortKeysItems_eq_map]
      refine congrArg Json.arr ?_
      refine List.ext_getElem (by simpa using length) ?_
      intro index isItem isOther
      rw [List.getElem_map, List.getElem_map]
      refine induction _ _ ?_
      rw [List.length_map] at isItem isOther
      have isPair : index < (items.zip others).length := by
        rw [List.length_zip]
        exact lt_min isItem isOther
      rw [← List.getElem_zip]
      exact List.getElem_mem isPair
  | @obj members others distinct keys same induction =>
      rw [sortKeys, sortKeys, sortKeysMembers_eq_map,
        sortKeysMembers_eq_map]
      refine congrArg Json.obj ?_
      have sortedDistinct :
          ((members.map fun member => (member.1, sortKeys member.2)).map
            Prod.fst).Nodup := by
        rw [List.map_map]
        exact distinct
      refine insertionSort_eq_of_perm sortedDistinct
        (perm_of_same_values sortedDistinct ?_ ?_)
      · rw [List.map_map, List.map_map]
        exact keys
      · intro key value other member otherMember
        rcases List.mem_map.mp member with ⟨⟨_, _⟩, isMember, pair⟩
        rcases List.mem_map.mp otherMember with
          ⟨⟨_, _⟩, isOther, otherPair⟩
        cases pair
        cases otherPair
        exact induction _ _ _ isMember isOther

end Foundation.JsonOrder
