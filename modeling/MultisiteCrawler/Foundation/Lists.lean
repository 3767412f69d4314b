import Mathlib.Data.List.Nodup
import Mathlib.Tactic

/-!
# Lists

Contributions of the members of a list, parts of two lists, lists put
together with a separator, and lists related member by member.
-/

namespace Foundation.Lists

/-- Where only one member has a contribution, it is all there is. -/
theorem flatMap_eq_of_nodup
    {Item Result : Type} {items : List Item} (distinct : items.Nodup)
    {item : Item} (member : item ∈ items) {parts : Item → List Result}
    (none : ∀ other ∈ items, other ≠ item → parts other = []) :
    items.flatMap parts = parts item := by
  induction items with
  | nil => cases member
  | cons first rest induction =>
      rw [List.nodup_cons] at distinct
      rw [List.flatMap_cons]
      rcases List.mem_cons.mp member with rfl | isRest
      · have empty : rest.flatMap parts = [] := by
          rw [List.flatMap_eq_nil_iff]
          intro other isOther
          apply none other (List.mem_cons_of_mem _ isOther)
          rintro rfl
          exact distinct.1 isOther
        rw [empty, List.append_nil]
      · have different : first ≠ item := by
          rintro rfl
          exact distinct.1 isRest
        rw [none first List.mem_cons_self different, List.nil_append]
        exact induction distinct.2 isRest fun other isOther =>
          none other (List.mem_cons_of_mem _ isOther)

/-- A part of two lists lies in one of them, or begins and ends in both. -/
theorem sublist_append_cases
    {Item : Type} {first : Item} {rest items others : List Item}
    (part : List.Sublist (first :: rest) (items ++ others)) :
    List.Sublist (first :: rest) items ∨
      (first ∈ items ∧
        (first :: rest).getLast (List.cons_ne_nil _ _) ∈ others) ∨
      List.Sublist (first :: rest) others := by
  rcases List.sublist_append_iff.mp part with
    ⟨front, back, split, inItems, inOthers⟩
  cases front with
  | nil =>
      have whole : List.Sublist (first :: rest) others := by
        rw [split]
        exact inOthers
      exact Or.inr (Or.inr whole)
  | cons head front =>
      rcases List.eq_nil_or_concat back with rfl | ⟨back, last, rfl⟩
      · have whole : List.Sublist (first :: rest) items := by
          rw [split, List.append_nil]
          exact inItems
        exact Or.inl whole
      · refine Or.inr (Or.inl ⟨?_, ?_⟩)
        · rw [(List.cons.inj split).1]
          exact inItems.subset List.mem_cons_self
        · have isLast :
              (first :: rest).getLast (List.cons_ne_nil _ _) = last := by
            simp [split]
          rw [isLast]
          exact inOthers.subset (by simp)

theorem not_mem_intercalate
    {Item : Type} {item : Item} {separator : List Item}
    {parts : List (List Item)}
    (notSeparator : item ∉ separator)
    (notPart : ∀ part ∈ parts, item ∉ part) :
    item ∉ separator.intercalate parts := by
  induction parts with
  | nil => exact List.not_mem_nil
  | cons part others induction =>
      have first := notPart part List.mem_cons_self
      have rest :=
        induction fun other member =>
          notPart other (List.mem_cons_of_mem _ member)
      cases others with
      | nil =>
          rw [List.intercalate_singleton]
          exact first
      | cons next others =>
          rw [List.intercalate_cons_cons, List.mem_append, List.mem_append]
          rintro ((isFirst | isSeparator) | isRest)
          · exact first isFirst
          · exact notSeparator isSeparator
          · exact rest isRest

/-- Members which are left out contribute nothing. -/
theorem flatMap_filter
    {Item Part : Type} (keep : Item → Bool) (parts : Item → List Part)
    (items : List Item) :
    (items.filter keep).flatMap parts =
      items.flatMap fun item => if keep item then parts item else [] := by
  induction items with
  | nil => rfl
  | cons item others induction =>
      rw [List.filter_cons, List.flatMap_cons, ← induction]
      split_ifs <;> rfl

theorem sublist_flatMap_of_mem
    {Item Part : Type} {item : Item} {items : List Item}
    (member : item ∈ items) (parts : Item → List Part) :
    List.Sublist (parts item) (items.flatMap parts) := by
  rcases List.append_of_mem member with ⟨before, after, rfl⟩
  rw [List.flatMap_append, List.flatMap_cons]
  exact (List.sublist_append_left _ _).trans
    (List.sublist_append_right _ _)

theorem eq_of_length_le_one
    {Item : Type} {items : List Item} (short : items.length ≤ 1)
    {first second : Item} (isFirst : first ∈ items)
    (isSecond : second ∈ items) : first = second := by
  match items, short with
  | [only], _ =>
      rw [List.mem_singleton.mp isFirst, List.mem_singleton.mp isSecond]

theorem length_le_one_of_forall_eq
    {Item : Type} {items : List Item} (distinct : items.Nodup)
    (same : ∀ first ∈ items, ∀ second ∈ items, first = second) :
    items.length ≤ 1 := by
  match items, distinct with
  | [], _ => exact Nat.zero_le _
  | [_], _ => exact le_rfl
  | first :: second :: rest, distinct =>
      have equal := same first List.mem_cons_self second
        (List.mem_cons_of_mem _ List.mem_cons_self)
      rw [List.nodup_cons] at distinct
      rw [equal] at distinct
      exact absurd List.mem_cons_self distinct.1

/-- The same items are taken by conditions which agree on them. -/
theorem takeWhile_congr
    {Item : Type} {items : List Item} {first second : Item → Bool}
    (same : ∀ item ∈ items, first item = second item) :
    items.takeWhile first = items.takeWhile second := by
  induction items with
  | nil => rfl
  | cons item rest induction =>
      rw [List.takeWhile_cons, List.takeWhile_cons,
        same item List.mem_cons_self,
        induction fun other member =>
          same other (List.mem_cons_of_mem _ member)]

/-- What holds of all members of a list, by those of a related one. -/
theorem forall_mem_iff_of_forall₂
    {Item Other : Type} {relation : Item → Other → Prop} {items : List Item}
    {others : List Other} (related : List.Forall₂ relation items others)
    {first : Item → Prop} {second : Other → Prop}
    (same : ∀ item other, relation item other → (first item ↔ second other)) :
    (∀ item ∈ items, first item) ↔ ∀ other ∈ others, second other := by
  induction related with
  | nil => simp
  | cons here _ induction =>
      rw [List.forall_mem_cons, List.forall_mem_cons, induction,
        same _ _ here]

/-- A member of a list with a property, by those of a related one. -/
theorem exists_mem_of_forall₂
    {Item Other : Type} {relation : Item → Other → Prop} {items : List Item}
    {others : List Other} (related : List.Forall₂ relation items others)
    {first : Item → Prop} {second : Other → Prop}
    (kept : ∀ item other, relation item other → first item → second other)
    (found : ∃ item ∈ items, first item) : ∃ other ∈ others, second other := by
  induction related with
  | nil =>
      obtain ⟨item, ⟨⟩, _⟩ := found
  | cons here _ induction =>
      rw [List.exists_mem_cons_iff] at found ⊢
      exact found.imp (kept _ _ here) induction

/-- A related list, if every member has a related one. -/
theorem exists_forall₂
    {Item Other : Type} {relation : Item → Other → Prop} {items : List Item}
    (related : ∀ item ∈ items, ∃ other, relation item other) :
    ∃ others, List.Forall₂ relation items others := by
  induction items with
  | nil => exact ⟨[], .nil⟩
  | cons item rest induction =>
      rw [List.forall_mem_cons] at related
      rcases related with ⟨⟨other, here⟩, later⟩
      rcases induction later with ⟨others, remaining⟩
      exact ⟨other :: others, .cons here remaining⟩

/-- Lists put together are related part by part. -/
theorem forall₂_append_iff
    {Item Other : Type} {related : Item → Other → Prop}
    {first second : List Item} {other another : List Other}
    (length : first.length = other.length) :
    List.Forall₂ related (first ++ second) (other ++ another) ↔
      List.Forall₂ related first other ∧
        List.Forall₂ related second another := by
  constructor
  · intro both
    have before := List.forall₂_take_append _ _ _ both
    have after := List.forall₂_drop_append _ _ _ both
    rw [← length, List.take_left] at before
    rw [← length, List.drop_left] at after
    exact ⟨before, after⟩
  · rintro ⟨before, after⟩
    exact List.rel_append before after

/-- Everything is related to an item. -/
theorem exists_of_mem_forall₂
    {Item Other : Type} {related : Item → Other → Prop}
    {items : List Item} {others : List Other}
    (all : List.Forall₂ related items others) {other : Other}
    (member : other ∈ others) : ∃ item ∈ items, related item other := by
  have isRelated (found : Other) (item : Item) (isFound : related item found)
      (same : found = other) : related item other := same ▸ isFound
  exact exists_mem_of_forall₂ all.flip isRelated ⟨other, member, rfl⟩

/-- What is related to an item in the middle, and to those around it. -/
theorem exists_of_forall₂_middle
    {Item Other : Type} {related : Item → Other → Prop}
    {before after : List Item} {item : Item} {others : List Other}
    (all : List.Forall₂ related (before ++ item :: after) others) :
    ∃ first other rest, others = first ++ other :: rest ∧
      List.Forall₂ related before first ∧ related item other ∧
      List.Forall₂ related after rest := by
  have isFirst := (List.forall₂_take_append _ _ _ all.flip).flip
  have isRest := (List.forall₂_drop_append _ _ _ all.flip).flip
  rcases List.forall₂_cons_left_iff.mp isRest with
    ⟨other, rest, isOther, isAfter, isDrop⟩
  refine ⟨others.take before.length, other, rest, ?_, isFirst, isOther,
    isAfter⟩
  rw [← isDrop, List.take_append_drop]

/-- No part of an empty list is followed by a member. -/
theorem forall_split_nil {Item : Type} (holds : List Item → Item → Prop) :
    (∀ before item after, [] = before ++ item :: after →
      holds before item) ↔ True := by
  simp

/-- A list is cut before its first member or behind it. -/
theorem forall_split_cons
    {Item : Type} (first : Item) (rest : List Item)
    (holds : List Item → Item → Prop) :
    (∀ before item after, first :: rest = before ++ item :: after →
        holds before item) ↔
      holds [] first ∧
        ∀ before item after, rest = before ++ item :: after →
          holds (first :: before) item := by
  constructor
  · intro everywhere
    refine ⟨everywhere [] first rest rfl, ?_⟩
    intro before item after split
    apply everywhere (first :: before) item after
    rw [split, List.cons_append]
  · rintro ⟨atFirst, behind⟩ before item after split
    cases before with
    | nil =>
        cases split
        exact atFirst
    | cons head before =>
        rcases List.cons.inj split with ⟨rfl, restSplit⟩
        exact behind before item after restSplit

end Foundation.Lists
