import MultisiteCrawler.Foundation.JsonText

/-!
# Keys of mappings

Assigning a key changes the value of that key only, and keeps the keys of a
mapping distinct.  Everything `json.loads` returns has distinct keys.
-/

namespace Foundation.JsonText

section Mapping

variable {Value : Type} {key other : String}

/-! ## Assignments -/

@[simp]
theorem lookup_assign_self
    (key : String) (value : Value) (mapping : List (String × Value)) :
    lookup key (assign key value mapping) = some value := by
  induction mapping with
  | nil => simp [assign, lookup]
  | cons head rest induction =>
      rw [assign]
      split_ifs with same
      · simp [lookup, same]
      · rw [lookup, if_neg same]
        exact induction

theorem lookup_assign_of_ne
    (different : other ≠ key) (value : Value)
    (mapping : List (String × Value)) :
    lookup other (assign key value mapping) = lookup other mapping := by
  induction mapping with
  | nil => simp [assign, lookup, Ne.symm different]
  | cons head rest induction =>
      rw [assign]
      split_ifs with same
      · rw [lookup, lookup, same, if_neg (Ne.symm different),
          if_neg (Ne.symm different)]
      · rw [lookup, lookup, induction]

theorem mem_keys_assign_iff
    (key : String) (value : Value) (mapping : List (String × Value)) :
    other ∈ (assign key value mapping).map Prod.fst ↔
      other = key ∨ other ∈ mapping.map Prod.fst := by
  induction mapping with
  | nil => simp [assign]
  | cons head rest induction =>
      rw [assign]
      split_ifs with same
      · simp [same]
      · rw [List.map_cons, List.mem_cons, induction, List.map_cons,
          List.mem_cons]
        exact or_left_comm

theorem nodup_keys_assign
    (key : String) (value : Value) {mapping : List (String × Value)}
    (distinct : (mapping.map Prod.fst).Nodup) :
    ((assign key value mapping).map Prod.fst).Nodup := by
  induction mapping with
  | nil => exact List.nodup_singleton _
  | cons head rest induction =>
      rw [List.map_cons, List.nodup_cons] at distinct
      rw [assign]
      split_ifs with same
      · rw [List.map_cons, List.nodup_cons]
        exact distinct
      · rw [List.map_cons, List.nodup_cons, mem_keys_assign_iff]
        refine ⟨?_, induction distinct.2⟩
        rintro (equal | member)
        · exact same equal
        · exact distinct.1 member

theorem nodup_keys_dictOf (pairs : List (String × Value)) :
    ((dictOf pairs).map Prod.fst).Nodup := by
  induction pairs using List.reverseRecOn with
  | nil => exact List.nodup_nil
  | append_singleton pairs pair induction =>
      rw [dictOf, List.foldl_concat]
      exact nodup_keys_assign _ _ induction

/-! ## Members -/

theorem lookup_of_mem
    {mapping : List (String × Value)}
    (distinct : (mapping.map Prod.fst).Nodup) {member : String × Value}
    (isMember : member ∈ mapping) :
    lookup member.1 mapping = some member.2 := by
  induction mapping with
  | nil => cases isMember
  | cons head rest induction =>
      rw [List.map_cons, List.nodup_cons] at distinct
      rw [lookup]
      rcases List.mem_cons.mp isMember with rfl | isRest
      · rw [if_pos rfl]
      · have different : head.1 ≠ member.1 := by
          intro same
          apply distinct.1
          rw [same]
          exact List.mem_map_of_mem isRest
        rw [if_neg different]
        exact induction distinct.2 isRest

theorem mem_of_lookup
    {mapping : List (String × Value)} {value : Value}
    (found : lookup key mapping = some value) : (key, value) ∈ mapping := by
  induction mapping with
  | nil => cases found
  | cons head rest induction =>
      rw [lookup] at found
      split_ifs at found with same
      · cases found
        rw [← same]
        exact List.mem_cons_self
      · exact List.mem_cons_of_mem _ (induction found)

end Mapping

/-! ## Values with distinct keys -/

theorem uniqueKeysMembers_assign
    (key : String) {value : Json} (unique : value.UniqueKeys)
    {members : List (String × Json)}
    (uniques : uniqueKeysMembers members) :
    uniqueKeysMembers (assign key value members) := by
  induction members with
  | nil => exact ⟨unique, trivial⟩
  | cons head rest induction =>
      rw [assign]
      split_ifs
      · exact ⟨unique, uniques.2⟩
      · exact ⟨uniques.1, induction uniques.2⟩

/-- A mapping keeps distinct keys when a key is assigned. -/
theorem uniqueKeys_assign
    (key : String) {value : Json} (unique : value.UniqueKeys)
    {members : List (String × Json)}
    (uniques : (Json.obj members).UniqueKeys) :
    (Json.obj (assign key value members)).UniqueKeys :=
  ⟨nodup_keys_assign _ _ uniques.1, uniqueKeysMembers_assign _ unique uniques.2⟩

theorem uniqueKeys_dictOf
    {members : List (String × Json)}
    (uniques : uniqueKeysMembers members) :
    (Json.obj (dictOf members)).UniqueKeys := by
  refine ⟨nodup_keys_dictOf members, ?_⟩
  have extend (mapping : List (String × Json))
      (kept : uniqueKeysMembers mapping) :
      uniqueKeysMembers
        (members.foldl
          (fun mapping pair => assign pair.1 pair.2 mapping) mapping) := by
    induction members generalizing mapping with
    | nil => exact kept
    | cons head rest induction =>
        exact induction uniques.2 _
          (uniqueKeysMembers_assign _ uniques.1 kept)
  exact extend [] trivial

/-! ## What is read -/

theorem uniqueKeys_of_numberOf
    {text : List Char} {value : Json} (read : numberOf text = some value) :
    value.UniqueKeys := by
  unfold numberOf at read
  split_ifs at read <;> cases read <;> trivial

theorem uniqueKeys_of_readNumber
    {text rest : List Char} {value : Json}
    (read : readNumber text = some (value, rest)) : value.UniqueKeys := by
  rw [readNumber, Option.bind_eq_bind, Option.bind_eq_some_iff] at read
  rcases read with ⟨number, isNumber, equal⟩
  cases equal
  exact uniqueKeys_of_numberOf isNumber

theorem uniqueKeys_of_readConstant
    {text rest : List Char} {value : Json}
    (read : readConstant text = some (value, rest)) : value.UniqueKeys := by
  unfold readConstant at read
  split at read <;> cases read <;> trivial

/-- Every reader returns values with distinct keys. -/
theorem uniqueKeys_of_read (fuel : ℕ) :
    (∀ text value rest, readValue fuel text = some (value, rest) →
      value.UniqueKeys) ∧
    (∀ text items rest, readItems fuel text = some (items, rest) →
      uniqueKeysItems items) ∧
    ∀ text members rest, readMembers fuel text = some (members, rest) →
      uniqueKeysMembers members := by
  induction fuel with
  | zero =>
      refine ⟨?_, ?_, ?_⟩ <;> intro _ _ _ read <;> cases read
  | succ fuel induction =>
      rcases induction with ⟨values, items, members⟩
      refine ⟨?_, ?_, ?_⟩
      · intro text value rest read
        unfold readValue at read
        split_ifs at read
        · exact uniqueKeys_of_readNumber read
        · split at read
          · rw [Option.bind_eq_bind, Option.bind_eq_some_iff] at read
            rcases read with ⟨_, _, equal⟩
            cases equal
            trivial
          · split at read
            · cases read
              trivial
            · rw [Option.bind_eq_bind, Option.bind_eq_some_iff] at read
              rcases read with ⟨⟨found, _⟩, isFound, equal⟩
              cases equal
              exact items _ _ _ isFound
          · split at read
            · cases read
              exact ⟨List.nodup_nil, trivial⟩
            · rw [Option.bind_eq_bind, Option.bind_eq_some_iff] at read
              rcases read with ⟨⟨found, _⟩, isFound, equal⟩
              cases equal
              exact uniqueKeys_dictOf (members _ _ _ isFound)
          · exact uniqueKeys_of_readConstant read
      · intro text found rest read
        unfold readItems at read
        rw [Option.bind_eq_bind, Option.bind_eq_some_iff] at read
        rcases read with ⟨⟨first, _⟩, isFirst, read⟩
        dsimp only at read
        split at read
        · cases read
          exact ⟨values _ _ _ isFirst, trivial⟩
        · rw [Option.bind_eq_bind, Option.bind_eq_some_iff] at read
          rcases read with ⟨⟨others, _⟩, areOthers, equal⟩
          cases equal
          exact ⟨values _ _ _ isFirst, items _ _ _ areOthers⟩
        · cases read
      · intro text found rest read
        unfold readMembers at read
        split at read
        · rw [Option.bind_eq_bind, Option.bind_eq_some_iff] at read
          rcases read with ⟨⟨key, _⟩, _, read⟩
          dsimp only at read
          split at read
          · rw [Option.bind_eq_bind, Option.bind_eq_some_iff] at read
            rcases read with ⟨⟨first, _⟩, isFirst, read⟩
            dsimp only at read
            split at read
            · cases read
              exact ⟨values _ _ _ isFirst, trivial⟩
            · rw [Option.bind_eq_bind, Option.bind_eq_some_iff] at read
              rcases read with ⟨⟨others, _⟩, areOthers, equal⟩
              cases equal
              exact ⟨values _ _ _ isFirst, members _ _ _ areOthers⟩
            · cases read
          · cases read
        · cases read

/-- Everything `json.loads` returns has distinct keys. -/
theorem uniqueKeys_of_loads
    {text : String} {value : Json} (loaded : loads text = some value) :
    value.UniqueKeys := by
  rw [loads, Option.bind_eq_bind, Option.bind_eq_some_iff] at loaded
  rcases loaded with ⟨⟨found, rest⟩, isFound, equal⟩
  dsimp only at equal
  split_ifs at equal
  cases equal
  exact (uniqueKeys_of_read _).1 _ _ _ isFound

end Foundation.JsonText
