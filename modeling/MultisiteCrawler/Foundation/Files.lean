import Mathlib.Data.List.Basic
import Mathlib.Data.Rat.Defs
import Mathlib.Tactic

/-!
# Trees of files

Files and directories by their resolved paths, without symbolic links.  Every
entry lies in a directory of the tree, or directly below the root of the file
system, which always exists.
-/

namespace Foundation.Files

/-! ## Paths -/

/-- A resolved absolute path, as its components. -/
abbrev ResolvedPath := List String

/-- `path.is_relative_to(base)`. -/
def isRelativeTo (path base : ResolvedPath) : Bool :=
  base.isPrefixOf path

/-- A path strictly below another one. -/
def Below (base path : ResolvedPath) : Prop :=
  base <+: path ∧ path ≠ base

instance (base path : ResolvedPath) : Decidable (Below base path) :=
  inferInstanceAs (Decidable (_ ∧ _))

theorem isRelativeTo_iff {path base : ResolvedPath} :
    isRelativeTo path base = true ↔ base <+: path :=
  List.isPrefixOf_iff_prefix

/-- Paths above the same path lie above each other. -/
theorem above_or_above
    {first second path : ResolvedPath} (isFirst : first <+: path)
    (isSecond : second <+: path) :
    first <+: second ∨ second <+: first :=
  List.prefix_or_prefix_of_prefix isFirst isSecond

/-! ## Trees -/

/-- A file with the time of its last modification, or a directory. -/
inductive Entry where
  | file (modified : ℚ)
  | directory
deriving DecidableEq

/-- Files and directories below the root of the file system. -/
structure FileTree where
  entries : List (ResolvedPath × Entry)
  distinct : (entries.map Prod.fst).Nodup
  parents : ∀ path ∈ entries.map Prod.fst,
    path.dropLast = [] ∨ (path.dropLast, .directory) ∈ entries

namespace FileTree

variable (tree : FileTree)

/-- `path.exists()`. -/
def pathExists (path : ResolvedPath) : Bool :=
  path.isEmpty || (tree.entries.map Prod.fst).contains path

/-- What lies at a path. -/
def entryAt (path : ResolvedPath) : Option Entry :=
  (tree.entries.find? fun entry => decide (entry.1 = path)).map Prod.snd

/-- The modification time of a path which is a file. -/
def modifiedAt (path : ResolvedPath) : Option ℚ :=
  match tree.entryAt path with
  | some (.file modified) => some modified
  | _ => none

/-- All paths strictly below a path. -/
def descendants (base : ResolvedPath) : List ResolvedPath :=
  (tree.entries.map Prod.fst).filter fun path => decide (Below base path)

variable {tree} {path base : ResolvedPath}

theorem mem_descendants_iff :
    path ∈ tree.descendants base ↔
      path ∈ tree.entries.map Prod.fst ∧ Below base path := by
  rw [descendants, List.mem_filter, decide_eq_true_eq]

theorem entryAt_eq_some_iff {entry : Entry} :
    tree.entryAt path = some entry ↔ (path, entry) ∈ tree.entries := by
  rw [entryAt, Option.map_eq_some_iff]
  constructor
  · rintro ⟨⟨_, _⟩, found, rfl⟩
    have isPath := List.find?_some found
    rw [← of_decide_eq_true isPath]
    exact List.mem_of_find?_eq_some found
  · intro member
    cases found : tree.entries.find? fun entry => decide (entry.1 = path) with
    | none =>
        rw [List.find?_eq_none] at found
        exact absurd (decide_eq_true rfl) (found _ member)
    | some other =>
        have isPath : other.1 = path := by
          simpa using List.find?_some found
        have same : other = (path, entry) :=
          List.inj_on_of_nodup_map tree.distinct
            (List.mem_of_find?_eq_some found) member isPath
        exact ⟨other, rfl, by rw [same]⟩

theorem modifiedAt_eq_some_iff {modified : ℚ} :
    tree.modifiedAt path = some modified ↔
      (path, .file modified) ∈ tree.entries := by
  rw [← entryAt_eq_some_iff, modifiedAt]
  cases tree.entryAt path with
  | none => simp
  | some entry => cases entry <;> simp

/-- What contains an entry exists. -/
theorem pathExists_of_above
    (member : path ∈ tree.entries.map Prod.fst) (above : base <+: path) :
    tree.pathExists base = true := by
  rcases above with ⟨rest, rfl⟩
  rw [pathExists, Bool.or_eq_true, List.isEmpty_iff,
    List.contains_iff_mem]
  induction rest using List.reverseRecOn with
  | nil =>
      rw [List.append_nil] at member
      exact Or.inr member
  | append_singleton rest name induction =>
      have parent := tree.parents _ member
      rw [← List.append_assoc, List.dropLast_concat] at parent
      rcases parent with isRoot | isDirectory
      · exact Or.inl (List.append_eq_nil_iff.mp isRoot).1
      · exact induction (List.mem_map_of_mem isDirectory)

variable (tree path) in
/-- `path.unlink()` of a file. -/
def unlink : FileTree :=
  if isFile : (tree.modifiedAt path).isSome then
    { entries := tree.entries.filter fun entry => decide (entry.1 ≠ path)
      distinct :=
        tree.distinct.sublist (List.filter_sublist.map Prod.fst)
      parents := by
        intro child member
        rcases List.mem_map.mp member with ⟨entry, isEntry, rfl⟩
        have isMember : entry.1 ∈ tree.entries.map Prod.fst :=
          List.mem_map_of_mem (List.mem_filter.mp isEntry).1
        rcases tree.parents entry.1 isMember with isRoot | isDirectory
        · exact Or.inl isRoot
        · refine Or.inr (List.mem_filter.mpr ⟨isDirectory, ?_⟩)
          rcases Option.isSome_iff_exists.mp isFile with
            ⟨modified, isModified⟩
          rw [modifiedAt_eq_some_iff] at isModified
          apply decide_eq_true
          intro isPath
          have same :=
            List.inj_on_of_nodup_map tree.distinct isDirectory isModified
              isPath
          cases same }
  else tree

/-- Everything else is left. -/
theorem mem_unlink_iff
    {modified : ℚ} (isFile : tree.modifiedAt path = some modified)
    {other : ResolvedPath} {entry : Entry} :
    (other, entry) ∈ (tree.unlink path).entries ↔
      (other, entry) ∈ tree.entries ∧ other ≠ path := by
  have isSome : (tree.modifiedAt path).isSome := by
    rw [isFile]
    rfl
  rw [unlink, dif_pos isSome, List.mem_filter, decide_eq_true_eq]

end FileTree

end Foundation.Files
