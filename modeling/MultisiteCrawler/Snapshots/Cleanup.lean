import MultisiteCrawler.Snapshots.FailureSnapshots

/-!
# Removing expired snapshots

`cleanup_expired_snapshots` removes every expired file below an accepted root.
An accepted root is not inside the repository, but the repository may be inside
the root, and then its old files are removed as well.
-/

namespace MultisiteCrawler.Snapshots

open Foundation.Files
open Foundation.PythonErrors

/-! ## Cleanup -/

/-- Remove a candidate if it is a file older than the cutoff. -/
def removeIfExpired (cutoff : ℚ) (state : ℕ × FileTree)
    (candidate : ResolvedPath) : ℕ × FileTree :=
  match state.2.modifiedAt candidate with
  | some modified =>
      if modified < cutoff then (state.1 + 1, state.2.unlink candidate)
      else state
  | none => state

/-- `cleanup_expired_snapshots`, with the number of files removed. -/
def cleanupExpiredSnapshots (root : GivenPath) (cutoff : ℚ)
    (repositoryRoot : ResolvedPath) (tree : FileTree) :
    Except PyError (ℕ × FileTree) := do
  let resolved ← externalRoot root repositoryRoot
  if tree.pathExists resolved then
    .ok ((tree.descendants resolved).foldl (removeIfExpired cutoff) (0, tree))
  else .ok (0, tree)

/-! ## What is removed -/

section Removed

variable {cutoff : ℚ} {path : ResolvedPath} {entry : Entry}

/-- An entry which is removed when its path is a candidate. -/
def Expired (cutoff : ℚ) (entry : Entry) : Prop :=
  ∃ modified < cutoff, entry = .file modified

/-- Exactly the candidate is removed, if it has expired. -/
theorem mem_removeIfExpired_iff
    (state : ℕ × FileTree) (candidate : ResolvedPath) :
    (path, entry) ∈ (removeIfExpired cutoff state candidate).2.entries ↔
      (path, entry) ∈ state.2.entries ∧
        ¬ (path = candidate ∧ Expired cutoff entry) := by
  have unchanged
      (kept : (candidate, entry) ∈ state.2.entries → ¬ Expired cutoff entry) :
      (path, entry) ∈ state.2.entries ↔
        (path, entry) ∈ state.2.entries ∧
          ¬ (path = candidate ∧ Expired cutoff entry) := by
    constructor
    · intro member
      refine ⟨member, ?_⟩
      rintro ⟨rfl, expired⟩
      exact kept member expired
    · exact And.left
  unfold removeIfExpired
  cases found : state.2.modifiedAt candidate with
  | none =>
      apply unchanged
      rintro member ⟨modified, _, rfl⟩
      rw [FileTree.modifiedAt_eq_some_iff.mpr member] at found
      cases found
  | some modified =>
      have isFile := FileTree.modifiedAt_eq_some_iff.mp found
      show _ ∈ (ite _ _ _ : ℕ × FileTree).2.entries ↔ _
      split_ifs with expired
      · rw [FileTree.mem_unlink_iff found]
        constructor
        · rintro ⟨member, different⟩
          exact ⟨member, fun isCandidate => different isCandidate.1⟩
        · rintro ⟨member, kept⟩
          refine ⟨member, ?_⟩
          rintro rfl
          have same :=
            List.inj_on_of_nodup_map state.2.distinct member isFile rfl
          cases same
          exact kept ⟨rfl, modified, expired, rfl⟩
      · apply unchanged
        rintro member ⟨other, isExpired, rfl⟩
        have same :=
          List.inj_on_of_nodup_map state.2.distinct member isFile rfl
        cases same
        exact expired isExpired

/-- Exactly the expired files among the candidates are removed. -/
theorem mem_foldl_removeIfExpired_iff
    (candidates : List ResolvedPath) (state : ℕ × FileTree) :
    (path, entry) ∈
        (candidates.foldl (removeIfExpired cutoff) state).2.entries ↔
      (path, entry) ∈ state.2.entries ∧
        ¬ (path ∈ candidates ∧ Expired cutoff entry) := by
  induction candidates generalizing state with
  | nil => simp
  | cons candidate rest induction =>
      rw [List.foldl_cons, induction, mem_removeIfExpired_iff,
        List.mem_cons, and_assoc, ← not_or, ← or_and_right]

/-- Files of a tree which are no longer there. -/
def Deletes (before after : FileTree) (path : ResolvedPath)
    (modified : ℚ) : Prop :=
  (path, .file modified) ∈ before.entries ∧
    (path, .file modified) ∉ after.entries

variable {root : GivenPath} {repositoryRoot resolved : ResolvedPath}
variable {tree after : FileTree} {removed : ℕ} {modified : ℚ}

/-- The expired files below the root are deleted, and nothing else. -/
theorem deletes_iff
    (accepted : externalRoot root repositoryRoot = .ok resolved)
    (cleaned :
      cleanupExpiredSnapshots root cutoff repositoryRoot tree =
        .ok (removed, after)) :
    Deletes tree after path modified ↔
      (path, .file modified) ∈ tree.entries ∧ Below resolved path ∧
        modified < cutoff := by
  have expired : Expired cutoff (.file modified) ↔ modified < cutoff := by
    constructor
    · rintro ⟨other, isExpired, same⟩
      cases same
      exact isExpired
    · intro isExpired
      exact ⟨modified, isExpired, rfl⟩
  rw [cleanupExpiredSnapshots, accepted, ok_bind] at cleaned
  unfold Deletes
  split_ifs at cleaned with present
  · have isAfter :
        ((tree.descendants resolved).foldl (removeIfExpired cutoff)
          (0, tree)).2 = after :=
      congrArg Prod.snd (Except.ok.inj cleaned)
    rw [← isAfter, mem_foldl_removeIfExpired_iff, expired, not_and, not_not,
      and_congr_right_iff]
    intro member
    rw [forall_prop_of_true member, FileTree.mem_descendants_iff, and_assoc,
      and_iff_right (List.mem_map_of_mem member)]
  · cases cleaned
    constructor
    · rintro ⟨member, removed⟩
      exact absurd member removed
    · rintro ⟨member, below, _⟩
      have exists_root :=
        FileTree.pathExists_of_above (List.mem_map_of_mem member) below.1
      exact absurd exists_root present

/-- Only expired files below the root are deleted, none of the repository. -/
def Spares (tree after : FileTree) (cutoff : ℚ)
    (resolved repositoryRoot : ResolvedPath) : Prop :=
  ∀ path modified, Deletes tree after path modified →
    Below resolved path ∧ modified < cutoff ∧ ¬ Below repositoryRoot path

/-- The root is not above the repository, or all of its files are kept. -/
def Harmless (tree : FileTree) (cutoff : ℚ)
    (resolved repositoryRoot : ResolvedPath) : Prop :=
  resolved <+: repositoryRoot → ∀ path modified,
    (path, .file modified) ∈ tree.entries → Below repositoryRoot path →
      cutoff ≤ modified

/-- An accepted root is cleaned up. -/
theorem exists_cleaned (cutoff : ℚ) (tree : FileTree)
    (accepted : externalRoot root repositoryRoot = .ok resolved) :
    ∃ removed after,
      cleanupExpiredSnapshots root cutoff repositoryRoot tree =
        .ok (removed, after) := by
  rw [cleanupExpiredSnapshots, accepted, ok_bind]
  split_ifs
  · exact ⟨_, _, rfl⟩
  · exact ⟨_, _, rfl⟩

/--
For an accepted root, cleanup deletes only expired files below it; files of
the repository are among them exactly if the repository lies below the root
and has files which are older than the cutoff.
-/
theorem spares_iff_harmless (cutoff : ℚ) (tree : FileTree)
    (accepted : externalRoot root repositoryRoot = .ok resolved) :
    ∃ removed after,
      cleanupExpiredSnapshots root cutoff repositoryRoot tree =
          .ok (removed, after) ∧
        (Spares tree after cutoff resolved repositoryRoot ↔
          Harmless tree cutoff resolved repositoryRoot) := by
  have outside := (externalRoot_eq_ok_iff.mp accepted).2
  rcases exists_cleaned cutoff tree accepted with ⟨removed, after, cleaned⟩
  refine ⟨removed, after, cleaned, ?_⟩
  constructor
  · intro spares above path modified member inRepository
    rw [← not_lt]
    intro isExpired
    have different : path ≠ resolved := by
      rintro rfl
      exact outside inRepository.1
    have below : Below resolved path :=
      ⟨above.trans inRepository.1, different⟩
    have deleted :=
      (deletes_iff accepted cleaned).mpr ⟨member, below, isExpired⟩
    exact (spares path modified deleted).2.2 inRepository
  · intro harmless path modified deleted
    have removed := (deletes_iff accepted cleaned).mp deleted
    refine ⟨removed.2.1, removed.2.2, ?_⟩
    intro inRepository
    have above : resolved <+: repositoryRoot :=
      (above_or_above removed.2.1.1 inRepository.1).resolve_right outside
    have kept := harmless above path modified removed.1 inRepository
    exact absurd removed.2.2 (not_lt.mpr kept)

end Removed

/-! ## A root above the repository -/

/-- A repository and a directory of snapshots, with one old file each. -/
def checkout : FileTree where
  entries :=
    [(["srv"], .directory), (["srv", "crawler"], .directory),
      (["srv", "crawler", "main.py"], .file 0), (["var"], .directory),
      (["var", "demo_response.json"], .file 0)]
  distinct := by decide
  parents := by decide

/-- Next to the repository, only the snapshot is deleted. -/
theorem spares_checkout_beside :
    ∃ removed after,
      cleanupExpiredSnapshots (.absolute ["var"]) 1 ["srv", "crawler"]
          checkout = .ok (removed, after) ∧
        Spares checkout after 1 ["var"] ["srv", "crawler"] := by
  have accepted :
      externalRoot (.absolute ["var"]) ["srv", "crawler"] = .ok ["var"] := by
    decide
  rcases spares_iff_harmless 1 checkout accepted with
    ⟨removed, after, cleaned, spares_iff⟩
  refine ⟨removed, after, cleaned, spares_iff.mpr ?_⟩
  intro above
  exact absurd above (by decide)

/-- The root above the repository is accepted, and its old file deleted. -/
theorem not_spares_checkout_above :
    externalRoot (.absolute ["srv"]) ["srv", "crawler"] = .ok ["srv"] ∧
      ∃ removed after,
        cleanupExpiredSnapshots (.absolute ["srv"]) 1 ["srv", "crawler"]
            checkout = .ok (removed, after) ∧
          ¬ Spares checkout after 1 ["srv"] ["srv", "crawler"] := by
  have accepted :
      externalRoot (.absolute ["srv"]) ["srv", "crawler"] = .ok ["srv"] := by
    decide
  rcases exists_cleaned 1 checkout accepted with ⟨removed, after, cleaned⟩
  refine ⟨accepted, removed, after, cleaned, ?_⟩
  intro spares
  have deleted : Deletes checkout after ["srv", "crawler", "main.py"] 0 := by
    rw [deletes_iff accepted cleaned]
    decide +kernel
  exact (spares _ _ deleted).2.2 (by decide)

end MultisiteCrawler.Snapshots
