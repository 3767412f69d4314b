import MultisiteCrawler.Foundation.Lists

/-!
# Change tracking over collections

Something is looked for in one collection after another and seen in each of
them any number of times, each time with some data.  What is known of it at
any time is a function of this history: the data seen last and the number of
collections since.  The changes worth reporting are functions of the history
too: the first sighting, every sighting whose mark differs from that of the
sighting before, and every absence which is exactly the `threshold`-th in a
row.

A tracker does not keep the history but only some data, the mark of the data
seen last, a count of absences which stops at the threshold, and whether the
count is below it.  `collect_described` shows that this is enough to tell the
changes.  The data it keeps are not always those seen last: data which look
like the kept ones are not written.  What it keeps are the data with which the
last run of data looking alike began (`stored_eq_some_iff`), and these are also
what it reports after the `threshold`-th absence.
-/

namespace Foundation.ChangeTracking

open Foundation.Lists

variable {Data Mark : Type}

/-! ## Histories -/

/-- The data seen last, the collections being listed in order. -/
def lastSeen (history : List (List Data)) : Option Data :=
  history.flatten.getLast?

/-- The number of collections after the last one with a sighting. -/
def absences (history : List (List Data)) : ℕ :=
  (history.reverse.takeWhile List.isEmpty).length

@[simp]
theorem lastSeen_nil : lastSeen ([] : List (List Data)) = none := rfl

@[simp]
theorem absences_nil : absences ([] : List (List Data)) = 0 := rfl

theorem lastSeen_concat (past : List (List Data)) (now : List Data) :
    lastSeen (past ++ [now]) = now.getLast?.or (lastSeen past) := by
  simp [lastSeen, List.getLast?_append]

@[simp]
theorem lastSeen_concat_nil (past : List (List Data)) :
    lastSeen (past ++ [[]]) = lastSeen past := by
  simp [lastSeen_concat]

@[simp]
theorem absences_concat_nil (past : List (List Data)) :
    absences (past ++ [[]]) = absences past + 1 := by
  simp [absences]

@[simp]
theorem absences_concat_cons
    (past : List (List Data)) (first : Data) (rest : List Data) :
    absences (past ++ [first :: rest]) = 0 := by
  simp [absences]

theorem eq_nil_of_absences_concat_pos
    {past : List (List Data)} {now : List Data}
    (absent : 0 < absences (past ++ [now])) : now = [] := by
  cases now with
  | nil => rfl
  | cons first rest =>
      rw [absences_concat_cons] at absent
      exact absurd absent (lt_irrefl 0)

/-! ## Data which look alike -/

section Stored

variable {Look : Type} [DecidableEq Look] (look : Data → Look)

/-- What is kept after a sighting: data which look like those kept, if any. -/
def store (kept : Option Data) (data : Data) : Data :=
  match kept with
  | none => data
  | some old => if look old = look data then old else data

/-- What is kept after sightings. -/
def storeAll (kept : Option Data) (now : List Data) : Option Data :=
  now.foldl (fun kept data => some (store look kept data)) kept

/-- What is kept after a history. -/
def stored (history : List (List Data)) : Option Data :=
  storeAll look none history.flatten

/-- Data end with a run of data looking alike which begins with these. -/
def BeginsLastRun (now : List Data) (data : Data) : Prop :=
  ∃ earlier rest : List Data,
    now = earlier ++ data :: rest ∧
      (∀ other ∈ rest, look other = look data) ∧
      ∀ previous ∈ earlier.getLast?, look previous ≠ look data

theorem look_store (kept : Option Data) (data : Data) :
    look (store look kept data) = look data := by
  cases kept with
  | none => rfl
  | some old =>
      rw [store]
      split_ifs with same
      · exact same
      · rfl

theorem store_of_look_eq
    {old data : Data} (same : look old = look data) :
    store look (some old) data = old :=
  if_pos same

theorem store_of_look_ne
    {old data : Data} (differs : look old ≠ look data) :
    store look (some old) data = data :=
  if_neg differs

theorem storeAll_concat
    (kept : Option Data) (now : List Data) (data : Data) :
    storeAll look kept (now ++ [data]) =
      some (store look (storeAll look kept now) data) := by
  rw [storeAll, List.foldl_append]
  rfl

/-- What is kept looks like the data seen last. -/
theorem map_look_storeAll (kept : Option Data) (now : List Data) :
    (storeAll look kept now).map look =
      (now.getLast?.or kept).map look := by
  induction now using List.reverseRecOn with
  | nil => rfl
  | append_singleton earlier data induction =>
      rw [storeAll_concat, Option.map_some, look_store look,
        List.getLast?_append_of_ne_nil _ (List.cons_ne_nil _ _)]
      rfl

theorem exists_storeAll
    (kept : Option Data) {now : List Data} {last : Data}
    (isLast : now.getLast? = some last) :
    ∃ old, storeAll look kept now = some old ∧ look old = look last := by
  have looks := map_look_storeAll look kept now
  rw [isLast, Option.some_or, Option.map_some] at looks
  exact Option.map_eq_some_iff.mp looks

/-- Seeing the same data once more leaves what is kept. -/
theorem storeAll_again (kept : Option Data) (now : List Data) :
    storeAll look (storeAll look kept now) now = storeAll look kept now := by
  induction now using List.reverseRecOn with
  | nil => rfl
  | append_singleton earlier data induction =>
      rw [storeAll_concat, storeAll_concat, Option.some.injEq]
      cases isLast : earlier.getLast? with
      | none =>
          rw [List.getLast?_eq_none_iff.mp isLast]
          exact store_of_look_eq look (look_store look kept data)
      | some last =>
          rcases exists_storeAll look kept isLast with
            ⟨old, isOld, looksOld⟩
          rw [isOld] at induction ⊢
          by_cases same : look old = look data
          · rw [store_of_look_eq look same, induction]
            exact store_of_look_eq look same
          · rcases exists_storeAll look (some data) isLast with
              ⟨other, isOther, looksOther⟩
            have differs : look other ≠ look data := by
              rw [looksOther, ← looksOld]
              exact same
            rw [store_of_look_ne look same, isOther]
            exact store_of_look_ne look differs

theorem stored_concat (past : List (List Data)) (now : List Data) :
    stored look (past ++ [now]) = storeAll look (stored look past) now := by
  rw [stored, List.flatten_append, List.flatten_singleton, storeAll,
    List.foldl_append]
  rfl

omit [DecidableEq Look] in
theorem not_beginsLastRun_nil (data : Data) :
    ¬ BeginsLastRun look [] data := by
  rintro ⟨earlier, rest, parts, -⟩
  exact List.append_ne_nil_of_right_ne_nil _ (List.cons_ne_nil _ _)
    parts.symm

omit [DecidableEq Look] in
/-- One more sighting continues the last run or begins another. -/
theorem beginsLastRun_concat_iff
    (earlier : List Data) (last data : Data) :
    BeginsLastRun look (earlier ++ [last]) data ↔
      BeginsLastRun look earlier data ∧ look last = look data ∨
        (∀ previous ∈ earlier.getLast?, look previous ≠ look last) ∧
          last = data := by
  constructor
  · rintro ⟨before, run, parts, alike, begins⟩
    induction run using List.reverseRecOn with
    | nil =>
        rcases List.append_inj' parts rfl with ⟨rfl, isLast⟩
        cases isLast
        exact Or.inr ⟨begins, rfl⟩
    | append_singleton run final _ =>
        rw [← List.cons_append, ← List.append_assoc] at parts
        rcases List.append_inj' parts rfl with ⟨rfl, isLast⟩
        cases isLast
        rw [List.forall_mem_append, List.forall_mem_singleton] at alike
        exact Or.inl ⟨⟨before, run, rfl, alike.1, begins⟩, alike.2⟩
  · rintro (⟨⟨before, run, rfl, alike, begins⟩, same⟩ | ⟨begins, rfl⟩)
    · refine ⟨before, run ++ [last], ?_, ?_, begins⟩
      · rw [List.append_assoc, List.cons_append]
      · rw [List.forall_mem_append, List.forall_mem_singleton]
        exact ⟨alike, same⟩
    · exact ⟨earlier, [], rfl, nofun, begins⟩

/-- What is kept begins the last run of data which look alike. -/
theorem storeAll_eq_some_iff (now : List Data) (data : Data) :
    storeAll look none now = some data ↔ BeginsLastRun look now data := by
  induction now using List.reverseRecOn generalizing data with
  | nil => exact iff_of_false nofun (not_beginsLastRun_nil look data)
  | append_singleton earlier last induction =>
      rw [storeAll_concat, beginsLastRun_concat_iff, ← induction,
        Option.some.injEq]
      cases isLast : earlier.getLast? with
      | none =>
          rw [List.getLast?_eq_none_iff.mp isLast]
          simp [storeAll, store]
      | some final =>
          rcases exists_storeAll look none isLast with ⟨old, isOld, looks⟩
          rw [isOld]
          simp only [Option.mem_def, Option.some.injEq, forall_eq', ← looks]
          by_cases same : look old = look last
          · rw [store_of_look_eq look same]
            constructor
            · rintro rfl
              exact Or.inl ⟨rfl, same.symm⟩
            · rintro (⟨isData, -⟩ | ⟨differs, -⟩)
              · exact isData
              · exact absurd same differs
          · rw [store_of_look_ne look same]
            constructor
            · exact fun isData => Or.inr ⟨same, isData⟩
            · rintro (⟨rfl, alike⟩ | ⟨-, isData⟩)
              · exact absurd alike.symm same
              · exact isData

theorem stored_eq_some_iff (history : List (List Data)) (data : Data) :
    stored look history = some data ↔
      BeginsLastRun look history.flatten data :=
  storeAll_eq_some_iff look history.flatten data

theorem stored_eq_none_iff (history : List (List Data)) :
    stored look history = none ↔ lastSeen history = none := by
  have looks := map_look_storeAll look none history.flatten
  rw [Option.or_none] at looks
  rw [← Option.map_eq_none_iff (f := look)]
  exact (iff_of_eq (congrArg (· = none) looks)).trans
    Option.map_eq_none_iff

end Stored

/-! ## Changes -/

/-- A reported change. -/
inductive Change (Data : Type) where
  | created (data : Data)
  | updated (data : Data)
  | inactive (data : Data)
deriving DecidableEq, Repr

/-- The data of a change which tells of a sighting. -/
def Change.sighted : Change Data → Option Data
  | .created data => some data
  | .updated data => some data
  | .inactive _ => none

section Changes

variable [DecidableEq Mark] (mark : Data → Mark) (threshold : ℕ)

/-- The change told by a sighting, given the sighting before it. -/
def sightingChange : Option Data → Data → List (Change Data)
  | none, data => [.created data]
  | some previous, data =>
      if mark previous = mark data then [] else [.updated data]

/-- The changes told by the sightings of one collection, in their order. -/
def sightingChanges : Option Data → List Data → List (Change Data)
  | _, [] => []
  | previous, data :: rest =>
      sightingChange mark previous data ++ sightingChanges (some data) rest

/-- Sightings are told as such. -/
theorem sighted_of_mem_sightingChanges
    {previous : Option Data} {now : List Data} {change : Change Data}
    (member : change ∈ sightingChanges mark previous now) :
    change.sighted ≠ none := by
  induction now generalizing previous with
  | nil => cases member
  | cons data rest induction =>
      rcases List.mem_append.mp member with first | later
      · cases previous with
        | none =>
            rw [List.mem_singleton.mp first]
            exact Option.some_ne_none data
        | some before =>
            rw [sightingChange] at first
            split_ifs at first with same
            · cases first
            · rw [List.mem_singleton.mp first]
              exact Option.some_ne_none data
      · exact induction later

/-- Nothing is told as long as the mark stays the same. -/
theorem sightingChanges_eq_nil_iff (previous : Data) (now : List Data) :
    sightingChanges mark (some previous) now = [] ↔
      ∀ data ∈ now, mark data = mark previous := by
  induction now generalizing previous with
  | nil => simp [sightingChanges]
  | cons data rest induction =>
      rw [sightingChanges, List.append_eq_nil_iff, induction,
        List.forall_mem_cons, sightingChange]
      constructor
      · rintro ⟨first, others⟩
        split_ifs at first with same
        refine ⟨same.symm, ?_⟩
        intro other member
        exact (others other member).trans same.symm
      · rintro ⟨same, others⟩
        rw [if_pos same.symm]
        refine ⟨rfl, ?_⟩
        intro other member
        exact (others other member).trans same.symm

section Collections

variable (carried : List (List Data) → Option Data)

/--
The changes told by a collection, given the collections before it and the data
which an absence carries.
-/
def collectionChanges (past : List (List Data)) (now : List Data) :
    List (Change Data) :=
  sightingChanges mark (lastSeen past) now ++
    if absences (past ++ [now]) = threshold then
      ((carried past).map Change.inactive).toList
    else []

/-- The changes told by collections, given the collections before them. -/
def changesAfter (past : List (List Data)) :
    List (List Data) → List (Change Data)
  | [] => []
  | now :: rest =>
      collectionChanges mark threshold carried past now ++
        changesAfter (past ++ [now]) rest

/-- The changes told by a history. -/
def changes (history : List (List Data)) : List (Change Data) :=
  changesAfter mark threshold carried [] history

theorem changesAfter_concat
    (past history : List (List Data)) (now : List Data) :
    changesAfter mark threshold carried past (history ++ [now]) =
      changesAfter mark threshold carried past history ++
        collectionChanges mark threshold carried (past ++ history) now := by
  induction history generalizing past with
  | nil => simp [changesAfter]
  | cons first rest induction =>
      simp only [List.cons_append, changesAfter, induction,
        List.append_assoc, List.nil_append]

theorem changes_concat (history : List (List Data)) (now : List Data) :
    changes mark threshold carried (history ++ [now]) =
      changes mark threshold carried history ++
        collectionChanges mark threshold carried history now :=
  changesAfter_concat mark threshold carried [] history now

end Collections

/-- The data of the last change which tells of a sighting. -/
def lastSighted (told : List (Change Data)) : Option Data :=
  (told.filterMap Change.sighted).getLast?

omit [DecidableEq Mark] in
theorem lastSighted_append_inactive
    (told : List (Change Data)) (data : Option Data) :
    lastSighted (told ++ (data.map Change.inactive).toList) =
      lastSighted told := by
  cases data <;> simp [lastSighted, Change.sighted]

theorem lastSighted_append_sightingChange
    (told : List (Change Data)) (previous : Option Data) (data : Data)
    (agrees : (lastSighted told).map mark = previous.map mark) :
    (lastSighted (told ++ sightingChange mark previous data)).map mark =
      some (mark data) := by
  cases previous with
  | none => simp [sightingChange, lastSighted, Change.sighted]
  | some before =>
      rw [sightingChange]
      split_ifs with same
      · rw [List.append_nil, agrees, Option.map_some, same]
      · simp [lastSighted, Change.sighted]

theorem lastSighted_append_sightingChanges
    (told : List (Change Data)) (previous : Option Data) (now : List Data)
    (agrees : (lastSighted told).map mark = previous.map mark) :
    (lastSighted (told ++ sightingChanges mark previous now)).map mark =
      (now.getLast?.or previous).map mark := by
  induction now generalizing told previous with
  | nil =>
      rw [sightingChanges, List.append_nil]
      exact agrees
  | cons data rest induction =>
      have first :=
        lastSighted_append_sightingChange mark told previous data agrees
      rw [sightingChanges, ← List.append_assoc, induction _ (some data) first]
      cases rest <;> simp [List.getLast?_cons]

/-- The last change telling of a sighting has the mark of the last data. -/
theorem lastSighted_changes
    (carried : List (List Data) → Option Data)
    (history : List (List Data)) :
    (lastSighted (changes mark threshold carried history)).map mark =
      (lastSeen history).map mark := by
  induction history using List.reverseRecOn with
  | nil => rfl
  | append_singleton past now induction =>
      have sightings :=
        lastSighted_append_sightingChanges mark _ (lastSeen past) now
          induction
      rw [changes_concat, collectionChanges, ← List.append_assoc,
        lastSeen_concat]
      split_ifs
      · rw [lastSighted_append_inactive]
        exact sightings
      · rw [List.append_nil]
        exact sightings

/-! ### Changes which carry other data -/

section Carried

variable {related : Change Data → Change Data → Prop}
variable (refl : ∀ change, related change change)
variable {carried other : List (List Data) → Option Data}
variable (agree : ∀ past, carried past = none ↔ other past = none)

include agree in
theorem length_collectionChanges
    (past : List (List Data)) (now : List Data) :
    (collectionChanges mark threshold carried past now).length =
      (collectionChanges mark threshold other past now).length := by
  have absent := agree past
  rw [collectionChanges, collectionChanges]
  split_ifs
  · cases isCarried : carried past <;> cases isOther : other past <;>
      simp_all
  · rfl

include agree in
theorem length_changes (history : List (List Data)) :
    (changes mark threshold carried history).length =
      (changes mark threshold other history).length := by
  induction history using List.reverseRecOn with
  | nil => rfl
  | append_singleton past now induction =>
      rw [changes_concat, changes_concat, List.length_append,
        List.length_append, induction,
        length_collectionChanges mark threshold agree]

include refl agree in
theorem forall₂_collectionChanges_iff
    (past : List (List Data)) (now : List Data) :
    List.Forall₂ related (collectionChanges mark threshold carried past now)
        (collectionChanges mark threshold other past now) ↔
      (absences (past ++ [now]) = threshold →
        ∀ data ∈ carried past, ∀ shown ∈ other past,
          related (.inactive data) (.inactive shown)) := by
  have sightings :
      List.Forall₂ related (sightingChanges mark (lastSeen past) now)
        (sightingChanges mark (lastSeen past) now) :=
    List.forall₂_same.mpr fun change _ => refl change
  have absent := agree past
  rw [collectionChanges, collectionChanges, forall₂_append_iff rfl,
    and_iff_right sightings]
  split_ifs with reached
  · rw [forall_prop_of_true reached]
    cases isCarried : carried past <;> cases isOther : other past <;>
      simp_all
  · exact iff_of_true .nil fun isReached => absurd isReached reached

include refl agree in
/--
Changes which carry other data tell the same exactly if the data are related
each time the threshold is reached.
-/
theorem forall₂_changes_iff (history : List (List Data)) :
    List.Forall₂ related (changes mark threshold carried history)
        (changes mark threshold other history) ↔
      ∀ past now, past ++ [now] <+: history →
        absences (past ++ [now]) = threshold →
          ∀ data ∈ carried past, ∀ shown ∈ other past,
            related (.inactive data) (.inactive shown) := by
  induction history using List.reverseRecOn with
  | nil =>
      refine iff_of_true .nil ?_
      intro past now isPrefix
      exact absurd (List.prefix_nil.mp isPrefix) (by simp)
  | append_singleton earlier last induction =>
      rw [changes_concat, changes_concat,
        forall₂_append_iff (length_changes mark threshold agree earlier),
        induction, forall₂_collectionChanges_iff mark threshold refl agree]
      constructor
      · rintro ⟨before, now⟩ past current isPrefix
        rcases List.prefix_concat_iff.mp isPrefix with isWhole | within
        · rcases List.append_inj' isWhole rfl with ⟨rfl, isLast⟩
          cases isLast
          exact now
        · exact before past current within
      · intro each
        refine ⟨?_, each earlier last List.prefix_rfl⟩
        intro past now isPrefix
        exact each past now (isPrefix.trans (List.prefix_append _ _))

end Carried

end Changes

/-! ## Trackers -/

/-- What a tracker keeps of something seen before. -/
structure Tracked (Data Mark : Type) where
  data : Data
  mark : Mark
  missing : ℕ
  active : Bool
deriving DecidableEq, Repr

section Trackers

variable {Look : Type} [DecidableEq Look] [DecidableEq Mark]
variable (look : Data → Look) (mark : Data → Mark) (threshold : ℕ)

/-- What is kept after a sighting. -/
def seen (kept : Option (Tracked Data Mark)) (data : Data) :
    Tracked Data Mark :=
  ⟨store look (kept.map Tracked.data) data, mark data, 0, true⟩

/-- A sighting, and the change it tells. -/
def observe (kept : Option (Tracked Data Mark)) (data : Data) :
    Tracked Data Mark × List (Change Data) :=
  (seen look mark kept data,
    match kept with
    | none => [.created data]
    | some tracked =>
        if tracked.mark = mark data then [] else [.updated data])

/-- An absence, which counts as long as the tracker is active. -/
def miss (tracked : Tracked Data Mark) :
    Tracked Data Mark × List (Change Data) :=
  if tracked.active then
    if threshold ≤ tracked.missing + 1 then
      ({ tracked with missing := tracked.missing + 1, active := false },
        [.inactive tracked.data])
    else ({ tracked with missing := tracked.missing + 1 }, [])
  else (tracked, [])

/-- The sightings of one collection. -/
def observeAll :
    Option (Tracked Data Mark) → List Data →
      Option (Tracked Data Mark) × List (Change Data)
  | kept, [] => (kept, [])
  | kept, data :: rest =>
      ((observeAll (some (observe look mark kept data).1) rest).1,
        (observe look mark kept data).2 ++
          (observeAll (some (observe look mark kept data).1) rest).2)

/-- One collection: its sightings, or an absence if there is none. -/
def collect (kept : Option (Tracked Data Mark)) (now : List Data) :
    Option (Tracked Data Mark) × List (Change Data) :=
  match now with
  | [] =>
      (kept.map fun tracked => (miss threshold tracked).1,
        (kept.map fun tracked => (miss threshold tracked).2).getD [])
  | _ :: _ => observeAll look mark kept now

/-- What a tracker should keep after a history. -/
def described (history : List (List Data)) :
    Option (Tracked Data Mark) :=
  Option.map₂
    (fun data last =>
      ⟨data, mark last, min threshold (absences history),
        decide (absences history < threshold)⟩)
    (stored look history) (lastSeen history)

/-- Sightings leave what is stored, with the mark of the last data. -/
theorem observeAll_fst
    (kept : Option (Tracked Data Mark)) (first : Data) (rest : List Data) :
    (observeAll look mark kept (first :: rest)).1 =
      Option.map₂ (fun data last => ⟨data, mark last, 0, true⟩)
        (storeAll look (kept.map Tracked.data) (first :: rest))
        (first :: rest).getLast? := by
  induction rest generalizing kept first with
  | nil => rfl
  | cons second rest induction =>
      rw [observeAll, induction]
      rfl

/-- Only the mark of the data seen before decides the changes. -/
theorem observeAll_snd
    (kept : Option (Tracked Data Mark)) (previous : Option Data)
    (now : List Data)
    (marked : kept.map Tracked.mark = previous.map mark) :
    (observeAll look mark kept now).2 =
      sightingChanges mark previous now := by
  induction now generalizing kept previous with
  | nil => rfl
  | cons first rest induction =>
      have others :
          (observeAll look mark
              (some (observe look mark kept first).1) rest).2 =
            sightingChanges mark (some first) rest :=
        induction _ _ rfl
      rw [observeAll, sightingChanges, others]
      cases kept with
      | none =>
          cases previous with
          | none => rfl
          | some data => cases marked
      | some tracked =>
          cases previous with
          | none => cases marked
          | some data =>
              have same : tracked.mark = mark data := Option.some.inj marked
              rw [observe, sightingChange, ← same]

/-- The sightings of a collection leave something. -/
theorem exists_observeAll
    (kept : Option (Tracked Data Mark)) (first : Data) (rest : List Data) :
    ∃ data last,
      storeAll look (kept.map Tracked.data) (first :: rest) = some data ∧
        (first :: rest).getLast? = some last ∧
        (observeAll look mark kept (first :: rest)).1 =
          some ⟨data, mark last, 0, true⟩ := by
  have isLast := List.getLast?_eq_some_getLast (List.cons_ne_nil first rest)
  rcases exists_storeAll look (kept.map Tracked.data) isLast with
    ⟨data, isStored, -⟩
  refine ⟨data, _, isStored, isLast, ?_⟩
  rw [observeAll_fst, isStored, isLast]
  rfl

/-- The sightings of a collection, delivered a second time. -/
theorem observeAll_again
    (kept : Option (Tracked Data Mark)) (first : Data) (rest : List Data) :
    observeAll look mark (observeAll look mark kept (first :: rest)).1
        (first :: rest) =
      ((observeAll look mark kept (first :: rest)).1,
        sightingChanges mark (first :: rest).getLast? (first :: rest)) := by
  rcases exists_observeAll look mark kept first rest with
    ⟨data, last, isStored, isLast, left⟩
  have again :=
    storeAll_again look (kept.map Tracked.data) (first :: rest)
  rw [isStored] at again
  rw [left, Prod.ext_iff]
  constructor
  · rw [observeAll_fst, Option.map_some, again, isLast]
    rfl
  · refine observeAll_snd look mark _ _ _ ?_
    rw [isLast]
    rfl

omit [DecidableEq Mark] in
/-- Absences are not told as sightings. -/
theorem sighted_of_mem_miss
    {tracked : Tracked Data Mark} {change : Change Data}
    (member : change ∈ (miss threshold tracked).2) :
    change.sighted = none := by
  rw [miss] at member
  split_ifs at member
  · rw [List.mem_singleton.mp member]
    rfl
  · cases member
  · cases member

omit [DecidableEq Mark] in
/-- An absence of a tracker which counts the absences up to the threshold. -/
theorem miss_counted (data : Data) (absent : ℕ) (mark : Mark) :
    miss threshold
        ⟨data, mark, min threshold absent, decide (absent < threshold)⟩ =
      (⟨data, mark, min threshold (absent + 1),
          decide (absent + 1 < threshold)⟩,
        if absent + 1 = threshold then [.inactive data] else []) := by
  rcases lt_trichotomy (absent + 1) threshold with below | reached | above
  · have counts : absent < threshold := by omega
    simp only [miss, decide_eq_true counts, min_eq_right counts.le,
      min_eq_right below.le, decide_eq_true below, if_pos,
      if_neg (not_le.mpr below), if_neg below.ne]
  · have counts : absent < threshold := by omega
    have stops : ¬ absent + 1 < threshold := by omega
    simp only [miss, decide_eq_true counts, min_eq_right counts.le,
      min_eq_right reached.le, decide_eq_false stops, if_pos,
      if_pos reached.ge, if_pos reached]
  · have stopped : ¬ absent < threshold := by omega
    have stops : ¬ absent + 1 < threshold := by omega
    simp only [miss, decide_eq_false stopped, decide_eq_false stops,
      min_eq_left (not_lt.mp stopped), min_eq_left above.le,
      Bool.false_eq_true, if_false, if_neg above.ne']

omit [DecidableEq Mark] in
/-- A tracker keeps what is stored. -/
theorem map_data_described (history : List (List Data)) :
    (described look mark threshold history).map Tracked.data =
      stored look history := by
  rw [described]
  cases isStored : stored look history with
  | none => rfl
  | some data =>
      cases isLast : lastSeen history with
      | none =>
          rw [(stored_eq_none_iff look history).mpr isLast] at isStored
          cases isStored
      | some last => rfl

omit [DecidableEq Mark] in
/-- A tracker keeps the mark of the data seen last. -/
theorem map_mark_described (history : List (List Data)) :
    (described look mark threshold history).map Tracked.mark =
      (lastSeen history).map mark := by
  rw [described]
  cases isStored : stored look history with
  | none =>
      rw [(stored_eq_none_iff look history).mp isStored]
      rfl
  | some data => cases lastSeen history <;> rfl

/-- An absence is counted, and told when the threshold is reached. -/
theorem collect_described_nil (history : List (List Data)) :
    collect look mark threshold (described look mark threshold history) [] =
      (described look mark threshold (history ++ [[]]),
        collectionChanges mark threshold (stored look) history []) := by
  have unchanged : stored look (history ++ [[]]) = stored look history :=
    stored_concat look history []
  unfold collect described collectionChanges
  rw [unchanged, lastSeen_concat_nil, absences_concat_nil]
  cases isStored : stored look history with
  | none => simp [sightingChanges]
  | some data =>
      cases isLast : lastSeen history with
      | none =>
          rw [(stored_eq_none_iff look history).mpr isLast] at isStored
          cases isStored
      | some last =>
          simp only [Option.map₂_some_some, Option.map_some,
            Option.getD_some, miss_counted, sightingChanges,
            List.nil_append, Option.toList_some]

variable (threshold_pos : 0 < threshold)

include threshold_pos in
/-- After sightings nothing is missing. -/
theorem collect_described_cons
    (history : List (List Data)) (first : Data) (rest : List Data) :
    collect look mark threshold (described look mark threshold history)
        (first :: rest) =
      (described look mark threshold (history ++ [first :: rest]),
        collectionChanges mark threshold (stored look) history
          (first :: rest)) := by
  rw [collect, Prod.ext_iff]
  constructor
  · rw [observeAll_fst, map_data_described, described, stored_concat,
      absences_concat_cons, lastSeen_concat, decide_eq_true threshold_pos,
      Nat.min_zero, List.getLast?_cons, Option.some_or]
  · rw [collectionChanges, absences_concat_cons, if_neg threshold_pos.ne,
      List.append_nil]
    exact observeAll_snd look mark _ _ _
      (map_mark_described look mark threshold history)

include threshold_pos in
/-- A tracker keeps what it should, and tells what it should. -/
theorem collect_described
    (history : List (List Data)) (now : List Data) :
    collect look mark threshold (described look mark threshold history)
        now =
      (described look mark threshold (history ++ [now]),
        collectionChanges mark threshold (stored look) history now) := by
  cases now with
  | nil => exact collect_described_nil look mark threshold history
  | cons first rest =>
      exact collect_described_cons look mark threshold threshold_pos history
        first rest

end Trackers

end Foundation.ChangeTracking
