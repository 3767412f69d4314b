import MultisiteCrawler.Foundation.Lists
import MultisiteCrawler.Foundation.PythonText

/-!
# The text exposition format

A page of metrics is a sequence of lines: help texts, types and samples with
labels.  Timestamps, other comments and blank lines are left out.  `readPage`
reads the lines of a page, and `WellFormed` says how the lines of one metric
must stand together.
-/

namespace Foundation.Exposition

open Foundation.Lists
open Foundation.PythonText

/-- Texts as lists of characters. -/
abbrev Text := List Char

/-! ## Lines -/

/-- A line of a page. -/
inductive Line where
  | help (name documentation : Text)
  | typed (name kind : Text)
  | sample (name : Text) (labels : List (Text × Text)) (value : Text)
deriving DecidableEq

/-- The metric a line is about. -/
def Line.name : Line → Text
  | .help name _ => name
  | .typed name _ => name
  | .sample name _ _ => name

/-- The line declares the type of a metric. -/
def Line.declares (name : Text) : Line → Bool
  | .typed other _ => other == name
  | _ => false

/-- A character of `[a-zA-Z0-9_:]`. -/
def isNameChar (character : Char) : Bool :=
  isAsciiAlpha character || isAsciiDigit character ||
    ['_', ':'].contains character

/-- `[a-zA-Z_:][a-zA-Z0-9_:]*`. -/
def isName (name : Text) : Bool :=
  name.all isNameChar && (name.head?.map fun first =>
    !isAsciiDigit first).getD false

/-- `[a-zA-Z_][a-zA-Z0-9_]*`. -/
def isLabelName (name : Text) : Bool :=
  isName name && !name.contains ':'

/-- The types of metrics. -/
def kinds : List Text :=
  ["counter".toList, "gauge".toList, "histogram".toList, "summary".toList,
    "untyped".toList]

/-- A value is not empty and has no whitespace. -/
def isValue (value : Text) : Bool :=
  !value.isEmpty && value.all fun character => !isSpace character

/-! ## Writing -/

/-- A character inside a label value. -/
def escapeLabelChar (character : Char) : Text :=
  if character = '\\' then ['\\', '\\']
  else if character = '"' then ['\\', '"']
  else if character = '\n' then ['\\', 'n']
  else [character]

/-- A label. -/
def labelText (label : Text × Text) : Text :=
  label.1 ++ ('=' :: '"' :: label.2.flatMap escapeLabelChar ++ ['"'])

/-- A line without its end. -/
def Line.text : Line → Text
  | .help name documentation =>
      ['#', ' ', 'H', 'E', 'L', 'P', ' '] ++ (name ++ ' ' :: documentation)
  | .typed name kind =>
      ['#', ' ', 'T', 'Y', 'P', 'E', ' '] ++ (name ++ ' ' :: kind)
  | .sample name [] value => name ++ ' ' :: value
  | .sample name labels value =>
      name ++
        '{' :: [','].intercalate (labels.map labelText) ++
          ('}' :: ' ' :: value)

/-- Every line with its end. -/
def pageText (lines : List Line) : Text :=
  ['\n'].intercalate (lines.map Line.text ++ [[]])

/-! ## Reading -/

/-- A label value up to its closing quote. -/
def readLabelValue : Text → Option (Text × Text)
  | '\\' :: '\\' :: rest => do
      let (value, rest) ← readLabelValue rest
      some ('\\' :: value, rest)
  | '\\' :: '"' :: rest => do
      let (value, rest) ← readLabelValue rest
      some ('"' :: value, rest)
  | '\\' :: 'n' :: rest => do
      let (value, rest) ← readLabelValue rest
      some ('\n' :: value, rest)
  | '\\' :: _ => none
  | '\n' :: _ => none
  | '"' :: rest => some ([], rest)
  | character :: rest => do
      let (value, rest) ← readLabelValue rest
      some (character :: value, rest)
  | [] => none

/-- One or more labels up to the closing brace. -/
def readLabels : ℕ → Text → Option (List (Text × Text) × Text)
  | 0, _ => none
  | fuel + 1, text =>
      let name := text.takeWhile isNameChar
      if isLabelName name then
        match text.dropWhile isNameChar with
        | '=' :: '"' :: rest => do
            let (value, rest) ← readLabelValue rest
            match rest with
            | '}' :: rest => some ([(name, value)], rest)
            | ',' :: rest => do
                let (labels, rest) ← readLabels fuel rest
                some ((name, value) :: labels, rest)
            | _ => none
        | _ => none
      else none

/-- A help text or a type. -/
def readComment : Text → Option Line
  | '#' :: ' ' :: 'H' :: 'E' :: 'L' :: 'P' :: ' ' :: rest =>
      let name := rest.takeWhile isNameChar
      match rest.dropWhile isNameChar with
      | ' ' :: documentation =>
          if isName name && !documentation.contains '\\' then
            some (.help name documentation)
          else none
      | _ => none
  | '#' :: ' ' :: 'T' :: 'Y' :: 'P' :: 'E' :: ' ' :: rest =>
      let name := rest.takeWhile isNameChar
      match rest.dropWhile isNameChar with
      | ' ' :: kind =>
          if isName name && kinds.contains kind then some (.typed name kind)
          else none
      | _ => none
  | _ => none

/-- A sample. -/
def readSample (text : Text) : Option Line :=
  let name := text.takeWhile isNameChar
  if isName name then
    match text.dropWhile isNameChar with
    | ' ' :: value =>
        if isValue value then some (.sample name [] value) else none
    | '{' :: rest => do
        let (labels, rest) ← readLabels rest.length rest
        match rest with
        | ' ' :: value =>
            if isValue value then some (.sample name labels value) else none
        | _ => none
    | _ => none
  else none

/-- A line. -/
def readLine (text : Text) : Option Line :=
  if text.head? = some '#' then readComment text else readSample text

/-- A page: every line has its end. -/
def readPage (text : Text) : Option (List Line) :=
  let parts := text.splitOn '\n'
  if parts.getLast? = some [] then parts.dropLast.mapM readLine else none

/-! ## Lines are read as they are written -/

/-- What can be written in a line. -/
def Line.Proper : Line → Prop
  | .help name documentation =>
      isName name = true ∧ '\\' ∉ documentation ∧ '\n' ∉ documentation
  | .typed name kind => isName name = true ∧ kind ∈ kinds
  | .sample name labels value =>
      isName name = true ∧
        (∀ label ∈ labels, isLabelName label.1 = true) ∧
        isValue value = true

theorem all_of_isName {name : Text} (named : isName name = true) :
    ∀ character ∈ name, isNameChar character = true := by
  rw [isName, Bool.and_eq_true, List.all_eq_true] at named
  exact named.1

theorem takeWhile_name
    {name : Text} (named : isName name = true) {delimiter : Char}
    (ends : isNameChar delimiter = false) (rest : Text) :
    (name ++ delimiter :: rest).takeWhile isNameChar = name := by
  rw [List.takeWhile_append_of_pos (all_of_isName named),
    List.takeWhile_cons_of_neg (by simp [ends]), List.append_nil]

theorem dropWhile_name
    {name : Text} (named : isName name = true) {delimiter : Char}
    (ends : isNameChar delimiter = false) (rest : Text) :
    (name ++ delimiter :: rest).dropWhile isNameChar = delimiter :: rest := by
  rw [List.dropWhile_append_of_pos (all_of_isName named),
    List.dropWhile_cons_of_neg (by simp [ends])]

/-- A character is read as it was escaped. -/
theorem readLabelValue_escapeLabelChar (character : Char) (rest : Text) :
    readLabelValue (escapeLabelChar character ++ rest) =
      (readLabelValue rest).map fun read =>
        (character :: read.1, read.2) := by
  have continued (first : Char) :
      (do
        let (value, rest) ← readLabelValue rest
        some (first :: value, rest)) =
        (readLabelValue rest).map fun read =>
          (first :: read.1, read.2) := by
    cases readLabelValue rest <;> rfl
  by_cases backslash : character = '\\'
  · subst backslash
    exact continued '\\'
  · by_cases quote : character = '"'
    · subst quote
      exact continued '"'
    · by_cases newline : character = '\n'
      · subst newline
        exact continued '\n'
      · rw [escapeLabelChar, if_neg backslash, if_neg quote,
          if_neg newline, List.singleton_append, ← continued]
        rw [readLabelValue] <;> grind

theorem readLabelValue_escape (value rest : Text) :
    readLabelValue (value.flatMap escapeLabelChar ++ '"' :: rest) =
      some (value, rest) := by
  induction value with
  | nil => rfl
  | cons character value induction =>
      rw [List.flatMap_cons, List.append_assoc,
        readLabelValue_escapeLabelChar, induction]
      rfl

theorem isName_of_isLabelName
    {name : Text} (named : isLabelName name = true) : isName name = true := by
  rw [isLabelName, Bool.and_eq_true] at named
  exact named.1

/-- The labels of a sample are read as they were written. -/
theorem readLabels_text
    {labels : List (Text × Text)} (nonempty : labels ≠ [])
    (named : ∀ label ∈ labels, isLabelName label.1 = true)
    {fuel : ℕ} (enough : labels.length ≤ fuel) (rest : Text) :
    readLabels fuel
        ([','].intercalate (labels.map labelText) ++ '}' :: rest) =
      some (labels, rest) := by
  induction labels generalizing fuel with
  | nil => exact absurd rfl nonempty
  | cons label others induction =>
      obtain ⟨fuel, rfl⟩ : ∃ less, fuel = less + 1 :=
        Nat.exists_eq_succ_of_ne_zero (by
          rw [List.length_cons] at enough
          omega)
      have isLabel := named label List.mem_cons_self
      have isName := isName_of_isLabelName isLabel
      have split (tail : Text) :
          labelText label ++ tail =
            label.1 ++ '=' ::
              ('"' :: (label.2.flatMap escapeLabelChar ++ '"' :: tail)) := by
        simp [labelText]
      cases others with
      | nil =>
          rw [List.map_singleton, List.intercalate_singleton, split,
            readLabels]
          simp only [takeWhile_name isName (by decide : isNameChar '=' = false),
            dropWhile_name isName (by decide : isNameChar '=' = false),
            isLabel, if_true, readLabelValue_escape]
          rfl
      | cons next others =>
          rw [List.map_cons, List.map_cons, List.intercalate_cons_cons,
            List.append_assoc, List.append_assoc, split, readLabels]
          simp only [takeWhile_name isName (by decide : isNameChar '=' = false),
            dropWhile_name isName (by decide : isNameChar '=' = false),
            isLabel, if_true, readLabelValue_escape]
          have fewer : (next :: others).length ≤ fuel :=
            Nat.le_of_succ_le_succ enough
          have others := induction (List.cons_ne_nil _ _)
            (fun other member => named other (List.mem_cons_of_mem _ member))
            fewer
          rw [List.map_cons] at others
          show (do
            let (labels, rest) ← readLabels fuel
              ([','].intercalate (labelText next :: _) ++ '}' :: rest)
            some ((label.1, label.2) :: labels, rest)) = _
          rw [others]
          rfl

/-- No label is empty. -/
theorem length_le_labels (labels : List (Text × Text)) :
    labels.length ≤ ([','].intercalate (labels.map labelText)).length := by
  have one (label : Text × Text) : 1 ≤ (labelText label).length := by
    simp [labelText]
    omega
  induction labels with
  | nil => exact Nat.zero_le _
  | cons label others induction =>
      cases others with
      | nil =>
          rw [List.map_singleton, List.intercalate_singleton]
          exact one label
      | cons next others =>
          rw [List.map_cons, List.map_cons, List.intercalate_cons_cons,
            List.length_append, List.length_append]
          rw [List.map_cons] at induction
          have first := one label
          rw [List.length_cons]
          omega

theorem not_number_sign_of_isName
    {name : Text} (named : isName name = true) (rest : Text) :
    (name ++ rest).head? ≠ some '#' := by
  intro isComment
  cases name with
  | nil => cases named
  | cons first name =>
      cases isComment
      exact absurd (all_of_isName named '#' List.mem_cons_self) (by decide)

theorem readLine_sample
    {name : Text} (named : isName name = true) (rest : Text) :
    readLine (name ++ rest) = readSample (name ++ rest) :=
  if_neg (not_number_sign_of_isName named rest)

/-- A line is read as it was written. -/
theorem readLine_text {line : Line} (proper : line.Proper) :
    readLine line.text = some line := by
  cases line with
  | help name documentation =>
      rcases proper with ⟨named, noEscape, _⟩
      show readComment ('#' :: ' ' :: 'H' :: 'E' :: 'L' :: 'P' :: ' ' ::
        (name ++ ' ' :: documentation)) = _
      simp only [readComment,
        takeWhile_name named (by decide : isNameChar ' ' = false),
        dropWhile_name named (by decide : isNameChar ' ' = false), named]
      simp [noEscape]
  | typed name kind =>
      rcases proper with ⟨named, isKind⟩
      show readComment ('#' :: ' ' :: 'T' :: 'Y' :: 'P' :: 'E' :: ' ' ::
        (name ++ ' ' :: kind)) = _
      simp only [readComment,
        takeWhile_name named (by decide : isNameChar ' ' = false),
        dropWhile_name named (by decide : isNameChar ' ' = false), named]
      simp [isKind]
  | sample name labels value =>
      rcases proper with ⟨named, labelled, isValue⟩
      cases labels with
      | nil =>
          show readLine (name ++ ' ' :: value) = _
          rw [readLine_sample named, readSample]
          simp only [
            takeWhile_name named (by decide : isNameChar ' ' = false),
            dropWhile_name named (by decide : isNameChar ' ' = false),
            named, isValue, if_true]
      | cons label labels =>
          have split :
              (Line.sample name (label :: labels) value).text =
                name ++ '{' ::
                  ([','].intercalate ((label :: labels).map labelText) ++
                    '}' :: (' ' :: value)) := by
            show name ++ _ ++ _ = _
            rw [List.append_assoc]
            rfl
          have enough :
              (label :: labels).length ≤
                ([','].intercalate ((label :: labels).map labelText) ++
                  '}' :: (' ' :: value)).length := by
            rw [List.length_append]
            exact Nat.le_add_right_of_le (length_le_labels _)
          rw [split, readLine_sample named, readSample]
          simp only [
            takeWhile_name named (by decide : isNameChar '{' = false),
            dropWhile_name named (by decide : isNameChar '{' = false),
            named, if_true,
            readLabels_text (List.cons_ne_nil _ _) labelled enough]
          simp [isValue]

/-! ## Pages are read as they are written -/

theorem newline_not_mem_escape (value : Text) :
    '\n' ∉ value.flatMap escapeLabelChar := by
  rw [List.mem_flatMap]
  rintro ⟨character, _, member⟩
  unfold escapeLabelChar at member
  split_ifs at member with backslash quote newline
  · simp at member
  · simp at member
  · simp at member
  · exact newline (List.mem_singleton.mp member).symm

theorem newline_not_mem_name
    {name : Text} (named : isName name = true) : '\n' ∉ name :=
  fun member => absurd (all_of_isName named '\n' member) (by decide)

theorem newline_not_mem_value
    {value : Text} (isValue : isValue value = true) : '\n' ∉ value := by
  rw [Exposition.isValue, Bool.and_eq_true, List.all_eq_true] at isValue
  intro member
  exact absurd (isValue.2 '\n' member) (by decide)

theorem newline_not_mem_kind {kind : Text} (isKind : kind ∈ kinds) :
    '\n' ∉ kind := by
  revert kind
  decide

/-- A line has no line break. -/
theorem newline_not_mem_text {line : Line} (proper : line.Proper) :
    '\n' ∉ line.text := by
  cases line with
  | help name documentation =>
      rcases proper with ⟨named, _, noBreak⟩
      simp [Line.text, newline_not_mem_name named, noBreak]
  | typed name kind =>
      rcases proper with ⟨named, isKind⟩
      simp [Line.text, newline_not_mem_name named,
        newline_not_mem_kind isKind]
  | sample name labels value =>
      rcases proper with ⟨named, labelled, isValue⟩
      have inLabels :
          '\n' ∉ [','].intercalate (labels.map labelText) := by
        apply not_mem_intercalate (by decide)
        intro part member
        rcases List.mem_map.mp member with ⟨label, isLabel, rfl⟩
        have labelName :=
          newline_not_mem_name (isName_of_isLabelName (labelled label isLabel))
        simp [labelText, labelName, newline_not_mem_escape label.2]
      cases labels with
      | nil =>
          simp [Line.text, newline_not_mem_name named,
            newline_not_mem_value isValue]
      | cons label labels =>
          show '\n' ∉ name ++ '{' :: _ ++ _
          simp [newline_not_mem_name named,
            newline_not_mem_value isValue]
          exact inLabels

/-- A page is read as it was written. -/
theorem readPage_pageText
    {lines : List Line} (proper : ∀ line ∈ lines, line.Proper) :
    readPage (pageText lines) = some lines := by
  have solid :
      ∀ text ∈ lines.map Line.text ++ [[]], '\n' ∉ text := by
    intro text member
    rcases List.mem_append.mp member with inLines | isLast
    · rcases List.mem_map.mp inLines with ⟨line, isLine, rfl⟩
      exact newline_not_mem_text (proper line isLine)
    · rw [List.mem_singleton.mp isLast]
      exact List.not_mem_nil
  rw [readPage, pageText, List.splitOn_intercalate '\n' solid (by simp),
    if_pos (by simp), List.dropLast_concat]
  clear solid
  induction lines with
  | nil => rfl
  | cons line lines induction =>
      rw [List.map_cons, List.mapM_cons,
        readLine_text (proper line List.mem_cons_self),
        induction fun other member =>
          proper other (List.mem_cons_of_mem _ member)]
      rfl

/-! ## Well-formed pages -/

/-- The lines of a page stand together as the format demands. -/
structure WellFormed (lines : List Line) : Prop where
  oneType : ∀ name, (lines.filter (Line.declares name)).length ≤ 1
  typeFirst : ∀ name labels value type,
    List.Sublist [.sample name labels value, type] lines →
      type.declares name = false
  contiguous : ∀ first middle last,
    List.Sublist [first, middle, last] lines →
      first.name = last.name → middle.name = first.name
  distinct : ∀ name labels value otherLabels otherValue,
    List.Sublist
        [.sample name labels value, .sample name otherLabels otherValue]
        lines →
      ¬ labels.Perm otherLabels

theorem name_of_declares
    {name : Text} {line : Line} (declares : line.declares name = true) :
    line.name = name := by
  cases line with
  | typed other kind => exact eq_of_beq declares
  | help other documentation => cases declares
  | sample other labels value => cases declares

/-- Parts of a page about different metrics. -/
theorem WellFormed.append
    {lines others : List Line} (wellFormed : WellFormed lines)
    (otherWellFormed : WellFormed others)
    (apart : ∀ line ∈ lines, ∀ other ∈ others, line.name ≠ other.name) :
    WellFormed (lines ++ others) := by
  constructor
  · intro name
    rw [List.filter_append, List.length_append]
    by_cases declared : ∃ line ∈ lines, line.declares name = true
    · rcases declared with ⟨line, member, declares⟩
      have none : others.filter (Line.declares name) = [] := by
        rw [List.filter_eq_nil_iff]
        intro other isOther again
        apply apart line member other isOther
        rw [name_of_declares declares, name_of_declares again]
      rw [none]
      exact wellFormed.oneType name
    · have none : lines.filter (Line.declares name) = [] := by
        rw [List.filter_eq_nil_iff]
        intro line member declares
        exact declared ⟨line, member, declares⟩
      rw [none, List.length_nil, Nat.zero_add]
      exact otherWellFormed.oneType name
  · intro name labels value type pair
    rcases sublist_append_cases pair with
      inLines | ⟨isFirst, isSecond⟩ | inOthers
    · exact wellFormed.typeFirst _ _ _ _ inLines
    · rw [Bool.eq_false_iff]
      intro declares
      exact apart _ isFirst _ isSecond (name_of_declares declares).symm
    · exact otherWellFormed.typeFirst _ _ _ _ inOthers
  · intro first middle last triple same
    rcases sublist_append_cases triple with
      inLines | ⟨isFirst, isLast⟩ | inOthers
    · exact wellFormed.contiguous _ _ _ inLines same
    · exact absurd same (apart _ isFirst _ isLast)
    · exact otherWellFormed.contiguous _ _ _ inOthers same
  · intro name labels value otherLabels otherValue pair
    rcases sublist_append_cases pair with
      inLines | ⟨isFirst, isSecond⟩ | inOthers
    · exact wellFormed.distinct _ _ _ _ _ inLines
    · intro _
      exact apart _ isFirst _ isSecond rfl
    · exact otherWellFormed.distinct _ _ _ _ _ inOthers

theorem wellFormed_nil : WellFormed [] := by
  constructor
  · intro name
    exact Nat.zero_le _
  · rintro _ _ _ _ ⟨⟩
  · rintro _ _ _ ⟨⟩
  · rintro _ _ _ _ _ ⟨⟩

/-- Parts of a page, each about a metric of its own. -/
theorem wellFormed_flatMap
    {Item : Type} {items : List Item} {lines : Item → List Line}
    {name : Item → Text}
    (wellFormed : ∀ item ∈ items, WellFormed (lines item))
    (named : ∀ item ∈ items, ∀ line ∈ lines item, line.name = name item)
    (distinct : (items.map name).Nodup) :
    WellFormed (items.flatMap lines) := by
  induction items with
  | nil => exact wellFormed_nil
  | cons item others induction =>
      rw [List.map_cons, List.nodup_cons] at distinct
      rw [List.flatMap_cons]
      refine (wellFormed item List.mem_cons_self).append
        (induction
          (fun other member => wellFormed other (List.mem_cons_of_mem _ member))
          (fun other member => named other (List.mem_cons_of_mem _ member))
          distinct.2) ?_
      intro line isLine other isOther same
      rcases List.mem_flatMap.mp isOther with ⟨owner, isOwner, isLineOf⟩
      apply distinct.1
      rw [← named item List.mem_cons_self line isLine, same,
        named owner (List.mem_cons_of_mem _ isOwner) other isLineOf]
      exact List.mem_map_of_mem isOwner

/-- The type of a metric and its samples. -/
def family (name kind : Text)
    (samples : List (List (Text × Text) × Text)) : List Line :=
  .typed name kind ::
    samples.map fun sample => .sample name sample.1 sample.2

theorem name_of_mem_family
    {name kind : Text} {samples : List (List (Text × Text) × Text)}
    {line : Line} (member : line ∈ family name kind samples) :
    line.name = name := by
  rcases List.mem_cons.mp member with rfl | isSample
  · rfl
  · rcases List.mem_map.mp isSample with ⟨_, _, rfl⟩
    rfl

theorem filter_declares_samples
    (name other : Text) (samples : List (List (Text × Text) × Text)) :
    (samples.map fun sample =>
      Line.sample name sample.1 sample.2).filter (Line.declares other) =
        [] := by
  rw [List.filter_eq_nil_iff]
  intro line member
  rcases List.mem_map.mp member with ⟨_, _, rfl⟩
  exact Bool.false_ne_true

/-- A metric whose samples have different labels. -/
theorem wellFormed_family
    {name kind : Text} {samples : List (List (Text × Text) × Text)}
    (distinct :
      samples.Pairwise fun sample other => ¬ sample.1.Perm other.1) :
    WellFormed (family name kind samples) := by
  constructor
  · intro other
    rw [family, List.filter_cons, filter_declares_samples]
    split_ifs
    · exact le_rfl
    · exact Nat.zero_le _
  · intro other labels value type pair
    cases pair with
    | cons _ inSamples =>
        have isSample :=
          inSamples.subset (List.mem_cons_of_mem _ List.mem_cons_self)
        rcases List.mem_map.mp isSample with ⟨_, _, rfl⟩
        rfl
  · intro first middle last triple same
    have isFirst := triple.subset (List.mem_cons_self)
    have isMiddle := triple.subset (List.mem_cons_of_mem _ List.mem_cons_self)
    rw [name_of_mem_family isFirst, name_of_mem_family isMiddle]
  · intro other labels value otherLabels otherValue pair
    cases pair with
    | cons _ inSamples =>
        rcases List.sublist_map_iff.mp inSamples with ⟨found, part, isFound⟩
        rcases found with _ | ⟨first, _ | ⟨second, _ | ⟨_, _⟩⟩⟩
        · cases isFound
        · cases isFound
        · cases isFound
          exact List.pairwise_iff_forall_sublist.mp distinct part
        · cases isFound

/-- A metric with a help text. -/
theorem WellFormed.document
    {lines : List Line} (wellFormed : WellFormed lines) {name : Text}
    (same : ∀ line ∈ lines, line.name = name) (documentation : Text) :
    WellFormed (.help name documentation :: lines) := by
  constructor
  · intro other
    rw [List.filter_cons_of_neg Bool.false_ne_true]
    exact wellFormed.oneType other
  · intro other labels value type pair
    cases pair with
    | cons _ inLines => exact wellFormed.typeFirst _ _ _ _ inLines
  · intro first middle last triple _
    have named (line : Line)
        (member : line ∈ .help name documentation :: lines) :
        line.name = name := by
      rcases List.mem_cons.mp member with rfl | isLine
      · rfl
      · exact same line isLine
    rw [named _ (triple.subset List.mem_cons_self),
      named _ (triple.subset
        (List.mem_cons_of_mem _ List.mem_cons_self))]
  · intro other labels value otherLabels otherValue pair
    cases pair with
    | cons _ inLines => exact wellFormed.distinct _ _ _ _ _ inLines

/-- Every item which declares a metric counts. -/
theorem length_le_filter_declares
    {Item : Type} {items : List Item} {lines : Item → List Line}
    {name : Text}
    (declared : ∀ item ∈ items, ∃ line ∈ lines item,
      line.declares name = true) :
    items.length ≤
      ((items.flatMap lines).filter (Line.declares name)).length := by
  induction items with
  | nil => exact le_rfl
  | cons item others induction =>
      rcases declared item List.mem_cons_self with ⟨line, isLine, declares⟩
      have first : 1 ≤ ((lines item).filter (Line.declares name)).length :=
        List.length_pos_of_mem (List.mem_filter.mpr ⟨isLine, declares⟩)
      have rest :=
        induction fun other member =>
          declared other (List.mem_cons_of_mem _ member)
      rw [List.flatMap_cons, List.filter_append, List.length_append,
        List.length_cons]
      omega

end Foundation.Exposition
