import MultisiteCrawler.BrowserArtifacts.Sanitizer

/-!
# The output of the sanitizer

What lies outside removed elements is written unless a removed element before
it is void: the sanitizer waits for an end tag of this element, which does not
come.

The output of an accepted document is again accepted unless this happens or a
self-closing tag is written, as a start tag which nothing closes.
-/

namespace MultisiteCrawler.BrowserArtifacts

open Foundation.Markup
open Foundation.PythonText

/-! ## Parts outside removed elements -/

/-- The parts outside all removed elements; a self-closing tag is one tag. -/
def outside (pieces : List Piece) : List Part :=
  pieces.filterMap fun piece =>
    match piece with
    | .kept part => some part
    | .removed _ => none

/-- No removed element among the pieces is void. -/
def NoVoidRemoved (pieces : List Piece) : Prop :=
  ∀ tag, .removed tag ∈ pieces → voidTags.contains tag = false

theorem any_hides_eq_false_iff (pieces : List Piece) :
    pieces.any Piece.hides = false ↔ NoVoidRemoved pieces := by
  rw [List.any_eq_false]
  constructor
  · intro none tag member
    rw [← Bool.not_eq_true]
    exact none (.removed tag) member
  · intro none piece member
    cases piece with
    | kept part => exact Bool.false_ne_true
    | removed tag =>
        rw [Bool.not_eq_true]
        exact none tag member

theorem outside_append (pieces others : List Piece) :
    outside (pieces ++ others) = outside pieces ++ outside others :=
  List.filterMap_append

theorem outside_kept_cons (part : Part) (pieces : List Piece) :
    outside (.kept part :: pieces) = part :: outside pieces :=
  List.filterMap_cons_some rfl

theorem outside_removed_cons (tag : Text) (pieces : List Piece) :
    outside (.removed tag :: pieces) = outside pieces :=
  List.filterMap_cons_none rfl

/-- Everything outside is shown if nothing hides it. -/
theorem shown_of_noVoidRemoved
    {pieces : List Piece} (none : NoVoidRemoved pieces) :
    shown pieces = outside pieces := by
  induction pieces with
  | nil => rfl
  | cons piece rest induction =>
      have later : NoVoidRemoved rest :=
        fun tag member => none tag (List.mem_cons_of_mem _ member)
      cases piece with
      | kept part =>
          rw [outside_kept_cons, shown, induction later]
      | removed tag =>
          have notVoid : voidTags.contains tag = false :=
            none tag List.mem_cons_self
          rw [outside_removed_cons, shown, notVoid,
            if_neg Bool.false_ne_true, induction later]

theorem shown_prefix_outside (pieces : List Piece) :
    shown pieces <+: outside pieces := by
  induction pieces with
  | nil => exact List.nil_prefix
  | cons piece rest induction =>
      cases piece with
      | kept part =>
          rw [outside_kept_cons, shown]
          exact (List.prefix_cons_inj part).mpr induction
      | removed tag =>
          rw [outside_removed_cons, shown]
          split_ifs
          · exact List.nil_prefix
          · exact induction

theorem noVoidRemoved_texts (texts : List Text) :
    NoVoidRemoved (texts.map fun data => .kept (.text data)) := by
  intro tag member
  rcases List.mem_map.mp member with ⟨data, _, ⟨⟩⟩

section Root

variable {rules : UnicodeRules}

/-- The texts around the root hide nothing. -/
theorem noVoidRemoved_pieces_iff (fragment : Fragment rules) :
    NoVoidRemoved fragment.pieces ↔ NoVoidRemoved fragment.root.pieces := by
  constructor
  · intro none tag member
    apply none
    exact List.mem_append_right _ (List.mem_append_left _ member)
  · intro none tag member
    rcases List.mem_append.mp member with isBefore | isLater
    · exact noVoidRemoved_texts _ tag isBefore
    · rcases List.mem_append.mp isLater with isRoot | isAfter
      · exact none tag isRoot
      · exact noVoidRemoved_texts _ tag isAfter

/-- The root itself is not removed. -/
theorem root_not_removed
    {tag : Text} (isTable : rules.lower tag = "table".toList) :
    ¬ removedTags.contains (rules.lower tag) = true := by
  rw [isTable]
  decide

/-- If something is hidden in the root, its end tag is. -/
theorem shown_root_of_hides
    {root : Content rules} (isTable : root.IsTable)
    (hides : ¬ NoVoidRemoved root.pieces) :
    ∃ (tag : Text) (attributes : List Attribute) (inside : Content rules)
        (close : Text),
      rules.lower tag = "table".toList ∧
        shown root.pieces =
          .startTag (rules.lower tag) attributes :: shown inside.pieces ∧
        outside root.pieces =
          .startTag (rules.lower tag) attributes ::
            (outside inside.pieces ++ [.endTag (rules.lower close)]) := by
  cases root with
  | selfClosing tag attrs notVoid rest =>
      rcases isTable with ⟨isTable, rfl⟩
      exfalso
      apply hides
      intro other member
      rw [Content.pieces, tagPiece, if_neg (root_not_removed isTable)]
        at member
      rcases List.mem_cons.mp member with ⟨⟨⟩⟩ | isNone
      cases isNone
  | element tag attrs notVoid inside close closes rest =>
      rcases isTable with ⟨isTable, rfl⟩
      have pieces :
          (Content.element tag attrs notVoid inside close closes
              .nil).pieces =
            .kept (.startTag (rules.lower tag)
                (keptAttributes rules attrs)) ::
              (inside.pieces ++ [.kept (.endTag (rules.lower close))]) :=
        if_neg (root_not_removed isTable)
      have hidesInside : inside.pieces.any Piece.hides = true := by
        rw [← any_hides_eq_false_iff, pieces, Bool.not_eq_false,
          List.any_cons, List.any_append] at hides
        simpa [Piece.hides] using hides
      refine ⟨tag, keptAttributes rules attrs, inside, close, isTable, ?_, ?_⟩
      · rw [pieces, shown, shown_append_of_hides hidesInside]
      · rw [pieces, outside_kept_cons, outside_append]
        rfl
  | _ => exact isTable.elim

theorem outside_texts (texts : List Text) :
    outside (texts.map fun data => .kept (.text data)) =
      texts.map Part.text := by
  rw [outside, List.filterMap_map]
  exact congrFun List.filterMap_eq_map texts

/-- The parts outside removed elements, around the root and in it. -/
theorem outside_pieces (fragment : Fragment rules) :
    outside fragment.pieces =
      fragment.before.map .text ++
        (outside fragment.root.pieces ++ fragment.after.map .text) := by
  rw [Fragment.pieces, outside_append, outside_append, outside_texts,
    outside_texts]

/-- Nothing is written after something was hidden in the root. -/
theorem sanitizedParts_of_hides
    {fragment : Fragment rules} (hides : ¬ NoVoidRemoved fragment.pieces) :
    sanitizedParts rules fragment.events =
      fragment.before.map .text ++ shown fragment.root.pieces := by
  rw [noVoidRemoved_pieces_iff, ← any_hides_eq_false_iff,
    Bool.not_eq_false] at hides
  have before := noVoidRemoved_texts fragment.before
  rw [sanitizedParts_eq, Fragment.pieces,
    shown_append_of_not_hides ((any_hides_eq_false_iff _).mpr before),
    shown_of_noVoidRemoved before, outside_texts,
    shown_append_of_hides hides]

/-! ## What is lost -/

/-- The output contains all parts outside removed elements, in their order. -/
def KeepsOutside (fragment : Fragment rules) : Prop :=
  (outside fragment.pieces).Sublist (sanitizedParts rules fragment.events)

theorem keepsOutside_of_noVoidRemoved
    {fragment : Fragment rules} (none : NoVoidRemoved fragment.pieces) :
    KeepsOutside fragment := by
  rw [KeepsOutside, sanitizedParts_eq, shown_of_noVoidRemoved none]

/-- After a removed element which is void, at least `</table>` is lost. -/
theorem not_keepsOutside_of_hides
    {fragment : Fragment rules} (hides : ¬ NoVoidRemoved fragment.pieces) :
    ¬ KeepsOutside fragment := by
  intro keeps
  have shorter := keeps.length_le
  rw [sanitizedParts_of_hides hides, outside_pieces] at shorter
  rw [noVoidRemoved_pieces_iff] at hides
  rcases shown_root_of_hides fragment.isTable hides with
    ⟨tag, attributes, inside, close, _, isShown, isOutside⟩
  have inner := (shown_prefix_outside inside.pieces).length_le
  rw [isShown, isOutside] at shorter
  simp only [List.length_append, List.length_cons, List.length_nil]
    at shorter
  omega

/--
The sanitizer keeps what lies outside removed elements of an accepted document
just if none of these elements is void.
-/
theorem keepsOutside_iff
    {events : List Event} (accepted : isValid rules events = true) :
    (∃ fragment : Fragment rules, fragment.events = events) ∧
      ∀ fragment : Fragment rules, fragment.events = events →
        (KeepsOutside fragment ↔ NoVoidRemoved fragment.pieces) := by
  refine ⟨isValid_iff_exists_fragment.mp accepted, ?_⟩
  rintro fragment rfl
  constructor
  · intro keeps
    by_contra hides
    exact not_keepsOutside_of_hides hides keeps
  · exact keepsOutside_of_noVoidRemoved

end Root

/-- A table with a field and a text. -/
def fieldTable : Fragment asciiRules where
  before := []
  blankBefore := List.forall_mem_nil _
  root :=
    .element "table".toList [] table_notVoid
      (.void "input".toList [] input_isVoid (.text "ok".toList .nil))
      "table".toList table_closes .nil
  isTable := table_isTable
  after := []
  blankAfter := List.forall_mem_nil _

/-- The text after the field and the end of the table are lost. -/
theorem not_keepsOutside_fieldTable :
    isValid asciiRules fieldTable.events = true ∧
      ¬ KeepsOutside fieldTable := by
  constructor
  · decide
  · intro keeps
    have shorter := keeps.length_le
    revert shorter
    decide

/-- Of a table with a form, what lies outside the form is kept. -/
theorem keepsOutside_secretTable :
    isValid asciiRules (secretTable "one".toList).events = true ∧
      KeepsOutside (secretTable "one".toList) := by
  have accepted :
      isValid asciiRules (secretTable "one".toList).events = true := by
    decide
  refine ⟨accepted, ?_⟩
  apply ((keepsOutside_iff accepted).2 (secretTable "one".toList) rfl).mpr
  rw [← any_hides_eq_false_iff]
  decide

/-! ## The output as a document -/

/-- The tags and texts which are written, as calls of handlers. -/
def emitted (parts : List Part) : List Event :=
  parts.map fun part =>
    match part with
    | .startTag tag attributes => .startTag tag attributes
    | .endTag tag => .endTag tag
    | .text content => .data content

/-- The self-closing tags outside removed elements. -/
def Content.selfClosings {rules : UnicodeRules} : Content rules → List Text
  | .nil => []
  | .text _ rest => rest.selfClosings
  | .hidden _ _ rest => rest.selfClosings
  | .void _ _ _ rest => rest.selfClosings
  | .selfClosing tag _ _ rest =>
      if removedTags.contains (rules.lower tag) then rest.selfClosings
      else rules.lower tag :: rest.selfClosings
  | .element tag _ _ inside _ _ rest =>
      if removedTags.contains (rules.lower tag) then rest.selfClosings
      else inside.selfClosings ++ rest.selfClosings

/-- Opened elements less closed ones. -/
def balance : List Part → ℤ
  | [] => 0
  | .startTag tag _ :: rest =>
      if voidTags.contains tag then balance rest else 1 + balance rest
  | .endTag _ :: rest => balance rest - 1
  | .text _ :: rest => balance rest

theorem balance_append (parts others : List Part) :
    balance (parts ++ others) = balance parts + balance others := by
  induction parts with
  | nil => exact (zero_add _).symm
  | cons part rest induction =>
      cases part with
      | startTag tag attributes =>
          rw [List.cons_append, balance, balance, induction]
          split_ifs
          · rfl
          · exact (add_assoc _ _ _).symm
      | endTag tag =>
          rw [List.cons_append, balance, balance, induction]
          ring
      | text content => exact induction

theorem balance_texts (texts : List Text) :
    balance (texts.map Part.text) = 0 := by
  induction texts with
  | nil => rfl
  | cons data rest induction => exact induction

section Balance

variable {rules : UnicodeRules}

/-- A part which is written as the validator normalises it. -/
def IsLower (rules : UnicodeRules) : Part → Prop
  | .startTag tag _ => rules.lower tag = tag
  | .endTag tag => rules.lower tag = tag
  | .text _ => True

/-- A start tag which is not rejected opens an element or is void. -/
theorem length_stack_startTag
    {validator : Validator} {tag : Text} (lower : rules.lower tag = tag)
    {attributes : List Attribute}
    (handled :
      validator.handle rules (.startTag tag attributes) ≠
        validator.reject) :
    ((validator.handle rules (.startTag tag attributes)).stack.length : ℤ) =
      validator.stack.length + if voidTags.contains tag then 0 else 1 := by
  have pushed (other : Validator) :
      ((other.pushTag tag).stack.length : ℤ) =
        other.stack.length + if voidTags.contains tag then 0 else 1 := by
    rw [Validator.pushTag]
    split_ifs
    · exact (add_zero _).symm
    · exact Nat.cast_succ _
  rw [Validator.handle, Validator.handleStarttag, lower] at handled ⊢
  generalize (if voidTags.contains tag then (0 : ℤ) else 1) = opened
    at pushed ⊢
  split_ifs at handled ⊢ with isOutside rejects
  · exact absurd rfl handled
  · exact pushed _
  · exact pushed _

/-- An end tag which is not rejected closes an element. -/
theorem length_stack_endTag
    {validator : Validator} {tag : Text}
    (handled :
      validator.handle rules (.endTag tag) ≠ validator.reject) :
    ((validator.handle rules (.endTag tag)).stack.length : ℤ) =
      validator.stack.length - 1 := by
  rw [Validator.handle, Validator.handleEndtag] at handled ⊢
  cases isStack : validator.stack with
  | nil =>
      rw [isStack] at handled
      exact absurd rfl handled
  | cons top below =>
      rw [isStack] at handled
      dsimp only at handled ⊢
      split_ifs at handled ⊢
      · rw [List.length_cons, Nat.cast_succ]
        exact (add_sub_cancel_right _ _).symm
      · exact absurd rfl handled

theorem length_stack_data (validator : Validator) (data : Text) :
    (validator.handle rules (.data data)).stack.length =
      validator.stack.length := by
  rw [Validator.handle, Validator.handleData]
  split_ifs <;> rfl

/-- Accepted parts close what they open. -/
theorem balance_of_accepts
    {parts : List Part} (lower : ∀ part ∈ parts, IsLower rules part)
    {validator : Validator}
    (accepted : (validator.feed rules (emitted parts)).accepts = true) :
    (validator.stack.length : ℤ) + balance parts = 0 := by
  induction parts generalizing validator with
  | nil =>
      have ended : validator.stack.isEmpty = true := by
        have conditions : validator.accepts = true := accepted
        rw [Validator.accepts, Bool.and_eq_true] at conditions
        exact conditions.2
      rw [List.isEmpty_iff.mp ended]
      rfl
  | cons part rest induction =>
      rcases List.forall_mem_cons.mp lower with ⟨isLower, restLower⟩
      have handled := Validator.handle_ne_reject accepted
      have later := induction restLower accepted
      cases part with
      | startTag tag attributes =>
          rw [length_stack_startTag isLower handled] at later
          rw [balance]
          split_ifs at later ⊢ <;> linarith
      | endTag tag =>
          rw [length_stack_endTag handled] at later
          rw [balance]
          linarith
      | text content =>
          rw [length_stack_data] at later
          exact later

/-! ## What the output opens and closes -/

/--
What is shown of some pieces does not close more than it opens.  If nothing in
them is hidden, it opens this many elements too many.
-/
structure Opens (pieces : List Piece) (count : ℕ) : Prop where
  nonneg : 0 ≤ balance (shown pieces)
  exact : NoVoidRemoved pieces → balance (shown pieces) = count

theorem noVoidRemoved_append_iff (pieces others : List Piece) :
    NoVoidRemoved (pieces ++ others) ↔
      NoVoidRemoved pieces ∧ NoVoidRemoved others := by
  simp only [← any_hides_eq_false_iff, List.any_append,
    Bool.or_eq_false_iff]

theorem Opens.append
    {pieces others : List Piece} {count otherCount : ℕ}
    (opens : Opens pieces count) (otherOpens : Opens others otherCount) :
    Opens (pieces ++ others) (count + otherCount) := by
  cases hides : pieces.any Piece.hides with
  | true =>
      constructor
      · rw [shown_append_of_hides hides]
        exact opens.nonneg
      · intro none
        have shows := ((noVoidRemoved_append_iff _ _).mp none).1
        rw [← any_hides_eq_false_iff, hides] at shows
        cases shows
  | false =>
      have split := shown_append_of_not_hides hides others
      constructor
      · rw [split, balance_append]
        exact add_nonneg opens.nonneg otherOpens.nonneg
      · intro none
        rcases (noVoidRemoved_append_iff _ _).mp none with ⟨first, second⟩
        rw [split, balance_append, opens.exact first,
          otherOpens.exact second, Nat.cast_add]

theorem opens_nil : Opens [] 0 :=
  ⟨le_rfl, fun _ => rfl⟩

theorem opens_text (data : Text) : Opens [.kept (.text data)] 0 :=
  ⟨le_rfl, fun _ => rfl⟩

theorem opens_texts (texts : List Text) :
    Opens (texts.map fun data => .kept (.text data)) 0 := by
  induction texts with
  | nil => exact opens_nil
  | cons data rest induction => exact (opens_text data).append induction

theorem opens_removed (tag : Text) : Opens [.removed tag] 0 := by
  have nothing : balance (shown [.removed tag]) = 0 := by
    rw [shown]
    split_ifs <;> rfl
  exact ⟨nothing.ge, fun _ => nothing⟩

theorem opens_void
    {tag : Text} (isVoid : voidTags.contains tag = true)
    (attributes : List Attribute) :
    Opens [.kept (.startTag tag attributes)] 0 := by
  have nothing :
      balance (shown [.kept (.startTag tag attributes)]) = 0 := by
    rw [shown, shown, balance, if_pos isVoid]
    rfl
  exact ⟨nothing.ge, fun _ => nothing⟩

theorem balance_startTag
    {tag : Text} (notVoid : voidTags.contains tag = false)
    (attributes : List Attribute) (rest : List Part) :
    balance (.startTag tag attributes :: rest) = 1 + balance rest := by
  rw [balance, notVoid, if_neg Bool.false_ne_true]

/-- A self-closing tag is written as a start tag. -/
theorem opens_selfClosing
    {tag : Text} (notVoid : voidTags.contains tag = false)
    (attributes : List Attribute) :
    Opens [.kept (.startTag tag attributes)] 1 := by
  have one : balance (shown [.kept (.startTag tag attributes)]) = 1 :=
    balance_startTag notVoid attributes []
  exact ⟨one.ge.trans' zero_le_one, fun _ => one⟩

/-- An element closes what it opens, unless its end is hidden. -/
theorem Opens.element
    {pieces : List Piece} {count : ℕ} (opens : Opens pieces count)
    {tag : Text} (notVoid : voidTags.contains tag = false)
    (attributes : List Attribute) (close : Text) :
    Opens
      (.kept (.startTag tag attributes) ::
        (pieces ++ [.kept (.endTag close)])) count := by
  cases hides : pieces.any Piece.hides with
  | true =>
      constructor
      · rw [shown, shown_append_of_hides hides, balance_startTag notVoid]
        exact add_nonneg zero_le_one opens.nonneg
      · intro none
        have inner : NoVoidRemoved (pieces ++ [.kept (.endTag close)]) :=
          fun tag member => none tag (List.mem_cons_of_mem _ member)
        have shows := ((noVoidRemoved_append_iff _ _).mp inner).1
        rw [← any_hides_eq_false_iff, hides] at shows
        cases shows
  | false =>
      have whole :
          balance
              (shown
                (.kept (.startTag tag attributes) ::
                  (pieces ++ [.kept (.endTag close)]))) =
            balance (shown pieces) := by
        rw [shown, shown_append_of_not_hides hides,
          balance_startTag notVoid, balance_append]
        show 1 + (balance (shown pieces) + (0 - 1)) = _
        ring
      refine ⟨whole.ge.trans' opens.nonneg, ?_⟩
      intro _
      rw [whole]
      exact opens.exact ((any_hides_eq_false_iff _).mp hides)

/-- Content opens as many elements too many as it has self-closing tags. -/
theorem opens_content (content : Content rules) :
    Opens content.pieces content.selfClosings.length := by
  have after {pieces others : List Piece} {count otherCount : ℕ}
      (opens : Opens pieces count) (otherOpens : Opens others otherCount)
      {whole : ℕ} (sum : whole = count + otherCount) :
      Opens (pieces ++ others) whole := by
    rw [sum]
    exact opens.append otherOpens
  induction content with
  | nil => exact opens_nil
  | text data rest induction =>
      exact after (opens_text data) induction (Nat.zero_add _).symm
  | hidden event isHidden rest induction => exact induction
  | void tag attrs isVoid rest induction =>
      have first : Opens [tagPiece rules tag attrs] 0 := by
        unfold tagPiece
        split_ifs
        · exact opens_removed _
        · exact opens_void isVoid _
      exact after first induction (Nat.zero_add _).symm
  | selfClosing tag attrs notVoid rest induction =>
      rw [Content.pieces, Content.selfClosings, tagPiece]
      split_ifs
      · exact after (opens_removed _) induction (Nat.zero_add _).symm
      · exact after (opens_selfClosing notVoid _) induction
          (Nat.add_comm _ _)
  | element tag attrs notVoid inside close closes rest inner outer =>
      rw [Content.pieces, Content.selfClosings]
      split_ifs
      · exact after (opens_removed _) outer (Nat.zero_add _).symm
      · have whole :=
          after (inner.element notVoid (keptAttributes rules attrs)
            (rules.lower close)) outer List.length_append
        rw [List.cons_append, List.append_assoc] at whole
        exact whole

/-! ## Tags in lower case -/

/-- A text in lower case is not changed any more. -/
def LowersOnce (rules : UnicodeRules) : Prop :=
  ∀ text, rules.lower (rules.lower text) = rules.lower text

theorem isLower_of_eq_tagPiece
    (lowers : LowersOnce rules) {tag : Text} {attrs : List Attribute}
    {part : Part} (isPiece : .kept part = tagPiece rules tag attrs) :
    IsLower rules part := by
  unfold tagPiece at isPiece
  split_ifs at isPiece
  cases isPiece
  exact lowers tag

theorem isLower_of_mem_pieces
    (lowers : LowersOnce rules) {content : Content rules} {part : Part}
    (member : .kept part ∈ content.pieces) : IsLower rules part := by
  induction content with
  | nil => cases member
  | text data rest induction =>
      rcases List.mem_cons.mp member with ⟨⟨⟩⟩ | isRest
      · trivial
      · exact induction isRest
  | hidden event isHidden rest induction => exact induction member
  | void tag attrs isVoid rest induction =>
      rcases List.mem_cons.mp member with isTag | isRest
      · exact isLower_of_eq_tagPiece lowers isTag
      · exact induction isRest
  | selfClosing tag attrs notVoid rest induction =>
      rcases List.mem_cons.mp member with isTag | isRest
      · exact isLower_of_eq_tagPiece lowers isTag
      · exact induction isRest
  | element tag attrs notVoid inside close closes rest inner outer =>
      rw [Content.pieces] at member
      split_ifs at member
      · rcases List.mem_cons.mp member with ⟨⟨⟩⟩ | isRest
        exact outer isRest
      · rcases List.mem_cons.mp member with ⟨⟨⟩⟩ | isOther
        · exact lowers tag
        · rcases List.mem_append.mp isOther with isInside | isAfter
          · exact inner isInside
          · rcases List.mem_cons.mp isAfter with ⟨⟨⟩⟩ | isRest
            · exact lowers close
            · exact outer isRest

theorem isLower_sanitizedParts
    (lowers : LowersOnce rules) {fragment : Fragment rules} {part : Part}
    (member : part ∈ sanitizedParts rules fragment.events) :
    IsLower rules part := by
  have text {texts : List Text}
      (isText :
        .kept part ∈ texts.map fun data => Piece.kept (.text data)) :
      IsLower rules part := by
    rcases List.mem_map.mp isText with ⟨data, _, ⟨⟩⟩
    trivial
  rw [sanitizedParts_eq] at member
  rcases List.mem_append.mp (mem_pieces_of_mem_shown member) with
    isBefore | isLater
  · exact text isBefore
  · rcases List.mem_append.mp isLater with isRoot | isAfter
    · exact isLower_of_mem_pieces lowers isRoot
    · exact text isAfter

/-! ## When the output is accepted -/

/-- The output is again a document which the validator accepts. -/
def OutputAccepted (fragment : Fragment rules) : Prop :=
  isValid rules (emitted (sanitizedParts rules fragment.events)) = true

/-- Nothing is hidden, and no self-closing tag is written. -/
def ClosesAll (fragment : Fragment rules) : Prop :=
  NoVoidRemoved fragment.pieces ∧ fragment.root.selfClosings = []

/-- An output which is accepted closes what it opens. -/
theorem closesAll_of_outputAccepted
    (lowers : LowersOnce rules) {fragment : Fragment rules}
    (accepted : OutputAccepted fragment) : ClosesAll fragment := by
  have balanced :=
    balance_of_accepts (fun _ => isLower_sanitizedParts lowers) accepted
  have closed : balance (sanitizedParts rules fragment.events) = 0 :=
    (zero_add _).symm.trans balanced
  have none : NoVoidRemoved fragment.pieces := by
    by_contra hides
    rw [sanitizedParts_of_hides hides, balance_append, balance_texts,
      zero_add] at closed
    rw [noVoidRemoved_pieces_iff] at hides
    rcases shown_root_of_hides fragment.isTable hides with
      ⟨tag, attributes, inside, close, isTable, isShown, _⟩
    rw [isShown, balance_startTag (Validator.table_not_void isTable)]
      at closed
    have inner := (opens_content inside).nonneg
    linarith
  refine ⟨none, ?_⟩
  have opens :
      Opens fragment.pieces (0 + (fragment.root.selfClosings.length + 0)) :=
    (opens_texts _).append ((opens_content _).append (opens_texts _))
  rw [sanitizedParts_eq, opens.exact none] at closed
  rw [← List.length_eq_zero_iff]
  simpa using closed

/-- What is written of an element is an element again. -/
def Content.written (lowers : LowersOnce rules) {tag close : Text}
    (attrs : List Attribute)
    (notVoid : voidTags.contains (rules.lower tag) = false)
    (closes : rules.lower close = rules.lower tag)
    (inside rest : Content rules) : Content rules :=
  .element (rules.lower tag) (keptAttributes rules attrs)
    (by rw [lowers]; exact notVoid) inside (rules.lower close)
    (by rw [lowers, lowers]; exact closes) rest

/-- What is written of content is content again. -/
theorem exists_content_emitted
    (lowers : LowersOnce rules) {content : Content rules}
    (none : NoVoidRemoved content.pieces)
    (noSelfClosings : content.selfClosings = []) :
    ∃ output : Content rules,
      output.events = emitted (outside content.pieces) := by
  induction content with
  | nil => exact ⟨.nil, rfl⟩
  | text data rest induction =>
      have later : NoVoidRemoved rest.pieces :=
        fun tag member => none tag (List.mem_cons_of_mem _ member)
      rcases induction later noSelfClosings with ⟨output, isOutput⟩
      refine ⟨.text data output, ?_⟩
      rw [Content.events, isOutput]
      rfl
  | hidden event isHidden rest induction =>
      exact induction none noSelfClosings
  | void tag attrs isVoid rest induction =>
      have later : NoVoidRemoved rest.pieces :=
        fun tag member => none tag (List.mem_cons_of_mem _ member)
      rcases induction later noSelfClosings with ⟨output, isOutput⟩
      by_cases removed : removedTags.contains (rules.lower tag) = true
      · have isPiece :
            tagPiece rules tag attrs = .removed (rules.lower tag) :=
          if_pos removed
        refine ⟨output, ?_⟩
        rw [Content.pieces, isPiece, outside_removed_cons, isOutput]
      · have isPiece :
            tagPiece rules tag attrs =
              .kept (.startTag (rules.lower tag)
                (keptAttributes rules attrs)) :=
          if_neg removed
        refine ⟨.void (rules.lower tag) (keptAttributes rules attrs)
          (by rw [lowers]; exact isVoid) output, ?_⟩
        rw [Content.pieces, isPiece, outside_kept_cons, Content.events,
          isOutput]
        rfl
  | selfClosing tag attrs notVoid rest induction =>
      have later : NoVoidRemoved rest.pieces :=
        fun tag member => none tag (List.mem_cons_of_mem _ member)
      rw [Content.selfClosings] at noSelfClosings
      split_ifs at noSelfClosings with removed
      have isPiece :
          tagPiece rules tag attrs = .removed (rules.lower tag) :=
        if_pos removed
      rcases induction later noSelfClosings with ⟨output, isOutput⟩
      refine ⟨output, ?_⟩
      rw [Content.pieces, isPiece, outside_removed_cons, isOutput]
  | element tag attrs notVoid inside close closes rest inner outer =>
      rw [Content.pieces] at none ⊢
      rw [Content.selfClosings] at noSelfClosings
      split_ifs at none noSelfClosings ⊢ with removed
      · have later : NoVoidRemoved rest.pieces :=
          fun tag member => none tag (List.mem_cons_of_mem _ member)
        rcases outer later noSelfClosings with ⟨output, isOutput⟩
        refine ⟨output, ?_⟩
        rw [outside_removed_cons, isOutput]
      · have noneAfter :
            NoVoidRemoved
              (inside.pieces ++
                .kept (.endTag (rules.lower close)) :: rest.pieces) :=
          fun tag member => none tag (List.mem_cons_of_mem _ member)
        rcases (noVoidRemoved_append_iff _ _).mp noneAfter with
          ⟨noneInside, noneLater⟩
        have noneRest : NoVoidRemoved rest.pieces :=
          fun tag member => noneLater tag (List.mem_cons_of_mem _ member)
        rcases List.append_eq_nil_iff.mp noSelfClosings with
          ⟨innerNone, outerNone⟩
        rcases inner noneInside innerNone with ⟨within, isWithin⟩
        rcases outer noneRest outerNone with ⟨output, isOutput⟩
        refine ⟨.written lowers attrs notVoid closes within output, ?_⟩
        rw [outside_kept_cons, outside_append, outside_kept_cons,
          Content.written, Content.events, isWithin, isOutput]
        simp [emitted]

/-- What is written of the root is a table again. -/
theorem exists_root_emitted
    (lowers : LowersOnce rules) {root : Content rules}
    (isTable : root.IsTable) (none : NoVoidRemoved root.pieces)
    (noSelfClosings : root.selfClosings = []) :
    ∃ output : Content rules, output.IsTable ∧
      output.events = emitted (outside root.pieces) := by
  cases root with
  | selfClosing tag attrs notVoid rest =>
      rw [Content.selfClosings, if_neg (root_not_removed isTable.1)]
        at noSelfClosings
      cases noSelfClosings
  | element tag attrs notVoid inside close closes rest =>
      rcases isTable with ⟨isTable, rfl⟩
      have isKept := root_not_removed isTable
      rw [Content.pieces, if_neg isKept] at none ⊢
      rw [Content.selfClosings, if_neg isKept] at noSelfClosings
      have noneAfter :
          NoVoidRemoved
            (inside.pieces ++
              [.kept (.endTag (rules.lower close))]) :=
        fun tag member => none tag (List.mem_cons_of_mem _ member)
      rcases exists_content_emitted lowers
          ((noVoidRemoved_append_iff _ _).mp noneAfter).1
          (List.append_eq_nil_iff.mp noSelfClosings).1 with
        ⟨within, isWithin⟩
      refine ⟨.written lowers attrs notVoid closes within .nil,
        ⟨(lowers tag).trans isTable, rfl⟩, ?_⟩
      rw [outside_kept_cons, outside_append, Content.written,
        Content.events, isWithin]
      simp [emitted, Content.events, Content.pieces, outside]
  | _ => exact isTable.elim

/-- If everything is closed, the output is a fragment. -/
theorem outputAccepted_of_closesAll
    (lowers : LowersOnce rules) {fragment : Fragment rules}
    (closesAll : ClosesAll fragment) : OutputAccepted fragment := by
  rcases closesAll with ⟨none, noSelfClosings⟩
  rcases exists_root_emitted lowers fragment.isTable
      ((noVoidRemoved_pieces_iff _).mp none) noSelfClosings with
    ⟨root, isTable, isRoot⟩
  apply isValid_iff_exists_fragment.mpr
  refine
    ⟨{ fragment with
        root := root
        isTable := isTable }, ?_⟩
  rw [sanitizedParts_eq, shown_of_noVoidRemoved none, outside_pieces,
    Fragment.events, isRoot, emitted, emitted, List.map_append,
    List.map_append, List.map_map, List.map_map]
  rfl

/--
The output for an accepted document is accepted just if no removed element is
void and no self-closing tag is written.
-/
theorem outputAccepted_iff
    (lowers : LowersOnce rules) {events : List Event}
    (accepted : isValid rules events = true) :
    (∃ fragment : Fragment rules, fragment.events = events) ∧
      ∀ fragment : Fragment rules, fragment.events = events →
        (OutputAccepted fragment ↔ ClosesAll fragment) := by
  refine ⟨isValid_iff_exists_fragment.mp accepted, ?_⟩
  rintro fragment rfl
  constructor
  · exact closesAll_of_outputAccepted lowers
  · exact outputAccepted_of_closesAll lowers

end Balance

/-- A table with a self-closing cell. -/
def cellTable : Fragment asciiRules where
  before := []
  blankBefore := List.forall_mem_nil _
  root :=
    .element "table".toList [] table_notVoid
      (.selfClosing "td".toList [] (by decide) .nil)
      "table".toList table_closes .nil
  isTable := table_isTable
  after := []
  blankAfter := List.forall_mem_nil _

/-- The cell is opened and not closed. -/
theorem not_outputAccepted_cellTable :
    isValid asciiRules cellTable.events = true ∧
      ¬ OutputAccepted cellTable := by
  constructor
  · decide
  · rw [OutputAccepted]
    decide

theorem lowersOnce_asciiRules : LowersOnce asciiRules := by
  have once (character : Char) :
      lowerAscii (lowerAscii character) = lowerAscii character := by
    unfold lowerAscii
    split_ifs with isUpper again
    · have isValid : (character.toNat + 32).isValidChar := by
        left
        omega
      have lowered :
          (Char.ofNat (character.toNat + 32)).toNat =
            character.toNat + 32 := by
        rw [Char.ofNat, dif_pos isValid]
        rfl
      rw [lowered] at again
      omega
    · rfl
    · rfl
  intro text
  show (text.map lowerAscii).map lowerAscii = text.map lowerAscii
  rw [List.map_map]
  exact List.map_congr_left fun character _ => once character

/-- A table with a form is a table with a text when it is written. -/
theorem outputAccepted_secretTable :
    LowersOnce asciiRules ∧
      isValid asciiRules (secretTable "one".toList).events = true ∧
      OutputAccepted (secretTable "one".toList) := by
  have accepted :
      isValid asciiRules (secretTable "one".toList).events = true := by
    decide
  refine ⟨lowersOnce_asciiRules, accepted, ?_⟩
  apply ((outputAccepted_iff lowersOnce_asciiRules accepted).2
    (secretTable "one".toList) rfl).mpr
  refine ⟨?_, rfl⟩
  rw [← any_hides_eq_false_iff]
  decide

end MultisiteCrawler.BrowserArtifacts
