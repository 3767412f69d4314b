import MultisiteCrawler.BrowserArtifacts.Fragments

/-!
# The grammar of fragments

A single table with whitespace around it, in which an element may also be
written as a self-closing tag.  The validator does not accept self-closing
tags of void elements: it closes them although it has not opened them.
-/

namespace MultisiteCrawler.BrowserArtifacts

open Foundation.Markup
open Foundation.PythonText

variable (rules : UnicodeRules)

/-! ## The grammar -/

/-- Content: texts, comments, declarations, instructions and elements. -/
inductive IsContent : List Event → Prop where
  | nil : IsContent []
  | text {rest : List Event} (data : Text) (content : IsContent rest) :
      IsContent (.data data :: rest)
  | hidden {event : Event} {rest : List Event}
      (isHidden : event.isHidden = true) (content : IsContent rest) :
      IsContent (event :: rest)
  | void {tag : Text} {rest : List Event} (attrs : List Attribute)
      (isVoid : voidTags.contains (rules.lower tag) = true)
      (content : IsContent rest) :
      IsContent (.startTag tag attrs :: rest)
  | selfClosing {rest : List Event} (tag : Text) (attrs : List Attribute)
      (content : IsContent rest) :
      IsContent (.startEndTag tag attrs :: rest)
  | element {tag close : Text} {inside rest : List Event}
      (attrs : List Attribute)
      (notVoid : voidTags.contains (rules.lower tag) = false)
      (closes : rules.lower close = rules.lower tag)
      (content : IsContent inside) (others : IsContent rest) :
      IsContent (.startTag tag attrs :: (inside ++ .endTag close :: rest))

/-- One element whose tag is `table`. -/
inductive IsTableRoot : List Event → Prop where
  | element {tag close : Text} {inside : List Event}
      (attrs : List Attribute) (isTable : rules.lower tag = "table".toList)
      (closes : rules.lower close = rules.lower tag)
      (content : IsContent rules inside) :
      IsTableRoot (.startTag tag attrs :: (inside ++ [.endTag close]))
  | selfClosing {tag : Text} (attrs : List Attribute)
      (isTable : rules.lower tag = "table".toList) :
      IsTableRoot [.startEndTag tag attrs]

/-- Whitespace, one table and whitespace. -/
def MatchesGrammar (events : List Event) : Prop :=
  ∃ (before : List Text) (root : List Event) (after : List Text),
    (∀ data ∈ before, IsBlank data) ∧ IsTableRoot rules root ∧
      (∀ data ∈ after, IsBlank data) ∧
        events = before.map .data ++ (root ++ after.map .data)

/-- A void element written as a self-closing tag. -/
def IsVoidSelfClosing : Event → Prop
  | .startEndTag tag _ => voidTags.contains (rules.lower tag) = true
  | _ => False

variable {rules}

/-! ## Fragments match the grammar -/

theorem isContent_events (content : Content rules) :
    IsContent rules content.events := by
  induction content with
  | nil => exact .nil
  | text data rest induction => exact .text data induction
  | hidden event isHidden rest induction => exact .hidden isHidden induction
  | void tag attrs isVoid rest induction => exact .void attrs isVoid induction
  | selfClosing tag attrs notVoid rest induction =>
      exact .selfClosing tag attrs induction
  | element tag attrs notVoid inside close closes rest inner outer =>
      exact .element attrs notVoid closes inner outer

theorem isTableRoot_events
    {root : Content rules} (isTable : root.IsTable) :
    IsTableRoot rules root.events := by
  cases root with
  | selfClosing tag attrs notVoid rest =>
      rcases isTable with ⟨isTable, rfl⟩
      exact .selfClosing attrs isTable
  | element tag attrs notVoid inside close closes rest =>
      rcases isTable with ⟨isTable, rfl⟩
      exact .element attrs isTable closes (isContent_events inside)
  | _ => exact isTable.elim

theorem Fragment.matchesGrammar (fragment : Fragment rules) :
    MatchesGrammar rules fragment.events :=
  ⟨fragment.before, fragment.root.events, fragment.after,
    fragment.blankBefore, isTableRoot_events fragment.isTable,
    fragment.blankAfter, rfl⟩

/-- The content of a fragment has no self-closing tags of void elements. -/
theorem not_isVoidSelfClosing_of_mem_events
    {content : Content rules} {event : Event}
    (member : event ∈ content.events) : ¬ IsVoidSelfClosing rules event := by
  induction content with
  | nil => cases member
  | text data rest induction =>
      rcases List.mem_cons.mp member with rfl | isRest
      · exact id
      · exact induction isRest
  | hidden other isHidden rest induction =>
      rcases List.mem_cons.mp member with rfl | isRest
      · cases event with
        | startEndTag tag attrs => cases isHidden
        | _ => exact id
      · exact induction isRest
  | void tag attrs isVoid rest induction =>
      rcases List.mem_cons.mp member with rfl | isRest
      · exact id
      · exact induction isRest
  | selfClosing tag attrs notVoid rest induction =>
      rcases List.mem_cons.mp member with rfl | isRest
      · intro isVoid
        rw [IsVoidSelfClosing, notVoid] at isVoid
        cases isVoid
      · exact induction isRest
  | element tag attrs notVoid inside close closes rest inner outer =>
      rcases List.mem_cons.mp member with rfl | isLater
      · exact id
      · rcases List.mem_append.mp isLater with isInside | isAfter
        · exact inner isInside
        · rcases List.mem_cons.mp isAfter with rfl | isRest
          · exact id
          · exact outer isRest

theorem Fragment.not_isVoidSelfClosing_of_mem
    {fragment : Fragment rules} {event : Event}
    (member : event ∈ fragment.events) : ¬ IsVoidSelfClosing rules event := by
  have isText {texts : List Text} (isData : event ∈ texts.map .data) :
      ¬ IsVoidSelfClosing rules event := by
    rcases List.mem_map.mp isData with ⟨data, _, rfl⟩
    exact id
  rcases List.mem_append.mp member with isBefore | isLater
  · exact isText isBefore
  · rcases List.mem_append.mp isLater with isRoot | isAfter
    · exact not_isVoidSelfClosing_of_mem_events isRoot
    · exact isText isAfter

/-! ## Without such tags the grammar gives fragments -/

theorem exists_content
    {events : List Event} (isContent : IsContent rules events)
    (none : ∀ event ∈ events, ¬ IsVoidSelfClosing rules event) :
    ∃ content : Content rules, content.events = events := by
  induction isContent with
  | nil => exact ⟨.nil, rfl⟩
  | text data content induction =>
      rcases induction (List.forall_mem_cons.mp none).2 with ⟨rest, rfl⟩
      exact ⟨.text data rest, rfl⟩
  | hidden isHidden content induction =>
      rcases induction (List.forall_mem_cons.mp none).2 with ⟨rest, rfl⟩
      exact ⟨.hidden _ isHidden rest, rfl⟩
  | void attrs isVoid content induction =>
      rcases induction (List.forall_mem_cons.mp none).2 with ⟨rest, rfl⟩
      exact ⟨.void _ attrs isVoid rest, rfl⟩
  | selfClosing tag attrs content induction =>
      rcases List.forall_mem_cons.mp none with ⟨notSelfClosing, noneLater⟩
      rcases induction noneLater with ⟨rest, rfl⟩
      have notVoid : voidTags.contains (rules.lower tag) = false := by
        rw [← Bool.not_eq_true]
        exact notSelfClosing
      exact ⟨.selfClosing tag attrs notVoid rest, rfl⟩
  | element attrs notVoid closes content others inner outer =>
      rcases List.forall_mem_cons.mp none with ⟨_, noneLater⟩
      rcases List.forall_mem_append.mp noneLater with
        ⟨noneInside, noneAfter⟩
      rcases inner noneInside with ⟨inside, rfl⟩
      rcases outer (List.forall_mem_cons.mp noneAfter).2 with ⟨rest, rfl⟩
      exact ⟨.element _ attrs notVoid inside _ closes rest, rfl⟩

theorem exists_fragment_of_matchesGrammar
    {events : List Event} (isMatch : MatchesGrammar rules events)
    (none : ∀ event ∈ events, ¬ IsVoidSelfClosing rules event) :
    ∃ fragment : Fragment rules, fragment.events = events := by
  rcases isMatch with
    ⟨before, root, after, blankBefore, isRoot, blankAfter, rfl⟩
  rcases List.forall_mem_append.mp none with ⟨_, noneLater⟩
  rcases List.forall_mem_append.mp noneLater with ⟨noneRoot, _⟩
  cases isRoot with
  | element attrs isTable closes content =>
      rcases List.forall_mem_cons.mp noneRoot with ⟨_, noneAfter⟩
      rcases exists_content content
          (List.forall_mem_append.mp noneAfter).1 with
        ⟨inside, rfl⟩
      exact
        ⟨{ before := before
           blankBefore := blankBefore
           root :=
             .element _ attrs (Validator.table_not_void isTable) inside _
               closes .nil
           isTable := ⟨isTable, rfl⟩
           after := after
           blankAfter := blankAfter }, rfl⟩
  | selfClosing attrs isTable =>
      exact
        ⟨{ before := before
           blankBefore := blankBefore
           root :=
             .selfClosing _ attrs (Validator.table_not_void isTable) .nil
           isTable := ⟨isTable, rfl⟩
           after := after
           blankAfter := blankAfter }, rfl⟩

/-! ## Where the validator accepts the grammar -/

/-- The validator reports exactly whether a document matches the grammar. -/
def AgreesWithGrammar (rules : UnicodeRules) (events : List Event) : Prop :=
  isValid rules events = true ↔ MatchesGrammar rules events

/--
The validator errs exactly on the documents of the grammar in which a void
element is written as a self-closing tag.
-/
theorem agreesWithGrammar_iff
    (rules : UnicodeRules) (events : List Event) :
    AgreesWithGrammar rules events ↔
      ¬ MatchesGrammar rules events ∨
        ∀ event ∈ events, ¬ IsVoidSelfClosing rules event := by
  constructor
  · intro agrees
    by_cases isMatch : MatchesGrammar rules events
    · right
      rcases isValid_iff_exists_fragment.mp (agrees.mpr isMatch) with
        ⟨fragment, rfl⟩
      intro event member
      exact Fragment.not_isVoidSelfClosing_of_mem member
    · exact Or.inl isMatch
  · intro condition
    constructor
    · intro accepted
      rcases isValid_iff_exists_fragment.mp accepted with ⟨fragment, rfl⟩
      exact fragment.matchesGrammar
    · intro isMatch
      have none := condition.resolve_left (not_not_intro isMatch)
      exact isValid_iff_exists_fragment.mpr
        (exists_fragment_of_matchesGrammar isMatch none)

/-- A table with a line break. -/
def lineBreakTable : List Event :=
  [.startTag "table".toList [], .startEndTag "br".toList [],
    .endTag "table".toList]

/-- A line break written as a self-closing tag is rejected. -/
theorem not_agreesWithGrammar_lineBreak :
    ¬ AgreesWithGrammar asciiRules lineBreakTable := by
  intro agrees
  have isMatch : MatchesGrammar asciiRules lineBreakTable :=
    ⟨[], lineBreakTable, [], List.forall_mem_nil _,
      .element [] rfl rfl (.selfClosing "br".toList [] .nil),
      List.forall_mem_nil _, rfl⟩
  have rejected : isValid asciiRules lineBreakTable = false := by
    decide
  rw [agrees.mpr isMatch] at rejected
  cases rejected

end MultisiteCrawler.BrowserArtifacts
