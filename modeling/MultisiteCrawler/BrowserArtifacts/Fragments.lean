import MultisiteCrawler.Foundation.Markup

/-!
# Safe fragments

`_SingleTableRootValidator` accepts a document, as the calls which `HTMLParser`
makes, exactly if it is a single table with whitespace around it in which every
element is closed.
-/

namespace MultisiteCrawler.BrowserArtifacts

open Foundation.Markup
open Foundation.PythonText

/-! ## Calls of handlers -/

/--
A call of a handler of `HTMLParser`.  With `convert_charrefs`, references to
characters are part of the data.
-/
inductive Event where
  | startTag (tag : Text) (attrs : List Attribute)
  | endTag (tag : Text)
  | startEndTag (tag : Text) (attrs : List Attribute)
  | data (data : Text)
  | comment (data : Text)
  | decl (decl : Text)
  | unknownDecl (data : Text)
  | processingInstruction (data : Text)
deriving DecidableEq

/-- Calls which are neither about tags nor about text. -/
def Event.isHidden : Event → Bool
  | .comment _ | .decl _ | .unknownDecl _ | .processingInstruction _ => true
  | _ => false

/-- `_VOID_TAGS`. -/
def voidTags : List Text :=
  ["br".toList, "hr".toList, "img".toList, "input".toList, "meta".toList,
    "link".toList]

/-! ## The validator -/

/-- A `_SingleTableRootValidator`, with the last open tag first. -/
structure Validator where
  rootSeen : Bool
  stack : List Text
  isValid : Bool

namespace Validator

variable (rules : UnicodeRules) (validator : Validator)

def reject : Validator :=
  { validator with isValid := false }

/-- Push a tag unless it is void. -/
def pushTag (tag : Text) : Validator :=
  if voidTags.contains tag then validator
  else { validator with stack := tag :: validator.stack }

def handleStarttag (tag : Text) : Validator :=
  let normalizedTag := rules.lower tag
  if validator.stack.isEmpty then
    if validator.rootSeen || normalizedTag != "table".toList then
      validator.reject
    else pushTag { validator with rootSeen := true } normalizedTag
  else validator.pushTag normalizedTag

def handleEndtag (tag : Text) : Validator :=
  match validator.stack with
  | [] => validator.reject
  | top :: rest =>
      if top = rules.lower tag then { validator with stack := rest }
      else validator.reject

def handleStartendtag (tag : Text) : Validator :=
  let started := validator.handleStarttag rules tag
  if started.isValid then started.handleEndtag rules tag else started

def handleData (data : Text) : Validator :=
  if validator.stack.isEmpty && strip (String.ofList data) != "" then
    validator.reject
  else validator

/-- `handle_comment`, `handle_decl`, `unknown_decl` and `handle_pi`. -/
def handleHidden : Validator :=
  if validator.stack.isEmpty then validator.reject else validator

def handle : Event → Validator
  | .startTag tag _ => validator.handleStarttag rules tag
  | .endTag tag => validator.handleEndtag rules tag
  | .startEndTag tag _ => validator.handleStartendtag rules tag
  | .data data => validator.handleData data
  | .comment _ => validator.handleHidden
  | .decl _ => validator.handleHidden
  | .unknownDecl _ => validator.handleHidden
  | .processingInstruction _ => validator.handleHidden

/-- All calls, one after the other. -/
def feed (events : List Event) : Validator :=
  events.foldl (handle rules) validator

def accepts : Bool :=
  validator.isValid && validator.rootSeen && validator.stack.isEmpty

end Validator

/-- `_SingleTableRootValidator.is_valid`. -/
def isValid (rules : UnicodeRules) (events : List Event) : Bool :=
  (Validator.feed rules ⟨false, [], true⟩ events).accepts

/-! ## Fragments -/

/-- Text, tags and elements in an element. -/
inductive Content (rules : UnicodeRules) where
  | nil
  | text (data : Text) (rest : Content rules)
  | hidden (event : Event) (isHidden : event.isHidden = true)
      (rest : Content rules)
  | void (tag : Text) (attrs : List Attribute)
      (isVoid : voidTags.contains (rules.lower tag) = true)
      (rest : Content rules)
  | selfClosing (tag : Text) (attrs : List Attribute)
      (notVoid : voidTags.contains (rules.lower tag) = false)
      (rest : Content rules)
  | element (tag : Text) (attrs : List Attribute)
      (notVoid : voidTags.contains (rules.lower tag) = false)
      (inside : Content rules) (close : Text)
      (closes : rules.lower close = rules.lower tag)
      (rest : Content rules)

section Fragments

variable {rules : UnicodeRules}

/-- The calls made for some content. -/
def Content.events : Content rules → List Event
  | .nil => []
  | .text data rest => .data data :: rest.events
  | .hidden event _ rest => event :: rest.events
  | .void tag attrs _ rest => .startTag tag attrs :: rest.events
  | .selfClosing tag attrs _ rest => .startEndTag tag attrs :: rest.events
  | .element tag attrs _ inside close _ rest =>
      .startTag tag attrs :: (inside.events ++ .endTag close :: rest.events)

/-- A single table. -/
def Content.IsTable : Content rules → Prop
  | .selfClosing tag _ _ rest =>
      rules.lower tag = "table".toList ∧ rest = .nil
  | .element tag _ _ _ _ _ rest =>
      rules.lower tag = "table".toList ∧ rest = .nil
  | _ => False

/-- Text which is whitespace only. -/
def IsBlank (data : Text) : Prop :=
  strip (String.ofList data) = ""

end Fragments

/-- A single table with whitespace around it. -/
structure Fragment (rules : UnicodeRules) where
  before : List Text
  blankBefore : ∀ data ∈ before, IsBlank data
  root : Content rules
  isTable : root.IsTable
  after : List Text
  blankAfter : ∀ data ∈ after, IsBlank data

/-- The calls made for a fragment. -/
def Fragment.events {rules : UnicodeRules} (fragment : Fragment rules) :
    List Event :=
  fragment.before.map .data ++
    (fragment.root.events ++ fragment.after.map .data)

/-! ## Fragments are accepted -/

namespace Validator

variable {rules : UnicodeRules} {validator : Validator}

theorem feed_append (validator : Validator) (events others : List Event) :
    validator.feed rules (events ++ others) =
      (validator.feed rules events).feed rules others :=
  List.foldl_append

theorem feed_cons (validator : Validator) (event : Event)
    (rest : List Event) :
    validator.feed rules (event :: rest) =
      (validator.handle rules event).feed rules rest :=
  rfl

theorem pushTag_of_void
    {tag : Text} (isVoid : voidTags.contains tag = true) :
    validator.pushTag tag = validator :=
  if_pos isVoid

theorem pushTag_of_not_void
    {tag : Text} (notVoid : voidTags.contains tag = false) :
    validator.pushTag tag =
      { validator with stack := tag :: validator.stack } := by
  unfold pushTag
  rw [notVoid]
  rfl

/-- The tag which was opened last is closed. -/
theorem handleEndtag_of_closes
    {seen valid : Bool} {top close : Text} {stack : List Text}
    (closes : rules.lower close = top) :
    handleEndtag rules ⟨seen, top :: stack, valid⟩ close =
      ⟨seen, stack, valid⟩ :=
  if_pos closes.symm

theorem handle_hidden
    {event : Event} (isHidden : event.isHidden = true) :
    validator.handle rules event = validator.handleHidden := by
  cases event <;> first | rfl | cases isHidden

/-- Content leaves the validator as it is. -/
theorem feed_content
    (seen : Bool) (top : Text) (stack : List Text)
    (content : Content rules) :
    feed rules ⟨seen, top :: stack, true⟩ content.events =
      ⟨seen, top :: stack, true⟩ := by
  induction content generalizing top stack with
  | nil => rfl
  | text data rest induction => exact induction top stack
  | hidden event isHidden rest induction =>
      rw [Content.events, feed_cons, handle_hidden isHidden]
      exact induction top stack
  | void tag attrs isVoid rest induction =>
      have handled :
          handle rules ⟨seen, top :: stack, true⟩ (.startTag tag attrs) =
            ⟨seen, top :: stack, true⟩ :=
        pushTag_of_void isVoid
      rw [Content.events, feed_cons, handled]
      exact induction top stack
  | selfClosing tag attrs notVoid rest induction =>
      have pushed :
          handleStarttag rules ⟨seen, top :: stack, true⟩ tag =
            ⟨seen, rules.lower tag :: top :: stack, true⟩ :=
        pushTag_of_not_void notVoid
      have handled :
          handle rules ⟨seen, top :: stack, true⟩ (.startEndTag tag attrs) =
            ⟨seen, top :: stack, true⟩ := by
        rw [handle, handleStartendtag, pushed]
        exact handleEndtag_of_closes rfl
      rw [Content.events, feed_cons, handled]
      exact induction top stack
  | element tag attrs notVoid inside close closes rest inner outer =>
      have pushed :
          handle rules ⟨seen, top :: stack, true⟩ (.startTag tag attrs) =
            ⟨seen, rules.lower tag :: top :: stack, true⟩ :=
        pushTag_of_not_void notVoid
      have popped :
          handle rules ⟨seen, rules.lower tag :: top :: stack, true⟩
              (.endTag close) =
            ⟨seen, top :: stack, true⟩ :=
        handleEndtag_of_closes closes
      rw [Content.events, feed_cons, pushed, feed_append, inner, feed_cons,
        popped]
      exact outer top stack

/-- Blank text outside the root is passed over. -/
theorem handleData_of_blank
    {seen valid : Bool} {data : Text} (blank : IsBlank data) :
    handleData ⟨seen, [], valid⟩ data = ⟨seen, [], valid⟩ := by
  unfold handleData
  rw [blank]
  rfl

/-- Whitespace around the root. -/
theorem feed_blank
    {seen valid : Bool} {texts : List Text}
    (blank : ∀ data ∈ texts, IsBlank data) :
    feed rules ⟨seen, [], valid⟩ (texts.map .data) = ⟨seen, [], valid⟩ := by
  induction texts with
  | nil => rfl
  | cons data rest induction =>
      have handled :
          handle rules ⟨seen, [], valid⟩ (.data data) = ⟨seen, [], valid⟩ :=
        handleData_of_blank (blank data List.mem_cons_self)
      rw [List.map_cons, feed_cons, handled]
      exact induction fun other member =>
        blank other (List.mem_cons_of_mem _ member)

theorem table_not_void
    {tag : Text} (isTable : rules.lower tag = "table".toList) :
    voidTags.contains (rules.lower tag) = false := by
  rw [isTable]
  decide

/-- The root is opened. -/
theorem handleStarttag_table
    {tag : Text} (isTable : rules.lower tag = "table".toList) :
    handleStarttag rules ⟨false, [], true⟩ tag =
      ⟨true, [rules.lower tag], true⟩ := by
  have isRoot :
      handleStarttag rules ⟨false, [], true⟩ tag =
        pushTag ⟨true, [], true⟩ (rules.lower tag) := by
    unfold handleStarttag
    rw [isTable]
    rfl
  rw [isRoot, pushTag_of_not_void (table_not_void isTable)]

/-- The root is read. -/
theorem feed_table
    {root : Content rules} (isTable : root.IsTable) :
    feed rules ⟨false, [], true⟩ root.events = ⟨true, [], true⟩ := by
  cases root with
  | selfClosing tag attrs notVoid rest =>
      rcases isTable with ⟨isTable, rfl⟩
      have handled :
          handle rules ⟨false, [], true⟩ (.startEndTag tag attrs) =
            ⟨true, [], true⟩ := by
        rw [handle, handleStartendtag, handleStarttag_table isTable]
        exact handleEndtag_of_closes rfl
      rw [Content.events, feed_cons, handled]
      rfl
  | element tag attrs notVoid inside close closes rest =>
      rcases isTable with ⟨isTable, rfl⟩
      have opened :
          handle rules ⟨false, [], true⟩ (.startTag tag attrs) =
            ⟨true, [rules.lower tag], true⟩ :=
        handleStarttag_table isTable
      have closed :
          handle rules ⟨true, [rules.lower tag], true⟩ (.endTag close) =
            ⟨true, [], true⟩ :=
        handleEndtag_of_closes closes
      rw [Content.events, feed_cons, opened, feed_append, feed_content,
        feed_cons, closed]
      rfl
  | _ => exact isTable.elim

end Validator

/-- Every fragment is accepted. -/
theorem Fragment.isValid_events
    {rules : UnicodeRules} (fragment : Fragment rules) :
    isValid rules fragment.events = true := by
  unfold isValid Fragment.events
  rw [Validator.feed_append, Validator.feed_append,
    Validator.feed_blank fragment.blankBefore,
    Validator.feed_table fragment.isTable,
    Validator.feed_blank fragment.blankAfter]
  rfl

/-! ## What is accepted is a fragment -/

/-- What is to come while elements are open. -/
inductive Remainder (rules : UnicodeRules) :
    List Text → List Event → Prop where
  | blank {texts : List Text} (blank : ∀ data ∈ texts, IsBlank data) :
      Remainder rules [] (texts.map .data)
  | close {stack : List Text} {top : Text} {events : List Event}
      (inside : Content rules) (tag : Text) (closes : rules.lower tag = top)
      (rest : Remainder rules stack events) :
      Remainder rules (top :: stack) (inside.events ++ .endTag tag :: events)

/-- Only whitespace is to come after the root. -/
theorem Remainder.texts
    {rules : UnicodeRules} {events : List Event}
    (remainder : Remainder rules [] events) :
    ∃ texts : List Text,
      (∀ data ∈ texts, IsBlank data) ∧ events = texts.map .data := by
  cases remainder with
  | blank blank => exact ⟨_, blank, rfl⟩

/-- The next tag which closes an open element. -/
theorem Remainder.split
    {rules : UnicodeRules} {top : Text} {stack : List Text}
    {events : List Event} (remainder : Remainder rules (top :: stack) events) :
    ∃ (inside : Content rules) (tag : Text) (others : List Event),
      rules.lower tag = top ∧
        events = inside.events ++ .endTag tag :: others ∧
        Remainder rules stack others := by
  cases remainder with
  | close inside tag closes rest =>
      exact ⟨inside, tag, _, closes, rfl, rest⟩

namespace Validator

variable {rules : UnicodeRules}

theorem pushTag_isValid (validator : Validator) (tag : Text) :
    (validator.pushTag tag).isValid = validator.isValid := by
  unfold pushTag
  split_ifs <;> rfl

/-- Opening a tag does not make a rejected document valid. -/
theorem handleStarttag_of_rejected
    {validator : Validator} (rejected : validator.isValid = false)
    (tag : Text) :
    (validator.handleStarttag rules tag).isValid = false := by
  unfold handleStarttag
  dsimp only
  split_ifs
  · rfl
  · rw [pushTag_isValid]
    exact rejected
  · rw [pushTag_isValid]
    exact rejected

/-- What has been rejected stays so. -/
theorem handle_of_rejected
    {validator : Validator} (rejected : validator.isValid = false)
    (event : Event) :
    (validator.handle rules event).isValid = false := by
  have hidden : validator.handleHidden.isValid = false := by
    unfold handleHidden
    split_ifs
    · rfl
    · exact rejected
  cases event with
  | startTag tag attrs => exact handleStarttag_of_rejected rejected tag
  | endTag tag =>
      rw [handle, handleEndtag]
      split
      · rfl
      · split_ifs
        · exact rejected
        · rfl
  | startEndTag tag attrs =>
      have started : (validator.handleStarttag rules tag).isValid = false :=
        handleStarttag_of_rejected rejected tag
      rw [handle, handleStartendtag, if_neg (by rw [started]; decide)]
      exact started
  | data data =>
      rw [handle, handleData]
      split_ifs
      · rfl
      · exact rejected
  | comment data => exact hidden
  | decl decl => exact hidden
  | unknownDecl data => exact hidden
  | processingInstruction data => exact hidden

/-- Documents which are rejected at some point are not accepted. -/
theorem not_accepts_of_rejected
    {validator : Validator} (rejected : validator.isValid = false)
    (events : List Event) :
    (validator.feed rules events).accepts = false := by
  induction events generalizing validator with
  | nil =>
      rw [feed, List.foldl_nil, accepts, rejected]
      rfl
  | cons event rest induction =>
      exact induction (handle_of_rejected rejected event)

/-- A call which rejects is not made for an accepted document. -/
theorem handle_ne_reject
    {validator : Validator} {event : Event} {rest : List Event}
    (accepted : (validator.feed rules (event :: rest)).accepts = true) :
    validator.handle rules event ≠ validator.reject := by
  intro rejects
  rw [feed_cons, rejects, not_accepts_of_rejected rfl] at accepted
  cases accepted

/-- Outside the root there is only whitespace. -/
theorem event_of_accepts_outside
    {seen : Bool} {event : Event} {rest : List Event}
    (accepted :
      (feed rules ⟨seen, [], true⟩ (event :: rest)).accepts = true) :
    (∃ data, event = .data data ∧ IsBlank data) ∨
      seen = false ∧ ∃ tag attrs, rules.lower tag = "table".toList ∧
        (event = .startTag tag attrs ∨ event = .startEndTag tag attrs) := by
  have started
      {tag : Text} (begun : handleStarttag rules ⟨seen, [], true⟩ tag ≠
        reject ⟨seen, [], true⟩) :
      seen = false ∧ rules.lower tag = "table".toList := by
    by_contra outside
    apply begun
    rw [not_and_or, Bool.not_eq_false] at outside
    have isOutside :
        (seen || rules.lower tag != "table".toList) = true := by
      rw [Bool.or_eq_true, bne_iff_ne]
      exact outside
    exact if_pos isOutside
  have handled := handle_ne_reject accepted
  cases event with
  | startTag tag attrs =>
      have isRoot := started handled
      exact Or.inr ⟨isRoot.1, tag, attrs, isRoot.2, Or.inl rfl⟩
  | endTag tag => exact absurd rfl handled
  | startEndTag tag attrs =>
      have isRoot : seen = false ∧ rules.lower tag = "table".toList := by
        apply started
        intro rejects
        apply handled
        rw [handle, handleStartendtag, rejects]
        rfl
      exact Or.inr ⟨isRoot.1, tag, attrs, isRoot.2, Or.inr rfl⟩
  | data data =>
      refine Or.inl ⟨data, rfl, ?_⟩
      by_contra visible
      apply handled
      have isVisible : (strip (String.ofList data) != "") = true :=
        bne_iff_ne.mpr visible
      rw [handle, handleData, isVisible, List.isEmpty_nil, Bool.and_true,
        if_pos rfl]
  | comment data => exact absurd rfl handled
  | decl decl => exact absurd rfl handled
  | unknownDecl data => exact absurd rfl handled
  | processingInstruction data => exact absurd rfl handled

/-- What a call does within the root, if it is not rejected. -/
inductive Inside (rules : UnicodeRules) (top : Text) (below : List Text)
    (event : Event) : Prop where
  | leaf (extend : Content rules → Content rules)
      (extended : ∀ rest, (extend rest).events = event :: rest.events)
      (passed : handle rules ⟨true, top :: below, true⟩ event =
        ⟨true, top :: below, true⟩)
  | opened (tag : Text) (attrs : List Attribute)
      (isStart : event = .startTag tag attrs)
      (notVoid : voidTags.contains (rules.lower tag) = false)
      (pushed : handle rules ⟨true, top :: below, true⟩ event =
        ⟨true, rules.lower tag :: top :: below, true⟩)
  | closed (tag : Text) (isEnd : event = .endTag tag)
      (closes : rules.lower tag = top)
      (popped : handle rules ⟨true, top :: below, true⟩ event =
        ⟨true, below, true⟩)

/-- A start tag opens an element unless it is void. -/
theorem inside_startTag
    (top : Text) (below : List Text) (tag : Text) (attrs : List Attribute) :
    Inside rules top below (.startTag tag attrs) := by
  cases isVoid : voidTags.contains (rules.lower tag) with
  | true =>
      exact .leaf (.void tag attrs isVoid) (fun _ => rfl)
        (pushTag_of_void isVoid)
  | false =>
      exact .opened tag attrs rfl isVoid (pushTag_of_not_void isVoid)

/-- Self-closing tags of void elements are rejected. -/
theorem inside_startEndTag
    {top : Text} {below : List Text} {tag : Text} {attrs : List Attribute}
    (notVoid : voidTags.contains top = false)
    (handled :
      handle rules ⟨true, top :: below, true⟩ (.startEndTag tag attrs) ≠
        reject ⟨true, top :: below, true⟩) :
    Inside rules top below (.startEndTag tag attrs) := by
  cases isVoid : voidTags.contains (rules.lower tag) with
  | true =>
      have started :
          handleStarttag rules ⟨true, top :: below, true⟩ tag =
            ⟨true, top :: below, true⟩ :=
        pushTag_of_void isVoid
      have different : top ≠ rules.lower tag := by
        rintro rfl
        rw [isVoid] at notVoid
        cases notVoid
      exfalso
      apply handled
      rw [handle, handleStartendtag, started]
      exact if_neg different
  | false =>
      have started :
          handleStarttag rules ⟨true, top :: below, true⟩ tag =
            ⟨true, rules.lower tag :: top :: below, true⟩ :=
        pushTag_of_not_void isVoid
      refine .leaf (.selfClosing tag attrs isVoid) (fun _ => rfl) ?_
      rw [handle, handleStartendtag, started]
      exact handleEndtag_of_closes rfl

/-- Every call within the root which is not rejected. -/
theorem inside_of_ne_reject
    {top : Text} {below : List Text} {event : Event}
    (notVoid : voidTags.contains top = false)
    (handled :
      handle rules ⟨true, top :: below, true⟩ event ≠
        reject ⟨true, top :: below, true⟩) :
    Inside rules top below event := by
  have hidden (isHidden : event.isHidden = true) :
      Inside rules top below event :=
    .leaf (.hidden event isHidden) (fun _ => rfl) (handle_hidden isHidden)
  cases event with
  | startTag tag attrs => exact inside_startTag top below tag attrs
  | endTag tag =>
      have closes : rules.lower tag = top := by
        by_contra different
        exact handled (if_neg (Ne.symm different))
      exact .closed tag rfl closes (handleEndtag_of_closes closes)
  | startEndTag tag attrs => exact inside_startEndTag notVoid handled
  | data data => exact .leaf (.text data) (fun _ => rfl) rfl
  | comment data => exact hidden rfl
  | decl decl => exact hidden rfl
  | unknownDecl data => exact hidden rfl
  | processingInstruction data => exact hidden rfl

/-- Whitespace follows the root. -/
theorem remainder_outside
    {events : List Event}
    (accepted : (feed rules ⟨true, [], true⟩ events).accepts = true) :
    Remainder rules [] events := by
  induction events with
  | nil =>
      have none : ∀ data ∈ ([] : List Text), IsBlank data := by
        intro data member
        cases member
      exact .blank none
  | cons event rest induction =>
      rcases event_of_accepts_outside accepted with
        ⟨data, rfl, blank⟩ | ⟨seen, _⟩
      · have handled :
            handle rules ⟨true, [], true⟩ (.data data) = ⟨true, [], true⟩ :=
          handleData_of_blank blank
        rw [feed_cons, handled] at accepted
        rcases (induction accepted).texts with ⟨texts, others, rfl⟩
        have all : ∀ other ∈ data :: texts, IsBlank other :=
          List.forall_mem_cons.mpr ⟨blank, others⟩
        exact .blank all
      · cases seen

/-- Within the root, elements are closed in the order of their tags. -/
theorem remainder_of_accepts
    {stack : List Text} {events : List Event}
    (notVoid : ∀ tag ∈ stack, voidTags.contains tag = false)
    (accepted : (feed rules ⟨true, stack, true⟩ events).accepts = true) :
    Remainder rules stack events := by
  induction events generalizing stack with
  | nil =>
      cases stack with
      | nil => exact remainder_outside accepted
      | cons top below => cases accepted
  | cons event rest induction =>
      cases stack with
      | nil => exact remainder_outside accepted
      | cons top below =>
          have nonVoid := List.forall_mem_cons.mp notVoid
          have isInside :=
            inside_of_ne_reject nonVoid.1 (handle_ne_reject accepted)
          rw [feed_cons] at accepted
          cases isInside with
          | leaf extend extended passed =>
              rw [passed] at accepted
              rcases (induction notVoid accepted).split with
                ⟨inside, tag, others, closes, rfl, remains⟩
              rw [← List.cons_append, ← extended]
              exact .close (extend inside) tag closes remains
          | opened tag attrs isStart isOpen pushed =>
              rw [pushed] at accepted
              have openTags :
                  ∀ other ∈ rules.lower tag :: top :: below,
                    voidTags.contains other = false :=
                List.forall_mem_cons.mpr ⟨isOpen, notVoid⟩
              rcases (induction openTags accepted).split with
                ⟨inside, close, _, closes, rfl, continued⟩
              rcases continued.split with
                ⟨next, last, others, closesTop, rfl, remains⟩
              have extended :
                  event :: (inside.events ++ .endTag close ::
                      (next.events ++ .endTag last :: others)) =
                    (Content.element tag attrs isOpen inside close closes
                        next).events ++ .endTag last :: others := by
                rw [isStart, Content.events, List.cons_append,
                  List.append_assoc]
                rfl
              rw [extended]
              exact .close _ last closesTop remains
          | closed tag isEnd closes popped =>
              rw [popped] at accepted
              rw [isEnd]
              exact .close .nil tag closes (induction nonVoid.2 accepted)

/-- The root, as an element. -/
theorem exists_fragment_startTag
    {tag : Text} {attrs : List Attribute} {rest : List Event}
    (isTable : rules.lower tag = "table".toList)
    (accepted :
      (feed rules ⟨false, [], true⟩ (.startTag tag attrs :: rest)).accepts =
        true) :
    ∃ fragment : Fragment rules,
      fragment.events = .startTag tag attrs :: rest := by
  have notVoid := table_not_void isTable
  have opened :
      handle rules ⟨false, [], true⟩ (.startTag tag attrs) =
        ⟨true, [rules.lower tag], true⟩ :=
    handleStarttag_table isTable
  rw [feed_cons, opened] at accepted
  have openTags :
      ∀ other ∈ [rules.lower tag], voidTags.contains other = false :=
    List.forall_mem_singleton.mpr notVoid
  rcases (remainder_of_accepts openTags accepted).split with
    ⟨inside, close, _, closes, rfl, remains⟩
  rcases remains.texts with ⟨texts, blank, rfl⟩
  refine
    ⟨{ before := []
       blankBefore := List.forall_mem_nil _
       root := .element tag attrs notVoid inside close closes .nil
       isTable := ⟨isTable, rfl⟩
       after := texts
       blankAfter := blank }, ?_⟩
  rw [Fragment.events, Content.events, List.cons_append, List.append_assoc]
  rfl

/-- The root, as a self-closing tag. -/
theorem exists_fragment_startEndTag
    {tag : Text} {attrs : List Attribute} {rest : List Event}
    (isTable : rules.lower tag = "table".toList)
    (accepted :
      (feed rules ⟨false, [], true⟩
        (.startEndTag tag attrs :: rest)).accepts = true) :
    ∃ fragment : Fragment rules,
      fragment.events = .startEndTag tag attrs :: rest := by
  have passed :
      handle rules ⟨false, [], true⟩ (.startEndTag tag attrs) =
        ⟨true, [], true⟩ := by
    rw [handle, handleStartendtag, handleStarttag_table isTable]
    exact handleEndtag_of_closes rfl
  rw [feed_cons, passed] at accepted
  rcases (remainder_outside accepted).texts with ⟨texts, blank, rfl⟩
  exact
    ⟨{ before := []
       blankBefore := List.forall_mem_nil _
       root := .selfClosing tag attrs (table_not_void isTable) .nil
       isTable := ⟨isTable, rfl⟩
       after := texts
       blankAfter := blank }, rfl⟩

/-- Whitespace precedes the root. -/
theorem exists_fragment_of_accepts
    {events : List Event}
    (accepted : (feed rules ⟨false, [], true⟩ events).accepts = true) :
    ∃ fragment : Fragment rules, fragment.events = events := by
  induction events with
  | nil => cases accepted
  | cons event rest induction =>
      rcases event_of_accepts_outside accepted with
        ⟨data, rfl, blank⟩ | ⟨_, tag, attrs, isTable, rfl | rfl⟩
      · have handled :
            handle rules ⟨false, [], true⟩ (.data data) =
              ⟨false, [], true⟩ :=
          handleData_of_blank blank
        rw [feed_cons, handled] at accepted
        rcases induction accepted with ⟨fragment, rfl⟩
        exact
          ⟨{ fragment with
              before := data :: fragment.before
              blankBefore :=
                List.forall_mem_cons.mpr ⟨blank, fragment.blankBefore⟩ },
            rfl⟩
      · exact exists_fragment_startTag isTable accepted
      · exact exists_fragment_startEndTag isTable accepted

end Validator

/-- The validator accepts exactly the fragments. -/
theorem isValid_iff_exists_fragment
    {rules : UnicodeRules} {events : List Event} :
    isValid rules events = true ↔
      ∃ fragment : Fragment rules, fragment.events = events := by
  constructor
  · intro accepted
    exact Validator.exists_fragment_of_accepts accepted
  · rintro ⟨fragment, rfl⟩
    exact fragment.isValid_events

end MultisiteCrawler.BrowserArtifacts
