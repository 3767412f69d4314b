import MultisiteCrawler.BrowserArtifacts.Fragments

/-!
# The sanitizer

`_SafeFragmentSanitizer` writes the pieces of an accepted document which lie
outside removed elements, up to the first removed element which is void.  What
it writes names no removed tag and no removed attribute, and does not depend
on anything which is not one of these pieces.
-/

namespace MultisiteCrawler.BrowserArtifacts

open Foundation.Markup
open Foundation.PythonText

/-! ## The sanitizer -/

/-- `_REMOVED_TAGS`. -/
def removedTags : List Text :=
  ["button".toList, "form".toList, "input".toList, "option".toList,
    "script".toList, "select".toList, "style".toList, "textarea".toList]

/-- `_REMOVED_ATTRIBUTES`. -/
def removedAttributes : List Text :=
  ["authorization".toList, "cookie".toList, "password".toList,
    "token".toList]

/-- The test of `_serialize_attrs` on a name in lower case. -/
def isDropped (name : Text) : Bool :=
  "on".toList.isPrefixOf name || removedAttributes.contains name

/-- The attributes which `_serialize_attrs` writes. -/
def keptAttributes (rules : UnicodeRules) (attrs : List Attribute) :
    List Attribute :=
  (attrs.map fun entry => (rules.lower entry.1, entry.2)).filter
    fun entry => !isDropped entry.1

/-- A `_SafeFragmentSanitizer`, with the last skipped tag first. -/
structure Sanitizer where
  parts : List Part
  skippedTagStack : List Text

namespace Sanitizer

variable (rules : UnicodeRules) (sanitizer : Sanitizer)

def append (part : Part) : Sanitizer :=
  { sanitizer with parts := sanitizer.parts ++ [part] }

def skip (tag : Text) : Sanitizer :=
  { sanitizer with skippedTagStack := tag :: sanitizer.skippedTagStack }

def handleStarttag (tag : Text) (attrs : List Attribute) : Sanitizer :=
  match sanitizer.skippedTagStack with
  | top :: _ =>
      if rules.lower tag = top then sanitizer.skip (rules.lower tag)
      else sanitizer
  | [] =>
      if removedTags.contains (rules.lower tag) then
        sanitizer.skip (rules.lower tag)
      else
        sanitizer.append
          (.startTag (rules.lower tag) (keptAttributes rules attrs))

def handleEndtag (tag : Text) : Sanitizer :=
  match sanitizer.skippedTagStack with
  | top :: rest =>
      if rules.lower tag = top then { sanitizer with skippedTagStack := rest }
      else sanitizer
  | [] =>
      if voidTags.contains (rules.lower tag) then sanitizer
      else sanitizer.append (.endTag (rules.lower tag))

def handleStartendtag (tag : Text) (attrs : List Attribute) : Sanitizer :=
  if !sanitizer.skippedTagStack.isEmpty ||
      removedTags.contains (rules.lower tag) then
    sanitizer
  else
    sanitizer.append
      (.startTag (rules.lower tag) (keptAttributes rules attrs))

def handleData (data : Text) : Sanitizer :=
  if sanitizer.skippedTagStack.isEmpty then sanitizer.append (.text data)
  else sanitizer

/-- A call, which does nothing where the class inherits the handler. -/
def handle : Event → Sanitizer
  | .startTag tag attrs => sanitizer.handleStarttag rules tag attrs
  | .endTag tag => sanitizer.handleEndtag rules tag
  | .startEndTag tag attrs => sanitizer.handleStartendtag rules tag attrs
  | .data data => sanitizer.handleData data
  | .comment _ => sanitizer
  | .decl _ => sanitizer
  | .unknownDecl _ => sanitizer
  | .processingInstruction _ => sanitizer

/-- All calls, one after the other. -/
def feed (events : List Event) : Sanitizer :=
  events.foldl (handle rules) sanitizer

end Sanitizer

/-- The parts which have been appended. -/
def sanitizedParts (rules : UnicodeRules) (events : List Event) : List Part :=
  (Sanitizer.feed rules ⟨[], []⟩ events).parts

/-- `_SafeFragmentSanitizer.sanitize`. -/
def sanitize (rules : UnicodeRules) (events : List Event) : Text :=
  write (sanitizedParts rules events)

/-! ## Pieces of a document -/

/-- A part outside all removed elements, or such an element. -/
inductive Piece where
  | kept (part : Part)
  | removed (tag : Text)
deriving DecidableEq

section Pieces

variable {rules : UnicodeRules}

/-- The piece which stands for a single tag. -/
def tagPiece (rules : UnicodeRules) (tag : Text) (attrs : List Attribute) :
    Piece :=
  if removedTags.contains (rules.lower tag) then .removed (rules.lower tag)
  else .kept (.startTag (rules.lower tag) (keptAttributes rules attrs))

/-- The pieces of some content. -/
def Content.pieces : Content rules → List Piece
  | .nil => []
  | .text data rest => .kept (.text data) :: rest.pieces
  | .hidden _ _ rest => rest.pieces
  | .void tag attrs _ rest => tagPiece rules tag attrs :: rest.pieces
  | .selfClosing tag attrs _ rest => tagPiece rules tag attrs :: rest.pieces
  | .element tag attrs _ inside close _ rest =>
      if removedTags.contains (rules.lower tag) then
        .removed (rules.lower tag) :: rest.pieces
      else
        .kept (.startTag (rules.lower tag) (keptAttributes rules attrs)) ::
          (inside.pieces ++
            .kept (.endTag (rules.lower close)) :: rest.pieces)

/-- The pieces of a fragment. -/
def Fragment.pieces (fragment : Fragment rules) : List Piece :=
  fragment.before.map (fun data => .kept (.text data)) ++
    (fragment.root.pieces ++
      fragment.after.map fun data => .kept (.text data))

/-- The parts up to the first removed element which is void. -/
def shown : List Piece → List Part
  | [] => []
  | .kept part :: rest => part :: shown rest
  | .removed tag :: rest =>
      if voidTags.contains tag then [] else shown rest

/-- A removed element which is void. -/
def Piece.hides : Piece → Bool
  | .kept _ => false
  | .removed tag => voidTags.contains tag

theorem shown_append_of_hides
    {pieces : List Piece} (hides : pieces.any Piece.hides = true)
    (others : List Piece) :
    shown (pieces ++ others) = shown pieces := by
  induction pieces with
  | nil => cases hides
  | cons piece rest induction =>
      cases piece with
      | kept part => exact congrArg (part :: ·) (induction hides)
      | removed tag =>
          rw [List.cons_append, shown, shown]
          split_ifs with isVoid
          · rfl
          · apply induction
            rw [List.any_cons, Bool.or_eq_true] at hides
            exact hides.resolve_left isVoid

theorem shown_append_of_not_hides
    {pieces : List Piece} (shows : pieces.any Piece.hides = false)
    (others : List Piece) :
    shown (pieces ++ others) = shown pieces ++ shown others := by
  induction pieces with
  | nil => rfl
  | cons piece rest induction =>
      rw [List.any_cons, Bool.or_eq_false_iff] at shows
      cases piece with
      | kept part => exact congrArg (part :: ·) (induction shows.2)
      | removed tag =>
          have notVoid : ¬ voidTags.contains tag = true := by
            rw [Bool.not_eq_true]
            exact shows.1
          rw [List.cons_append, shown, shown, if_neg notVoid,
            if_neg notVoid]
          exact induction shows.2

end Pieces

/-! ## Skipped content -/

namespace Sanitizer

variable {rules : UnicodeRules} {sanitizer : Sanitizer}

theorem feed_append (sanitizer : Sanitizer) (events others : List Event) :
    sanitizer.feed rules (events ++ others) =
      (sanitizer.feed rules events).feed rules others :=
  List.foldl_append

theorem feed_cons (sanitizer : Sanitizer) (event : Event)
    (rest : List Event) :
    sanitizer.feed rules (event :: rest) =
      (sanitizer.handle rules event).feed rules rest :=
  rfl

theorem handle_hidden
    {event : Event} (isHidden : event.isHidden = true) :
    sanitizer.handle rules event = sanitizer := by
  cases event <;> first | rfl | cases isHidden

/-- A skipped element nested in itself. -/
theorem handle_startTag_same
    {parts : List Part} {top tag : Text} {stack : List Text}
    (same : rules.lower tag = top) (attrs : List Attribute) :
    handle rules ⟨parts, top :: stack⟩ (.startTag tag attrs) =
      ⟨parts, top :: top :: stack⟩ := by
  subst same
  exact if_pos rfl

/-- Content of a skipped element leaves the sanitizer as it is. -/
theorem feed_skipped
    {parts : List Part} {top : Text} {stack : List Text}
    (notVoid : voidTags.contains top = false) (content : Content rules) :
    feed rules ⟨parts, top :: stack⟩ content.events =
      ⟨parts, top :: stack⟩ := by
  induction content generalizing stack with
  | nil => rfl
  | text data rest induction => exact induction
  | hidden event isHidden rest induction =>
      rw [Content.events, feed_cons, handle_hidden isHidden]
      exact induction
  | void tag attrs isVoid rest induction =>
      have different : rules.lower tag ≠ top := by
        rintro rfl
        rw [isVoid] at notVoid
        cases notVoid
      have passed :
          handle rules ⟨parts, top :: stack⟩ (.startTag tag attrs) =
            ⟨parts, top :: stack⟩ :=
        if_neg different
      rw [Content.events, feed_cons, passed]
      exact induction
  | selfClosing tag attrs notVoid rest induction => exact induction
  | element tag attrs _ inside close closes rest inner outer =>
      rw [Content.events, feed_cons, feed_append, feed_cons]
      by_cases same : rules.lower tag = top
      · have popped :
            handle rules ⟨parts, top :: top :: stack⟩ (.endTag close) =
              ⟨parts, top :: stack⟩ :=
          if_pos (closes.trans same)
        rw [handle_startTag_same same, inner, popped]
        exact outer
      · have passed :
            handle rules ⟨parts, top :: stack⟩ (.startTag tag attrs) =
              ⟨parts, top :: stack⟩ :=
          if_neg same
        have closed :
            handle rules ⟨parts, top :: stack⟩ (.endTag close) =
              ⟨parts, top :: stack⟩ := by
          rw [← closes] at same
          exact if_neg same
        rw [passed, inner, closed]
        exact outer

/-- A sanitizer which waits for the end tag of a void element. -/
def Stuck (sanitizer : Sanitizer) (parts : List Part) : Prop :=
  ∃ top rest, voidTags.contains top = true ∧ sanitizer = ⟨parts, top :: rest⟩

/-- End tags of elements which are not void. -/
def Closes (rules : UnicodeRules) (events : List Event) : Prop :=
  ∀ tag, .endTag tag ∈ events → voidTags.contains (rules.lower tag) = false

theorem Closes.append
    {events others : List Event} (closes : Closes rules events)
    (otherCloses : Closes rules others) :
    Closes rules (events ++ others) := by
  intro tag member
  rcases List.mem_append.mp member with isFirst | isOther
  · exact closes tag isFirst
  · exact otherCloses tag isOther

/-- Nothing is appended while waiting for such a tag. -/
theorem Stuck.handle
    {parts : List Part} (stuck : sanitizer.Stuck parts) {event : Event}
    (closes : Closes rules [event]) :
    (sanitizer.handle rules event).Stuck parts := by
  rcases stuck with ⟨top, rest, isVoid, rfl⟩
  cases event with
  | startTag tag attrs =>
      by_cases same : rules.lower tag = top
      · exact
          ⟨top, top :: rest, isVoid, handle_startTag_same same attrs⟩
      · exact ⟨top, rest, isVoid, if_neg same⟩
  | endTag tag =>
      have different : rules.lower tag ≠ top := by
        rintro rfl
        have notVoid := closes tag List.mem_cons_self
        rw [isVoid] at notVoid
        cases notVoid
      exact ⟨top, rest, isVoid, if_neg different⟩
  | startEndTag tag attrs => exact ⟨top, rest, isVoid, rfl⟩
  | data data => exact ⟨top, rest, isVoid, rfl⟩
  | comment data => exact ⟨top, rest, isVoid, rfl⟩
  | decl decl => exact ⟨top, rest, isVoid, rfl⟩
  | unknownDecl data => exact ⟨top, rest, isVoid, rfl⟩
  | processingInstruction data => exact ⟨top, rest, isVoid, rfl⟩

theorem Stuck.feed
    {parts : List Part} (stuck : sanitizer.Stuck parts)
    {events : List Event} (closes : Closes rules events) :
    (sanitizer.feed rules events).Stuck parts := by
  induction events generalizing sanitizer with
  | nil => exact stuck
  | cons event rest induction =>
      have first : Closes rules [event] := by
        intro tag member
        cases List.mem_singleton.mp member
        exact closes tag List.mem_cons_self
      have others : Closes rules rest := by
        intro tag member
        exact closes tag (List.mem_cons_of_mem _ member)
      exact induction (stuck.handle first) others

/-! ## The pieces are written -/

/-- What has been appended once pieces have been read. -/
inductive Shows (parts : List Part) (pieces : List Piece)
    (sanitizer : Sanitizer) : Prop where
  | reading (shows : pieces.any Piece.hides = false)
      (appended : sanitizer = ⟨parts ++ shown pieces, []⟩)
  | waiting (hides : pieces.any Piece.hides = true)
      (stuck : sanitizer.Stuck (parts ++ shown pieces))

/-- Calls with the pieces which they stand for. -/
structure Yields (rules : UnicodeRules) (events : List Event)
    (pieces : List Piece) : Prop where
  closes : Closes rules events
  shows : ∀ parts, Shows parts pieces (feed rules ⟨parts, []⟩ events)

/-- Pieces are written one after the other. -/
theorem Yields.append
    {events others : List Event} {pieces otherPieces : List Piece}
    (yields : Yields rules events pieces)
    (otherYields : Yields rules others otherPieces) :
    Yields rules (events ++ others) (pieces ++ otherPieces) := by
  refine ⟨yields.closes.append otherYields.closes, ?_⟩
  intro parts
  rw [feed_append]
  cases yields.shows parts with
  | reading shows appended =>
      have any_append :
          (pieces ++ otherPieces).any Piece.hides =
            otherPieces.any Piece.hides := by
        rw [List.any_append, shows, Bool.false_or]
      have shown_append :
          parts ++ shown (pieces ++ otherPieces) =
            parts ++ shown pieces ++ shown otherPieces := by
        rw [shown_append_of_not_hides shows, List.append_assoc]
      rw [appended]
      cases otherYields.shows (parts ++ shown pieces) with
      | reading otherShows otherAppended =>
          refine .reading (any_append.trans otherShows) ?_
          rw [otherAppended, shown_append]
      | waiting hides stuck =>
          refine .waiting (any_append.trans hides) ?_
          rw [shown_append]
          exact stuck
  | waiting hides stuck =>
      have any_append : (pieces ++ otherPieces).any Piece.hides = true := by
        rw [List.any_append, hides, Bool.true_or]
      refine .waiting any_append ?_
      rw [shown_append_of_hides hides]
      exact stuck.feed otherYields.closes

theorem yields_nil : Yields rules [] [] := by
  refine ⟨?_, ?_⟩
  · intro tag member
    cases member
  · intro parts
    refine .reading rfl ?_
    rw [shown, List.append_nil]
    rfl

/-- A call which appends a part. -/
theorem yields_part
    {event : Event} {part : Part}
    (appends : ∀ parts, handle rules ⟨parts, []⟩ event =
      ⟨parts ++ [part], []⟩)
    (closes : Closes rules [event]) :
    Yields rules [event] [.kept part] := by
  refine ⟨closes, ?_⟩
  intro parts
  exact .reading rfl (appends parts)

theorem closes_of_ne_endTag
    {event : Event} (different : ∀ tag, event ≠ .endTag tag) :
    Closes rules [event] := by
  intro tag member
  exact absurd (List.mem_singleton.mp member).symm (different tag)

theorem yields_data (data : Text) :
    Yields rules [.data data] [.kept (.text data)] := by
  apply yields_part
  · intro parts
    rfl
  · apply closes_of_ne_endTag
    rintro tag ⟨⟩

/-- A void tag is written, or waits for its end tag. -/
theorem yields_void
    {tag : Text} (isVoid : voidTags.contains (rules.lower tag) = true)
    (attrs : List Attribute) :
    Yields rules [.startTag tag attrs] [tagPiece rules tag attrs] := by
  have closes : Closes rules [.startTag tag attrs] := by
    apply closes_of_ne_endTag
    rintro other ⟨⟩
  unfold tagPiece
  split_ifs with removed
  · refine ⟨closes, ?_⟩
    intro parts
    have hides :
        [Piece.removed (rules.lower tag)].any Piece.hides = true := by
      rw [List.any_cons, List.any_nil, Bool.or_false]
      exact isVoid
    refine .waiting hides ⟨rules.lower tag, [], isVoid, ?_⟩
    rw [shown, if_pos isVoid, List.append_nil]
    exact if_pos removed
  · apply yields_part _ closes
    intro parts
    exact if_neg removed

/-- A tag which is not void does not hide what follows. -/
theorem shows_removed
    {tag : Text} (notVoid : voidTags.contains tag = false)
    {parts : List Part} {sanitizer : Sanitizer}
    (unchanged : sanitizer = ⟨parts, []⟩) :
    Shows parts [.removed tag] sanitizer := by
  have shows : [Piece.removed tag].any Piece.hides = false := by
    rw [List.any_cons, List.any_nil, Bool.or_false]
    exact notVoid
  refine .reading shows ?_
  rw [unchanged, shown, notVoid, if_neg Bool.false_ne_true, shown,
    List.append_nil]

/-- A self-closing tag is written or passed over. -/
theorem yields_selfClosing
    {tag : Text} (notVoid : voidTags.contains (rules.lower tag) = false)
    (attrs : List Attribute) :
    Yields rules [.startEndTag tag attrs] [tagPiece rules tag attrs] := by
  have closes : Closes rules [.startEndTag tag attrs] := by
    apply closes_of_ne_endTag
    rintro other ⟨⟩
  unfold tagPiece
  split_ifs with removed
  · refine ⟨closes, ?_⟩
    intro parts
    exact shows_removed notVoid (if_pos removed)
  · apply yields_part _ closes
    intro parts
    exact if_neg removed

/-- The end tag of an element which is not void. -/
theorem yields_endTag
    {tag : Text} (notVoid : voidTags.contains (rules.lower tag) = false) :
    Yields rules [.endTag tag] [.kept (.endTag (rules.lower tag))] := by
  apply yields_part
  · intro parts
    have visible : ¬ voidTags.contains (rules.lower tag) = true := by
      rw [notVoid]
      exact Bool.false_ne_true
    exact if_neg visible
  · intro other member
    cases List.mem_singleton.mp member
    exact notVoid

/-- The start tag of an element which is not removed. -/
theorem yields_startTag
    {tag : Text} (isKept : ¬ removedTags.contains (rules.lower tag) = true)
    (attrs : List Attribute) :
    Yields rules [.startTag tag attrs]
      [.kept (.startTag (rules.lower tag) (keptAttributes rules attrs))] := by
  apply yields_part
  · intro parts
    exact if_neg isKept
  · apply closes_of_ne_endTag
    rintro other ⟨⟩

/-- End tags in content close elements. -/
theorem closes_content (content : Content rules) :
    Closes rules content.events := by
  have cons
      {event : Event} {rest : List Event}
      (different : ∀ tag, event ≠ .endTag tag)
      (closes : Closes rules rest) :
      Closes rules (event :: rest) :=
    (closes_of_ne_endTag different).append closes
  induction content with
  | nil =>
      intro tag member
      cases member
  | text data rest induction => exact cons (by rintro tag ⟨⟩) induction
  | hidden event isHidden rest induction =>
      apply cons _ induction
      rintro tag rfl
      cases isHidden
  | void tag attrs isVoid rest induction =>
      exact cons (by rintro tag ⟨⟩) induction
  | selfClosing tag attrs notVoid rest induction =>
      exact cons (by rintro tag ⟨⟩) induction
  | element tag attrs notVoid inside close closes rest inner outer =>
      apply cons (by rintro tag ⟨⟩)
      apply inner.append
      have notVoidClose : voidTags.contains (rules.lower close) = false := by
        rw [closes]
        exact notVoid
      exact (yields_endTag notVoidClose).closes.append outer

/-- A removed element leaves the sanitizer as it is. -/
theorem feed_removed
    {tag close : Text} (notVoid : voidTags.contains (rules.lower tag) = false)
    (closes : rules.lower close = rules.lower tag)
    (removed : removedTags.contains (rules.lower tag) = true)
    (parts : List Part) (attrs : List Attribute) (inside : Content rules) :
    feed rules ⟨parts, []⟩
        (.startTag tag attrs :: (inside.events ++ [.endTag close])) =
      ⟨parts, []⟩ := by
  have skipped :
      handle rules ⟨parts, []⟩ (.startTag tag attrs) =
        ⟨parts, [rules.lower tag]⟩ :=
    if_pos removed
  have closed :
      handle rules ⟨parts, [rules.lower tag]⟩ (.endTag close) =
        ⟨parts, []⟩ :=
    if_pos closes
  rw [feed_cons, skipped, feed_append, feed_skipped notVoid, feed_cons,
    closed]
  rfl

/-- The pieces of content are written. -/
theorem yields_content (content : Content rules) :
    Yields rules content.events content.pieces := by
  induction content with
  | nil => exact yields_nil
  | text data rest induction => exact (yields_data data).append induction
  | hidden event isHidden rest induction =>
      refine ⟨closes_content (.hidden event isHidden rest), ?_⟩
      intro parts
      rw [Content.events, feed_cons, handle_hidden isHidden]
      exact induction.shows parts
  | void tag attrs isVoid rest induction =>
      exact (yields_void isVoid attrs).append induction
  | selfClosing tag attrs notVoid rest induction =>
      exact (yields_selfClosing notVoid attrs).append induction
  | element tag attrs notVoid inside close closes rest inner outer =>
      have notVoidClose : voidTags.contains (rules.lower close) = false := by
        rw [closes]
        exact notVoid
      have whole :
          Closes rules
            (.startTag tag attrs :: (inside.events ++ [.endTag close])) :=
        closes_content
          (.element tag attrs notVoid inside close closes .nil)
      rw [Content.pieces]
      split_ifs with removed
      · have first :
            Yields rules
              (.startTag tag attrs :: (inside.events ++ [.endTag close]))
              [.removed (rules.lower tag)] := by
          refine ⟨whole, ?_⟩
          intro parts
          exact shows_removed notVoid
            (feed_removed notVoid closes removed parts attrs inside)
        have all := first.append outer
        rw [List.cons_append, List.append_assoc] at all
        exact all
      · exact
          (yields_startTag removed attrs).append
            (inner.append ((yields_endTag notVoidClose).append outer))

/-- Text outside the root is written. -/
theorem yields_texts (texts : List Text) :
    Yields rules (texts.map .data)
      (texts.map fun data => .kept (.text data)) := by
  induction texts with
  | nil => exact yields_nil
  | cons data rest induction => exact (yields_data data).append induction

end Sanitizer

/-! ## What is written of a fragment -/

section Written

variable {rules : UnicodeRules}

/-- The sanitizer writes the pieces of a fragment. -/
theorem sanitizedParts_eq (fragment : Fragment rules) :
    sanitizedParts rules fragment.events = shown fragment.pieces := by
  have yields : Sanitizer.Yields rules fragment.events fragment.pieces :=
    (Sanitizer.yields_texts fragment.before).append
      ((Sanitizer.yields_content fragment.root).append
        (Sanitizer.yields_texts fragment.after))
  unfold sanitizedParts
  cases yields.shows [] with
  | reading shows appended => rw [appended, List.nil_append]
  | waiting hides stuck =>
      rcases stuck with ⟨top, rest, _, stuck⟩
      rw [stuck, List.nil_append]

/-- Parts without removed tags and attributes. -/
def Clean : Part → Prop
  | .startTag tag attributes =>
      removedTags.contains tag = false ∧
        ∀ entry ∈ attributes, isDropped entry.1 = false
  | .endTag tag => removedTags.contains tag = false
  | .text _ => True

theorem mem_pieces_of_mem_shown
    {part : Part} {pieces : List Piece} (member : part ∈ shown pieces) :
    .kept part ∈ pieces := by
  induction pieces with
  | nil => cases member
  | cons piece rest induction =>
      cases piece with
      | kept other =>
          rcases List.mem_cons.mp member with rfl | isOther
          · exact List.mem_cons_self
          · exact List.mem_cons_of_mem _ (induction isOther)
      | removed tag =>
          rw [shown] at member
          split_ifs at member
          · cases member
          · exact List.mem_cons_of_mem _ (induction member)

/-- No dropped attribute is kept. -/
theorem isDropped_of_mem_keptAttributes
    {attrs : List Attribute} {entry : Attribute}
    (member : entry ∈ keptAttributes rules attrs) :
    isDropped entry.1 = false := by
  have isKept := (List.mem_filter.mp member).2
  rw [Bool.not_eq_true'] at isKept
  exact isKept

theorem clean_startTag
    {tag : Text} (isKept : ¬ removedTags.contains tag = true)
    (attrs : List Attribute) :
    Clean (.startTag tag (keptAttributes rules attrs)) := by
  rw [Bool.not_eq_true] at isKept
  constructor
  · exact isKept
  · intro entry member
    exact isDropped_of_mem_keptAttributes member

theorem clean_of_eq_tagPiece
    {tag : Text} {attrs : List Attribute} {part : Part}
    (isPiece : .kept part = tagPiece rules tag attrs) :
    Clean part := by
  unfold tagPiece at isPiece
  split_ifs at isPiece with removed
  cases isPiece
  exact clean_startTag removed attrs

/-- All parts among the pieces of content are clean. -/
theorem clean_of_mem_pieces
    {content : Content rules} {part : Part}
    (member : .kept part ∈ content.pieces) :
    Clean part := by
  induction content with
  | nil => cases member
  | text data rest induction =>
      rcases List.mem_cons.mp member with ⟨⟨⟩⟩ | isRest
      · trivial
      · exact induction isRest
  | hidden event isHidden rest induction => exact induction member
  | void tag attrs isVoid rest induction =>
      rcases List.mem_cons.mp member with isTag | isRest
      · exact clean_of_eq_tagPiece isTag
      · exact induction isRest
  | selfClosing tag attrs notVoid rest induction =>
      rcases List.mem_cons.mp member with isTag | isRest
      · exact clean_of_eq_tagPiece isTag
      · exact induction isRest
  | element tag attrs notVoid inside close closes rest inner outer =>
      rw [Content.pieces] at member
      split_ifs at member with removed
      · rcases List.mem_cons.mp member with ⟨⟨⟩⟩ | isRest
        exact outer isRest
      · rcases List.mem_cons.mp member with ⟨⟨⟩⟩ | isOther
        · exact clean_startTag removed attrs
        · rcases List.mem_append.mp isOther with isInside | isAfter
          · exact inner isInside
          · rcases List.mem_cons.mp isAfter with ⟨⟨⟩⟩ | isRest
            · rw [← closes, Bool.not_eq_true] at removed
              exact removed
            · exact outer isRest

/-- All parts which are written are clean. -/
theorem clean_sanitizedParts
    {fragment : Fragment rules} {part : Part}
    (member : part ∈ sanitizedParts rules fragment.events) :
    Clean part := by
  have text
      {texts : List Text}
      (isText : .kept part ∈ texts.map fun data => Piece.kept (.text data)) :
      Clean part := by
    rcases List.mem_map.mp isText with ⟨data, _, ⟨⟩⟩
    trivial
  rw [sanitizedParts_eq] at member
  have isPiece := mem_pieces_of_mem_shown member
  rw [Fragment.pieces, List.mem_append, List.mem_append] at isPiece
  rcases isPiece with isBefore | isRoot | isAfter
  · exact text isBefore
  · exact clean_of_mem_pieces isRoot
  · exact text isAfter

end Written

/-! ## Removed elements -/

namespace Sanitizer

variable {rules : UnicodeRules} {sanitizer : Sanitizer}

/-- Parts stay where they are. -/
theorem parts_prefix_handle (sanitizer : Sanitizer) (event : Event) :
    sanitizer.parts <+: (sanitizer.handle rules event).parts := by
  have same : sanitizer.parts <+: sanitizer.parts := List.prefix_refl _
  have added (part : Part) :
      sanitizer.parts <+: (sanitizer.append part).parts :=
    List.prefix_append _ _
  cases event with
  | startTag tag attrs =>
      rw [handle, handleStarttag]
      split
      · split_ifs
        · exact same
        · exact same
      · split_ifs
        · exact same
        · exact added _
  | endTag tag =>
      rw [handle, handleEndtag]
      split
      · split_ifs
        · exact same
        · exact same
      · split_ifs
        · exact same
        · exact added _
  | startEndTag tag attrs =>
      rw [handle, handleStartendtag]
      split_ifs
      · exact same
      · exact added _
  | data data =>
      rw [handle, handleData]
      split_ifs
      · exact added _
      · exact same
  | comment data => exact same
  | decl decl => exact same
  | unknownDecl data => exact same
  | processingInstruction data => exact same

theorem parts_prefix_feed (sanitizer : Sanitizer) (events : List Event) :
    sanitizer.parts <+: (sanitizer.feed rules events).parts := by
  induction events generalizing sanitizer with
  | nil => exact List.prefix_refl _
  | cons event rest induction =>
      exact (parts_prefix_handle sanitizer event).trans (induction _)

/-- Nothing is appended while a tag is skipped. -/
theorem parts_feed_skipping
    (parts : List Part) (top : Text) (stack : List Text)
    (content : Content rules) :
    (feed rules ⟨parts, top :: stack⟩ content.events).parts = parts := by
  cases isVoid : voidTags.contains top with
  | true =>
      have stuck : Stuck ⟨parts, top :: stack⟩ parts :=
        ⟨top, stack, isVoid, rfl⟩
      rcases stuck.feed (closes_content content) with ⟨_, _, _, fed⟩
      rw [fed]
  | false => rw [feed_skipped isVoid]

end Sanitizer

section Removed

variable {rules : UnicodeRules}

/-- A single element which is removed. -/
def Content.IsRemoved : Content rules → Prop
  | .void tag _ _ rest =>
      removedTags.contains (rules.lower tag) = true ∧ rest = .nil
  | .selfClosing tag _ _ rest =>
      removedTags.contains (rules.lower tag) = true ∧ rest = .nil
  | .element tag _ _ _ _ _ rest =>
      removedTags.contains (rules.lower tag) = true ∧ rest = .nil
  | _ => False

/-- Nothing is appended for a removed element. -/
theorem parts_feed_removed
    {element : Content rules} (isRemoved : element.IsRemoved)
    (sanitizer : Sanitizer) :
    (sanitizer.feed rules element.events).parts = sanitizer.parts := by
  rcases sanitizer with ⟨parts, stack⟩
  cases stack with
  | cons top stack =>
      exact Sanitizer.parts_feed_skipping parts top stack element
  | nil =>
      cases element with
      | void tag attrs isVoid rest =>
          rcases isRemoved with ⟨removed, rfl⟩
          have skipped :
              Sanitizer.handle rules ⟨parts, []⟩ (.startTag tag attrs) =
                ⟨parts, [rules.lower tag]⟩ :=
            if_pos removed
          rw [Content.events, Sanitizer.feed_cons, skipped]
          rfl
      | selfClosing tag attrs notVoid rest =>
          rcases isRemoved with ⟨removed, rfl⟩
          have passed :
              Sanitizer.handle rules ⟨parts, []⟩ (.startEndTag tag attrs) =
                ⟨parts, []⟩ :=
            if_pos removed
          rw [Content.events, Sanitizer.feed_cons, passed]
          rfl
      | element tag attrs notVoid inside close closes rest =>
          rcases isRemoved with ⟨removed, rfl⟩
          have passed :=
            Sanitizer.feed_removed notVoid closes removed parts attrs inside
          exact congrArg Sanitizer.parts passed
      | _ => exact isRemoved.elim

/-- Nothing is appended by any call for a removed element. -/
theorem sanitizedParts_removed
    {element : Content rules} (isRemoved : element.IsRemoved)
    (before : List Event) {read : List Event}
    (isPart : read <+: element.events) :
    sanitizedParts rules (before ++ read) =
      sanitizedParts rules before := by
  rcases isPart with ⟨rest, isWhole⟩
  have whole :=
    parts_feed_removed isRemoved (Sanitizer.feed rules ⟨[], []⟩ before)
  rw [← isWhole, Sanitizer.feed_append] at whole
  unfold sanitizedParts
  rw [Sanitizer.feed_append]
  have lower :=
    @Sanitizer.parts_prefix_feed rules
      (Sanitizer.feed rules ⟨[], []⟩ before) read
  have upper :=
    @Sanitizer.parts_prefix_feed rules
      ((Sanitizer.feed rules ⟨[], []⟩ before).feed rules read) rest
  rw [whole] at upper
  exact (lower.eq_of_length_le upper.length_le).symm

end Removed

/-! ## Documents which differ in removed material -/

/-- Pieces with one character of text at a time. -/
def Piece.letters : Piece → List Piece
  | .kept (.text data) => data.map fun letter => .kept (.text [letter])
  | piece => [piece]

section Alike

variable {rules : UnicodeRules}

/--
Fragments with the same pieces outside removed elements.  They may differ in
the attributes and the content of removed elements, in dropped attributes, in
comments, declarations and processing instructions, and in how text is split.
-/
def Fragment.Alike (fragment other : Fragment rules) : Prop :=
  fragment.pieces.flatMap Piece.letters = other.pieces.flatMap Piece.letters

/-- Text is written one character at a time. -/
theorem write_shown_text (data : Text) (pieces : List Piece) :
    write
        (shown
          (data.map (fun letter => .kept (.text [letter])) ++ pieces)) =
      escape data ++ write (shown pieces) := by
  induction data with
  | nil => rfl
  | cons letter rest induction =>
      have first : escape (letter :: rest) = escape [letter] ++ escape rest :=
        escape_append [letter] rest
      rw [List.map_cons, List.cons_append, shown, write_cons, induction,
        first, Part.write, List.append_assoc]

theorem write_shown_letters (pieces : List Piece) :
    write (shown (pieces.flatMap Piece.letters)) = write (shown pieces) := by
  induction pieces with
  | nil => rfl
  | cons piece rest induction =>
      rw [List.flatMap_cons]
      cases piece with
      | kept part =>
          rw [shown, write_cons, ← induction]
          cases part with
          | startTag tag attributes => rfl
          | endTag tag => rfl
          | text data => exact write_shown_text data _
      | removed tag =>
          show write (shown (.removed tag :: rest.flatMap Piece.letters)) = _
          rw [shown, shown]
          split_ifs
          · rfl
          · exact induction

/-- Such fragments are written alike. -/
theorem Fragment.Alike.sanitize_eq
    {fragment other : Fragment rules} (alike : fragment.Alike other) :
    sanitize rules fragment.events = sanitize rules other.events := by
  unfold sanitize
  rw [sanitizedParts_eq, sanitizedParts_eq, ← write_shown_letters, alike,
    write_shown_letters]

end Alike

/-! ## Names in the text which is written -/

section Names

variable {rules : UnicodeRules}

/-- Calls with names which are read as they are written. -/
def Event.Named (rules : UnicodeRules) : Event → Prop
  | .startTag tag attrs | .startEndTag tag attrs =>
      IsTagName (rules.lower tag) ∧
        ∀ entry ∈ attrs, IsAttributeName (rules.lower entry.1)
  | .endTag tag => IsTagName (rules.lower tag)
  | _ => True

theorem named_startTag
    {tag : Text} {attrs : List Attribute}
    (named : (Event.startTag tag attrs).Named rules) :
    (Part.startTag (rules.lower tag) (keptAttributes rules attrs)).Named := by
  refine ⟨named.1, ?_⟩
  intro entry member
  rcases List.mem_map.mp (List.mem_filter.mp member).1 with
    ⟨given, isGiven, rfl⟩
  exact named.2 given isGiven

/-- A call appends a part with its own names, if any. -/
theorem Sanitizer.named_handle
    {sanitizer : Sanitizer} {event : Event} (named : event.Named rules)
    (all : ∀ part ∈ sanitizer.parts, part.Named) :
    ∀ part ∈ (sanitizer.handle rules event).parts, part.Named := by
  have added {part : Part} (isNamed : part.Named) :
      ∀ other ∈ (sanitizer.append part).parts, other.Named := by
    intro other member
    rcases List.mem_append.mp member with isOld | isNew
    · exact all other isOld
    · cases List.mem_singleton.mp isNew
      exact isNamed
  cases event with
  | startTag tag attrs =>
      rw [handle, handleStarttag]
      split
      · split_ifs
        · exact all
        · exact all
      · split_ifs
        · exact all
        · exact added (named_startTag named)
  | endTag tag =>
      rw [handle, handleEndtag]
      split
      · split_ifs
        · exact all
        · exact all
      · split_ifs
        · exact all
        · exact added named
  | startEndTag tag attrs =>
      rw [handle, handleStartendtag]
      split_ifs
      · exact all
      · exact added (named_startTag named)
  | data data =>
      rw [handle, handleData]
      split_ifs
      · exact added trivial
      · exact all
  | comment data => exact all
  | decl decl => exact all
  | unknownDecl data => exact all
  | processingInstruction data => exact all

theorem Sanitizer.named_feed
    {sanitizer : Sanitizer} {events : List Event}
    (named : ∀ event ∈ events, event.Named rules)
    (all : ∀ part ∈ sanitizer.parts, part.Named) :
    ∀ part ∈ (sanitizer.feed rules events).parts, part.Named := by
  induction events generalizing sanitizer with
  | nil => exact all
  | cons event rest induction =>
      have isNamed := List.forall_mem_cons.mp named
      exact induction isNamed.2 (named_handle isNamed.1 all)

/-- Marks which name no removed tag and no dropped attribute. -/
def CleanMark : Mark → Prop
  | .tag name => removedTags.contains name = false
  | .attribute name => isDropped name = false

theorem cleanMark_of_clean
    {part : Part} (clean : Clean part) {mark : Mark}
    (member : mark ∈ part.marks) :
    CleanMark mark := by
  cases part with
  | startTag tag attributes =>
      rcases List.mem_cons.mp member with rfl | isAttribute
      · exact clean.1
      · rcases List.mem_map.mp isAttribute with ⟨entry, isEntry, rfl⟩
        exact clean.2 entry isEntry
  | endTag tag =>
      cases List.mem_singleton.mp member
      exact clean
  | text data => cases member

/-- A reader finds no removed names in what is written of a fragment. -/
theorem cleanMark_of_mem_marks
    {fragment : Fragment rules}
    (named : ∀ event ∈ fragment.events, event.Named rules) {mark : Mark}
    (member : mark ∈ marks (sanitize rules fragment.events)) :
    CleanMark mark := by
  have allNamed :
      ∀ part ∈ sanitizedParts rules fragment.events, part.Named :=
    Sanitizer.named_feed named (List.forall_mem_nil _)
  rw [sanitize, marks_write allNamed] at member
  rcases List.mem_flatMap.mp member with ⟨part, isPart, isMark⟩
  exact cleanMark_of_clean (clean_sanitizedParts isPart) isMark

end Names

/-! ## Nothing is revealed -/

/--
What is written of an accepted document has no removed tag and no dropped
attribute, neither in its parts nor, if names are read as they are written, for
a reader of the text.  No call for a removed element appends anything.  The
document is a fragment, and fragments which are alike are written alike.
-/
theorem sanitize_reveals_nothing
    {rules : UnicodeRules} {events : List Event}
    (accepted : isValid rules events = true) :
    (∀ part ∈ sanitizedParts rules events, Clean part) ∧
      ((∀ event ∈ events, event.Named rules) →
        ∀ mark ∈ marks (sanitize rules events), CleanMark mark) ∧
      (∀ (before after read : List Event) (element : Content rules),
        events = before ++ (element.events ++ after) → element.IsRemoved →
          read <+: element.events →
            sanitizedParts rules (before ++ read) =
              sanitizedParts rules before) ∧
      (∃ fragment : Fragment rules, fragment.events = events) ∧
      ∀ fragment other : Fragment rules, fragment.events = events →
        fragment.Alike other →
          sanitize rules events = sanitize rules other.events := by
  rcases isValid_iff_exists_fragment.mp accepted with ⟨document, rfl⟩
  refine ⟨?_, ?_, ?_, ⟨document, rfl⟩, ?_⟩
  · intro part member
    exact clean_sanitizedParts member
  · intro named mark member
    exact cleanMark_of_mem_marks named member
  · intro before after read element _ isRemoved isPart
    exact sanitizedParts_removed isRemoved before isPart
  · intro fragment other same alike
    rw [← same]
    exact alike.sanitize_eq

theorem table_notVoid :
    voidTags.contains (asciiRules.lower "table".toList) = false := by
  decide

theorem input_isVoid :
    voidTags.contains (asciiRules.lower "input".toList) = true := by
  decide

theorem table_closes :
    asciiRules.lower "table".toList = asciiRules.lower "table".toList :=
  rfl

theorem table_isTable :
    asciiRules.lower "table".toList = "table".toList ∧
      (Content.nil : Content asciiRules) = .nil :=
  ⟨by decide, rfl⟩

/-- A table with a form whose field has a value. -/
def secretTable (secret : Text) : Fragment asciiRules where
  before := []
  blankBefore := List.forall_mem_nil _
  root :=
    .element "table".toList [] table_notVoid
      (.element "form".toList [] (by decide)
        (.void "input".toList [("value".toList, some secret)] input_isVoid
          (.hidden (.comment "note".toList) rfl .nil))
        "form".toList rfl (.text "ok".toList .nil))
      "table".toList table_closes .nil
  isTable := table_isTable
  after := []
  blankAfter := List.forall_mem_nil _

/-- The value does not matter, and the text after the form is written. -/
theorem sanitize_reveals_nothing_secretTable :
    sanitize asciiRules (secretTable "one".toList).events =
      sanitize asciiRules (secretTable "two".toList).events :=
  (sanitize_reveals_nothing
    (secretTable "one".toList).isValid_events).2.2.2.2
      (secretTable "one".toList) (secretTable "two".toList) rfl rfl

example :
    sanitize asciiRules (secretTable "one".toList).events =
      "<table>ok</table>".toList := by
  decide

end MultisiteCrawler.BrowserArtifacts
