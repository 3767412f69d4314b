import MultisiteCrawler.Observability.Redaction

/-!
# Places in redacted values

A place is a path of indices and keys into a value, and the result of
`redact_value` has the same places down to the first sensitive key.  What
stands at a place is redacted with the key of the last step only; so
`redact_value` raises exactly if a string directly below a URL key is one which
`urllib` refuses.
-/

namespace MultisiteCrawler.Observability

open Foundation.JsonText
open Foundation.PythonErrors
open Foundation.PythonUrls

/-! ## Places -/

/-- A step to an item of a sequence, or to a member of a mapping. -/
inductive Step where
  | item (index : ℕ)
  | member (index : ℕ) (key : String)
deriving DecidableEq

/-- A path into a value. -/
abbrev Place := List Step

/-- The key of a step, if it is one to a member. -/
def Step.key : Step → Option String
  | .item _ => none
  | .member _ key => some key

/-- The member at an index, if it has the key. -/
def memberAt {Value : Type} (index : ℕ) (key : String)
    (members : List (String × Value)) : Option Value :=
  members[index]?.bind fun member =>
    if member.1 = key then some member.2 else none

/-- What stands at a place of a value. -/
def valueAt {Object : Type} : Place → PyValue Object → Option (PyValue Object)
  | [], value => some value
  | .item index :: rest, .list items => items[index]?.bind (valueAt rest)
  | .item index :: rest, .tuple items => items[index]?.bind (valueAt rest)
  | .member index key :: rest, .mapping members =>
      (memberAt index key members).bind (valueAt rest)
  | _ :: _, _ => none

/-- What stands at a place of a JSON value. -/
def jsonAt : Place → Json → Option Json
  | [], value => some value
  | .item index :: rest, .arr items => items[index]?.bind (jsonAt rest)
  | .member index key :: rest, .obj members =>
      (memberAt index key members).bind (jsonAt rest)
  | _ :: _, _ => none

/-- The key with which `redact_value` is called at a place. -/
def keyAt (key : Option String) : Place → Option String
  | [] => key
  | step :: rest => keyAt step.key rest

/-- The key of the last mapping on the way, whatever sequences follow. -/
def nearestKey (key : Option String) : Place → Option String
  | [] => key
  | .item _ :: rest => nearestKey key rest
  | .member _ name :: rest => nearestKey (some name) rest

theorem keyAt_concat (key : Option String) (place : Place) (step : Step) :
    keyAt key (place ++ [step]) = step.key := by
  induction place generalizing key with
  | nil => rfl
  | cons first rest induction => exact induction first.key

theorem nearestKey_concat_member
    (key : Option String) (place : Place) (index : ℕ) (name : String) :
    nearestKey key (place ++ [.member index name]) = some name := by
  induction place generalizing key with
  | nil => rfl
  | cons first rest induction =>
      cases first with
      | item position => exact induction key
      | member position other => exact induction (some other)

section Places

variable (rules : UrlRules) {Object : Type}

/-- No key on the way to a place is sensitive. -/
structure Shown (key : Option String) (place : Place) : Prop where
  key : key.any (isSensitiveKey rules) = false
  members : ∀ index name, .member index name ∈ place →
    isSensitiveKey rules name = false

variable {rules}

theorem Shown.tail
    {key : Option String} {step : Step} {rest : Place}
    (shown : Shown rules key (step :: rest)) : Shown rules step.key rest := by
  constructor
  · cases step with
    | item index => rfl
    | member index name => exact shown.members index name List.mem_cons_self
  · intro index name member
    exact shown.members index name (List.mem_cons_of_mem _ member)

theorem Shown.cons
    {key : Option String} {step : Step} {rest : Place}
    (isShown : key.any (isSensitiveKey rules) = false)
    (shown : Shown rules step.key rest) : Shown rules key (step :: rest) := by
  constructor
  · exact isShown
  · intro index name member
    rcases List.mem_cons.mp member with isStep | isRest
    · rw [← isStep] at shown
      exact shown.key
    · exact shown.members index name isRest

theorem unlessSensitive_of_shown
    {key : Option String} (isShown : key.any (isSensitiveKey rules) = false)
    (shown : Except PyError Json) :
    unlessSensitive rules key shown = shown := by
  rw [unlessSensitive, isShown]
  rfl

/-! ## The result has the same places -/

theorem getElem?_redactItems
    {items : List (PyValue Object)} {results : List Json} {index : ℕ}
    {item : PyValue Object} (returned : redactItems rules items = .ok results)
    (found : items[index]? = some item) :
    ∃ result, results[index]? = some result ∧
      redactValue rules none item = .ok result := by
  induction items generalizing results index with
  | nil => cases found
  | cons first rest induction =>
      rw [redactItems, bind_eq_ok_iff] at returned
      rcases returned with ⟨head, isHead, returned⟩
      rw [bind_eq_ok_iff] at returned
      rcases returned with ⟨others, isOthers, isResults⟩
      cases isResults
      cases index with
      | zero =>
          cases found
          exact ⟨head, rfl, isHead⟩
      | succ index =>
          have inRest := induction isOthers found
          exact inRest

theorem memberAt_redactMembers
    {members : List (String × PyValue Object)}
    {results : List (String × Json)} {index : ℕ} {key : String}
    {value : PyValue Object}
    (returned : redactMembers rules members = .ok results)
    (found : memberAt index key members = some value) :
    ∃ result, memberAt index key results = some result ∧
      redactValue rules (some key) value = .ok result := by
  induction members generalizing results index with
  | nil => cases found
  | cons first rest induction =>
      rw [redactMembers, bind_eq_ok_iff] at returned
      rcases returned with ⟨head, isHead, returned⟩
      rw [bind_eq_ok_iff] at returned
      rcases returned with ⟨others, isOthers, isResults⟩
      cases isResults
      cases index with
      | zero =>
          rw [memberAt, List.getElem?_cons_zero, Option.bind_some] at found
          split_ifs at found with isKey
          cases found
          refine ⟨head, ?_, ?_⟩
          · rw [memberAt, List.getElem?_cons_zero, Option.bind_some,
              if_pos isKey]
          · rw [← isKey]
            exact isHead
      | succ index =>
          have inRest := induction isOthers found
          exact inRest

/--
Down to a place without sensitive keys, the result has what the value has,
redacted with the key of the last step.
-/
theorem redactValue_at
    {place : Place} {key : Option String} {value part : PyValue Object}
    {result : Json} (returned : redactValue rules key value = .ok result)
    (shown : Shown rules key place) (found : valueAt place value = some part) :
    ∃ shownPart, jsonAt place result = some shownPart ∧
      redactValue rules (keyAt key place) part = .ok shownPart := by
  induction place generalizing key value result with
  | nil =>
      cases found
      exact ⟨result, rfl, returned⟩
  | cons step rest induction =>
      have inSequence
          {items : List (PyValue Object)} {index : ℕ}
          (isItem : step = .item index)
          (isResult : (redactItems rules items).map .arr = .ok result)
          (isFound : items[index]?.bind (valueAt rest) = some part) :
          ∃ shownPart, jsonAt (step :: rest) result = some shownPart ∧
            redactValue rules (keyAt key (step :: rest)) part =
              .ok shownPart := by
        cases isItem
        rcases map_eq_ok_iff.mp isResult with ⟨results, isResults, rfl⟩
        rcases Option.bind_eq_some_iff.mp isFound with
          ⟨item, isItem, inItem⟩
        rcases getElem?_redactItems isResults isItem with
          ⟨itemResult, isItemResult, itemReturned⟩
        rcases induction itemReturned shown.tail inItem with
          ⟨shownPart, isPart, partReturned⟩
        refine ⟨shownPart, ?_, partReturned⟩
        rw [jsonAt, isItemResult]
        exact isPart
      cases value with
      | list items =>
          cases step with
          | item index =>
              rw [redactValue, unlessSensitive_of_shown shown.key] at returned
              exact inSequence rfl returned found
          | member => cases found
      | tuple items =>
          cases step with
          | item index =>
              rw [redactValue, unlessSensitive_of_shown shown.key] at returned
              exact inSequence rfl returned found
          | member => cases found
      | mapping members =>
          cases step with
          | item => cases found
          | member index name =>
              rw [redactValue, unlessSensitive_of_shown shown.key] at returned
              rcases map_eq_ok_iff.mp returned with ⟨results, isResults, rfl⟩
              rcases Option.bind_eq_some_iff.mp found with
                ⟨value, isMember, inValue⟩
              rcases memberAt_redactMembers isResults isMember with
                ⟨memberResult, isMemberResult, memberReturned⟩
              rcases induction memberReturned shown.tail inValue with
                ⟨shownPart, isPart, partReturned⟩
              refine ⟨shownPart, ?_, partReturned⟩
              rw [jsonAt, isMemberResult]
              exact isPart
      | _ =>
          cases step with
          | item => cases found
          | member => cases found

/-! ## What is refused -/

/-- What is not refused for its scheme or its host has both. -/
theorem not_refusal_iff {isHttp isUnnamed : Bool} :
    ¬ (!isHttp || isUnnamed) = true ↔ isHttp = true ∧ isUnnamed = false := by
  rw [Bool.or_eq_true, Bool.not_eq_true', not_or, Bool.not_eq_false,
    Bool.not_eq_true]

variable (rules) in
/-- A text which `urllib` refuses to split, or whose port it refuses. -/
inductive RefusedUrl (text : String) : Prop where
  | split (error : PyError)
      (raised : urlsplit rules text.toList = .error error)
  | port (parsed : SplitResult) (error : PyError)
      (isSplit : urlsplit rules text.toList = .ok parsed)
      (isHttp : ["http".toList, "https".toList].contains parsed.scheme = true)
      (named : (hostname rules parsed.netloc).isEmpty = false)
      (raised : port parsed.netloc = .error error)

theorem safeUrl_raises_iff (text : String) :
    (∃ error, safeUrl rules text = .error error) ↔ RefusedUrl rules text := by
  constructor
  · rintro ⟨error, raised⟩
    rw [safeUrl, bind_eq_error_iff] at raised
    rcases raised with refused | ⟨parsed, isSplit, raised⟩
    · exact .split error refused
    · split_ifs at raised with other
      rw [not_refusal_iff] at other
      rw [bind_eq_error_iff] at raised
      rcases raised with refused | ⟨found, _, ⟨⟩⟩
      exact .port parsed error isSplit other.1 other.2 refused
  · rintro (⟨error, raised⟩ | ⟨parsed, error, isSplit, isHttp, named, raised⟩)
    · refine ⟨error, ?_⟩
      rw [safeUrl, raised, error_bind]
    · refine ⟨error, ?_⟩
      rw [safeUrl, isSplit, ok_bind, isHttp, named, Bool.not_true,
        Bool.or_self, if_neg Bool.false_ne_true, raised, error_bind]

variable (rules) in
/--
A refused text at a place directly below a URL key, with no sensitive key on
the way.
-/
structure RefusedAt (key : Option String) (value : PyValue Object)
    (place : Place) (text : String) : Prop where
  found : valueAt place value = some (.str text)
  shown : Shown rules key place
  isUrl : (keyAt key place).any (isUrlKey rules) = true
  refused : RefusedUrl rules text

variable (rules) in
/-- There is a refused text somewhere. -/
def RefusedBelow (key : Option String) (value : PyValue Object) : Prop :=
  ∃ place text, RefusedAt rules key value place text

theorem redactValue_str_of_isUrl
    {key : Option String} (shown : key.any (isSensitiveKey rules) = false)
    (isUrl : key.any (isUrlKey rules) = true) (text : String) :
    redactValue rules key (.str text : PyValue Object) =
      (safeUrl rules text).map .str := by
  rw [redactValue, unlessSensitive_of_shown shown, if_pos isUrl]

theorem Shown.keyAt
    {key : Option String} {place : Place} (shown : Shown rules key place) :
    (keyAt key place).any (isSensitiveKey rules) = false := by
  induction place generalizing key with
  | nil => exact shown.key
  | cons step rest induction => exact induction shown.tail

/-- Where a refused text stands, the value has no result. -/
theorem RefusedAt.not_returned
    {key : Option String} {value : PyValue Object} {place : Place}
    {text : String} (refused : RefusedAt rules key value place text)
    {result : Json} : redactValue rules key value ≠ .ok result := by
  intro returned
  rcases redactValue_at returned refused.shown refused.found with
    ⟨part, _, partReturned⟩
  rw [redactValue_str_of_isUrl refused.shown.keyAt refused.isUrl]
    at partReturned
  rcases (safeUrl_raises_iff text).mpr refused.refused with ⟨error, raised⟩
  rw [raised] at partReturned
  cases partReturned

theorem key_of_unlessSensitive_raises
    {key : Option String} {shown : Except PyError Json} {error : PyError}
    (raised : unlessSensitive rules key shown = .error error) :
    key.any (isSensitiveKey rules) = false := by
  rw [unlessSensitive] at raised
  split_ifs at raised with sensitive
  exact eq_false_of_ne_true sensitive

/-- A refused text below a step is one below the value. -/
theorem RefusedAt.cons
    {key : Option String} {value part : PyValue Object} {step : Step}
    {rest : Place} {text : String}
    (isShown : key.any (isSensitiveKey rules) = false)
    (below : valueAt (step :: rest) value = valueAt rest part)
    (refused : RefusedAt rules step.key part rest text) :
    RefusedAt rules key value (step :: rest) text where
  found := below.trans refused.found
  shown := refused.shown.cons isShown
  isUrl := refused.isUrl
  refused := refused.refused

mutual

/-- If `redact_value` raises, it is for a refused text. -/
theorem refusedBelow_of_raises
    {key : Option String} {error : PyError} :
    (value : PyValue Object) → redactValue rules key value = .error error →
      RefusedBelow rules key value
  | .str text, raised => by
      have isShown := key_of_unlessSensitive_raises raised
      have shown := unlessSensitive_eq_error raised
      split_ifs at shown with isUrl
      refine ⟨[], text, rfl, ⟨isShown, ?_⟩, isUrl, ?_⟩
      · intro index name member
        cases member
      · exact (safeUrl_raises_iff text).mp ⟨error, map_eq_error shown⟩
  | .list items, raised => by
      have isShown := key_of_unlessSensitive_raises raised
      rcases refused_item_of_raises items
          (map_eq_error (unlessSensitive_eq_error raised)) with
        ⟨index, item, found, place, text, refused⟩
      refine ⟨.item index :: place, text, refused.cons isShown ?_⟩
      rw [valueAt, found, Option.bind_some]
  | .tuple items, raised => by
      have isShown := key_of_unlessSensitive_raises raised
      rcases refused_item_of_raises items
          (map_eq_error (unlessSensitive_eq_error raised)) with
        ⟨index, item, found, place, text, refused⟩
      refine ⟨.item index :: place, text, refused.cons isShown ?_⟩
      rw [valueAt, found, Option.bind_some]
  | .mapping members, raised => by
      have isShown := key_of_unlessSensitive_raises raised
      rcases refused_member_of_raises members
          (map_eq_error (unlessSensitive_eq_error raised)) with
        ⟨index, name, value, found, place, text, refused⟩
      refine ⟨.member index name :: place, text, refused.cons isShown ?_⟩
      rw [valueAt, found, Option.bind_some]
  | .null, raised => by cases unlessSensitive_eq_error raised
  | .bool _, raised => by cases unlessSensitive_eq_error raised
  | .int _, raised => by cases unlessSensitive_eq_error raised
  | .float _, raised => by cases unlessSensitive_eq_error raised
  | .nonFinite _, raised => by cases unlessSensitive_eq_error raised
  | .other _, raised => by cases unlessSensitive_eq_error raised

theorem refused_item_of_raises
    {error : PyError} :
    (items : List (PyValue Object)) →
      redactItems rules items = .error error →
        ∃ (index : ℕ) (item : PyValue Object),
          items[index]? = some item ∧ RefusedBelow rules none item
  | first :: rest, raised => by
      rw [redactItems, bind_eq_error_iff] at raised
      rcases raised with isFirst | ⟨_, _, raised⟩
      · exact ⟨0, first, rfl, refusedBelow_of_raises first isFirst⟩
      rw [bind_eq_error_iff] at raised
      rcases raised with isRest | ⟨_, _, ⟨⟩⟩
      rcases refused_item_of_raises rest isRest with
        ⟨index, item, found, refused⟩
      exact ⟨index + 1, item, found, refused⟩

theorem refused_member_of_raises
    {error : PyError} :
    (members : List (String × PyValue Object)) →
      redactMembers rules members = .error error →
        ∃ index name value, memberAt index name members = some value ∧
          RefusedBelow rules (some name) value
  | (key, value) :: rest, raised => by
      rw [redactMembers, bind_eq_error_iff] at raised
      rcases raised with isFirst | ⟨_, _, raised⟩
      · refine ⟨0, key, value, ?_, refusedBelow_of_raises value isFirst⟩
        exact if_pos rfl
      rw [bind_eq_error_iff] at raised
      rcases raised with isRest | ⟨_, _, ⟨⟩⟩
      rcases refused_member_of_raises rest isRest with
        ⟨index, name, value, found, refused⟩
      exact ⟨index + 1, name, value, found, refused⟩

end

/-- `redact_value` returns exactly if nothing below is refused. -/
theorem redactValue_returns_iff (key : Option String) (value : PyValue Object) :
    (∃ result, redactValue rules key value = .ok result) ↔
      ¬ RefusedBelow rules key value := by
  constructor
  · rintro ⟨result, returned⟩ ⟨place, text, refused⟩
    exact refused.not_returned returned
  · intro nothing
    cases outcome : redactValue rules key value with
    | ok result => exact ⟨result, rfl⟩
    | error error => exact (nothing (refusedBelow_of_raises value outcome)).elim

end Places

end MultisiteCrawler.Observability
