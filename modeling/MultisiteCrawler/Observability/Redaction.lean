import MultisiteCrawler.Foundation.JsonOrder
import MultisiteCrawler.Foundation.PythonUrls

/-!
# Redacted values

`redact_value` turns any Python value into JSON and leaves out what stands
below a sensitive key, what is not JSON, and the secret parts of URLs.  Values
which differ in what is left out have equal results.
-/

namespace MultisiteCrawler.Observability

open Foundation.JsonOrder
open Foundation.JsonText
open Foundation.PythonErrors
open Foundation.PythonText
open Foundation.PythonUrls

/-! ## Values -/

/--
A Python value, as far as `redact_value` tells values apart.  Mappings have
strings as keys; all that is not JSON is some other object.
-/
inductive PyValue (Object : Type) where
  | null
  | bool (value : Bool)
  | int (value : ℤ)
  | float (literal : FloatLiteral)
  | nonFinite (value : NonFinite)
  | str (text : String)
  | list (items : List (PyValue Object))
  | tuple (items : List (PyValue Object))
  | mapping (members : List (String × PyValue Object))
  | other (object : Object)

/-- `_SENSITIVE_KEY_PARTS`. -/
def sensitiveKeyParts : List String :=
  ["account", "authorization", "cookie", "credential", "email", "identity",
    "password", "phone", "secret", "token"]

section Redaction

variable (rules : UrlRules) {Object : Type}

/-- `_is_sensitive_key`. -/
def isSensitiveKey (key : String) : Bool :=
  let normalized := (rules.lower key.toList).map fun character =>
    if character = '-' then '_' else character
  sensitiveKeyParts.any fun marker => isPart marker.toList normalized

/-- `"url" in key.lower()`. -/
def isUrlKey (key : String) : Bool :=
  isPart "url".toList (rules.lower key.toList)

/-- `_safe_url`. -/
def safeUrl (value : String) : Except PyError String := do
  let parsed ← urlsplit rules value.toList
  if !(["http".toList, "https".toList].contains parsed.scheme) ||
      (hostname rules parsed.netloc).isEmpty then
    .ok "[redacted]"
  else
    let found ← port parsed.netloc
    let netloc :=
      match found with
      | none => hostname rules parsed.netloc
      | some number =>
          hostname rules parsed.netloc ++ ':' :: Nat.toDigits 10 number
    .ok
      (String.ofList
        (urlunsplit ⟨parsed.scheme, netloc, parsed.path, [], []⟩))

/-- Nothing is shown below a sensitive key. -/
def unlessSensitive (key : Option String) (shown : Except PyError Json) :
    Except PyError Json :=
  if key.any (isSensitiveKey rules) then .ok (.str "[redacted]") else shown

mutual

/-- `redact_value`. -/
def redactValue (key : Option String) : PyValue Object → Except PyError Json
  | .str text =>
      unlessSensitive rules key
        (if key.any (isUrlKey rules) then (safeUrl rules text).map .str
        else .ok (.str text))
  | .null => unlessSensitive rules key (.ok .null)
  | .bool value => unlessSensitive rules key (.ok (.bool value))
  | .int value => unlessSensitive rules key (.ok (.int value))
  | .float literal => unlessSensitive rules key (.ok (.float literal))
  | .nonFinite value => unlessSensitive rules key (.ok (.nonFinite value))
  | .mapping members =>
      unlessSensitive rules key ((redactMembers members).map .obj)
  | .list items => unlessSensitive rules key ((redactItems items).map .arr)
  | .tuple items => unlessSensitive rules key ((redactItems items).map .arr)
  | .other _ => unlessSensitive rules key (.ok (.str "[omitted]"))

/-- The items of a sequence, without a key. -/
def redactItems : List (PyValue Object) → Except PyError (List Json)
  | [] => .ok []
  | item :: rest => do
      let first ← redactValue none item
      let others ← redactItems rest
      .ok (first :: others)

/-- The members of a mapping, each with its key. -/
def redactMembers :
    List (String × PyValue Object) → Except PyError (List (String × Json))
  | [] => .ok []
  | (key, value) :: rest => do
      let first ← redactValue (some key) value
      let others ← redactMembers rest
      .ok ((key, first) :: others)

end

/-! ## Values which differ in secrets -/

/--
Values which differ only below sensitive keys, or in which object stands where
something is not JSON.
-/
inductive Alike : PyValue Object → PyValue Object → Prop where
  | refl (value : PyValue Object) : Alike value value
  | other (object another : Object) : Alike (.other object) (.other another)
  | list {items others : List (PyValue Object)}
      (length : items.length = others.length)
      (alike : ∀ item other, (item, other) ∈ items.zip others →
        Alike item other) :
      Alike (.list items) (.list others)
  | tuple {items others : List (PyValue Object)}
      (length : items.length = others.length)
      (alike : ∀ item other, (item, other) ∈ items.zip others →
        Alike item other) :
      Alike (.tuple items) (.tuple others)
  | mapping {members others : List (String × PyValue Object)}
      (distinct : (members.map Prod.fst).Nodup)
      (keys : (members.map Prod.fst).Perm (others.map Prod.fst))
      (alike : ∀ key value other, (key, value) ∈ members →
        (key, other) ∈ others → isSensitiveKey rules key = false →
          Alike value other) :
      Alike (.mapping members) (.mapping others)

/-- Two calls return equal values or raise the same exception. -/
inductive SameOutcome : Except PyError Json → Except PyError Json → Prop where
  | raised (error : PyError) : SameOutcome (.error error) (.error error)
  | returned {value other : Json} (same : Same value other) :
      SameOutcome (.ok value) (.ok other)

/-! ## What is raised -/

section Raised

variable {rules}

theorem unlessSensitive_eq_error
    {key : Option String} {shown : Except PyError Json} {error : PyError}
    (raised : unlessSensitive rules key shown = .error error) :
    shown = .error error := by
  rw [unlessSensitive] at raised
  split_ifs at raised
  exact raised

/-- Only the standard library raises, for a URL it does not accept. -/
theorem safeUrl_eq_error
    {text : String} {error : PyError}
    (raised : safeUrl rules text = .error error) :
    error = .library .valueError := by
  rw [safeUrl, bind_eq_error_iff] at raised
  rcases raised with refused | ⟨parsed, _, raised⟩
  · exact urlsplit_eq_error refused
  split_ifs at raised
  rw [bind_eq_error_iff] at raised
  rcases raised with refused | ⟨found, _, ⟨⟩⟩
  exact port_eq_error refused

mutual

/-- Only URLs make `redact_value` raise. -/
theorem redactValue_eq_error
    {key : Option String} {error : PyError} :
    (value : PyValue Object) → redactValue rules key value = .error error →
      error = .library .valueError
  | .str text, raised => by
      have shown := unlessSensitive_eq_error raised
      split_ifs at shown
      exact safeUrl_eq_error (map_eq_error shown)
  | .list items, raised =>
      redactItems_eq_error items
        (map_eq_error (unlessSensitive_eq_error raised))
  | .tuple items, raised =>
      redactItems_eq_error items
        (map_eq_error (unlessSensitive_eq_error raised))
  | .mapping members, raised =>
      redactMembers_eq_error members
        (map_eq_error (unlessSensitive_eq_error raised))
  | .null, raised => by cases unlessSensitive_eq_error raised
  | .bool _, raised => by cases unlessSensitive_eq_error raised
  | .int _, raised => by cases unlessSensitive_eq_error raised
  | .float _, raised => by cases unlessSensitive_eq_error raised
  | .nonFinite _, raised => by cases unlessSensitive_eq_error raised
  | .other _, raised => by cases unlessSensitive_eq_error raised

theorem redactItems_eq_error
    {error : PyError} :
    (items : List (PyValue Object)) →
      redactItems rules items = .error error →
        error = .library .valueError
  | item :: rest, raised => by
      rw [redactItems, bind_eq_error_iff] at raised
      rcases raised with first | ⟨_, _, raised⟩
      · exact redactValue_eq_error item first
      rw [bind_eq_error_iff] at raised
      rcases raised with others | ⟨_, _, ⟨⟩⟩
      exact redactItems_eq_error rest others

theorem redactMembers_eq_error
    {error : PyError} :
    (members : List (String × PyValue Object)) →
      redactMembers rules members = .error error →
        error = .library .valueError
  | (key, value) :: rest, raised => by
      rw [redactMembers, bind_eq_error_iff] at raised
      rcases raised with first | ⟨_, _, raised⟩
      · exact redactValue_eq_error value first
      rw [bind_eq_error_iff] at raised
      rcases raised with others | ⟨_, _, ⟨⟩⟩
      exact redactMembers_eq_error rest others

end

end Raised

/-! ## Alike values have equal results -/

section Results

variable {rules}

theorem SameOutcome.refl (outcome : Except PyError Json) :
    SameOutcome outcome outcome := by
  cases outcome with
  | error error => exact .raised error
  | ok value => exact .returned (.refl value)

/-- What is done with equal values has the same outcome. -/
theorem SameOutcome.bind_eq
    {first second : Except PyError Json} {Output : Type}
    {continuation otherContinuation : Json → Except PyError Output}
    (same : SameOutcome first second)
    (continues : ∀ value other, Same value other →
      continuation value = otherContinuation other) :
    (first >>= continuation) = second >>= otherContinuation := by
  cases same with
  | raised error => rfl
  | returned same => exact continues _ _ same

theorem SameOutcome.unlessSensitive
    {first second : Except PyError Json} (key : Option String)
    (same : key.any (isSensitiveKey rules) = false →
      SameOutcome first second) :
    SameOutcome (unlessSensitive rules key first)
      (unlessSensitive rules key second) := by
  unfold Observability.unlessSensitive
  split_ifs with sensitive
  · exact SameOutcome.refl _
  · exact same (eq_false_of_ne_true sensitive)

/-- Nothing is shown of a value below a sensitive key. -/
theorem redactValue_of_sensitive
    {key : String} (value : PyValue Object)
    (sensitive : isSensitiveKey rules key = true) :
    redactValue rules (some key) value = .ok (.str "[redacted]") := by
  have hidden (shown : Except PyError Json) :
      unlessSensitive rules (some key) shown = .ok (.str "[redacted]") :=
    if_pos sensitive
  cases value <;> exact hidden _

variable (rules) in
/-- The results of the members of a mapping. -/
structure MemberResults (members : List (String × PyValue Object))
    (results : List (String × Json)) : Prop where
  keys : results.map Prod.fst = members.map Prod.fst
  shown : ∀ key value, (key, value) ∈ members →
    ∃ result, redactValue rules (some key) value = .ok result
  origin : ∀ key result, (key, result) ∈ results →
    ∃ value, (key, value) ∈ members ∧
      redactValue rules (some key) value = .ok result

theorem redactMembers_eq_ok
    {members : List (String × PyValue Object)}
    {results : List (String × Json)}
    (returned : redactMembers rules members = .ok results) :
    MemberResults rules members results := by
  induction members generalizing results with
  | nil =>
      cases returned
      exact ⟨rfl, by rintro key value ⟨⟩, by rintro key result ⟨⟩⟩
  | cons member rest induction =>
      rw [redactMembers, bind_eq_ok_iff] at returned
      rcases returned with ⟨first, isFirst, returned⟩
      rw [bind_eq_ok_iff] at returned
      rcases returned with ⟨others, isOthers, isResults⟩
      cases isResults
      have ⟨keys, shown, origin⟩ := induction isOthers
      constructor
      · rw [List.map_cons, List.map_cons, keys]
      · intro key value isMember
        rcases List.mem_cons.mp isMember with isHead | inRest
        · cases isHead
          exact ⟨first, isFirst⟩
        · exact shown key value inRest
      · intro key result isMember
        rcases List.mem_cons.mp isMember with isHead | inRest
        · cases isHead
          exact ⟨member.2, List.mem_cons_self, isFirst⟩
        · rcases origin key result inRest with ⟨value, isValue, isResult⟩
          exact ⟨value, List.mem_cons_of_mem _ isValue, isResult⟩

/-- If every value has a result, the mapping has one. -/
theorem exists_redactMembers
    {members : List (String × PyValue Object)}
    (returned : ∀ member ∈ members,
      ∃ result, redactValue rules (some member.1) member.2 = .ok result) :
    ∃ results, redactMembers rules members = .ok results := by
  induction members with
  | nil => exact ⟨[], rfl⟩
  | cons member rest induction =>
      rcases returned member List.mem_cons_self with ⟨first, isFirst⟩
      rcases induction fun other isMember =>
        returned other (List.mem_cons_of_mem _ isMember) with
        ⟨others, isOthers⟩
      refine ⟨(member.1, first) :: others, ?_⟩
      rw [redactMembers, isFirst, ok_bind, isOthers, ok_bind]

section Members

variable {members others : List (String × PyValue Object)}

/-- The value of a key which is known. -/
theorem exists_of_key
    {Value : Type} {key : String} {known : List (String × Value)}
    (isKey : key ∈ known.map Prod.fst) : ∃ value, (key, value) ∈ known := by
  rcases List.mem_map.mp isKey with ⟨⟨_, value⟩, member, rfl⟩
  exact ⟨value, member⟩

/-- Either both calls return, or neither does. -/
theorem SameOutcome.returns_iff
    {first second : Except PyError Json} (same : SameOutcome first second) :
    (∃ value, first = .ok value) ↔ ∃ value, second = .ok value := by
  cases same with
  | raised error => exact Iff.rfl
  | returned same => exact iff_of_true ⟨_, rfl⟩ ⟨_, rfl⟩

/-- If one mapping has a result, so has the other one. -/
theorem exists_redactMembers_of_keys
    (keys : (members.map Prod.fst).Perm (others.map Prod.fst))
    (returns : ∀ key value other, (key, value) ∈ members →
      (key, other) ∈ others →
        (∃ result, redactValue rules (some key) value = .ok result) →
          ∃ result, redactValue rules (some key) other = .ok result)
    {results : List (String × Json)}
    (returned : redactMembers rules members = .ok results) :
    ∃ otherResults, redactMembers rules others = .ok otherResults := by
  apply exists_redactMembers
  rintro ⟨key, other⟩ otherMember
  rcases exists_of_key
      (keys.mem_iff.mpr (List.mem_map_of_mem otherMember)) with
    ⟨value, member⟩
  exact returns key value other member otherMember
    ((redactMembers_eq_ok returned).shown key value member)

/-- Mappings with alike members. -/
theorem sameOutcome_mapping
    (distinct : (members.map Prod.fst).Nodup)
    (keys : (members.map Prod.fst).Perm (others.map Prod.fst))
    (same : ∀ key value other, (key, value) ∈ members →
      (key, other) ∈ others →
        SameOutcome (redactValue rules (some key) value)
          (redactValue rules (some key) other)) :
    SameOutcome ((redactMembers rules members).map .obj)
      ((redactMembers rules others).map .obj) := by
  cases first : redactMembers rules members with
  | error error =>
      cases second : redactMembers rules others with
      | error otherError =>
          rw [redactMembers_eq_error members first,
            redactMembers_eq_error others second]
          exact .raised _
      | ok otherResults =>
          rcases exists_redactMembers_of_keys keys.symm
              (fun key other value otherMember member =>
                (same key value other member otherMember).returns_iff.mpr)
              second with
            ⟨results, returned⟩
          rw [first] at returned
          cases returned
  | ok results =>
      rcases exists_redactMembers_of_keys keys
          (fun key value other member otherMember =>
            (same key value other member otherMember).returns_iff.mp)
          first with
        ⟨otherResults, second⟩
      rw [second]
      have ⟨resultKeys, _, origin⟩ := redactMembers_eq_ok first
      have ⟨otherKeys, _, otherOrigin⟩ := redactMembers_eq_ok second
      refine .returned (.obj ?_ ?_ ?_)
      · rw [resultKeys]
        exact distinct
      · rw [resultKeys, otherKeys]
        exact keys
      · intro key result otherResult isResult isOtherResult
        rcases origin key result isResult with ⟨value, member, shown⟩
        rcases otherOrigin key otherResult isOtherResult with
          ⟨other, otherMember, otherShown⟩
        have outcome := same key value other member otherMember
        rw [shown, otherShown] at outcome
        cases outcome with
        | returned same => exact same

end Members

/-- Sequences with alike items. -/
theorem sameOutcome_items
    {items others : List (PyValue Object)}
    (length : items.length = others.length)
    (same : ∀ item other, (item, other) ∈ items.zip others →
      SameOutcome (redactValue rules none item)
        (redactValue rules none other)) :
    SameOutcome ((redactItems rules items).map .arr)
      ((redactItems rules others).map .arr) := by
  have steps :
      (∃ error, redactItems rules items = .error error ∧
          redactItems rules others = .error error) ∨
        ∃ results otherResults,
          redactItems rules items = .ok results ∧
            redactItems rules others = .ok otherResults ∧
            results.length = otherResults.length ∧
            ∀ result other, (result, other) ∈ results.zip otherResults →
              Same result other := by
    induction items generalizing others with
    | nil =>
        cases others with
        | nil => exact Or.inr ⟨[], [], rfl, rfl, rfl, by rintro _ _ ⟨⟩⟩
        | cons => cases length
    | cons item rest induction =>
        cases others with
        | nil => cases length
        | cons other otherRest =>
            have head := same item other List.mem_cons_self
            rw [redactItems, redactItems]
            generalize redactValue rules none item = first at head ⊢
            generalize redactValue rules none other = second at head ⊢
            cases head with
            | raised error => exact Or.inl ⟨error, rfl, rfl⟩
            | @returned result otherResult isSame =>
                rcases induction (Nat.succ.inj length)
                    fun item other pair =>
                      same item other (List.mem_cons_of_mem _ pair) with
                  ⟨error, rest, otherRest⟩ |
                  ⟨results, others, rest, otherRest, sameLength, pairs⟩
                · rw [rest, otherRest]
                  exact Or.inl ⟨error, rfl, rfl⟩
                · rw [rest, otherRest]
                  refine Or.inr ⟨result :: results, otherResult :: others,
                    rfl, rfl, congrArg Nat.succ sameLength, ?_⟩
                  intro first second pair
                  rcases List.mem_cons.mp pair with isHead | inRest
                  · cases isHead
                    exact isSame
                  · exact pairs first second inRest
  rcases steps with ⟨error, first, second⟩ |
    ⟨results, otherResults, first, second, sameLength, pairs⟩
  · rw [first, second]
    exact .raised error
  · rw [first, second]
    exact .returned (.arr sameLength pairs)

/--
Values which differ below sensitive keys, or in objects which are not JSON,
have equal results or raise the same exception.
-/
theorem Alike.sameOutcome
    {value other : PyValue Object} (alike : Alike rules value other)
    (key : Option String) :
    SameOutcome (redactValue rules key value)
      (redactValue rules key other) := by
  induction alike generalizing key with
  | refl value => exact SameOutcome.refl _
  | other object another => exact SameOutcome.refl _
  | list length alike induction =>
      refine SameOutcome.unlessSensitive key fun _ => ?_
      exact sameOutcome_items length fun item other pair =>
        induction item other pair none
  | tuple length alike induction =>
      refine SameOutcome.unlessSensitive key fun _ => ?_
      exact sameOutcome_items length fun item other pair =>
        induction item other pair none
  | mapping distinct keys alike induction =>
      refine SameOutcome.unlessSensitive key fun _ => ?_
      apply sameOutcome_mapping distinct keys
      intro name value other member otherMember
      cases sensitive : isSensitiveKey rules name with
      | true =>
          rw [redactValue_of_sensitive value sensitive,
            redactValue_of_sensitive other sensitive]
          exact SameOutcome.refl _
      | false =>
          exact induction name value other member otherMember sensitive
            (some name)

end Results

end Redaction

end MultisiteCrawler.Observability
