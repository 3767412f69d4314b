import MultisiteCrawler.Foundation.PlainUrls
import MultisiteCrawler.Observability.Places

/-!
# Texts below URL keys

A text which stands directly below a URL key is scrubbed.  The list branch of
`redact_value` does not pass the key on, so a text in a sequence below a URL
key is shown as it is.
-/

namespace MultisiteCrawler.Observability

open Foundation.JsonText
open Foundation.PythonErrors
open Foundation.PythonText
open Foundation.PythonUrls

/-! ## Scrubbed texts -/

/-- A text which shows nothing, or a URL without secret parts. -/
def IsScrubbed (text : String) : Prop :=
  text = "[redacted]" ∨ IsPlainUrl text.toList

section Scrubbed

variable {rules : UrlRules} {Object : Type}

/-- What `_safe_url` returns is scrubbed. -/
theorem isScrubbed_safeUrl
    (kept : DelimitersKept rules.toUnicodeRules) {text shown : String}
    (returned : safeUrl rules text = .ok shown) : IsScrubbed shown := by
  rw [safeUrl, bind_eq_ok_iff] at returned
  rcases returned with ⟨parsed, isSplit, returned⟩
  split_ifs at returned with other
  · cases returned
    exact Or.inl rfl
  · rw [bind_eq_ok_iff] at returned
    rcases returned with ⟨found, _, isShown⟩
    cases isShown
    rw [not_refusal_iff] at other
    have named : hostname rules parsed.netloc ≠ [] := by
      intro empty
      rw [empty] at other
      cases other.2
    refine Or.inr ?_
    rw [String.toList_ofList]
    apply isPlainUrl_urlunsplit other.1
    · cases found with
      | none => exact named
      | some number => exact List.append_ne_nil_of_left_ne_nil named _
    · exact location_plain fun character member =>
        hostname_plain kept isSplit member
    · intro character member
      exact path_of_urlsplit isSplit member

variable (rules) in
/-- A text below a URL key, directly or in sequences, and not hidden. -/
structure BelowUrl (key : Option String) (value : PyValue Object)
    (place : Place) (text : String) : Prop where
  found : valueAt place value = some (.str text)
  shown : Shown rules key place
  isUrl : (nearestKey key place).any (isUrlKey rules) = true

variable (rules) in
/-- Whatever is returned, every text below a URL key is scrubbed in it. -/
def UrlsScrubbed (key : Option String) (value : PyValue Object) : Prop :=
  ∀ result place text, redactValue rules key value = .ok result →
    BelowUrl rules key value place text →
      ∃ shown, jsonAt place result = some (.str shown) ∧ IsScrubbed shown

variable (rules) in
/-- Every text in a sequence below a URL key is scrubbed as it is given. -/
def SequencesScrubbed (key : Option String) (value : PyValue Object) : Prop :=
  ∀ place index text,
    BelowUrl rules key value (place ++ [.item index]) text → IsScrubbed text

/-! ## The two branches -/

/-- In a sequence, a text is shown as it is. -/
theorem jsonAt_of_item
    {key : Option String} {value : PyValue Object} {result : Json}
    (returned : redactValue rules key value = .ok result)
    {place : Place} {index : ℕ} {text : String}
    (below : BelowUrl rules key value (place ++ [.item index]) text) :
    jsonAt (place ++ [.item index]) result = some (.str text) := by
  rcases redactValue_at returned below.shown below.found with
    ⟨part, isPart, partReturned⟩
  rw [keyAt_concat] at partReturned
  cases partReturned
  exact isPart

/-- With a URL key of its own, a text is scrubbed. -/
theorem isScrubbed_of_keyAt
    (kept : DelimitersKept rules.toUnicodeRules)
    {key : Option String} {value : PyValue Object} {result : Json}
    (returned : redactValue rules key value = .ok result)
    {place : Place} {text : String}
    (below : BelowUrl rules key value place text)
    (own : keyAt key place = nearestKey key place) :
    ∃ shown, jsonAt place result = some (.str shown) ∧ IsScrubbed shown := by
  rcases redactValue_at returned below.shown below.found with
    ⟨part, isPart, partReturned⟩
  have isUrl := below.isUrl
  rw [← own] at isUrl
  rw [redactValue_str_of_isUrl below.shown.keyAt isUrl, map_eq_ok_iff]
    at partReturned
  rcases partReturned with ⟨shown, isShown, rfl⟩
  exact ⟨shown, isPart, isScrubbed_safeUrl kept isShown⟩

/--
Every text below a URL key is scrubbed in what `redact_value` returns, exactly
if it returns nothing, because some text is refused, or every text in a
sequence below a URL key needs no scrubbing.
-/
theorem urlsScrubbed_iff
    (kept : DelimitersKept rules.toUnicodeRules)
    (key : Option String) (value : PyValue Object) :
    UrlsScrubbed rules key value ↔
      RefusedBelow rules key value ∨ SequencesScrubbed rules key value := by
  constructor
  · intro scrubbed
    by_cases refused : RefusedBelow rules key value
    · exact Or.inl refused
    · rcases (redactValue_returns_iff key value).mpr refused with
        ⟨result, returned⟩
      refine Or.inr ?_
      intro place index text below
      rcases scrubbed result _ text returned below with
        ⟨shown, isShown, isScrubbed⟩
      rw [jsonAt_of_item returned below] at isShown
      cases isShown
      exact isScrubbed
  · rintro (⟨place, text, refused⟩ | sequences)
    · intro result _ _ returned _
      exact (refused.not_returned returned).elim
    · intro result place text returned below
      rcases List.eq_nil_or_concat' place with rfl | ⟨before, step, rfl⟩
      · exact isScrubbed_of_keyAt kept returned below rfl
      · cases step with
        | item index =>
            exact ⟨text, jsonAt_of_item returned below,
              sequences before index text below⟩
        | member index name =>
            apply isScrubbed_of_keyAt kept returned below
            rw [keyAt_concat, nearestKey_concat_member]
            rfl

end Scrubbed

/-! ## A text in a list -/

/-- Rules for texts of ASCII, without hosts in brackets. -/
def asciiUrlRules : UrlRules where
  toUnicodeRules := asciiRules
  isBracketedHost _ := false

/-- A URL with user-info and a query, in a list below `"urls"`. -/
def listedUrl : PyValue Unit :=
  .mapping
    [("urls", .list [.str "https://user:pw@example.invalid/?access=1"])]

/-- A URL with user-info and a query, directly below `"url"`. -/
def directUrl : PyValue Unit :=
  .mapping [("url", .str "https://user:pw@example.invalid/?access=1")]

/-- Without a sequence, the URL is scrubbed. -/
theorem urlsScrubbed_directUrl :
    UrlsScrubbed asciiUrlRules none directUrl := by
  apply (urlsScrubbed_iff delimitersKept_asciiRules none directUrl).mpr
  refine Or.inr ?_
  intro place index text below
  have found := below.found
  cases place with
  | nil => cases found
  | cons step rest =>
      cases step with
      | item position => cases found
      | member position key =>
          rcases Option.bind_eq_some_iff.mp found with
            ⟨value, isMember, inValue⟩
          rcases Option.bind_eq_some_iff.mp isMember with
            ⟨member, isFound, isValue⟩
          have isOnly := List.mem_singleton.mp (List.mem_of_getElem? isFound)
          rw [isOnly] at isValue
          split_ifs at isValue
          cases isValue
          cases rest with
          | nil => cases inValue
          | cons next others =>
              cases next with
              | item => cases inValue
              | member => cases inValue

/-- The URL in the list keeps its user-info and its query. -/
theorem not_urlsScrubbed_list :
    ¬ ∀ value : PyValue Unit, UrlsScrubbed asciiUrlRules none value := by
  intro scrubbed
  have returned :
      redactValue asciiUrlRules none listedUrl =
        .ok (.obj
          [("urls",
            .arr [.str "https://user:pw@example.invalid/?access=1"])]) := rfl
  have below :
      BelowUrl asciiUrlRules none listedUrl [.member 0 "urls", .item 0]
        "https://user:pw@example.invalid/?access=1" := by
    refine ⟨rfl, ⟨rfl, ?_⟩, rfl⟩
    intro index name member
    rcases List.mem_pair.mp member with isMember | isItem
    · cases isMember
      rfl
    · cases isItem
  rcases scrubbed listedUrl _ _ _ returned below with
    ⟨shown, isShown, isScrubbed⟩
  cases isShown
  rcases isScrubbed with redacted | plain
  · exact absurd redacted (by decide)
  · exact plain.not_mem (by decide)

end MultisiteCrawler.Observability
