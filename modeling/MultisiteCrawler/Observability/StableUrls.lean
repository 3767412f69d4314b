import MultisiteCrawler.Foundation.RejoinedUrls
import MultisiteCrawler.Observability.ScrubbedUrls

/-!
# What a scrubbed URL names

`_safe_url` puts the host name of a URL before its port again.  The host name
of an address in brackets comes without them, so that the URL of such a host
is shown with colons which no longer belong to the host.  Every other URL is
shown as one which names the same resource and is shown as it is.
-/

namespace MultisiteCrawler.Observability

open Foundation.JsonText
open Foundation.PythonErrors
open Foundation.PythonText
open Foundation.PythonUrls

section Stable

variable (rules : UrlRules)

/-- Two URLs name one resource, the second without user-info and query. -/
structure NamesSame (parsed again : SplitResult) : Prop where
  scheme : again.scheme = parsed.scheme
  hostname : hostname rules again.netloc = hostname rules parsed.netloc
  port : port again.netloc = port parsed.netloc
  path : again.path = parsed.path
  noUser : '@' ∉ again.netloc
  noQuery : again.query = []
  noFragment : again.fragment = []

/-- What is shown for a text names the same resource and is shown as it is. -/
structure ShownStably (text shown : String) : Prop where
  named : shown = "[redacted]" ∨
    ∃ parsed again,
      urlsplit rules text.toList = .ok parsed ∧
        urlsplit rules shown.toList = .ok again ∧
          NamesSame rules parsed again
  again : safeUrl rules shown = .ok shown

/-- A URL whose host name is no literal of an address. -/
def NamedHost (text : String) : Prop :=
  ∀ parsed, urlsplit rules text.toList = .ok parsed →
    isHttp parsed.scheme = true →
      ∀ character ∈ hostname rules parsed.netloc,
        isLiteralChar character = false

variable {rules}

/-- What is shown of a refused text is refused again. -/
theorem safeUrl_redacted : safeUrl rules "[redacted]" = .ok "[redacted]" := by
  rfl

/-- What is returned for a text: nothing of it, or its parts put together. -/
theorem safeUrl_cases
    {text shown : String} (returned : safeUrl rules text = .ok shown) :
    ∃ parsed,
      urlsplit rules text.toList = .ok parsed ∧
        ((shown = "[redacted]" ∧
            ¬ (isHttp parsed.scheme = true ∧
              hostname rules parsed.netloc ≠ [])) ∨
          ∃ number,
            isHttp parsed.scheme = true ∧
              hostname rules parsed.netloc ≠ [] ∧
                port parsed.netloc = .ok number ∧
                  shown =
                    String.ofList
                      (urlunsplit
                        ⟨parsed.scheme,
                          joinHost (hostname rules parsed.netloc) number,
                          parsed.path, [], []⟩)) := by
  rw [safeUrl, bind_eq_ok_iff] at returned
  rcases returned with ⟨parsed, isSplit, returned⟩
  refine ⟨parsed, isSplit, ?_⟩
  split_ifs at returned with other
  · cases returned
    refine Or.inl ⟨rfl, ?_⟩
    rintro ⟨known, named⟩
    rw [Bool.or_eq_true, Bool.not_eq_true', List.isEmpty_iff] at other
    rcases other with unknown | unnamed
    · cases unknown.symm.trans known
    · exact named unnamed
  · rcases not_refusal_iff.mp other with ⟨known, named⟩
    rw [List.isEmpty_eq_false_iff] at named
    rcases (bind_eq_ok_iff _ _ _).mp returned with ⟨number, found, isShown⟩
    cases isShown
    refine Or.inr ⟨number, known, named, found, ?_⟩
    cases number <;> rfl

/-- The text of a URL with a host name is put together from its parts. -/
theorem safeUrl_of_parts
    {text : String} {parsed : SplitResult} {number : Option ℕ}
    (isSplit : urlsplit rules text.toList = .ok parsed)
    (known : isHttp parsed.scheme = true)
    (named : hostname rules parsed.netloc ≠ [])
    (found : port parsed.netloc = .ok number) :
    safeUrl rules text =
      .ok
        (String.ofList
          (urlunsplit
            ⟨parsed.scheme, joinHost (hostname rules parsed.netloc) number,
              parsed.path, [], []⟩)) := by
  have accepted :
      ¬ (!(["http".toList, "https".toList].contains parsed.scheme) ||
        (hostname rules parsed.netloc).isEmpty) = true := by
    apply not_refusal_iff.mpr ⟨known, ?_⟩
    rw [List.isEmpty_eq_false_iff]
    exact named
  rw [safeUrl, isSplit, ok_bind, if_neg accepted, found, ok_bind]
  cases number <;> rfl

/-- The shown URL of a host with a name is split into the parts it shows. -/
theorem shownStably_of_namedHost
    (facts : UnicodeFacts rules.toUnicodeRules) {text shown : String}
    (returned : safeUrl rules text = .ok shown)
    (isNamed : NamedHost rules text) : ShownStably rules text shown := by
  rcases safeUrl_cases returned with
    ⟨parsed, isSplit, ⟨rfl, _⟩ | ⟨number, known, named, found, rfl⟩⟩
  · exact ⟨Or.inl rfl, safeUrl_redacted⟩
  · have plain : ∀ character ∈ hostname rules parsed.netloc,
        isUrlDelimiter character = false := fun _ member =>
      hostname_plain facts.delimitersKept isSplit member
    have name := isNamed parsed isSplit known
    have range : ∀ value, number = some value → value ≤ 65535 := by
      rintro value rfl
      exact le_of_port found
    have parts := joinedParts_of_urlsplit facts isSplit known named number
    have unbracketed :
        ¬ ('[' ∈ hostname rules parsed.netloc ∨
          ']' ∈ hostname rules parsed.netloc) := by
      rintro (member | member) <;> cases name _ member
    have splitAgain :
        urlsplit rules
            (String.ofList
              (urlunsplit
                ⟨parsed.scheme,
                  joinHost (hostname rules parsed.netloc) number,
                  parsed.path, [], []⟩)).toList =
          .ok
            ⟨parsed.scheme, joinHost (hostname rules parsed.netloc) number,
              parsed.path, [], []⟩ := by
      rw [String.toList_ofList, urlsplit_rejoined facts isSplit parts,
        if_neg unbracketed]
    have sameHost :
        hostname rules (joinHost (hostname rules parsed.netloc) number) =
          hostname rules parsed.netloc :=
      hostname_joinHost facts number plain name
    have samePort :
        port (joinHost (hostname rules parsed.netloc) number) = .ok number :=
      port_joinHost plain name range
    constructor
    · refine Or.inr ⟨parsed, _, isSplit, splitAgain, ?_⟩
      exact
        { scheme := rfl
          hostname := sameHost
          port := samePort.trans found.symm
          path := rfl
          noUser := by
            intro member
            rcases mem_joinHost member with inHost | isColon | isDigit
            · cases plain '@' inHost
            · cases isColon
            · cases isDigit
          noQuery := rfl
          noFragment := rfl }
    · have again :=
        safeUrl_of_parts splitAgain known (sameHost.symm ▸ named) samePort
      rw [again]
      dsimp only
      rw [sameHost]

/-- A URL which is put together is not taken for a refused text. -/
theorem shown_ne_redacted
    {scheme location path : List Char}
    (parts : JoinedParts scheme location path) :
    String.ofList (urlunsplit ⟨scheme, location, path, [], []⟩) ≠
      "[redacted]" := by
  intro same
  have begins := congrArg (fun text => text.toList.head?) same
  rcases exists_of_isHttp parts.known with ⟨rest, rfl, _⟩
  rw [urlunsplit_eq parts] at begins
  simp only [String.toList_ofList, List.cons_append, List.head?_cons]
    at begins
  exact absurd begins (by decide)

/-- A host name with a colon or a bracket is not shown as it is. -/
theorem namedHost_of_shownStably
    (facts : UnicodeFacts rules.toUnicodeRules) {text shown : String}
    (returned : safeUrl rules text = .ok shown)
    (stable : ShownStably rules text shown) : NamedHost rules text := by
  intro parsed isSplit known
  by_cases named : hostname rules parsed.netloc = []
  · rw [named]
    simp
  rcases safeUrl_cases returned with
    ⟨_, isSplit', ⟨_, refused⟩ | ⟨number, _, _, found, isShown⟩⟩
  · cases isSplit.symm.trans isSplit'
    exact absurd ⟨known, named⟩ refused
  cases isSplit.symm.trans isSplit'
  have plain : ∀ character ∈ hostname rules parsed.netloc,
      isUrlDelimiter character = false := fun _ member =>
    hostname_plain facts.delimitersKept isSplit member
  have parts := joinedParts_of_urlsplit facts isSplit known named number
  have again := urlsplit_rejoined facts isSplit parts
  rcases stable.named with redacted | ⟨_, other, isSplit'', splitAgain, same⟩
  · exact absurd (isShown.symm.trans redacted) (shown_ne_redacted parts)
  cases isSplit.symm.trans isSplit''
  rw [isShown, String.toList_ofList, again] at splitAgain
  split_ifs at splitAgain with bracketed
  cases splitAgain
  intro character member
  by_contra literal
  rw [Bool.not_eq_false] at literal
  simp only [isLiteralChar, List.contains_eq_mem, List.mem_cons,
    List.not_mem_nil, or_false, decide_eq_true_eq] at literal
  rw [not_or] at bracketed
  rcases literal with rfl | rfl | rfl
  · refine hostname_joinHost_ne facts number member bracketed.1 ?_ same.hostname
    intro isUser
    cases plain '@' isUser
  · exact bracketed.1 member
  · exact bracketed.2 member

/--
What is shown of a text which `_safe_url` accepts names the same resource and
is shown as it is, just if the host name in the text is no literal of an
address.
-/
theorem shownStably_iff
    (facts : UnicodeFacts rules.toUnicodeRules) {text shown : String}
    (returned : safeUrl rules text = .ok shown) :
    ShownStably rules text shown ↔ NamedHost rules text :=
  ⟨namedHost_of_shownStably facts returned,
    shownStably_of_namedHost facts returned⟩

end Stable

/-- Rules for texts of ASCII, with one address which may stand in brackets. -/
def loopbackRules : UrlRules where
  toUnicodeRules := asciiRules
  isBracketedHost host := host == "::1".toList

/-- User-info and a query are lost, the resource is the same. -/
theorem shownStably_example :
    ShownStably loopbackRules "https://user@Example.invalid:8443/a?b"
      "https://example.invalid:8443/a" := by
  apply (shownStably_iff unicodeFacts_asciiRules rfl).mpr
  intro parsed isSplit _
  cases isSplit
  exact List.all_iff_forall_prop.mp rfl

/-- The brackets of an address are lost, and the port with them. -/
theorem not_shownStably_loopback :
    safeUrl loopbackRules "http://[::1]:8080/x" = .ok "http://::1:8080/x" ∧
      ¬ ShownStably loopbackRules "http://[::1]:8080/x"
        "http://::1:8080/x" := by
  refine ⟨rfl, ?_⟩
  intro stable
  have refused :
      safeUrl loopbackRules "http://::1:8080/x" = .ok "[redacted]" := rfl
  have same := Except.ok.inj (refused.symm.trans stable.again)
  exact absurd same (by decide)

end MultisiteCrawler.Observability
