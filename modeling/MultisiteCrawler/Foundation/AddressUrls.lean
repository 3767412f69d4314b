import MultisiteCrawler.Foundation.RejoinedUrls

/-!
# URLs of one address

Which texts `urlsplit` takes for a URL of a scheme, at a host which is a
dotted address, without user-info.  The address stands in the text as it is:
neither another case, nor brackets, nor a zone lead to the same host name.
-/

namespace Foundation.PythonUrls

open Foundation.PythonErrors
open Foundation.PythonText

/-- Digits and dots, as in `127.0.0.1`. -/
def IsDotted (address : List Char) : Prop :=
  ∀ character ∈ address, isAsciiDigit character = true ∨ character = '.'

/--
Digits and dots have no case, and no other text has them as its lower case.
An address with dots only must not stand in brackets.
-/
structure AddressRules (rules : UrlRules) : Prop where
  lower : ∀ text address, IsDotted address →
    (rules.lower text = address ↔ text = address)
  unbracketed : ∀ address, IsDotted address →
    rules.isBracketedHost address = false

/-- What is written of a URL at an address. -/
inductive IsUrlAt (rules : UrlRules) (scheme address : List Char) :
    List Char → Prop where
  | mk {written port rest : List Char}
      (isScheme : written.map lowerAscii = scheme)
      (isPort : port = [] ∨ port.head? = some ':')
      (plain : ∀ character ∈ port, isUrlDelimiter character = false)
      (unbracketed : '[' ∉ port ∧ ']' ∉ port)
      (ends : rest = [] ∨
        ∃ first others, rest = first :: others ∧ endsNetloc first = true)
      (checked : checkNetloc rules (address ++ port) = true) :
      IsUrlAt rules scheme address
        (written ++ ':' :: '/' :: '/' :: (address ++ port ++ rest))

/-! ## Dotted addresses -/

section Dotted

variable {address : List Char}

theorem not_isAsciiAlpha_of_dotted
    {character : Char}
    (dotted : isAsciiDigit character = true ∨ character = '.') :
    isAsciiAlpha character = false := by
  rcases dotted with digit | rfl
  · simp only [isAsciiDigit, isAsciiAlpha, Bool.and_eq_true,
      Bool.or_eq_false_iff, Bool.and_eq_false_iff, decide_eq_true_eq,
      decide_eq_false_iff_not] at digit ⊢
    omega
  · rfl

theorem not_isUrlDelimiter_of_dotted
    {character : Char}
    (dotted : isAsciiDigit character = true ∨ character = '.') :
    isUrlDelimiter character = false := by
  by_contra delimits
  rw [Bool.not_eq_false, isUrlDelimiter, List.contains_eq_mem,
    decide_eq_true_eq] at delimits
  simp only [List.mem_cons, List.not_mem_nil, or_false] at delimits
  rcases delimits with rfl | rfl | rfl | rfl <;>
    rcases dotted with digit | isDot <;> contradiction

/-- A dotted address has none of the characters which split a location. -/
theorem IsDotted.not_mem
    (dotted : IsDotted address) {character : Char}
    (other : isAsciiDigit character = false) (notDot : character ≠ '.') :
    character ∉ address := by
  intro member
  rcases dotted character member with digit | isDot
  · rw [other] at digit
    cases digit
  · exact notDot isDot

theorem addressRules_ascii
    {rules : UrlRules} (ascii : rules.toUnicodeRules = asciiRules)
    (unbracketed : ∀ address, IsDotted address →
      rules.isBracketedHost address = false) :
    AddressRules rules where
  lower text address dotted := by
    have unchanged (same : ∀ character ∈ text,
        isAsciiAlpha (lowerAscii character) = false) :
        text.map lowerAscii = text := by
      conv_rhs => rw [← List.map_id text]
      refine List.map_congr_left fun character member => ?_
      rcases lowerAscii_cases character with stays | ⟨letter, _⟩
      · exact stays
      · rw [same character member] at letter
        cases letter
    rw [ascii]
    show text.map lowerAscii = address ↔ text = address
    constructor
    · intro lowered
      rw [← lowered]
      refine (unchanged fun character member => ?_).symm
      apply not_isAsciiAlpha_of_dotted
      apply dotted
      rw [← lowered]
      exact List.mem_map_of_mem member
    · rintro rfl
      refine unchanged fun character member => ?_
      rcases lowerAscii_cases character with stays | ⟨_, low⟩
      · rw [stays]
        exact not_isAsciiAlpha_of_dotted (dotted character member)
      · have notLetter := not_isAsciiAlpha_of_dotted (dotted character member)
        unfold lowerAscii at low ⊢
        split_ifs at low ⊢ with upper
        · simp only [isAsciiAlpha, Bool.or_eq_false_iff, Bool.and_eq_false_iff,
            decide_eq_false_iff_not] at notLetter
          omega
        · exact notLetter
  unbracketed := unbracketed

end Dotted

/-! ## Locations -/

section Locations

variable {rules : UrlRules} {address netloc : List Char}

/-- What precedes the zone of a host, and the zone. -/
theorem takeWhile_append_dropWhile_zone (host : List Char) :
    (host.takeWhile (· != '%')) ++ (host.dropWhile (· != '%')) = host ∧
      (host.dropWhile (· != '%') = [] ∨
        '%' ∈ host.dropWhile (· != '%')) := by
  refine ⟨List.takeWhile_append_dropWhile, ?_⟩
  by_cases zone : host.dropWhile (· != '%') = []
  · exact Or.inl zone
  · have begins := List.head_dropWhile_not (· != '%') zone
    rw [bne_eq_false_iff_eq] at begins
    have member := List.head_mem zone
    rw [begins] at member
    exact Or.inr member

/-- The host name is an address if the host is written so. -/
theorem hostname_eq_iff
    (facts : AddressRules rules) (dotted : IsDotted address) :
    hostname rules netloc = address ↔ (hostInfo netloc).1 = address := by
  have noZone : '%' ∉ address := dotted.not_mem rfl (by decide)
  rw [hostname]
  generalize (hostInfo netloc).1 = host
  rcases takeWhile_append_dropWhile_zone host with ⟨parts, noRest | inRest⟩
  · rw [noRest, List.append_nil] at parts
    rw [noRest, List.append_nil, parts]
    exact facts.lower host address dotted
  · refine iff_of_false ?_ ?_
    · rintro rfl
      exact noZone (List.mem_append_right _ inRest)
    · rintro rfl
      exact noZone ((List.dropWhile_sublist _).subset inRest)

/-- What a location of an address without user-info consists of. -/
theorem hostInfo_eq_iff
    (facts : AddressRules rules) (dotted : IsDotted address)
    (noUser : '@' ∉ netloc) :
    checkBrackets rules netloc = true ∧ (hostInfo netloc).1 = address ↔
      ∃ port, netloc = address ++ port ∧
        (port = [] ∨ port.head? = some ':') ∧ '[' ∉ port ∧ ']' ∉ port := by
  have inAddress : ':' ∉ address ∧ '[' ∉ address ∧ ']' ∉ address :=
    ⟨dotted.not_mem rfl (by decide), dotted.not_mem rfl (by decide),
      dotted.not_mem rfl (by decide)⟩
  constructor
  · rintro ⟨paired, isAddress⟩
    rw [hostInfo, afterLast_of_not_mem noUser] at isAddress
    by_cases opening : '[' ∈ netloc
    · have refused : checkBrackets rules netloc = false := by
        by_cases closing : ']' ∈ netloc
        · simp only [List.contains_iff_mem.mpr opening, if_true] at isAddress
          simp only [checkBrackets, List.contains_iff_mem.mpr opening,
            List.contains_iff_mem.mpr closing, Bool.and_self, if_true]
          rw [isAddress]
          exact facts.unbracketed address dotted
        · exact checkBrackets_of_xor fun both => closing (both.mp opening)
      rw [refused] at paired
      cases paired
    · have closing : ']' ∉ netloc := by
        intro closes
        have refused : checkBrackets rules netloc = false :=
          checkBrackets_of_xor fun both => opening (both.mpr closes)
        rw [refused] at paired
        cases paired
      have noOpening : netloc.contains '[' = false := by simpa using opening
      simp only [noOpening, Bool.false_eq_true, if_false] at isAddress
      have parts : address ++ netloc.dropWhile (· != ':') = netloc := by
        rw [← isAddress]
        exact List.takeWhile_append_dropWhile
      refine ⟨netloc.dropWhile (· != ':'), parts.symm, ?_, ?_, ?_⟩
      · by_cases noPort : netloc.dropWhile (· != ':') = []
        · exact Or.inl noPort
        · have begins := List.head_dropWhile_not (· != ':') noPort
          rw [bne_eq_false_iff_eq] at begins
          refine Or.inr ?_
          rw [List.head?_eq_some_head noPort, begins]
      · exact fun member => opening ((List.dropWhile_sublist _).subset member)
      · exact fun member => closing ((List.dropWhile_sublist _).subset member)
  · rintro ⟨port, rfl, isPort, noOpening, noClosing⟩
    have opening : '[' ∉ address ++ port := by
      rw [List.mem_append]
      exact not_or.mpr ⟨inAddress.2.1, noOpening⟩
    have closing : ']' ∉ address ++ port := by
      rw [List.mem_append]
      exact not_or.mpr ⟨inAddress.2.2, noClosing⟩
    refine ⟨checkBrackets_of_not_mem opening closing, ?_⟩
    have unbracketed : (address ++ port).contains '[' = false := by
      simpa using opening
    rw [hostInfo, afterLast_of_not_mem noUser]
    simp only [unbracketed, Bool.false_eq_true, if_false]
    rcases isPort with rfl | begins
    · rw [List.append_nil, partition_of_not_mem inAddress.1]
    · rcases List.head?_eq_some_iff.mp begins with ⟨rest, rfl⟩
      rw [partition_append inAddress.1]

end Locations

/-! ## Schemes -/

section Schemes

variable {scheme written url : List Char}

/-- A scheme in lower case, as `urlsplit` gives it. -/
def IsScheme (scheme : List Char) : Prop :=
  (∃ first rest, scheme = first :: rest ∧ isAsciiAlpha first = true) ∧
    ∀ character ∈ scheme, isSchemeChar character = true

theorem isAsciiAlpha_of_lowerAscii
    {character : Char} (letter : isAsciiAlpha (lowerAscii character) = true) :
    isAsciiAlpha character = true := by
  unfold lowerAscii at letter
  split_ifs at letter with upper
  · simp only [isAsciiAlpha, Bool.or_eq_true, Bool.and_eq_true,
      decide_eq_true_eq]
    exact Or.inl upper
  · exact letter

theorem isSchemeChar_of_lowerAscii
    {character : Char} (known : isSchemeChar (lowerAscii character) = true) :
    isSchemeChar character = true := by
  rcases lowerAscii_cases character with same | ⟨letter, _⟩
  · rw [same] at known
    exact known
  · simp [isSchemeChar, isAsciiAlpha_of_lowerAscii letter]

theorem isSchemeChar_ne_colon
    {character : Char} (known : isSchemeChar character = true) :
    character ≠ ':' := by
  rintro rfl
  cases known

/-- A text is split at a separator which it has. -/
theorem partition_append_partition
    {separator : Char} {text : List Char} (member : separator ∈ text) :
    (partition separator text).1 ++
        separator :: (partition separator text).2 = text := by
  have nonempty : text.dropWhile (· != separator) ≠ [] := by
    rw [Ne, List.dropWhile_eq_nil_iff]
    intro all
    have different := all separator member
    simp at different
  have begins := List.head_dropWhile_not (· != separator) nonempty
  rw [bne_eq_false_iff_eq] at begins
  have rest :
      separator :: (text.dropWhile (· != separator)).drop 1 =
        text.dropWhile (· != separator) := by
    conv_rhs => rw [← List.cons_head_tail nonempty, begins]
    rw [List.drop_one]
  rw [partition]
  dsimp only
  rw [rest, List.takeWhile_append_dropWhile]

/-- A URL has a scheme if it is written before its first colon. -/
theorem splitScheme_eq_iff
    (isScheme : IsScheme scheme) {rest : List Char} :
    splitScheme url = (scheme, rest) ↔
      ∃ written, url = written ++ ':' :: rest ∧
        written.map lowerAscii = scheme := by
  constructor
  · intro split
    unfold splitScheme at split
    simp only at split
    split at split
    · cases split
      rcases isScheme.1 with ⟨_, _, impossible, _⟩
      cases impossible
    · split_ifs at split with known
      · rw [Prod.mk.injEq] at split
        simp only [Bool.and_eq_true] at known
        have colon := List.contains_iff_mem.mp known.1.1
        refine ⟨(partition ':' url).1, ?_, split.1⟩
        rw [← split.2]
        exact (partition_append_partition colon).symm
      · cases split
        rcases isScheme.1 with ⟨_, _, impossible, _⟩
        cases impossible
  · rintro ⟨written, rfl, rfl⟩
    rcases isScheme with ⟨⟨first, others, isWritten, letter⟩, known⟩
    cases written with
    | nil => cases isWritten
    | cons initial following =>
        rw [List.map_cons, List.cons.injEq] at isWritten
        have inWritten : ∀ character ∈ initial :: following,
            isSchemeChar character = true := by
          intro character member
          exact isSchemeChar_of_lowerAscii
            (known _ (List.mem_map_of_mem member))
        have noColon : ':' ∉ initial :: following := by
          intro member
          exact isSchemeChar_ne_colon (inWritten ':' member) rfl
        have begins : isAsciiAlpha initial = true := by
          apply isAsciiAlpha_of_lowerAscii
          rw [isWritten.1]
          exact letter
        have all : (initial :: following).all isSchemeChar = true :=
          List.all_eq_true.mpr inWritten
        unfold splitScheme
        rw [partition_append noColon]
        dsimp only
        rw [if_pos]
        rw [begins, all]
        simp

end Schemes

/-! ## URLs at an address -/

section At

variable {rules : UrlRules} {scheme address url : List Char}

/-- The rest of a URL after its scheme begins with its location. -/
theorem splitNetloc_eq_iff {netloc rest : List Char} (named : netloc ≠ []) :
    splitNetloc url = (netloc, rest) ↔
      url = '/' :: '/' :: (netloc ++ rest) ∧
        (∀ character ∈ netloc, endsNetloc character = false) ∧
        (rest = [] ∨ ∃ first others,
          rest = first :: others ∧ endsNetloc first = true) := by
  constructor
  · intro split
    have located : (splitNetloc url).1 ≠ [] := by
      rw [split]
      exact named
    have ends := exists_of_splitNetloc located
    have inside : ∀ character ∈ netloc, endsNetloc character = false := by
      intro character member
      apply @mem_splitNetloc_fst url
      rw [split]
      exact member
    rw [split] at ends
    refine ⟨?_, inside, ends⟩
    unfold splitNetloc at split
    split at split
    · rw [Prod.mk.injEq] at split
      rw [← split.1, ← split.2, List.takeWhile_append_dropWhile]
    · cases split
      exact absurd rfl named
  · rintro ⟨rfl, inside, ends⟩
    have each : ∀ character ∈ netloc, (!endsNetloc character) = true := by
      intro character member
      rw [inside character member]
      rfl
    rw [splitNetloc, List.takeWhile_append_of_pos each,
      List.dropWhile_append_of_pos each]
    rcases ends with rfl | ⟨first, others, rfl, isEnd⟩
    · simp
    · simp [isEnd]

/-- The steps of `urlsplit` which find the scheme and the location. -/
theorem splits_of_urlsplit
    {parsed : SplitResult} (isSplit : urlsplit rules url = .ok parsed) :
    ∃ afterScheme rest,
      splitScheme (cleanUrl url) = (parsed.scheme, afterScheme) ∧
        splitNetloc afterScheme = (parsed.netloc, rest) ∧
        checkBrackets rules parsed.netloc = true ∧
        checkNetloc rules parsed.netloc = true := by
  rw [urlsplit] at isSplit
  split_ifs at isSplit with checked
  cases isSplit
  rw [Bool.and_eq_true] at checked
  exact ⟨_, _, rfl, rfl, checked.1, checked.2⟩

/-- What delimits parts of a URL ends a location or its user-info. -/
theorem isUrlDelimiter_eq_false_iff {character : Char} :
    isUrlDelimiter character = false ↔
      endsNetloc character = false ∧ character ≠ '@' := by
  simp only [isUrlDelimiter, endsNetloc, List.contains_eq_mem,
    List.mem_cons, List.not_mem_nil, or_false, decide_eq_false_iff_not,
    not_or]
  tauto

/--
Of the texts which `urlsplit` reads, those of a scheme and a dotted address
without user-info are just the URLs which are written so.
-/
theorem urlsplit_at_iff
    (facts : AddressRules rules) (isScheme : IsScheme scheme)
    (dotted : IsDotted address) (named : address ≠ []) :
    (∃ parsed,
      urlsplit rules url = .ok parsed ∧ parsed.scheme = scheme ∧
        hostname rules parsed.netloc = address ∧ '@' ∉ parsed.netloc) ↔
      IsUrlAt rules scheme address (cleanUrl url) := by
  constructor
  · rintro ⟨parsed, isSplit, rfl, isHost, noUser⟩
    rcases splits_of_urlsplit isSplit with
      ⟨afterScheme, rest, schemeSplit, netlocSplit, paired, checked⟩
    rw [hostname_eq_iff facts dotted] at isHost
    rcases (hostInfo_eq_iff facts dotted noUser).mp ⟨paired, isHost⟩ with
      ⟨port, isNetloc, isPort, unbracketed⟩
    rw [isNetloc] at netlocSplit noUser checked
    have located : address ++ port ≠ [] :=
      fun empty => named (List.append_eq_nil_iff.mp empty).1
    rcases (splitNetloc_eq_iff located).mp netlocSplit with
      ⟨rfl, inside, ends⟩
    rcases (splitScheme_eq_iff isScheme).mp schemeSplit with
      ⟨written, isUrl, lowered⟩
    rw [isUrl]
    refine .mk lowered isPort ?_ unbracketed ends checked
    intro character member
    have inNetloc := List.mem_append_right address member
    refine isUrlDelimiter_eq_false_iff.mpr ⟨inside character inNetloc, ?_⟩
    rintro rfl
    exact noUser inNetloc
  · intro isAt
    generalize isClean : cleanUrl url = clean at isAt
    cases isAt with
    | @mk written port rest lowered isPort plain unbracketed ends checked =>
        have delimits : ∀ character ∈ address ++ port,
            endsNetloc character = false ∧ character ≠ '@' := by
          intro character member
          rw [← isUrlDelimiter_eq_false_iff]
          rcases List.mem_append.mp member with inAddress | inPort
          · exact not_isUrlDelimiter_of_dotted (dotted character inAddress)
          · exact plain character inPort
        have inside : ∀ character ∈ address ++ port,
            endsNetloc character = false :=
          fun character member => (delimits character member).1
        have noUser : '@' ∉ address ++ port :=
          fun member => (delimits '@' member).2 rfl
        have atHost :=
          (hostInfo_eq_iff facts dotted noUser).mpr
            ⟨port, rfl, isPort, unbracketed⟩
        have located : address ++ port ≠ [] :=
          fun empty => named (List.append_eq_nil_iff.mp empty).1
        have isNetloc :=
          (splitNetloc_eq_iff located).mpr ⟨rfl, inside, ends⟩
        have split :
            splitScheme
                (written ++ ':' :: '/' :: '/' :: (address ++ port ++ rest)) =
              (scheme, '/' :: '/' :: (address ++ port ++ rest)) :=
          (splitScheme_eq_iff isScheme).mpr ⟨written, rfl, lowered⟩
        rw [urlsplit, isClean, split]
        dsimp only
        rw [isNetloc]
        dsimp only
        rw [if_pos (Bool.and_eq_true_iff.mpr ⟨atHost.1, checked⟩)]
        refine ⟨_, rfl, rfl, ?_, noUser⟩
        exact (hostname_eq_iff facts dotted).mpr atHost.2

end At

end Foundation.PythonUrls
