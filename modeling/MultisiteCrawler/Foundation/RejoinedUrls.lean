import Mathlib.Data.Bool.AllAny
import MultisiteCrawler.Foundation.PlainUrls

/-!
# Splitting a joined URL

What `urlsplit` finds in a URL of `http` or `https` which was put together
from a scheme, a network location and a rooted path.  The parts come back as
they are if no character of one ends it early, and the location passes the
checks of its brackets and of its normal form.

A network location is a host followed by a port, if there is one.  The host
comes back just if it has no colon and no bracket.
-/

namespace Foundation.PythonUrls

open Foundation.PythonErrors
open Foundation.PythonText

/-! ## Splitting at a character -/

section Partition

variable {separator : Char} {before after : List Char}

/-- A text without the separator is not split. -/
theorem partition_of_not_mem (absent : separator ∉ before) :
    partition separator before = (before, []) := by
  have each : ∀ character ∈ before, (character != separator) = true := by
    intro character member
    rw [bne_iff_ne]
    rintro rfl
    exact absent member
  rw [partition, List.takeWhile_eq_self_iff.mpr each,
    List.dropWhile_eq_nil_iff.mpr each]
  rfl

/-- The text is split at its first separator. -/
theorem partition_append (absent : separator ∉ before) :
    partition separator (before ++ separator :: after) = (before, after) := by
  have each : ∀ character ∈ before, (character != separator) = true := by
    intro character member
    rw [bne_iff_ne]
    rintro rfl
    exact absent member
  rw [partition, List.takeWhile_append_of_pos each,
    List.dropWhile_append_of_pos each]
  simp

theorem afterLast_of_not_mem (absent : separator ∉ before) :
    afterLast separator before = before := by
  rw [afterLast, List.rtakeWhile_eq_self_iff]
  intro character member
  rw [bne_iff_ne]
  rintro rfl
  exact absent member

end Partition

/-! ## Schemes and locations -/

/-- A character which `urlsplit` removes wherever it stands. -/
def isUrlBreak (character : Char) : Bool :=
  ['\t', '\r', '\n'].contains character

theorem not_isUrlBreak_of_mem_cleanUrl
    {url : List Char} {character : Char}
    (member : character ∈ cleanUrl url) : isUrlBreak character = false := by
  have kept := (List.mem_filter.mp member).2
  simpa [isUrlBreak] using kept

/-- Nothing is cleaned from a text which begins visibly and has no breaks. -/
theorem cleanUrl_eq_self
    {first : Char} {rest : List Char} (visible : 32 < first.toNat)
    (unbroken : ∀ character ∈ first :: rest,
      isUrlBreak character = false) :
    cleanUrl (first :: rest) = first :: rest := by
  have begins : decide (first.toNat ≤ 32) = false := by
    simpa using visible
  rw [cleanUrl, List.dropWhile_cons, begins, if_neg Bool.false_ne_true,
    List.filter_eq_self]
  intro character member
  have kept := unbroken character member
  rw [isUrlBreak] at kept
  rw [kept]
  rfl

theorem exists_of_isHttp {scheme : List Char} (known : isHttp scheme = true) :
    ∃ rest,
      scheme = 'h' :: rest ∧
        ∀ character ∈ scheme, isUrlBreak character = false := by
  rcases List.mem_pair.mp (List.contains_iff_mem.mp known) with rfl | rfl
  · exact ⟨['t', 't', 'p'], rfl, List.all_iff_forall_prop.mp rfl⟩
  · exact ⟨['t', 't', 'p', 's'], rfl, List.all_iff_forall_prop.mp rfl⟩

/-- A URL of a scheme has nothing to clean but breaks after the scheme. -/
theorem cleanUrl_of_isHttp
    {scheme rest : List Char} (known : isHttp scheme = true)
    (unbroken : ∀ character ∈ rest, isUrlBreak character = false) :
    cleanUrl (scheme ++ rest) = scheme ++ rest := by
  rcases exists_of_isHttp known with ⟨others, rfl, inScheme⟩
  refine cleanUrl_eq_self (by decide) ?_
  intro character member
  rcases List.mem_append.mp (List.cons_append ▸ member) with isScheme | isRest
  · exact inScheme character isScheme
  · exact unbroken character isRest

theorem splitScheme_of_isHttp
    {scheme : List Char} (known : isHttp scheme = true) (rest : List Char) :
    splitScheme (scheme ++ ':' :: rest) = (scheme, rest) := by
  rcases List.mem_pair.mp (List.contains_iff_mem.mp known) with rfl | rfl
  · rfl
  · rfl

/-- The network location ends where the path begins. -/
theorem splitNetloc_append
    {location path : List Char}
    (inside : ∀ character ∈ location, endsNetloc character = false)
    (rooted : path = [] ∨ path.head? = some '/') :
    splitNetloc ('/' :: '/' :: (location ++ path)) = (location, path) := by
  have each : ∀ character ∈ location, (!endsNetloc character) = true := by
    intro character member
    rw [inside character member]
    rfl
  rw [splitNetloc, List.takeWhile_append_of_pos each,
    List.dropWhile_append_of_pos each]
  rcases rooted with rfl | isRooted
  · simp
  · rcases List.head?_eq_some_iff.mp isRooted with ⟨rest, rfl⟩
    simp [endsNetloc]

/-! ## Joined URLs -/

/-- A scheme, a network location and a path which do not end each other. -/
structure JoinedParts (scheme location path : List Char) : Prop where
  known : isHttp scheme = true
  inside : ∀ character ∈ location, endsNetloc character = false
  rooted : path = [] ∨ path.head? = some '/'
  ends : ∀ character ∈ path, character ≠ '?' ∧ character ≠ '#'
  unbroken : ∀ character ∈ location ++ path, isUrlBreak character = false

/-- Without query and fragment, the parts of a URL stand side by side. -/
theorem urlunsplit_eq
    {scheme location path : List Char}
    (parts : JoinedParts scheme location path) :
    urlunsplit ⟨scheme, location, path, [], []⟩ =
      scheme ++ ':' :: '/' :: '/' :: (location ++ path) := by
  rcases exists_of_isHttp parts.known with ⟨rest, rfl, _⟩
  have rooted : (path.isEmpty || path.head? == some '/') = true := by
    rw [Bool.or_eq_true, List.isEmpty_iff, beq_iff_eq]
    exact parts.rooted
  simp [urlunsplit, rooted]

/-- The parts of a joined URL come back if its location passes the checks. -/
theorem urlsplit_urlunsplit
    (rules : UrlRules) {scheme location path : List Char}
    (parts : JoinedParts scheme location path) :
    urlsplit rules (urlunsplit ⟨scheme, location, path, [], []⟩) =
      if checkBrackets rules location && checkNetloc rules location then
        .ok ⟨scheme, location, path, [], []⟩
      else .error (.library .valueError) := by
  have clean :
      cleanUrl (scheme ++ ':' :: '/' :: '/' :: (location ++ path)) =
        scheme ++ ':' :: '/' :: '/' :: (location ++ path) := by
    refine cleanUrl_of_isHttp parts.known ?_
    rintro character (_ | ⟨_, _ | ⟨_, _ | ⟨_, member⟩⟩⟩)
    · rfl
    · rfl
    · rfl
    · exact parts.unbroken character member
  have noFragment : partition '#' path = (path, []) :=
    partition_of_not_mem fun member => (parts.ends _ member).2 rfl
  have noQuery : partition '?' path = (path, []) :=
    partition_of_not_mem fun member => (parts.ends _ member).1 rfl
  rw [urlunsplit_eq parts, urlsplit, clean, splitScheme_of_isHttp parts.known]
  dsimp only
  rw [splitNetloc_append parts.inside parts.rooted]
  dsimp only
  rw [noFragment]
  dsimp only
  rw [noQuery]

/-! ## Hosts and ports -/

/-- A host and a port as `urlunsplit` is given them. -/
def joinHost (host : List Char) (port : Option ℕ) : List Char :=
  match port with
  | none => host
  | some number => host ++ ':' :: Nat.toDigits 10 number

/-- A character of the literal of an address. -/
def isLiteralChar (character : Char) : Bool :=
  [':', '[', ']'].contains character

theorem mem_joinHost
    {host : List Char} {port : Option ℕ} {character : Char}
    (member : character ∈ joinHost host port) :
    character ∈ host ∨ character = ':' ∨ character.isDigit = true := by
  cases port with
  | none => exact Or.inl member
  | some number =>
      rcases List.mem_append.mp member with inHost | inPort
      · exact Or.inl inHost
      · rcases List.mem_cons.mp inPort with rfl | isDigit
        · exact Or.inr (Or.inl rfl)
        · exact Or.inr (Or.inr
            (Nat.isDigit_of_mem_toDigits (by decide) (by decide) isDigit))

/-- A host without colons and brackets comes back with its port. -/
theorem hostInfo_joinHost
    {host : List Char} {port : Option ℕ}
    (plain : ∀ character ∈ host, isUrlDelimiter character = false)
    (name : ∀ character ∈ host, isLiteralChar character = false) :
    hostInfo (joinHost host port) =
      (host, (port.map (Nat.toDigits 10)).getD []) := by
  have absent : ∀ character, isLiteralChar character = true →
      character ∉ host := by
    intro character literal member
    rw [name character member] at literal
    cases literal
  have noUser : '@' ∉ joinHost host port := by
    intro member
    rcases mem_joinHost member with inHost | isColon | isDigit
    · cases plain '@' inHost
    · cases isColon
    · cases isDigit
  have noBracket : '[' ∉ joinHost host port := by
    intro member
    rcases mem_joinHost member with inHost | isColon | isDigit
    · exact absent '[' rfl inHost
    · cases isColon
    · cases isDigit
  have contains : (joinHost host port).contains '[' = false := by
    simpa using noBracket
  rw [hostInfo, afterLast_of_not_mem noUser]
  simp only [contains, Bool.false_eq_true, if_false]
  cases port with
  | none => exact partition_of_not_mem (absent ':' rfl)
  | some number => exact partition_append (absent ':' rfl)

theorem isAsciiDigit_of_isDigit
    {character : Char} (digit : character.isDigit = true) :
    isAsciiDigit character = true := by
  rw [isAsciiDigit, Bool.and_eq_true, decide_eq_true_eq, decide_eq_true_eq]
  exact Char.isDigit_iff_toNat.mp digit

theorem port_joinHost
    {host : List Char} {number : Option ℕ}
    (plain : ∀ character ∈ host, isUrlDelimiter character = false)
    (name : ∀ character ∈ host, isLiteralChar character = false)
    (range : ∀ value, number = some value → value ≤ 65535) :
    port (joinHost host number) = .ok number := by
  rw [port, hostInfo_joinHost plain name]
  cases number with
  | none => rfl
  | some value =>
      have isNumber : (Nat.toDigits 10 value).isEmpty = false := by
        rw [List.isEmpty_eq_false_iff]
        exact Nat.toDigits_ne_nil
      have digits : (Nat.toDigits 10 value).all isAsciiDigit = true := by
        rw [List.all_eq_true]
        intro character member
        exact isAsciiDigit_of_isDigit
          (Nat.isDigit_of_mem_toDigits (by decide) (by decide) member)
      simp [isNumber, digits, range value rfl]

/-- The port of a network location is one of those which exist. -/
theorem le_of_port
    {netloc : List Char} {value : ℕ}
    (found : port netloc = .ok (some value)) : value ≤ 65535 := by
  rw [port] at found
  split_ifs at found with _ valid
  · cases found
  · cases found
    simp only [Bool.and_eq_true, decide_eq_true_eq] at valid
    exact valid.2

/-! ## What is asked of Unicode -/

/-- A character which a normal form must not add to a location. -/
def isNetlocDelimiter (character : Char) : Bool :=
  ['/', '?', '#', '@', ':'].contains character

/--
Facts of the Unicode database.  Lower-casing is idempotent and adds nothing of
ASCII but letters; the normal form keeps ASCII and takes delimiters from
single characters, none of which is the lower case of another.
-/
structure UnicodeFacts (rules : UnicodeRules) : Prop where
  lower_nil : rules.lower [] = []
  lower_lower : ∀ text, rules.lower (rules.lower text) = rules.lower text
  lower_ascii : ∀ text, ∀ character ∈ rules.lower text,
    character.toNat < 128 → isAsciiAlpha character = false →
      character ∈ text
  nfkc_ascii : ∀ text : List Char,
    (∀ character ∈ text, character.toNat < 128) → rules.nfkc text = text
  nfkc_delimiter : ∀ text delimiter, isNetlocDelimiter delimiter = true →
    (delimiter ∈ rules.nfkc text ↔
      ∃ character ∈ text, delimiter ∈ rules.nfkc [character])
  lower_delimiter : ∀ text, ∀ character ∈ rules.lower text, ∀ delimiter,
    isNetlocDelimiter delimiter = true →
      delimiter ∈ rules.nfkc [character] → character ∈ text

/-- A letter in lower case is a letter, and other characters stay. -/
theorem lowerAscii_cases (character : Char) :
    lowerAscii character = character ∨
      isAsciiAlpha (lowerAscii character) = true ∧
        97 ≤ (lowerAscii character).toNat := by
  unfold lowerAscii
  split_ifs with upper
  · refine Or.inr ?_
    have bounds := upper
    generalize character.toNat = code at bounds
    rcases bounds with ⟨low, high⟩
    interval_cases code <;> decide
  · exact Or.inl rfl

theorem lowerAscii_lowerAscii (character : Char) :
    lowerAscii (lowerAscii character) = lowerAscii character := by
  rcases lowerAscii_cases character with same | ⟨_, low⟩
  · rw [same, same]
  · rw [lowerAscii, if_neg]
    omega

/-- What lower-casing of ASCII leaves besides letters was there before. -/
theorem mem_of_mem_lowerAscii
    {text : List Char} {character : Char}
    (member : character ∈ text.map lowerAscii)
    (noLetter : isAsciiAlpha character = false) : character ∈ text := by
  rcases List.mem_map.mp member with ⟨original, isOriginal, rfl⟩
  rcases lowerAscii_cases original with same | ⟨letter, _⟩
  · rw [same]
    exact isOriginal
  · rw [noLetter] at letter
    cases letter

theorem not_isAsciiAlpha_of_delimiter
    {character : Char} (delimits : isNetlocDelimiter character = true) :
    isAsciiAlpha character = false := by
  simp only [isNetlocDelimiter, List.contains_eq_mem, List.mem_cons,
    List.not_mem_nil, or_false, decide_eq_true_eq] at delimits
  rcases delimits with rfl | rfl | rfl | rfl | rfl <;> rfl

theorem unicodeFacts_asciiRules : UnicodeFacts asciiRules where
  lower_nil := rfl
  lower_lower text := by
    refine List.map_map.trans (List.map_congr_left fun character _ => ?_)
    exact lowerAscii_lowerAscii character
  lower_ascii _ _ member _ noLetter := mem_of_mem_lowerAscii member noLetter
  nfkc_ascii _ _ := rfl
  nfkc_delimiter text delimiter _ := by simp [asciiRules]
  lower_delimiter _ character member delimiter delimits normal := by
    obtain rfl : delimiter = character := List.mem_singleton.mp normal
    exact mem_of_mem_lowerAscii member (not_isAsciiAlpha_of_delimiter delimits)

/-- Lower-casing adds no delimiter. -/
theorem UnicodeFacts.delimitersKept
    {rules : UnicodeRules} (facts : UnicodeFacts rules) :
    DelimitersKept rules := by
  intro text character delimits member
  simp only [isUrlDelimiter, List.contains_eq_mem, List.mem_cons,
    List.not_mem_nil, or_false, decide_eq_true_eq] at delimits
  rcases delimits with rfl | rfl | rfl | rfl <;>
    exact facts.lower_ascii text _ member (by decide) (by decide)

section Checks

variable {rules : UrlRules}

theorem nfkc_singleton_of_ascii
    (facts : UnicodeFacts rules.toUnicodeRules) {character : Char}
    (ascii : character.toNat < 128) :
    rules.nfkc [character] = [character] := by
  refine facts.nfkc_ascii _ fun other member => ?_
  rw [List.mem_singleton.mp member]
  exact ascii

/-- The delimiters are those of a location and those inside it. -/
theorem not_isNetlocDelimiter
    {character : Char} (inside : endsNetloc character = false)
    (notAt : character ≠ '@') (notColon : character ≠ ':') :
    isNetlocDelimiter character = false := by
  simp only [endsNetloc, isNetlocDelimiter, List.contains_eq_mem,
    List.mem_cons, List.not_mem_nil, or_false, decide_eq_false_iff_not,
    not_or] at inside ⊢
  exact ⟨inside.1, inside.2.1, inside.2.2, notAt, notColon⟩

/--
A location passes the check of its normal form just if no character of it but
its own `@` and `:` becomes a delimiter.
-/
theorem checkNetloc_iff
    (facts : UnicodeFacts rules.toUnicodeRules) {netloc : List Char}
    (inside : ∀ character ∈ netloc, endsNetloc character = false) :
    checkNetloc rules netloc = true ↔
      ∀ character ∈ netloc, character ≠ '@' → character ≠ ':' →
        ∀ delimiter, isNetlocDelimiter delimiter = true →
          delimiter ∉ rules.nfkc [character] := by
  have mem_text : ∀ character,
      character ∈ netloc.filter (fun character =>
          !(['@', ':', '#', '?'].contains character)) ↔
        character ∈ netloc ∧ character ≠ '@' ∧ character ≠ ':' := by
    intro character
    rw [List.mem_filter]
    constructor
    · rintro ⟨member, kept⟩
      simp at kept
      exact ⟨member, kept.1, kept.2.1⟩
    · rintro ⟨member, notAt, notColon⟩
      have notEnd := inside character member
      simp only [endsNetloc, List.contains_eq_mem, List.mem_cons,
        List.not_mem_nil, or_false, decide_eq_false_iff_not, not_or] at notEnd
      refine ⟨member, ?_⟩
      simp [notAt, notColon, notEnd]
  rw [checkNetloc]
  constructor
  · intro checked character member notAt notColon delimiter delimits normal
    have kept := (mem_text character).mpr ⟨member, notAt, notColon⟩
    have inNormal :=
      (facts.nfkc_delimiter _ delimiter delimits).mpr
        ⟨character, kept, normal⟩
    simp only [Bool.or_eq_true, List.all_eq_true, decide_eq_true_eq,
      beq_iff_eq] at checked
    rcases checked with (ascii | same) | noDelimiter
    · rw [nfkc_singleton_of_ascii facts (ascii character member)] at normal
      rcases List.mem_singleton.mp normal with rfl
      rw [not_isNetlocDelimiter (inside _ member) notAt notColon] at delimits
      cases delimits
    · rw [same] at inNormal
      rcases (mem_text delimiter).mp inNormal with ⟨isMember, noAt, noColon⟩
      rw [not_isNetlocDelimiter (inside _ isMember) noAt noColon] at delimits
      cases delimits
    · have absent := noDelimiter delimiter inNormal
      rw [isNetlocDelimiter] at delimits
      rw [delimits] at absent
      cases absent
  · intro none
    rw [Bool.or_eq_true, List.all_eq_true]
    refine Or.inr fun delimiter inNormal => ?_
    by_contra delimits
    rw [Bool.not_eq_true, Bool.not_eq_false'] at delimits
    rcases (facts.nfkc_delimiter _ delimiter delimits).mp inNormal with
      ⟨character, kept, normal⟩
    rcases (mem_text character).mp kept with ⟨member, notAt, notColon⟩
    exact none character member notAt notColon delimiter delimits normal

/-- A location without brackets has them paired. -/
theorem checkBrackets_of_not_mem
    {netloc : List Char} (noOpening : '[' ∉ netloc) (noClosing : ']' ∉ netloc) :
    checkBrackets rules netloc = true := by
  simp [checkBrackets, noOpening, noClosing]

/-- A location with brackets of one kind is refused. -/
theorem checkBrackets_of_xor
    {netloc : List Char}
    (one : ¬ ('[' ∈ netloc ↔ ']' ∈ netloc)) :
    checkBrackets rules netloc = false := by
  by_cases opening : '[' ∈ netloc <;> by_cases closing : ']' ∈ netloc
  · exact absurd (iff_of_true opening closing) one
  · simp [checkBrackets, opening, closing]
  · simp [checkBrackets, opening, closing]
  · exact absurd (iff_of_false opening closing) one

/-! ## Host names -/

/-- A character of a host name comes from the host before it was lowered. -/
theorem mem_host_of_mem_hostname
    (facts : UnicodeFacts rules.toUnicodeRules) {netloc : List Char}
    {character : Char} (ascii : character.toNat < 128)
    (noLetter : isAsciiAlpha character = false)
    (member : character ∈ hostname rules netloc) :
    character ∈ (hostInfo netloc).1 := by
  rcases List.mem_append.mp member with isLower | isZone
  · exact (List.takeWhile_sublist _).subset
      (facts.lower_ascii _ _ isLower ascii noLetter)
  · exact (List.dropWhile_sublist _).subset isZone

/-- A host name has no opening bracket or no closing one. -/
theorem not_both_brackets
    (facts : UnicodeFacts rules.toUnicodeRules) (netloc : List Char) :
    ¬ ('[' ∈ hostname rules netloc ∧ ']' ∈ hostname rules netloc) := by
  rintro ⟨opening, closing⟩
  have inOpening :=
    mem_host_of_mem_hostname facts (by decide) (by decide) opening
  have inClosing :=
    mem_host_of_mem_hostname facts (by decide) (by decide) closing
  unfold hostInfo at inOpening inClosing
  simp only at inOpening inClosing
  split_ifs at inOpening inClosing with bracketed
  · exact ne_of_mem_partition_fst inClosing rfl
  · have inside := mem_of_mem_partition_fst inOpening
    exact bracketed (List.contains_iff_mem.mpr inside)

/-- A host in lower case, but for its zone. -/
def lowerHost (rules : UnicodeRules) (host : List Char) : List Char :=
  rules.lower (host.takeWhile (· != '%')) ++ host.dropWhile (· != '%')

theorem hostname_eq (netloc : List Char) :
    hostname rules netloc =
      lowerHost rules.toUnicodeRules (hostInfo netloc).1 := rfl

/-- A host name is in lower case already. -/
theorem lowerHost_lowerHost
    (facts : UnicodeFacts rules.toUnicodeRules) (host : List Char) :
    lowerHost rules.toUnicodeRules (lowerHost rules.toUnicodeRules host) =
      lowerHost rules.toUnicodeRules host := by
  have noZone : ∀ character ∈ rules.lower (host.takeWhile (· != '%')),
      (character != '%') = true := by
    intro character member
    rw [bne_iff_ne]
    rintro rfl
    have inside := facts.lower_ascii _ _ member (by decide) (by decide)
    simpa using List.mem_takeWhile_imp inside
  have zone :
      (host.dropWhile (· != '%')).dropWhile (· != '%') =
        host.dropWhile (· != '%') := List.dropWhile_idempotent _ _
  have name :
      (host.dropWhile (· != '%')).takeWhile (· != '%') = [] := by
    have split :
        (host.dropWhile (· != '%')).takeWhile (· != '%') ++
            (host.dropWhile (· != '%')).dropWhile (· != '%') =
          host.dropWhile (· != '%') := List.takeWhile_append_dropWhile
    rw [zone] at split
    exact List.append_left_eq_self.mp split
  unfold lowerHost
  rw [List.takeWhile_append_of_pos noZone, List.dropWhile_append_of_pos noZone,
    name, zone, List.append_nil, facts.lower_lower]

/-- A host name without colons and brackets is the one of its location. -/
theorem hostname_joinHost
    (facts : UnicodeFacts rules.toUnicodeRules) {netloc : List Char}
    (port : Option ℕ)
    (plain : ∀ character ∈ hostname rules netloc,
      isUrlDelimiter character = false)
    (name : ∀ character ∈ hostname rules netloc,
      isLiteralChar character = false) :
    hostname rules (joinHost (hostname rules netloc) port) =
      hostname rules netloc := by
  rw [hostname_eq, hostInfo_joinHost plain name, hostname_eq,
    lowerHost_lowerHost facts]

/-- The host name of a location is never followed by a colon. -/
theorem hostname_joinHost_ne
    (facts : UnicodeFacts rules.toUnicodeRules) {host : List Char}
    (port : Option ℕ) (colon : ':' ∈ host) (noBracket : '[' ∉ host)
    (noUser : '@' ∉ host) :
    hostname rules (joinHost host port) ≠ host := by
  intro same
  have again : ':' ∈ hostname rules (joinHost host port) := by
    rw [same]
    exact colon
  have inHost := mem_host_of_mem_hostname facts (by decide) (by decide) again
  have absent : ∀ character, character ∉ host → character ≠ ':' →
      character.isDigit = false → character ∉ joinHost host port := by
    intro character notInHost notColon noDigit member
    rcases mem_joinHost member with inside | isColon | isDigit
    · exact notInHost inside
    · exact notColon isColon
    · rw [noDigit] at isDigit
      cases isDigit
  have contains : (joinHost host port).contains '[' = false := by
    simpa using absent '[' noBracket (by decide) (by decide)
  rw [hostInfo,
    afterLast_of_not_mem (absent '@' noUser (by decide) (by decide))]
    at inHost
  simp only [contains, Bool.false_eq_true, if_false] at inHost
  exact ne_of_mem_partition_fst inHost rfl

/-! ## The parts of a split URL -/

theorem mem_of_mem_splitScheme_snd
    {url : List Char} {character : Char}
    (member : character ∈ (splitScheme url).2) : character ∈ url := by
  unfold splitScheme at member
  simp only at member
  split at member
  · exact member
  · split_ifs at member
    · exact mem_of_mem_partition_snd member
    · exact member

theorem mem_of_mem_splitNetloc
    {url : List Char} {character : Char}
    (member : character ∈ (splitNetloc url).1 ∨
      character ∈ (splitNetloc url).2) :
    character ∈ url := by
  unfold splitNetloc at member
  split at member
  · refine List.mem_cons_of_mem _ (List.mem_cons_of_mem _ ?_)
    rcases member with isNetloc | isRest
    · exact (List.takeWhile_sublist _).subset isNetloc
    · exact (List.dropWhile_sublist _).subset isRest
  · rcases member with isNetloc | isRest
    · cases isNetloc
    · exact isRest

variable {url : List Char} {parsed : SplitResult}

/-- No part of a split URL has a break. -/
theorem not_isUrlBreak_of_urlsplit
    (isSplit : urlsplit rules url = .ok parsed) {character : Char}
    (member : character ∈ parsed.netloc ∨ character ∈ parsed.path) :
    isUrlBreak character = false := by
  rw [urlsplit] at isSplit
  split_ifs at isSplit
  cases isSplit
  have inUrl : character ∈ cleanUrl url :=
    mem_of_mem_splitScheme_snd
      (mem_of_mem_splitNetloc
        (member.imp_right fun inPath =>
          mem_of_mem_partition_fst (mem_of_mem_partition_fst inPath)))
  exact not_isUrlBreak_of_mem_cleanUrl inUrl

theorem checkNetloc_of_urlsplit
    (isSplit : urlsplit rules url = .ok parsed) :
    checkNetloc rules parsed.netloc = true := by
  rw [urlsplit] at isSplit
  split_ifs at isSplit with checked
  cases isSplit
  exact (Bool.and_eq_true_iff.mp checked).2

/-- What follows a network location begins where the location ends. -/
theorem exists_of_splitNetloc
    {url : List Char} (located : (splitNetloc url).1 ≠ []) :
    (splitNetloc url).2 = [] ∨
      ∃ first rest,
        (splitNetloc url).2 = first :: rest ∧ endsNetloc first = true := by
  unfold splitNetloc at located ⊢
  split at located
  · rename_i inner
    dsimp only
    cases ending :
        inner.dropWhile fun character => !endsNetloc character with
    | nil => exact Or.inl rfl
    | cons first rest =>
        have nonempty :
            (inner.dropWhile fun character => !endsNetloc character) ≠ [] := by
          rw [ending]
          exact List.cons_ne_nil _ _
        have ends := List.head_dropWhile_not _ nonempty
        simp only [ending, List.head_cons, Bool.not_eq_false'] at ends
        exact Or.inr ⟨first, rest, rfl, ends⟩
  · exact absurd rfl located

/-- After a network location the path begins with a slash. -/
theorem rooted_of_urlsplit
    (isSplit : urlsplit rules url = .ok parsed)
    (located : parsed.netloc ≠ []) :
    parsed.path = [] ∨ parsed.path.head? = some '/' := by
  rw [urlsplit] at isSplit
  split_ifs at isSplit
  cases isSplit
  dsimp only at located ⊢
  rcases exists_of_splitNetloc located with
    nothing | ⟨first, rest, isRest, ends⟩
  · rw [nothing]
    exact Or.inl rfl
  · rw [isRest]
    simp only [endsNetloc, List.contains_eq_mem, List.mem_cons,
      List.not_mem_nil, or_false, decide_eq_true_eq] at ends
    rcases ends with rfl | rfl | rfl
    · exact Or.inr rfl
    · exact Or.inl rfl
    · exact Or.inl rfl

/-- Without a location there is no host name. -/
theorem netloc_ne_nil_of_hostname
    (facts : UnicodeFacts rules.toUnicodeRules) {netloc : List Char}
    (named : hostname rules netloc ≠ []) : netloc ≠ [] := by
  rintro rfl
  apply named
  have empty : hostname rules [] = rules.lower [] ++ [] := rfl
  rw [empty, facts.lower_nil]
  rfl

/-- A host name with its port, and the path, do not end each other. -/
theorem joinedParts_of_urlsplit
    (facts : UnicodeFacts rules.toUnicodeRules)
    (isSplit : urlsplit rules url = .ok parsed)
    (known : isHttp parsed.scheme = true)
    (named : hostname rules parsed.netloc ≠ []) (number : Option ℕ) :
    JoinedParts parsed.scheme
      (joinHost (hostname rules parsed.netloc) number) parsed.path where
  known := known
  rooted :=
    rooted_of_urlsplit isSplit (netloc_ne_nil_of_hostname facts named)
  ends _ member := path_of_urlsplit isSplit member
  inside character member := by
    have plain : isUrlDelimiter character = false := by
      rcases mem_joinHost member with inHost | rfl | isDigit
      · exact hostname_plain facts.delimitersKept isSplit inHost
      · rfl
      · exact isUrlDelimiter_of_isDigit isDigit
    simp only [isUrlDelimiter, endsNetloc, List.contains_eq_mem,
      List.mem_cons, List.not_mem_nil, or_false, decide_eq_false_iff_not,
      not_or] at plain ⊢
    exact plain.2
  unbroken character member := by
    by_contra breaks
    rw [Bool.not_eq_false] at breaks
    have isBreak := breaks
    simp only [isUrlBreak, List.contains_eq_mem, List.mem_cons,
      List.not_mem_nil, or_false, decide_eq_true_eq] at isBreak
    have inside : character ∈ parsed.netloc ∨ character ∈ parsed.path := by
      rcases List.mem_append.mp member with inLocation | inPath
      · apply Or.inl
        rcases mem_joinHost inLocation with inHost | rfl | isDigit
        · apply mem_of_mem_afterLast
          apply mem_hostInfo_fst
          apply mem_host_of_mem_hostname facts ?_ ?_ inHost
          · rcases isBreak with rfl | rfl | rfl <;> decide
          · rcases isBreak with rfl | rfl | rfl <;> decide
        · cases breaks
        · rcases isBreak with rfl | rfl | rfl <;> cases isDigit
      · exact Or.inr inPath
    rw [not_isUrlBreak_of_urlsplit isSplit inside] at breaks
    cases breaks

/-- The location of a shown URL passes the check of its normal form. -/
theorem checkNetloc_joinHost
    (facts : UnicodeFacts rules.toUnicodeRules)
    (isSplit : urlsplit rules url = .ok parsed) {number : Option ℕ}
    (parts : JoinedParts parsed.scheme
      (joinHost (hostname rules parsed.netloc) number) parsed.path) :
    checkNetloc rules (joinHost (hostname rules parsed.netloc) number) =
      true := by
  have clean :=
    (checkNetloc_iff facts fun _ member =>
      netloc_of_urlsplit isSplit member).mp (checkNetloc_of_urlsplit isSplit)
  have located : ∀ character ∈ (hostInfo parsed.netloc).1,
      character ∈ parsed.netloc := fun _ member =>
    mem_of_mem_afterLast (mem_hostInfo_fst member)
  apply (checkNetloc_iff facts parts.inside).mpr
  intro character member notAt notColon delimiter delimits normal
  rcases mem_joinHost member with inHost | isColon | isDigit
  · have inNetloc : character ∈ parsed.netloc := by
      apply located
      rcases List.mem_append.mp inHost with isLower | isZone
      · exact (List.takeWhile_sublist _).subset
          (facts.lower_delimiter _ _ isLower delimiter delimits normal)
      · exact (List.dropWhile_sublist _).subset isZone
    exact clean character inNetloc notAt notColon delimiter delimits normal
  · exact notColon isColon
  · have ascii : character.toNat < 128 := by
      have digit := isAsciiDigit_of_isDigit isDigit
      simp only [isAsciiDigit, Bool.and_eq_true, decide_eq_true_eq] at digit
      omega
    rw [nfkc_singleton_of_ascii facts ascii] at normal
    rcases List.mem_singleton.mp normal with rfl
    rw [not_isNetlocDelimiter (parts.inside _ member) notAt notColon]
      at delimits
    cases delimits

/--
The URL which is put together from a host name, its port and its path is split
just if the host name has no bracket.
-/
theorem urlsplit_rejoined
    (facts : UnicodeFacts rules.toUnicodeRules)
    (isSplit : urlsplit rules url = .ok parsed) {number : Option ℕ}
    (parts : JoinedParts parsed.scheme
      (joinHost (hostname rules parsed.netloc) number) parsed.path) :
    urlsplit rules
        (urlunsplit
          ⟨parsed.scheme, joinHost (hostname rules parsed.netloc) number,
            parsed.path, [], []⟩) =
      if '[' ∈ hostname rules parsed.netloc ∨
          ']' ∈ hostname rules parsed.netloc then
        .error (.library .valueError)
      else
        .ok
          ⟨parsed.scheme, joinHost (hostname rules parsed.netloc) number,
            parsed.path, [], []⟩ := by
  have inLocation : ∀ bracket, isLiteralChar bracket = true →
      bracket ≠ ':' →
        (bracket ∈ joinHost (hostname rules parsed.netloc) number ↔
          bracket ∈ hostname rules parsed.netloc) := by
    intro bracket literal notColon
    constructor
    · intro member
      rcases mem_joinHost member with inHost | isColon | isDigit
      · exact inHost
      · exact absurd isColon notColon
      · simp only [isLiteralChar, List.contains_eq_mem, List.mem_cons,
          List.not_mem_nil, or_false, decide_eq_true_eq] at literal
        rcases literal with rfl | rfl | rfl <;> cases isDigit
    · intro inHost
      cases number with
      | none => exact inHost
      | some value => exact List.mem_append_left _ inHost
  have opening := inLocation '[' rfl (by decide)
  have closing := inLocation ']' rfl (by decide)
  rw [urlsplit_urlunsplit rules parts, checkNetloc_joinHost facts isSplit parts,
    Bool.and_true]
  split_ifs with checked bracketed bracketed
  · have refused :
        checkBrackets rules
            (joinHost (hostname rules parsed.netloc) number) = false := by
      apply checkBrackets_of_xor
      rw [opening, closing]
      intro both
      apply not_both_brackets facts parsed.netloc
      tauto
    rw [refused] at checked
    cases checked
  · rfl
  · rfl
  · rw [not_or, ← opening, ← closing] at bracketed
    exact absurd (checkBrackets_of_not_mem bracketed.1 bracketed.2) checked

end Checks

end Foundation.PythonUrls
