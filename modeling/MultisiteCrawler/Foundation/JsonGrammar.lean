import Mathlib.Data.Bool.AllAny
import MultisiteCrawler.Foundation.JsonRoundTrip

/-!
# The grammar of JSON texts

The grammar of RFC 8259, whose numbers are finite.  The encoder writes the
names `NaN` and `Infinity` for floats which are not, and these are no JSON.
So the text of a value is one exactly if all its floats are finite, which is
`isJsonText_dumps_iff`.

For the converse the characters outside string literals are compared: in a
JSON text there is no upper-case `N` or `I` among them.
-/

namespace Foundation.JsonText

/-! ## The grammar -/

/-- Whitespace. -/
def IsBlank (text : List Char) : Prop :=
  text.all isSpace = true

/-- A number: an optional sign, an integer part, a fraction, an exponent. -/
def IsNumber (text : List Char) : Prop :=
  isIntegerPart (unsigned text) = true ∨ isFloatLiteral text = true

/-- A character of a string, or an escape. -/
inductive IsStringPart : List Char → Prop where
  | plain {character : Char} (visible : 32 ≤ character.toNat)
      (notQuote : character ≠ '"') (notBackslash : character ≠ '\\') :
      IsStringPart [character]
  | escaped {character : Char}
      (isEscape :
        character ∈ ['"', '\\', '/', 'b', 'f', 'n', 'r', 't']) :
      IsStringPart ['\\', character]
  | unicode {first second third fourth : Char}
      (isHexFour : ∀ digit ∈ [first, second, third, fourth],
        (hexValue digit).isSome = true) :
      IsStringPart ['\\', 'u', first, second, third, fourth]

/-- A quoted string. -/
def IsQuoted (text : List Char) : Prop :=
  ∃ parts : List (List Char),
    (∀ part ∈ parts, IsStringPart part) ∧ text = '"' :: parts.flatten ++ ['"']

/-- What can be derived: a value, items or members, one at least. -/
inductive Symbol where
  | value
  | items
  | members

/-- The texts of a symbol. -/
inductive Derives : Symbol → List Char → Prop where
  | null : Derives .value ['n', 'u', 'l', 'l']
  | true : Derives .value ['t', 'r', 'u', 'e']
  | false : Derives .value ['f', 'a', 'l', 's', 'e']
  | number {text : List Char} (isNumber : IsNumber text) :
      Derives .value text
  | string {text : List Char} (isQuoted : IsQuoted text) :
      Derives .value text
  | emptyArray {gap : List Char} (isBlank : IsBlank gap) :
      Derives .value ('[' :: gap ++ [']'])
  | array {items : List Char} (areItems : Derives .items items) :
      Derives .value ('[' :: items ++ [']'])
  | emptyObject {gap : List Char} (isBlank : IsBlank gap) :
      Derives .value ('{' :: gap ++ ['}'])
  | object {members : List Char} (areMembers : Derives .members members) :
      Derives .value ('{' :: members ++ ['}'])
  | item {before value after : List Char} (isBefore : IsBlank before)
      (isValue : Derives .value value) (isAfter : IsBlank after) :
      Derives .items (before ++ value ++ after)
  | moreItems {first rest : List Char} (isFirst : Derives .items first)
      (areRest : Derives .items rest) :
      Derives .items (first ++ ',' :: rest)
  | member {before key between behind value after : List Char}
      (isBefore : IsBlank before) (isKey : IsQuoted key)
      (isBetween : IsBlank between) (isBehind : IsBlank behind)
      (isValue : Derives .value value) (isAfter : IsBlank after) :
      Derives .members
        (before ++ key ++ between ++ ':' :: (behind ++ value ++ after))
  | moreMembers {first rest : List Char}
      (isFirst : Derives .members first)
      (areRest : Derives .members rest) :
      Derives .members (first ++ ',' :: rest)

/-- A JSON text. -/
def IsJsonText (text : String) : Prop :=
  ∃ before value after,
    IsBlank before ∧ Derives .value value ∧ IsBlank after ∧
      text.toList = before ++ value ++ after

/-! ## Finite values -/

mutual

/-- All floats of a value are finite. -/
def Json.isFinite : Json → Bool
  | .nonFinite _ => false
  | .arr items => isFiniteItems items
  | .obj members => isFiniteMembers members
  | _ => true

/-- All floats of all items are finite. -/
def isFiniteItems : List Json → Bool
  | [] => true
  | item :: rest => item.isFinite && isFiniteItems rest

/-- All floats of all member values are finite. -/
def isFiniteMembers : List (String × Json) → Bool
  | [] => true
  | (_, value) :: rest => value.isFinite && isFiniteMembers rest

end

/-! ## The encoder -/

theorem hexValue_hexDigit_isSome {value : ℕ} (small : value < 16) :
    (hexValue (hexDigit value)).isSome = true := by
  rw [hexValue_hexDigit value small]
  rfl

/-- An escape of a character in the basic plane. -/
theorem isStringPart_hexFour (value : ℕ) :
    IsStringPart ('\\' :: 'u' :: hexFour value) := by
  refine IsStringPart.unicode fun digit member => ?_
  simp only [List.mem_cons, List.not_mem_nil, or_false] at member
  rcases member with rfl | rfl | rfl | rfl <;>
    exact hexValue_hexDigit_isSome (Nat.mod_lt _ (by decide))

/-- What the encoder writes for a character. -/
theorem exists_parts_escapeChar (ensureAscii : Bool) (character : Char) :
    ∃ parts : List (List Char),
      (∀ part ∈ parts, IsStringPart part) ∧
        escapeChar ensureAscii character = parts.flatten := by
  have single : ∀ {part : List Char}, IsStringPart part →
      ∃ parts : List (List Char),
        (∀ part ∈ parts, IsStringPart part) ∧ part = parts.flatten := by
    intro part isPart
    refine ⟨[part], fun other member => ?_, (List.append_nil part).symm⟩
    rw [List.mem_singleton.mp member]
    exact isPart
  rw [escapeChar]
  split_ifs with quote backslash newline return_ tab feed back far
  iterate 7 exact single (IsStringPart.escaped (by decide))
  · rw [unicodeEscape]
    split_ifs with basic
    · exact single (isStringPart_hexFour _)
    · refine
        ⟨['\\' :: 'u' ::
            hexFour (55296 + (character.toNat - 65536) / 1024),
          '\\' :: 'u' ::
            hexFour (56320 + (character.toNat - 65536) % 1024)],
          fun part member => ?_, by simp⟩
      simp only [List.mem_cons, List.not_mem_nil, or_false] at member
      rcases member with rfl | rfl <;> exact isStringPart_hexFour _
  · have visible : 32 ≤ character.toNat := by
      by_contra control
      exact far (Or.inl (not_le.mp control))
    exact single (IsStringPart.plain visible quote backslash)

theorem isQuoted_stringText (style : DumpStyle) (value : String) :
    IsQuoted (stringText style value) := by
  rw [stringText]
  generalize value.toList = characters
  induction characters with
  | nil => exact ⟨[], List.forall_mem_nil _, rfl⟩
  | cons character rest induction =>
      rcases induction with ⟨parts, areParts, isText⟩
      rcases exists_parts_escapeChar style.ensureAscii character with
        ⟨first, areFirst, isFirst⟩
      have rest_eq :
          rest.flatMap (escapeChar style.ensureAscii) = parts.flatten := by
        simpa using isText
      refine ⟨first ++ parts, fun part member => ?_, ?_⟩
      · rcases List.mem_append.mp member with isPart | isPart
        · exact areFirst part isPart
        · exact areParts part isPart
      · rw [List.flatMap_cons, isFirst, rest_eq, List.flatten_append]

theorem isNumber_intText (value : ℤ) : IsNumber (intText value) := by
  refine Or.inl ?_
  rw [unsigned_intText]
  exact isIntegerPart_toDigits _

theorem isBlank_nil : IsBlank [] := rfl

theorem exists_gap_itemSeparator (style : DumpStyle) :
    ∃ gap, IsBlank gap ∧ itemSeparator style = ',' :: gap := by
  rw [itemSeparator]
  split_ifs
  · exact ⟨[], rfl, rfl⟩
  · exact ⟨[' '], rfl, rfl⟩

theorem exists_gap_keySeparator (style : DumpStyle) :
    ∃ gap, IsBlank gap ∧ keySeparator style = ':' :: gap := by
  rw [keySeparator]
  split_ifs
  · exact ⟨[], rfl, rfl⟩
  · exact ⟨[' '], rfl, rfl⟩

/-- A value among the items. -/
theorem Derives.oneItem
    {gap value : List Char} (isGap : IsBlank gap)
    (isValue : Derives .value value) : Derives .items (gap ++ value) := by
  have item := Derives.item isGap isValue isBlank_nil
  rwa [List.append_nil] at item

/-- A value among the members. -/
theorem Derives.oneMember
    {gap key behind value : List Char} (isGap : IsBlank gap)
    (isKey : IsQuoted key) (isBehind : IsBlank behind)
    (isValue : Derives .value value) :
    Derives .members (gap ++ key ++ ':' :: (behind ++ value)) := by
  have member := Derives.member isGap isKey isBlank_nil isBehind isValue
    isBlank_nil
  rwa [List.append_nil, List.append_nil] at member

mutual

/-- The text of a finite value is derived from the grammar. -/
theorem derives_dumpsText (style : DumpStyle) :
    (value : Json) → value.isFinite = true →
      Derives .value (dumpsText style value)
  | .null, _ => .null
  | .bool true, _ => .true
  | .bool false, _ => .false
  | .int value, _ => .number (isNumber_intText value)
  | .float literal, _ => .number (Or.inr literal.valid)
  | .str value, _ => .string (isQuoted_stringText style value)
  | .arr [], _ => .emptyArray isBlank_nil
  | .arr (item :: rest), finite =>
      .array
        (derives_itemsText style (item :: rest) [] isBlank_nil
          (List.cons_ne_nil _ _) finite)
  | .obj [], _ => .emptyObject isBlank_nil
  | .obj (member :: rest), finite =>
      .object
        (derives_membersText style (member :: rest) [] isBlank_nil
          (List.cons_ne_nil _ _) finite)

theorem derives_itemsText (style : DumpStyle) :
    (items : List Json) → (gap : List Char) → IsBlank gap → items ≠ [] →
      isFiniteItems items = true →
        Derives .items (gap ++ itemsText style items)
  | [], _, _, nonempty, _ => absurd rfl nonempty
  | [item], gap, isGap, _, finite => by
      rw [isFiniteItems, Bool.and_eq_true] at finite
      exact Derives.oneItem isGap (derives_dumpsText style item finite.1)
  | item :: next :: rest, gap, isGap, _, finite => by
      rw [isFiniteItems, Bool.and_eq_true] at finite
      rcases exists_gap_itemSeparator style with
        ⟨between, isBetween, separator⟩
      have first :=
        Derives.oneItem isGap (derives_dumpsText style item finite.1)
      have others :=
        derives_itemsText style (next :: rest) between isBetween
          (List.cons_ne_nil _ _) finite.2
      rw [itemsText, separator]
      simpa using first.moreItems others

theorem derives_membersText (style : DumpStyle) :
    (members : List (String × Json)) → (gap : List Char) → IsBlank gap →
      members ≠ [] → isFiniteMembers members = true →
        Derives .members (gap ++ membersText style members)
  | [], _, _, nonempty, _ => absurd rfl nonempty
  | [(key, value)], gap, isGap, _, finite => by
      rw [isFiniteMembers, Bool.and_eq_true] at finite
      rcases exists_gap_keySeparator style with ⟨behind, isBehind, separator⟩
      have member := Derives.oneMember isGap (isQuoted_stringText style key)
        isBehind (derives_dumpsText style value finite.1)
      rw [membersText, separator]
      simpa using member
  | (key, value) :: next :: rest, gap, isGap, _, finite => by
      rw [isFiniteMembers, Bool.and_eq_true] at finite
      rcases exists_gap_keySeparator style with ⟨behind, isBehind, separator⟩
      rcases exists_gap_itemSeparator style with
        ⟨between, isBetween, itemSeparated⟩
      have first := Derives.oneMember isGap (isQuoted_stringText style key)
        isBehind (derives_dumpsText style value finite.1)
      have others :=
        derives_membersText style (next :: rest) between isBetween
          (List.cons_ne_nil _ _) finite.2
      rw [membersText, separator, itemSeparated]
      simpa using first.moreMembers others

end

/-! ## Characters outside strings -/

/-- The characters outside string literals; the flag is set inside of one. -/
def outside : Bool → List Char → List Char
  | _, [] => []
  | false, '"' :: rest => outside true rest
  | false, character :: rest => character :: outside false rest
  | true, '"' :: rest => outside false rest
  | true, ['\\'] => []
  | true, '\\' :: _ :: rest => outside true rest
  | true, _ :: rest => outside true rest

/-- A text which shows these characters and does not end in a string. -/
def Shows (text shown : List Char) : Prop :=
  ∀ rest, outside false (text ++ rest) = shown ++ outside false rest

theorem Shows.nil : Shows [] [] := fun _ => rfl

theorem Shows.append
    {text other shown otherShown : List Char} (first : Shows text shown)
    (second : Shows other otherShown) :
    Shows (text ++ other) (shown ++ otherShown) := by
  intro rest
  rw [List.append_assoc, first, second, List.append_assoc]

/-- A character which does not begin a string. -/
theorem Shows.single {character : Char} (bare : character ≠ '"') :
    Shows [character] [character] := by
  intro rest
  rw [List.singleton_append, outside]
  · rfl
  · exact bare

/-- A text without quotes. -/
theorem Shows.bare {text : List Char} (bare : ∀ c ∈ text, c ≠ '"') :
    Shows text text := by
  induction text with
  | nil => exact Shows.nil
  | cons character rest induction =>
      have tail :=
        induction fun c member => bare c (List.mem_cons_of_mem _ member)
      exact (Shows.single (bare character List.mem_cons_self)).append tail

/-- A plain character of a string is skipped. -/
theorem outside_plain
    {character : Char} (notQuote : character ≠ '"')
    (notBackslash : character ≠ '\\') (rest : List Char) :
    outside true (character :: rest) = outside true rest := by
  rw [outside]
  · exact notQuote
  · rintro rfl
    exact fun _ => notBackslash rfl
  · rintro other others rfl
    exact fun _ => notBackslash rfl

theorem outside_hexDigit
    {digit : Char} (isHex : (hexValue digit).isSome = true)
    (rest : List Char) :
    outside true (digit :: rest) = outside true rest := by
  apply outside_plain <;> rintro rfl <;> revert isHex <;> decide

/-- A part of a string is skipped. -/
theorem outside_stringPart
    {part : List Char} (isPart : IsStringPart part) (rest : List Char) :
    outside true (part ++ rest) = outside true rest := by
  cases isPart with
  | plain visible notQuote notBackslash =>
      exact outside_plain notQuote notBackslash rest
  | escaped isEscape => rfl
  | unicode isHexFour =>
      simp only [List.mem_cons, List.not_mem_nil, or_false,
        forall_eq_or_imp, forall_eq] at isHexFour
      rcases isHexFour with ⟨first, second, third, fourth⟩
      have escape : ∀ text,
          outside true ('\\' :: 'u' :: text) = outside true text :=
        fun _ => rfl
      rw [List.cons_append, List.cons_append, escape, List.cons_append,
        outside_hexDigit first, List.cons_append, outside_hexDigit second,
        List.cons_append, outside_hexDigit third, List.cons_append,
        outside_hexDigit fourth, List.nil_append]

/-- A string shows nothing. -/
theorem Shows.quoted {text : List Char} (isQuoted : IsQuoted text) :
    Shows text [] := by
  rcases isQuoted with ⟨parts, areParts, rfl⟩
  intro rest
  have opened : ∀ others,
      outside false ('"' :: others) = outside true others := fun _ => rfl
  rw [List.cons_append, List.cons_append, opened, List.append_assoc]
  clear opened
  induction parts with
  | nil => rfl
  | cons part others induction =>
      rw [List.flatten_cons, List.append_assoc,
        outside_stringPart (areParts part List.mem_cons_self)]
      exact induction fun other member =>
        areParts other (List.mem_cons_of_mem _ member)

/-! ## Names of floats which are not finite -/

/-- A letter with which the name of a float begins which is not finite. -/
def isNameLetter (character : Char) : Bool :=
  character == 'N' || character == 'I'

/-- A text which shows no such letter. -/
def ShowsNoName (text : List Char) : Prop :=
  ∃ shown, Shows text shown ∧ shown.all (fun c => !isNameLetter c) = true

theorem ShowsNoName.append
    {text other : List Char} (first : ShowsNoName text)
    (second : ShowsNoName other) : ShowsNoName (text ++ other) := by
  rcases first with ⟨shown, shows, none⟩
  rcases second with ⟨otherShown, otherShows, otherNone⟩
  refine ⟨shown ++ otherShown, shows.append otherShows, ?_⟩
  rw [List.all_append, none, otherNone]
  rfl

theorem ShowsNoName.cons
    {character : Char} {text : List Char} (bare : character ≠ '"')
    (noLetter : isNameLetter character = false) (rest : ShowsNoName text) :
    ShowsNoName (character :: text) := by
  have single : ShowsNoName [character] := by
    refine ⟨[character], Shows.single bare, ?_⟩
    rw [List.all_cons, noLetter]
    rfl
  exact single.append rest

/-- A text without quotes and without such letters. -/
theorem ShowsNoName.of_bare
    {text : List Char}
    (bare : ∀ c ∈ text, c ≠ '"' ∧ isNameLetter c = false) :
    ShowsNoName text := by
  refine ⟨text, Shows.bare fun c member => (bare c member).1, ?_⟩
  rw [List.all_eq_true]
  intro c member
  rw [(bare c member).2]
  rfl

theorem ShowsNoName.quoted {text : List Char} (isQuoted : IsQuoted text) :
    ShowsNoName text :=
  ⟨[], Shows.quoted isQuoted, rfl⟩

theorem ShowsNoName.blank {text : List Char} (isBlank : IsBlank text) :
    ShowsNoName text := by
  refine ShowsNoName.of_bare fun c member => ?_
  have space := List.all_eq_true.mp isBlank c member
  simp only [isSpace, Bool.or_eq_true, beq_iff_eq] at space
  rcases space with ((rfl | rfl) | rfl) | rfl <;> decide

/-- A text of the characters of numbers. -/
theorem ShowsNoName.of_numberChars {text : List Char}
    (chars : text.all isNumberChar = true) : ShowsNoName text := by
  refine ShowsNoName.of_bare fun c member => ?_
  have isChar := List.all_eq_true.mp chars c member
  constructor
  · rintro rfl
    cases isChar
  · rw [isNameLetter, Bool.or_eq_false_iff, beq_eq_false_iff_ne,
      beq_eq_false_iff_ne]
    constructor <;> rintro rfl <;> cases isChar

theorem isDigit_of_isIntegerPart
    {text : List Char} (isInteger : isIntegerPart text = true) :
    ∀ c ∈ text, c.isDigit = true := by
  intro c member
  unfold isIntegerPart at isInteger
  split at isInteger
  · cases isInteger
  · rw [List.mem_singleton.mp member]
    decide
  · rw [Bool.and_eq_true, Bool.and_eq_true, List.all_eq_true] at isInteger
    rcases List.mem_cons.mp member with rfl | isRest
    · exact isInteger.1.1
    · exact isInteger.2 c isRest

theorem ShowsNoName.number {text : List Char} (isNumber : IsNumber text) :
    ShowsNoName text := by
  apply ShowsNoName.of_numberChars
  rcases isNumber with isInteger | isFloat
  · rw [List.all_eq_true]
    intro c member
    have digits := isDigit_of_isIntegerPart isInteger
    unfold unsigned at digits
    split at digits
    · rcases List.mem_cons.mp member with rfl | isRest
      · decide
      · exact isNumberChar_of_isDigit c (digits c isRest)
    · exact isNumberChar_of_isDigit c (digits c member)
  · exact floatLiteral_all_isNumberChar ⟨text, isFloat⟩

/-- A bracket, a brace, a comma or a colon. -/
theorem ShowsNoName.mark {mark : Char} {text : List Char}
    (isMark : mark ∈ ['[', ']', '{', '}', ',', ':'])
    (rest : ShowsNoName text) : ShowsNoName (mark :: text) := by
  simp only [List.mem_cons, List.not_mem_nil, or_false] at isMark
  rcases isMark with rfl | rfl | rfl | rfl | rfl | rfl <;>
    exact rest.cons (by decide) (by decide)

theorem ShowsNoName.nil : ShowsNoName [] := ⟨[], Shows.nil, rfl⟩

/-- What can be derived shows no name. -/
theorem Derives.showsNoName
    {symbol : Symbol} {text : List Char} (derived : Derives symbol text) :
    ShowsNoName text := by
  have closed {mark : Char} (isMark : mark ∈ ['[', ']', '{', '}', ',', ':']) :
      ShowsNoName [mark] := ShowsNoName.nil.mark isMark
  induction derived with
  | null => exact ShowsNoName.of_bare (List.all_iff_forall_prop.mp rfl)
  | true => exact ShowsNoName.of_bare (List.all_iff_forall_prop.mp rfl)
  | false => exact ShowsNoName.of_bare (List.all_iff_forall_prop.mp rfl)
  | number isNumber => exact ShowsNoName.number isNumber
  | string isQuoted => exact ShowsNoName.quoted isQuoted
  | emptyArray isBlank =>
      exact ((ShowsNoName.blank isBlank).append (closed (by decide))).mark
        (by decide)
  | array areItems items =>
      exact (items.append (closed (by decide))).mark (by decide)
  | emptyObject isBlank =>
      exact ((ShowsNoName.blank isBlank).append (closed (by decide))).mark
        (by decide)
  | object areMembers members =>
      exact (members.append (closed (by decide))).mark (by decide)
  | item isBefore isValue isAfter value =>
      exact ((ShowsNoName.blank isBefore).append value).append
        (ShowsNoName.blank isAfter)
  | moreItems isFirst areRest first rest =>
      exact first.append (rest.mark (by decide))
  | member isBefore isKey isBetween isBehind isValue isAfter value =>
      exact (((ShowsNoName.blank isBefore).append
        (ShowsNoName.quoted isKey)).append
          (ShowsNoName.blank isBetween)).append
            ((((ShowsNoName.blank isBehind).append value).append
              (ShowsNoName.blank isAfter)).mark (by decide))
  | moreMembers isFirst areRest first rest =>
      exact first.append (rest.mark (by decide))

/-- A text which shows a name unless the flag is set. -/
def Reveals (text : List Char) (finite : Bool) : Prop :=
  ∃ shown, Shows text shown ∧
    (finite = false → shown.any isNameLetter = true)

theorem Reveals.append
    {text other : List Char} {finite otherFinite : Bool}
    (first : Reveals text finite) (second : Reveals other otherFinite) :
    Reveals (text ++ other) (finite && otherFinite) := by
  rcases first with ⟨shown, shows, reveals⟩
  rcases second with ⟨otherShown, otherShows, otherReveals⟩
  refine ⟨shown ++ otherShown, shows.append otherShows, fun infinite => ?_⟩
  rw [List.any_append, Bool.or_eq_true]
  rcases Bool.and_eq_false_iff.mp infinite with isFirst | isSecond
  · exact Or.inl (reveals isFirst)
  · exact Or.inr (otherReveals isSecond)

theorem ShowsNoName.reveals {text : List Char} (none : ShowsNoName text) :
    Reveals text true := by
  rcases none with ⟨shown, shows, _⟩
  exact ⟨shown, shows, nofun⟩

/-- The text of a float which is not finite shows its name. -/
theorem reveals_nonFiniteText (value : NonFinite) :
    Reveals (nonFiniteText value) false := by
  refine ⟨nonFiniteText value, Shows.bare ?_, fun _ => ?_⟩
  · refine List.all_iff_forall_prop.mp ?_
    cases value <;> rfl
  · cases value <;> rfl

theorem reveals_itemSeparator (style : DumpStyle) :
    Reveals (itemSeparator style) true := by
  rcases exists_gap_itemSeparator style with ⟨gap, isGap, separator⟩
  rw [separator]
  exact ((ShowsNoName.blank isGap).mark (by decide)).reveals

theorem reveals_key (style : DumpStyle) (key : String) :
    Reveals (stringText style key ++ keySeparator style) true := by
  rcases exists_gap_keySeparator style with ⟨gap, isGap, separator⟩
  rw [separator]
  exact ((ShowsNoName.quoted (isQuoted_stringText style key)).append
    ((ShowsNoName.blank isGap).mark (by decide))).reveals

theorem Reveals.enclosed
    {text : List Char} {finite : Bool} {opening closing : Char}
    (inside : Reveals text finite)
    (isOpening : opening ∈ ['[', ']', '{', '}', ',', ':'])
    (isClosing : closing ∈ ['[', ']', '{', '}', ',', ':']) :
    Reveals (opening :: text ++ [closing]) finite := by
  have opened :=
    (ShowsNoName.nil.mark isOpening).reveals.append inside
  have closed := opened.append (ShowsNoName.nil.mark isClosing).reveals
  rwa [Bool.true_and, Bool.and_true] at closed

mutual

/-- The text of a value which is not finite shows a name. -/
theorem reveals_dumpsText (style : DumpStyle) :
    (value : Json) → Reveals (dumpsText style value) value.isFinite
  | .null => Derives.null.showsNoName.reveals
  | .bool true => Derives.true.showsNoName.reveals
  | .bool false => Derives.false.showsNoName.reveals
  | .int value =>
      (ShowsNoName.number (isNumber_intText value)).reveals
  | .float literal => (ShowsNoName.number (Or.inr literal.valid)).reveals
  | .nonFinite value => reveals_nonFiniteText value
  | .str value =>
      (ShowsNoName.quoted (isQuoted_stringText style value)).reveals
  | .arr items =>
      (reveals_itemsText style items).enclosed (by decide) (by decide)
  | .obj members =>
      (reveals_membersText style members).enclosed (by decide) (by decide)

theorem reveals_itemsText (style : DumpStyle) :
    (items : List Json) →
      Reveals (itemsText style items) (isFiniteItems items)
  | [] => ShowsNoName.nil.reveals
  | [item] => by
      rw [isFiniteItems, isFiniteItems, Bool.and_true]
      exact reveals_dumpsText style item
  | item :: next :: rest => by
      have first := (reveals_dumpsText style item).append
        (reveals_itemSeparator style)
      rw [Bool.and_true] at first
      rw [isFiniteItems]
      exact first.append (reveals_itemsText style (next :: rest))

theorem reveals_membersText (style : DumpStyle) :
    (members : List (String × Json)) →
      Reveals (membersText style members) (isFiniteMembers members)
  | [] => ShowsNoName.nil.reveals
  | [(key, value)] => by
      have member := (reveals_key style key).append
        (reveals_dumpsText style value)
      rw [isFiniteMembers, isFiniteMembers, Bool.and_true]
      exact member
  | (key, value) :: next :: rest => by
      have first := ((reveals_key style key).append
        (reveals_dumpsText style value)).append (reveals_itemSeparator style)
      rw [Bool.and_true, Bool.true_and] at first
      rw [isFiniteMembers]
      exact first.append (reveals_membersText style (next :: rest))

end

/-- The text of a value is a JSON text exactly if its floats are finite. -/
theorem isJsonText_dumps_iff (style : DumpStyle) (value : Json) :
    IsJsonText (dumps style value) ↔ value.isFinite = true := by
  constructor
  · rintro ⟨before, text, after, isBefore, derived, isAfter, isText⟩
    by_contra infinite
    rw [dumps, String.toList_ofList] at isText
    rcases ((ShowsNoName.blank isBefore).append derived.showsNoName).append
      (ShowsNoName.blank isAfter) with ⟨shown, shows, none⟩
    rcases reveals_dumpsText style value with ⟨others, reveals, named⟩
    have same : shown = others := by
      have first := shows []
      have second := reveals []
      rw [isText, first] at second
      simpa [outside] using second
    have some := named (Bool.eq_false_of_not_eq_true infinite)
    rw [← same, List.any_eq_true] at some
    rcases some with ⟨letter, member, isLetter⟩
    have noLetter := List.all_eq_true.mp none letter member
    rw [isLetter] at noLetter
    cases noLetter
  · intro finite
    refine ⟨[], dumpsText style value, [], rfl,
      derives_dumpsText style value finite, rfl, ?_⟩
    rw [dumps, String.toList_ofList, List.nil_append, List.append_nil]

end Foundation.JsonText
