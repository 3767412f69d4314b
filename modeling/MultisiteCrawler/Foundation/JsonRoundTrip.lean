import MultisiteCrawler.Foundation.JsonText
import Mathlib.Data.List.TakeWhile

/-!
# Reading back encoded JSON

The decoder of `JsonText` undoes its encoder.  The proof follows the grammar:
characters and their escapes, number literals, and then values, items and
members by a mutual induction.  In that induction the decoder is given more
fuel than the encoded text has characters, and what follows a value must not
continue a number.
-/

namespace Foundation.JsonText

/-! ## Strings -/

theorem hexValue_hexDigit (value : ℕ) (small : value < 16) :
    hexValue (hexDigit value) = some value := by
  interval_cases value <;> decide

theorem readHexFour_hexFour
    (value : ℕ) (small : value < 65536) (rest : List Char) :
    readHexFour (hexFour value ++ rest) = some (value, rest) := by
  have high : value / 4096 % 16 < 16 := Nat.mod_lt _ (by decide)
  have second : value / 256 % 16 < 16 := Nat.mod_lt _ (by decide)
  have third : value / 16 % 16 < 16 := Nat.mod_lt _ (by decide)
  have low : value % 16 < 16 := Nat.mod_lt _ (by decide)
  simp only [hexFour, List.cons_append, List.nil_append, readHexFour,
    hexValue_hexDigit _ high, hexValue_hexDigit _ second,
    hexValue_hexDigit _ third, hexValue_hexDigit _ low,
    Option.bind_eq_bind, Option.bind_some, Option.some.injEq,
    Prod.mk.injEq, and_true]
  omega

theorem scalar_toNat (character : Char) :
    scalar character.toNat = some character := by
  have valid : character.toNat.isValidChar := character.valid
  rw [scalar, dif_pos valid]
  congr 1

/-- A surrogate pair denotes the code point its halves encode. -/
theorem readUnicode_pair
    (high low : ℕ) (character : Char) (rest : List Char)
    (highRange : 55296 ≤ high ∧ high ≤ 56319)
    (lowRange : 56320 ≤ low ∧ low ≤ 57343)
    (joined :
      65536 + (high - 55296) * 1024 + (low - 56320) = character.toNat) :
    readUnicode
        (hexFour high ++ '\\' :: 'u' :: hexFour low ++ rest) =
      some (character, rest) := by
  have highSmall : high < 65536 := by omega
  have lowSmall : low < 65536 := by omega
  rw [List.append_assoc, readUnicode, readHexFour_hexFour _ highSmall]
  simp only [Option.bind_eq_bind, Option.bind_some, if_pos highRange,
    List.cons_append, readHexFour_hexFour _ lowSmall, if_pos lowRange,
    joined, scalar_toNat]

theorem readUnicode_basic
    (character : Char) (rest : List Char)
    (basic : character.toNat < 65536) :
    readUnicode (hexFour character.toNat ++ rest) =
      some (character, rest) := by
  have notHigh :
      ¬ (55296 ≤ character.toNat ∧ character.toNat ≤ 56319) := by
    rcases character.valid with low | ⟨high, _⟩
    · exact fun range => absurd low (by simpa using range.1)
    · exact fun range => absurd high (by simpa using by omega)
  rw [readUnicode, readHexFour_hexFour _ basic]
  simp only [Option.bind_eq_bind, Option.bind_some, if_neg notHigh,
    scalar_toNat]

theorem readUnicode_unicodeEscape
    (character : Char) (rest : List Char) :
    readUnicode ((unicodeEscape character).drop 2 ++ rest) =
      some (character, rest) := by
  by_cases basic : character.toNat < 65536
  · rw [unicodeEscape, if_pos basic]
    exact readUnicode_basic character rest basic
  · have bound : character.toNat < 1114112 := by
      rcases character.valid with low | ⟨_, bound⟩
      · exact (basic (Nat.lt_trans low (by decide))).elim
      · exact bound
    rw [unicodeEscape, if_neg basic]
    apply readUnicode_pair
    all_goals omega

/-- Reading an escaped character returns it. -/
theorem readString_escapeChar
    (ensureAscii : Bool) (character : Char)
    (fuel : ℕ) (rest : List Char) :
    readString (fuel + 1) (escapeChar ensureAscii character ++ rest) =
      (readString fuel rest).map
        (fun result => (character :: result.1, result.2)) := by
  have escaped :
      ∀ (body : List Char),
        readEscape (body ++ rest) = some (character, rest) →
        readString (fuel + 1) ('\\' :: body ++ rest) =
          (readString fuel rest).map
            (fun result => (character :: result.1, result.2)) := by
    intro body decoded
    rw [List.cons_append, readString, if_neg (by decide), if_pos rfl,
      decoded]
    simp only [Option.bind_eq_bind, Option.bind_some]
    cases readString fuel rest <;> rfl
  rw [escapeChar]
  by_cases quote : character = '"'
  · subst quote
    exact escaped ['"'] rfl
  rw [if_neg quote]
  by_cases backslash : character = '\\'
  · subst backslash
    exact escaped ['\\'] rfl
  rw [if_neg backslash]
  by_cases newline : character = '\n'
  · subst newline
    exact escaped ['n'] rfl
  rw [if_neg newline]
  by_cases carriage : character = '\r'
  · subst carriage
    exact escaped ['r'] rfl
  rw [if_neg carriage]
  by_cases tab : character = '\t'
  · subst tab
    exact escaped ['t'] rfl
  rw [if_neg tab]
  by_cases formFeed : character = Char.ofNat 12
  · subst formFeed
    exact escaped ['f'] rfl
  rw [if_neg formFeed]
  by_cases backspace : character = Char.ofNat 8
  · subst backspace
    exact escaped ['b'] rfl
  rw [if_neg backspace]
  split_ifs with control
  · have shape :
        unicodeEscape character =
          '\\' :: ('u' :: (unicodeEscape character).drop 2) := by
      unfold unicodeEscape
      split_ifs <;> rfl
    rw [shape]
    exact escaped _ (readUnicode_unicodeEscape character rest)
  · rw [List.singleton_append, readString, if_neg quote,
      if_neg backslash, if_neg (fun low => control (Or.inl low))]
    cases readString fuel rest <;> rfl

theorem escapeChar_length_pos
    (ensureAscii : Bool) (character : Char) :
    0 < (escapeChar ensureAscii character).length := by
  -- Nothing in front of the closing quote would read as no characters.
  have reads := readString_escapeChar ensureAscii character 1 ['"']
  rw [List.length_pos_iff]
  intro empty
  rw [empty] at reads
  cases reads

theorem readString_flatMap
    (ensureAscii : Bool) (characters : List Char)
    (fuel : ℕ) (enough : characters.length < fuel)
    (rest : List Char) :
    readString fuel
        (characters.flatMap (escapeChar ensureAscii) ++ '"' :: rest) =
      some (characters, rest) := by
  induction characters generalizing fuel with
  | nil =>
      rcases Nat.exists_eq_succ_of_ne_zero
          (Nat.ne_of_gt enough) with
        ⟨fuel, rfl⟩
      simp [readString]
  | cons head tail induction =>
      rcases Nat.exists_eq_succ_of_ne_zero
          (Nat.ne_of_gt (Nat.zero_lt_of_lt enough)) with
        ⟨fuel, rfl⟩
      rw [List.flatMap_cons, List.append_assoc, Nat.succ_eq_add_one,
        readString_escapeChar,
        induction fuel (by simpa using enough)]
      rfl

theorem length_le_flatMap_escapeChar
    (ensureAscii : Bool) (characters : List Char) :
    characters.length ≤
      (characters.flatMap (escapeChar ensureAscii)).length := by
  induction characters with
  | nil => simp
  | cons head tail induction =>
      have positive := escapeChar_length_pos ensureAscii head
      rw [List.flatMap_cons, List.length_append, List.length_cons]
      omega

/-- A quoted string is read back, its opening quote already consumed. -/
theorem readQuoted_stringText
    (style : DumpStyle) (value : String) (rest : List Char) :
    readQuoted ((stringText style value).tail ++ rest) =
      some (value, rest) := by
  have bound :=
    length_le_flatMap_escapeChar style.ensureAscii value.toList
  have text :
      (stringText style value).tail ++ rest =
        value.toList.flatMap (escapeChar style.ensureAscii) ++
          '"' :: rest := by
    simp [stringText]
  rw [text, readQuoted, readString_flatMap]
  · simp
  · rw [List.length_append, List.length_cons]
    omega

/-! ## Numbers -/

/-- Nothing which would continue a number follows. -/
def StopsNumber (rest : List Char) : Prop :=
  ∀ character ∈ rest.head?, isNumberChar character = false

theorem takeWhile_append_of_stops
    (text rest : List Char)
    (numeric : text.all isNumberChar = true)
    (stops : StopsNumber rest) :
    (text ++ rest).takeWhile isNumberChar = text := by
  rw [List.takeWhile_append_of_pos (by simpa using numeric)]
  cases rest with
  | nil => simp
  | cons head tail =>
      have headStops : isNumberChar head = false := stops head (by simp)
      simp [headStops]

theorem dropWhile_append_of_stops
    (text rest : List Char)
    (numeric : text.all isNumberChar = true)
    (stops : StopsNumber rest) :
    (text ++ rest).dropWhile isNumberChar = rest := by
  rw [List.dropWhile_append_of_pos (by simpa using numeric)]
  cases rest with
  | nil => simp
  | cons head tail =>
      have headStops : isNumberChar head = false := stops head (by simp)
      simp [headStops]

/-- A number literal followed by something else is read as that number. -/
theorem readNumber_append
    (text rest : List Char) (value : Json)
    (numeric : text.all isNumberChar = true)
    (denotes : numberOf text = some value)
    (stops : StopsNumber rest) :
    readNumber (text ++ rest) = some (value, rest) := by
  rw [readNumber, takeWhile_append_of_stops text rest numeric stops,
    dropWhile_append_of_stops text rest numeric stops, denotes]
  rfl

theorem numberOf_float (literal : FloatLiteral) :
    numberOf literal.text = some (.float literal) := by
  rw [numberOf, dif_pos literal.valid]

theorem isNumberChar_of_isDigit
    (character : Char) (digit : character.isDigit = true) :
    isNumberChar character = true := by
  simp [isNumberChar, digit]

theorem toDigits_all_isDigit (value : ℕ) :
    (Nat.toDigits 10 value).all Char.isDigit = true := by
  rw [List.all_eq_true]
  intro character member
  exact Nat.isDigit_of_mem_toDigits (by decide) (by decide) member

theorem toDigits_head_ne_zero (value : ℕ) (positive : 0 < value) :
    (Nat.toDigits 10 value).head? ≠ some '0' := by
  induction value using Nat.strongRecOn with
  | ind value induction =>
      by_cases single : value < 10
      · rw [Nat.toDigits_of_lt_base single]
        interval_cases value <;> decide
      · have quotient : 0 < value / 10 := Nat.div_pos (by omega) (by decide)
        have nonempty : Nat.toDigits 10 (value / 10) ≠ [] :=
          Nat.toDigits_ne_nil
        rw [Nat.toDigits_of_base_le (by decide) (by omega),
          List.head?_append_of_ne_nil _ nonempty]
        exact induction (value / 10) (by omega) quotient

/-- Decimal digits form an integer part. -/
theorem isIntegerPart_toDigits (value : ℕ) :
    isIntegerPart (Nat.toDigits 10 value) = true := by
  by_cases zero : value = 0
  · subst zero
    decide
  · have digits := toDigits_all_isDigit value
    have head := toDigits_head_ne_zero value (Nat.pos_of_ne_zero zero)
    cases text : Nat.toDigits 10 value with
    | nil => exact (Nat.toDigits_ne_nil text).elim
    | cons first rest =>
        rw [text] at digits head
        have notZero : first ≠ '0' := by simpa using head
        simp only [List.all_cons, Bool.and_eq_true] at digits
        unfold isIntegerPart
        split
        · rename_i impossible
          cases impossible
        · rfl
        · rename_i equal
          cases equal
          simp [digits.1, notZero, digits.2]

theorem isDigit_ne_of
    (character other : Char)
    (digit : character.isDigit = true) (letter : other.isDigit = false) :
    character ≠ other := by
  rintro rfl
  rw [digit] at letter
  cases letter

theorem unsigned_of_digits
    (text : List Char) (digits : text.all Char.isDigit = true) :
    unsigned text = text := by
  cases text with
  | nil => rfl
  | cons first rest =>
      have digit : first.isDigit = true := by
        simp only [List.all_cons, Bool.and_eq_true] at digits
        exact digits.1
      have notMinus : first ≠ '-' := isDigit_ne_of _ _ digit (by decide)
      unfold unsigned
      split
      · rename_i equal
        cases equal
        exact (notMinus rfl).elim
      · rfl

/-- Digits alone, signed or not, are not a float. -/
theorem isFloatLiteral_of_unsigned_digits
    (text : List Char)
    (digits : (unsigned text).all Char.isDigit = true) :
    isFloatLiteral text = false := by
  have noMarker :
      ∀ character ∈ unsigned text,
        (!isExponentMarker character) = true := by
    intro character member
    have digit := List.all_eq_true.mp digits character member
    have first := isDigit_ne_of character 'e' digit (by decide)
    have second := isDigit_ne_of character 'E' digit (by decide)
    simp [isExponentMarker, first, second]
  have noPoint :
      ∀ character ∈ unsigned text, (character != '.') = true := by
    intro character member
    have digit := List.all_eq_true.mp digits character member
    simpa using isDigit_ne_of character '.' digit (by decide)
  have mantissa :
      (unsigned text).takeWhile (fun c => !isExponentMarker c) =
        unsigned text :=
    List.takeWhile_eq_self_iff.mpr noMarker
  have exponent :
      (unsigned text).dropWhile (fun c => !isExponentMarker c) = [] :=
    List.dropWhile_eq_nil_iff.mpr noMarker
  have fraction :
      (unsigned text).dropWhile (· != '.') = [] :=
    List.dropWhile_eq_nil_iff.mpr noPoint
  simp [isFloatLiteral, mantissa, exponent, isMantissa, fraction, isDigits]

theorem unsigned_intText (value : ℤ) :
    unsigned (intText value) = Nat.toDigits 10 value.natAbs := by
  cases value with
  | ofNat magnitude =>
      exact unsigned_of_digits _ (toDigits_all_isDigit magnitude)
  | negSucc predecessor => rfl

theorem head?_intText_eq_minus_iff (value : ℤ) :
    (intText value).head? = some '-' ↔ value < 0 := by
  cases value with
  | ofNat magnitude =>
      have digits := toDigits_all_isDigit magnitude
      rw [intText]
      cases text : Nat.toDigits 10 magnitude with
      | nil => exact (Nat.toDigits_ne_nil text).elim
      | cons first rest =>
          rw [text] at digits
          simp only [List.all_cons, Bool.and_eq_true] at digits
          have notMinus : first ≠ '-' :=
            isDigit_ne_of _ _ digits.1 (by decide)
          simp [notMinus]
  | negSucc predecessor =>
      simp [intText, Int.negSucc_lt_zero]

/-- An integer text denotes its integer. -/
theorem numberOf_intText (value : ℤ) :
    numberOf (intText value) = some (.int value) := by
  have digits :
      (unsigned (intText value)).all Char.isDigit = true := by
    rw [unsigned_intText]
    exact toDigits_all_isDigit _
  have notFloat : ¬ isFloatLiteral (intText value) = true := by
    rw [isFloatLiteral_of_unsigned_digits _ digits]
    exact Bool.false_ne_true
  rw [numberOf, dif_neg notFloat, unsigned_intText,
    if_pos (isIntegerPart_toDigits _), Nat.ofDigitChars_ten_toDigits]
  by_cases negative : value < 0
  · simp only [(head?_intText_eq_minus_iff value).mpr negative, if_true]
    rw [Int.ofNat_natAbs_of_nonpos negative.le, neg_neg]
  · have sign : ¬ (intText value).head? = some '-' :=
      fun minus => negative ((head?_intText_eq_minus_iff value).mp minus)
    simp only [if_neg sign]
    rw [Int.natAbs_of_nonneg (not_lt.mp negative)]

theorem intText_all_isNumberChar (value : ℤ) :
    (intText value).all isNumberChar = true := by
  have digits :
      ∀ magnitude : ℕ,
        (Nat.toDigits 10 magnitude).all isNumberChar = true := by
    intro magnitude
    rw [List.all_eq_true]
    intro character member
    exact isNumberChar_of_isDigit character
      (List.all_eq_true.mp (toDigits_all_isDigit magnitude) _ member)
  cases value with
  | ofNat magnitude => exact digits magnitude
  | negSucc predecessor =>
      rw [intText, List.all_cons, digits]
      rfl

theorem floatLiteral_all_isNumberChar (literal : FloatLiteral) :
    literal.text.all isNumberChar = true := by
  have valid := literal.valid
  simp only [isFloatLiteral, Bool.and_eq_true] at valid
  exact valid.1

/-! ## Recognising the kind of a value -/

/-- A text whose unsigned part begins with a digit starts a number. -/
theorem startsNumber_of_unsigned
    (text rest : List Char) (first : Char)
    (head : (unsigned text).head? = some first)
    (digit : first.isDigit = true) :
    startsNumber (text ++ rest) = true := by
  cases text with
  | nil => simp [unsigned] at head
  | cons sign tail =>
      by_cases minus : sign = '-'
      · subst minus
        cases tail with
        | nil => simp [unsigned] at head
        | cons next more =>
            have equal : next = first := by
              simpa [unsigned] using head
            subst equal
            exact digit
      · have equal : sign = first := by
          simpa [unsigned, minus] using head
        subst equal
        rw [List.cons_append]
        unfold startsNumber
        split
        · rename_i shape
          simp only [List.cons.injEq] at shape
          exact (minus shape.1).elim
        · rename_i shape
          simp only [List.cons.injEq] at shape
          rw [← shape.1]
          exact digit
        · rename_i shape
          cases shape

theorem head_isDigit_of_isIntegerPart
    (text : List Char) (valid : isIntegerPart text = true) :
    ∃ first rest, text = first :: rest ∧ first.isDigit = true := by
  unfold isIntegerPart at valid
  split at valid
  · cases valid
  · exact ⟨'0', [], rfl, by decide⟩
  · rename_i first rest _
    simp only [Bool.and_eq_true] at valid
    exact ⟨first, rest, rfl, valid.1.1⟩

theorem head_isDigit_of_isMantissa
    (text : List Char) (valid : isMantissa text = true) :
    ∃ first rest, text = first :: rest ∧ first.isDigit = true := by
  simp only [isMantissa, Bool.and_eq_true] at valid
  rcases head_isDigit_of_isIntegerPart _ valid.1 with
    ⟨first, rest, shape, digit⟩
  refine ⟨first, rest ++ text.dropWhile (· != '.'), ?_, digit⟩
  rw [← List.cons_append, ← shape, List.takeWhile_append_dropWhile]

theorem startsNumber_floatLiteral
    (literal : FloatLiteral) (rest : List Char) :
    startsNumber (literal.text ++ rest) = true := by
  have valid := literal.valid
  simp only [isFloatLiteral, Bool.and_eq_true] at valid
  have mantissa :
      ∃ first tail,
        (unsigned literal.text).takeWhile
            (fun c => !isExponentMarker c) = first :: tail ∧
          first.isDigit = true := by
    rcases valid with ⟨_, shape⟩
    split_ifs at shape with noExponent
    · exact head_isDigit_of_isMantissa _ shape
    · simp only [Bool.and_eq_true, Bool.or_eq_true] at shape
      rcases shape.2 with integer | fraction
      · exact head_isDigit_of_isIntegerPart _ integer
      · exact head_isDigit_of_isMantissa _ fraction
  rcases mantissa with ⟨first, tail, shape, digit⟩
  apply startsNumber_of_unsigned literal.text rest first _ digit
  rw [← List.takeWhile_append_dropWhile
    (p := fun c => !isExponentMarker c) (l := unsigned literal.text), shape]
  rfl

theorem startsNumber_intText (value : ℤ) (rest : List Char) :
    startsNumber (intText value ++ rest) = true := by
  rcases head_isDigit_of_isIntegerPart _
      (isIntegerPart_toDigits value.natAbs) with
    ⟨first, tail, shape, digit⟩
  apply startsNumber_of_unsigned _ rest first _ digit
  rw [unsigned_intText, shape]
  rfl

/-! ## The round trip -/

theorem readValue_number
    (text rest : List Char) (value : Json) (fuel : ℕ)
    (starts : startsNumber (text ++ rest) = true)
    (numeric : text.all isNumberChar = true)
    (denotes : numberOf text = some value)
    (enough : text.length < fuel)
    (stops : StopsNumber rest) :
    readValue fuel (text ++ rest) = some (value, rest) := by
  rcases Nat.exists_eq_succ_of_ne_zero
      (Nat.ne_of_gt (Nat.zero_lt_of_lt enough)) with
    ⟨fuel, rfl⟩
  unfold readValue
  rw [if_pos starts]
  exact readNumber_append text rest value numeric denotes stops

/-- The text of a value starts with neither whitespace nor a closing bracket. -/
theorem dumpsText_head (style : DumpStyle) (value : Json) :
    ∃ first tail,
      dumpsText style value = first :: tail ∧
        isSpace first = false ∧ first ≠ ']' := by
  have ofDigit :
      ∀ text : List Char,
        startsNumber (text ++ []) = true →
          ∃ first tail,
            text = first :: tail ∧ isSpace first = false ∧ first ≠ ']' := by
    intro text starts
    rw [List.append_nil] at starts
    cases text with
    | nil => cases starts
    | cons first tail =>
        refine ⟨first, tail, rfl, ?_⟩
        by_cases minus : first = '-'
        · subst minus
          decide
        · have digit : first.isDigit = true := by
            unfold startsNumber at starts
            split at starts
            · rename_i shape
              simp only [List.cons.injEq] at shape
              exact (minus shape.1).elim
            · rename_i shape
              simp only [List.cons.injEq] at shape
              rw [shape.1]
              exact starts
            · cases starts
          have space := isDigit_ne_of first ' ' digit (by decide)
          have tab := isDigit_ne_of first '\t' digit (by decide)
          have newline := isDigit_ne_of first '\n' digit (by decide)
          have carriage := isDigit_ne_of first '\r' digit (by decide)
          exact
            ⟨by simp [isSpace, space, tab, newline, carriage],
              isDigit_ne_of first ']' digit (by decide)⟩
  cases value with
  | null => exact ⟨'n', _, rfl, by decide, by decide⟩
  | bool value =>
      cases value
      · exact ⟨'f', _, rfl, by decide, by decide⟩
      · exact ⟨'t', _, rfl, by decide, by decide⟩
  | int value => exact ofDigit _ (startsNumber_intText value [])
  | float literal => exact ofDigit _ (startsNumber_floatLiteral literal [])
  | nonFinite value =>
      cases value
      · exact ⟨'N', _, rfl, by decide, by decide⟩
      · exact ⟨'I', _, rfl, by decide, by decide⟩
      · exact ⟨'-', _, rfl, by decide, by decide⟩
  | str value => exact ⟨'"', _, rfl, by decide, by decide⟩
  | arr items => exact ⟨'[', _, rfl, by decide, by decide⟩
  | obj members => exact ⟨'{', _, rfl, by decide, by decide⟩

theorem skipSpace_cons
    (first : Char) (tail : List Char) (solid : isSpace first = false) :
    skipSpace (first :: tail) = first :: tail := by
  simp [skipSpace, solid]

theorem skipSpace_dumpsText
    (style : DumpStyle) (value : Json) (rest : List Char) :
    skipSpace (dumpsText style value ++ rest) =
      dumpsText style value ++ rest := by
  rcases dumpsText_head style value with ⟨first, tail, shape, solid, _⟩
  rw [shape, List.cons_append, skipSpace_cons first _ solid]

/-- The items' text begins with the text of the first item. -/
theorem itemsText_cons (style : DumpStyle) (item : Json) (rest : List Json) :
    ∃ tail, itemsText style (item :: rest) = dumpsText style item ++ tail := by
  cases rest with
  | nil => exact ⟨[], by simp [itemsText]⟩
  | cons next rest =>
      exact ⟨_, by rw [itemsText, List.append_assoc]⟩

theorem skipSpace_itemsText
    (style : DumpStyle) (item : Json) (items : List Json)
    (rest : List Char) :
    skipSpace (itemsText style (item :: items) ++ rest) =
      itemsText style (item :: items) ++ rest := by
  rcases itemsText_cons style item items with ⟨tail, shape⟩
  rw [shape, List.append_assoc, skipSpace_dumpsText]

theorem membersText_cons
    (style : DumpStyle) (key : String) (value : Json)
    (rest : List (String × Json)) :
    ∃ tail,
      membersText style ((key, value) :: rest) =
        stringText style key ++ tail := by
  cases rest with
  | nil => exact ⟨_, by rw [membersText, List.append_assoc]⟩
  | cons next rest =>
      exact ⟨_, by rw [membersText]; simp only [List.append_assoc]; rfl⟩

theorem stringText_eq_cons (style : DumpStyle) (value : String) :
    stringText style value = '"' :: (stringText style value).tail := rfl

theorem skipSpace_membersText
    (style : DumpStyle) (key : String) (value : Json)
    (members : List (String × Json)) (rest : List Char) :
    skipSpace (membersText style ((key, value) :: members) ++ rest) =
      membersText style ((key, value) :: members) ++ rest := by
  rcases membersText_cons style key value members with ⟨tail, shape⟩
  rw [shape, stringText_eq_cons, List.cons_append, List.cons_append,
    skipSpace_cons _ _ (by decide)]

theorem skipSpace_itemSeparator
    (style : DumpStyle) (rest : List Char) :
    skipSpace (itemSeparator style ++ rest) =
      itemSeparator style ++ rest := by
  unfold itemSeparator
  split_ifs <;> exact skipSpace_cons _ _ (by decide)

theorem skipSpace_tail_itemSeparator
    (style : DumpStyle) (rest : List Char) :
    skipSpace ((itemSeparator style).tail ++ rest) = skipSpace rest := by
  unfold itemSeparator
  split_ifs <;> rfl

theorem skipSpace_tail_keySeparator
    (style : DumpStyle) (rest : List Char) :
    skipSpace ((keySeparator style).tail ++ rest) = skipSpace rest := by
  unfold keySeparator
  split_ifs <;> rfl

theorem itemSeparator_eq_cons (style : DumpStyle) :
    itemSeparator style = ',' :: (itemSeparator style).tail := by
  unfold itemSeparator
  split_ifs <;> rfl

theorem keySeparator_eq_cons (style : DumpStyle) :
    keySeparator style = ':' :: (keySeparator style).tail := by
  unfold keySeparator
  split_ifs <;> rfl

theorem stopsNumber_cons
    (first : Char) (rest : List Char)
    (stops : isNumberChar first = false) :
    StopsNumber (first :: rest) := by
  intro character member
  have equal : first = character := by simpa using member
  rw [← equal]
  exact stops

theorem stopsNumber_itemSeparator
    (style : DumpStyle) (rest : List Char) :
    StopsNumber (itemSeparator style ++ rest) := by
  rw [itemSeparator_eq_cons, List.cons_append]
  exact stopsNumber_cons _ _ (by decide)

theorem readValue_constant
    (text rest : List Char) (value : Json) (fuel : ℕ)
    (constant : readConstant (text ++ rest) = some (value, rest))
    (enough : text.length < fuel)
    (notNumber : startsNumber (text ++ rest) = false)
    (opening :
      ∀ first ∈ text.head?, first ≠ '"' ∧ first ≠ '[' ∧ first ≠ '{')
    (nonempty : text ≠ []) :
    readValue fuel (text ++ rest) = some (value, rest) := by
  rcases Nat.exists_eq_succ_of_ne_zero
      (Nat.ne_of_gt (Nat.zero_lt_of_lt enough)) with
    ⟨fuel, rfl⟩
  rcases List.exists_cons_of_ne_nil nonempty with ⟨first, tail, rfl⟩
  rcases opening first (by simp) with ⟨notQuote, notBracket, notBrace⟩
  unfold readValue
  rw [notNumber, if_neg Bool.false_ne_true]
  simp only [List.cons_append] at constant ⊢
  split
  · rename_i shape
    simp only [List.cons.injEq] at shape
    exact (notQuote shape.1).elim
  · rename_i shape
    simp only [List.cons.injEq] at shape
    exact (notBracket shape.1).elim
  · rename_i shape
    simp only [List.cons.injEq] at shape
    exact (notBrace shape.1).elim
  · exact constant

theorem readValue_string
    (style : DumpStyle) (value : String) (fuel : ℕ) (rest : List Char) :
    readValue (fuel + 1) (stringText style value ++ rest) =
      some (.str value, rest) := by
  rw [stringText_eq_cons, List.cons_append]
  unfold readValue
  rw [if_neg (by simp [startsNumber])]
  simp only [readQuoted_stringText, Option.bind_eq_bind, Option.bind_some]

theorem readValue_array
    (items : List Json) (text rest : List Char) (fuel : ℕ)
    (solid : skipSpace (text ++ ']' :: rest) = text ++ ']' :: rest)
    (notEmpty : text.head? ≠ some ']')
    (nonempty : text ≠ [])
    (read :
      readItems fuel (text ++ ']' :: rest) = some (items, rest)) :
    readValue (fuel + 1) ('[' :: text ++ ']' :: rest) =
      some (.arr items, rest) := by
  rcases List.exists_cons_of_ne_nil nonempty with ⟨first, tail, rfl⟩
  rw [List.cons_append]
  unfold readValue
  rw [if_neg (by simp [startsNumber])]
  simp only [solid]
  split
  · rename_i shape
    simp only [List.cons_append, List.cons.injEq] at shape
    exact (notEmpty (by simp [shape.1])).elim
  · rw [read]
    rfl

theorem readValue_object
    (members : List (String × Json)) (text rest : List Char) (fuel : ℕ)
    (distinct : (members.map Prod.fst).Nodup)
    (solid : skipSpace (text ++ '}' :: rest) = text ++ '}' :: rest)
    (notEmpty : text.head? ≠ some '}')
    (nonempty : text ≠ [])
    (read :
      readMembers fuel (text ++ '}' :: rest) = some (members, rest)) :
    readValue (fuel + 1) ('{' :: text ++ '}' :: rest) =
      some (.obj members, rest) := by
  rcases List.exists_cons_of_ne_nil nonempty with ⟨first, tail, rfl⟩
  rw [List.cons_append]
  unfold readValue
  rw [if_neg (by simp [startsNumber])]
  simp only [solid]
  split
  · rename_i shape
    simp only [List.cons_append, List.cons.injEq] at shape
    exact (notEmpty (by simp [shape.1])).elim
  · rw [read]
    simp only [Option.bind_eq_bind, Option.bind_some,
      dictOf_of_nodup members distinct]

theorem dumpsText_length_pos (style : DumpStyle) (value : Json) :
    0 < (dumpsText style value).length := by
  rcases dumpsText_head style value with ⟨first, tail, shape, _⟩
  simp [shape]

mutual

/-- A value followed by something which ends it is read back. -/
theorem readValue_dumpsText (style : DumpStyle) :
    ∀ (value : Json) (fuel : ℕ) (rest : List Char),
      value.UniqueKeys →
      (dumpsText style value).length < fuel →
      StopsNumber rest →
      readValue fuel (dumpsText style value ++ rest) = some (value, rest)
  | .null, fuel, rest, _, enough, _ =>
      readValue_constant ['n', 'u', 'l', 'l'] rest _ fuel
        rfl enough rfl (by rintro first ⟨⟩; decide) (by decide)
  | .bool true, fuel, rest, _, enough, _ =>
      readValue_constant ['t', 'r', 'u', 'e'] rest _ fuel
        rfl enough rfl (by rintro first ⟨⟩; decide) (by decide)
  | .bool false, fuel, rest, _, enough, _ =>
      readValue_constant ['f', 'a', 'l', 's', 'e'] rest _ fuel
        rfl enough rfl (by rintro first ⟨⟩; decide) (by decide)
  | .nonFinite .nan, fuel, rest, _, enough, _ =>
      readValue_constant (nonFiniteText .nan) rest _ fuel
        rfl enough rfl (by rintro first ⟨⟩; decide) (by decide)
  | .nonFinite .infinity, fuel, rest, _, enough, _ =>
      readValue_constant (nonFiniteText .infinity) rest _ fuel
        rfl enough rfl (by rintro first ⟨⟩; decide) (by decide)
  | .nonFinite .negativeInfinity, fuel, rest, _, enough, _ =>
      readValue_constant (nonFiniteText .negativeInfinity) rest _ fuel
        rfl enough rfl (by rintro first ⟨⟩; decide) (by decide)
  | .int value, fuel, rest, _, enough, stops =>
      readValue_number _ rest _ fuel (startsNumber_intText value rest)
        (intText_all_isNumberChar value) (numberOf_intText value)
        enough stops
  | .float literal, fuel, rest, _, enough, stops =>
      readValue_number _ rest _ fuel
        (startsNumber_floatLiteral literal rest)
        (floatLiteral_all_isNumberChar literal)
        (numberOf_float literal) enough stops
  | .str value, 0, rest, _, enough, _ => (Nat.not_lt_zero _ enough).elim
  | .str value, fuel + 1, rest, _, _, _ =>
      readValue_string style value fuel rest
  | .arr items, 0, rest, _, enough, _ => (Nat.not_lt_zero _ enough).elim
  | .arr [], fuel + 1, rest, _, _, _ => by
      rw [dumpsText, itemsText, List.cons_append]
      unfold readValue
      rw [if_neg (by simp [startsNumber])]
      simp [skipSpace, isSpace]
  | .arr (item :: items), fuel + 1, rest, unique, enough, _ => by
      rcases dumpsText_head style item with ⟨first, tail, shape, _, notClose⟩
      rcases itemsText_cons style item items with ⟨more, text⟩
      have head :
          itemsText style (item :: items) = first :: (tail ++ more) := by
        rw [text, shape, List.cons_append]
      rw [dumpsText, List.append_assoc, List.singleton_append]
      apply readValue_array
      · exact skipSpace_itemsText style item items _
      · simp [head, notClose]
      · simp [head]
      · apply readItems_itemsText style item items fuel rest unique
        simp only [dumpsText, List.cons_append, List.length_cons,
          List.length_append, List.length_nil] at enough
        omega
  | .obj members, 0, rest, _, enough, _ =>
      (Nat.not_lt_zero _ enough).elim
  | .obj [], fuel + 1, rest, _, _, _ => by
      rw [dumpsText, membersText, List.cons_append]
      unfold readValue
      rw [if_neg (by simp [startsNumber])]
      simp [skipSpace, isSpace]
  | .obj ((key, value) :: members), fuel + 1, rest, unique, enough, _ => by
      rcases membersText_cons style key value members with ⟨more, text⟩
      have head :
          membersText style ((key, value) :: members) =
            '"' :: ((stringText style key).tail ++ more) := by
        rw [text, stringText_eq_cons, List.cons_append]
        rfl
      rw [dumpsText, List.append_assoc, List.singleton_append]
      apply readValue_object
      · exact unique.1
      · exact skipSpace_membersText style key value members _
      · simp [head]
      · simp [head]
      · apply readMembers_membersText style key value members fuel rest
          unique.2
        simp only [dumpsText, List.cons_append, List.length_cons,
          List.length_append, List.length_nil] at enough
        omega

/-- A nonempty sequence of items is read back up to its bracket. -/
theorem readItems_itemsText (style : DumpStyle) :
    ∀ (item : Json) (items : List Json) (fuel : ℕ) (rest : List Char),
      uniqueKeysItems (item :: items) →
      (itemsText style (item :: items)).length + 1 < fuel →
      readItems fuel (itemsText style (item :: items) ++ ']' :: rest) =
        some (item :: items, rest)
  | item, [], fuel + 1, rest, unique, enough => by
      have read :=
        readValue_dumpsText style item fuel (']' :: rest) unique.1
          (by simp only [itemsText] at enough; omega)
          (stopsNumber_cons _ _ (by decide))
      rw [itemsText, readItems, read]
      simp [skipSpace, isSpace]
  | item, next :: items, fuel + 1, rest, unique, enough => by
      have positive := dumpsText_length_pos style item
      simp only [itemsText, List.length_append] at enough
      have first :=
        readValue_dumpsText style item fuel
          (itemSeparator style ++
            (itemsText style (next :: items) ++ ']' :: rest))
          unique.1 (by omega) (stopsNumber_itemSeparator style _)
      have others :=
        readItems_itemsText style next items fuel rest unique.2 (by omega)
      rw [itemsText, List.append_assoc, List.append_assoc, readItems,
        first]
      simp only [Option.bind_eq_bind, Option.bind_some,
        skipSpace_itemSeparator]
      rw [itemSeparator_eq_cons, List.cons_append]
      simp only [skipSpace_tail_itemSeparator, skipSpace_itemsText, others,
        Option.bind_some]

/-- A nonempty sequence of members is read back up to its brace. -/
theorem readMembers_membersText (style : DumpStyle) :
    ∀ (key : String) (value : Json) (members : List (String × Json))
      (fuel : ℕ) (rest : List Char),
      uniqueKeysMembers ((key, value) :: members) →
      (membersText style ((key, value) :: members)).length + 1 < fuel →
      readMembers fuel
          (membersText style ((key, value) :: members) ++ '}' :: rest) =
        some ((key, value) :: members, rest)
  | key, value, [], fuel + 1, rest, unique, enough => by
      simp only [membersText, List.length_append] at enough
      have read :=
        readValue_dumpsText style value fuel ('}' :: rest) unique.1
          (by omega) (stopsNumber_cons _ _ (by decide))
      rw [membersText, List.append_assoc, List.append_assoc,
        stringText_eq_cons, List.cons_append, readMembers]
      simp only [readQuoted_stringText, Option.bind_eq_bind,
        Option.bind_some]
      rw [keySeparator_eq_cons, List.cons_append,
        skipSpace_cons _ _ (by decide)]
      simp only [skipSpace_tail_keySeparator, skipSpace_dumpsText, read,
        Option.bind_some, skipSpace_cons '}' _ (by decide)]
  | key, value, (name, next) :: members, fuel + 1, rest, unique, enough => by
      have positive := dumpsText_length_pos style value
      simp only [membersText, List.length_append] at enough
      have first :=
        readValue_dumpsText style value fuel
          (itemSeparator style ++
            (membersText style ((name, next) :: members) ++ '}' :: rest))
          unique.1 (by omega) (stopsNumber_itemSeparator style _)
      have others :=
        readMembers_membersText style name next members fuel rest unique.2
          (by omega)
      rw [membersText, List.append_assoc, List.append_assoc,
        List.append_assoc, List.append_assoc, stringText_eq_cons,
        List.cons_append, readMembers]
      simp only [readQuoted_stringText, Option.bind_eq_bind,
        Option.bind_some]
      rw [keySeparator_eq_cons, List.cons_append,
        skipSpace_cons _ _ (by decide)]
      simp only [skipSpace_tail_keySeparator, skipSpace_dumpsText, first,
        Option.bind_some, skipSpace_itemSeparator]
      rw [itemSeparator_eq_cons, List.cons_append]
      simp only [skipSpace_tail_itemSeparator, skipSpace_membersText,
        others, Option.bind_some]

end

/-- `json.loads` reads back whatever `json.dumps` wrote. -/
theorem loads_dumps
    (style : DumpStyle) (value : Json) (unique : value.UniqueKeys) :
    loads (dumps style value) = some value := by
  have read :=
    readValue_dumpsText style value
      ((dumpsText style value).length + 1) [] unique
      (Nat.lt_succ_self _) (fun _ member => by simp at member)
  have solid := skipSpace_dumpsText style value []
  rw [List.append_nil] at read solid
  rw [loads, dumps, String.toList_ofList, solid, read]
  rfl

end Foundation.JsonText
