import MultisiteCrawler.Foundation.JsonText

/-!
# Encoded JSON is one line

`json.dumps` escapes control characters, so its text has none, whatever the
strings inside are: it has no line breaks.
-/

namespace Foundation.JsonText

/-- A text without the control characters before the space. -/
def IsOneLine (text : List Char) : Prop :=
  ∀ character ∈ text, 32 ≤ character.toNat

instance (text : List Char) : Decidable (IsOneLine text) :=
  List.decidableBAll _ _

namespace IsOneLine

variable {text other : List Char} {character : Char}

theorem nil : IsOneLine [] := by
  intro character member
  cases member

theorem cons (visible : 32 ≤ character.toNat) (rest : IsOneLine text) :
    IsOneLine (character :: text) := by
  intro next member
  rcases List.mem_cons.mp member with rfl | inRest
  · exact visible
  · exact rest next inRest

theorem append (first : IsOneLine text) (second : IsOneLine other) :
    IsOneLine (text ++ other) := by
  intro character member
  rcases List.mem_append.mp member with inFirst | inSecond
  · exact first character inFirst
  · exact second character inSecond

theorem flatMap
    {pieces : Char → List Char}
    (each : ∀ character, IsOneLine (pieces character))
    (text : List Char) : IsOneLine (text.flatMap pieces) := by
  intro character member
  rcases List.mem_flatMap.mp member with ⟨original, _, inPiece⟩
  exact each original character inPiece

/-- A text without control characters has no line break. -/
theorem not_mem (oneLine : IsOneLine text) : '\n' ∉ text := by
  intro member
  exact absurd (oneLine '\n' member) (by decide)

end IsOneLine

/-! ## Scalars -/

theorem hexDigit_visible {value : ℕ} (small : value < 16) :
    32 ≤ (hexDigit value).toNat := by
  interval_cases value <;> decide

theorem isOneLine_hexFour (value : ℕ) : IsOneLine (hexFour value) := by
  have digit (part : ℕ) : 32 ≤ (hexDigit (part % 16)).toNat :=
    hexDigit_visible (Nat.mod_lt _ (by decide))
  exact .cons (digit _) (.cons (digit _) (.cons (digit _)
    (.cons (digit _) .nil)))

theorem isOneLine_unicodeEscape (character : Char) :
    IsOneLine (unicodeEscape character) := by
  have escape (value : ℕ) : IsOneLine ('\\' :: 'u' :: hexFour value) :=
    .cons (by decide) (.cons (by decide) (isOneLine_hexFour value))
  unfold unicodeEscape
  split_ifs with basic
  · exact escape _
  · exact (escape _).append (escape _)

theorem isOneLine_escapeChar (ensureAscii : Bool) (character : Char) :
    IsOneLine (escapeChar ensureAscii character) := by
  have escape {letter : Char} (visible : 32 ≤ letter.toNat) :
      IsOneLine ['\\', letter] :=
    .cons (by decide) (.cons visible .nil)
  unfold escapeChar
  split_ifs with quote backslash newline carriage tab formFeed backspace control
  · exact escape (by decide)
  · exact escape (by decide)
  · exact escape (by decide)
  · exact escape (by decide)
  · exact escape (by decide)
  · exact escape (by decide)
  · exact escape (by decide)
  · exact isOneLine_unicodeEscape character
  · rw [not_or, not_lt] at control
    exact .cons control.1 .nil

theorem isOneLine_stringText (style : DumpStyle) (value : String) :
    IsOneLine (stringText style value) := by
  have inside :
      IsOneLine (value.toList.flatMap (escapeChar style.ensureAscii)) :=
    .flatMap (isOneLine_escapeChar _) _
  exact (inside.cons (by decide)).append (.cons (by decide) .nil)

theorem visible_of_isDigit
    {character : Char} (digit : character.isDigit = true) :
    32 ≤ character.toNat := by
  rw [Char.isDigit, Bool.and_eq_true, decide_eq_true_eq, decide_eq_true_eq]
    at digit
  have atLeast : 48 ≤ character.toNat := digit.1
  omega

theorem isOneLine_intText (value : ℤ) : IsOneLine (intText value) := by
  have digits (magnitude : ℕ) : IsOneLine (Nat.toDigits 10 magnitude) := by
    intro character member
    exact visible_of_isDigit
      (Nat.isDigit_of_mem_toDigits (by decide) (by decide) member)
  cases value with
  | ofNat magnitude => exact digits magnitude
  | negSucc predecessor => exact (digits _).cons (by decide)

theorem visible_of_isNumberChar
    {character : Char} (isNumber : isNumberChar character = true) :
    32 ≤ character.toNat := by
  unfold isNumberChar at isNumber
  simp only [Bool.or_eq_true, beq_iff_eq] at isNumber
  rcases isNumber with ((((digit | rfl) | rfl) | rfl) | rfl) | rfl
  · exact visible_of_isDigit digit
  · decide
  · decide
  · decide
  · decide
  · decide

theorem isOneLine_floatLiteral (literal : FloatLiteral) :
    IsOneLine literal.text := by
  have valid := literal.valid
  rw [isFloatLiteral, Bool.and_eq_true, List.all_eq_true] at valid
  intro character member
  exact visible_of_isNumberChar (valid.1 character member)

theorem isOneLine_itemSeparator (style : DumpStyle) :
    IsOneLine (itemSeparator style) := by
  unfold itemSeparator
  split_ifs
  · exact .cons (by decide) .nil
  · exact .cons (by decide) (.cons (by decide) .nil)

theorem isOneLine_keySeparator (style : DumpStyle) :
    IsOneLine (keySeparator style) := by
  unfold keySeparator
  split_ifs
  · exact .cons (by decide) .nil
  · exact .cons (by decide) (.cons (by decide) .nil)

/-! ## Values -/

mutual

/-- The text of a value has no control characters. -/
theorem isOneLine_dumpsText (style : DumpStyle) :
    (value : Json) → IsOneLine (dumpsText style value)
  | .null => by
      show IsOneLine ['n', 'u', 'l', 'l']
      decide
  | .bool true => by
      show IsOneLine ['t', 'r', 'u', 'e']
      decide
  | .bool false => by
      show IsOneLine ['f', 'a', 'l', 's', 'e']
      decide
  | .nonFinite value => by
      show IsOneLine (nonFiniteText value)
      cases value <;> decide
  | .int value => isOneLine_intText value
  | .float literal => isOneLine_floatLiteral literal
  | .str value => isOneLine_stringText style value
  | .arr items =>
      ((isOneLine_itemsText style items).cons (by decide)).append
        (.cons (by decide) .nil)
  | .obj members =>
      ((isOneLine_membersText style members).cons (by decide)).append
        (.cons (by decide) .nil)

theorem isOneLine_itemsText (style : DumpStyle) :
    (items : List Json) → IsOneLine (itemsText style items)
  | [] => .nil
  | [item] => isOneLine_dumpsText style item
  | item :: next :: rest =>
      ((isOneLine_dumpsText style item).append
        (isOneLine_itemSeparator style)).append
          (isOneLine_itemsText style (next :: rest))

theorem isOneLine_membersText (style : DumpStyle) :
    (members : List (String × Json)) → IsOneLine (membersText style members)
  | [] => .nil
  | [(key, value)] =>
      ((isOneLine_stringText style key).append
        (isOneLine_keySeparator style)).append
          (isOneLine_dumpsText style value)
  | (key, value) :: next :: rest =>
      ((((isOneLine_stringText style key).append
        (isOneLine_keySeparator style)).append
          (isOneLine_dumpsText style value)).append
            (isOneLine_itemSeparator style)).append
              (isOneLine_membersText style (next :: rest))

end

end Foundation.JsonText
