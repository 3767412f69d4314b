import MultisiteCrawler.Foundation.JsonGrammar
import MultisiteCrawler.Foundation.PythonFloats

/-!
# Floats in JSON documents

How `json` reads and writes floats.  A literal beyond the range of floats is
read as an infinity, and the three floats which are not finite are read and
written as names.  A finite float is written as a literal which is read as the
same float.
-/

namespace Foundation.JsonNumbers

open Foundation.JsonText
open Foundation.PythonFloats

/-- Floats which are read from documents and written to them. -/
structure JsonFloats (Number : Type) extends FloatArithmetic Number where
  /-- The float of a literal. -/
  read : FloatLiteral → Number
  /-- The float with a name. -/
  readName : NonFinite → Number
  /-- `value < 0`. -/
  isNegative : Number → Bool
  /-- The literal of a float, or its name. -/
  write : Number → FloatLiteral ⊕ NonFinite
  read_write : ∀ number literal, write number = .inl literal →
    read literal = number
  write_readName : ∀ name, write (readName name) = .inr name
  write_nearest : ∀ value number, nearest value = some number →
    (write number).isLeft = true

section Documents

variable {Number : Type} (floats : JsonFloats Number)

/-- What `json.dumps` writes for a float. -/
def JsonFloats.toJson (number : Number) : Json :=
  match floats.write number with
  | .inl literal => .float literal
  | .inr name => .nonFinite name

/-- `math.isfinite`. -/
def JsonFloats.isFinite (number : Number) : Bool :=
  (floats.write number).isLeft

/-- The float of a value which is a float. -/
def JsonFloats.ofJson : Json → Option Number
  | .float literal => some (floats.read literal)
  | .nonFinite name => some (floats.readName name)
  | _ => none

variable {floats}

theorem isFinite_toJson (number : Number) :
    (floats.toJson number).isFinite = floats.isFinite number := by
  rw [JsonFloats.toJson, JsonFloats.isFinite]
  cases floats.write number <;> rfl

/-- A finite float is read back. -/
theorem ofJson_toJson {number : Number}
    (finite : floats.isFinite number = true) :
    floats.ofJson (floats.toJson number) = some number := by
  rw [JsonFloats.isFinite] at finite
  rw [JsonFloats.toJson]
  cases isWritten : floats.write number with
  | inl literal =>
      exact congrArg some (floats.read_write number literal isWritten)
  | inr name =>
      rw [isWritten] at finite
      cases finite

theorem isFinite_of_rounded
    {value : ℚ} {number : Number}
    (rounded : floats.rounded value = .ok number) :
    floats.isFinite number = true := by
  rw [FloatArithmetic.rounded] at rounded
  cases isNearest : floats.nearest value with
  | none =>
      rw [isNearest] at rounded
      cases rounded
  | some nearest =>
      rw [isNearest] at rounded
      cases rounded
      exact floats.write_nearest value number isNearest

end Documents

/-! ## Floats as literals -/

/-- The number after the marker of an exponent. -/
def exponentValue : List Char → ℤ
  | '-' :: digits => -(Nat.ofDigitChars 10 digits 0 : ℕ)
  | '+' :: digits => (Nat.ofDigitChars 10 digits 0 : ℕ)
  | digits => (Nat.ofDigitChars 10 digits 0 : ℕ)

/-- The number a literal denotes. -/
def literalValue (literal : FloatLiteral) : ℚ :=
  let body := unsigned literal.text
  let mantissa := body.takeWhile (fun c => !isExponentMarker c)
  let exponent := (body.dropWhile (fun c => !isExponentMarker c)).drop 1
  let whole := mantissa.takeWhile (· != '.')
  let fraction := (mantissa.dropWhile (· != '.')).drop 1
  let magnitude : ℚ :=
    (Nat.ofDigitChars 10 (whole ++ fraction) 0 : ℕ) *
      10 ^ (exponentValue exponent - fraction.length)
  if literal.text.head? = some '-' then -magnitude else magnitude

/-- A natural number and tenths of it. -/
def tenthsText (whole tenths : ℕ) : List Char :=
  Nat.toDigits 10 whole ++ ['.', (tenths % 10).digitChar]

theorem isDigit_tenths (tenths : ℕ) :
    ((tenths % 10).digitChar).isDigit = true := by
  have small : tenths % 10 < 10 := Nat.mod_lt _ (by decide)
  generalize tenths % 10 = digit at small
  interval_cases digit <;> decide

/-- Digits, a point and a digit are a float. -/
theorem isFloatLiteral_tenthsText (whole tenths : ℕ) :
    isFloatLiteral (tenthsText whole tenths) = true := by
  have digits := List.all_eq_true.mp (toDigits_all_isDigit whole)
  have tenth := isDigit_tenths tenths
  have chars : ∀ c ∈ tenthsText whole tenths, c.isDigit = true ∨ c = '.' := by
    intro c member
    rw [tenthsText] at member
    simp only [List.mem_append, List.mem_cons, List.not_mem_nil, or_false]
      at member
    rcases member with isWhole | rfl | rfl
    · exact Or.inl (digits c isWhole)
    · exact Or.inr rfl
    · exact Or.inl tenth
  have noMarker :
      ∀ c ∈ tenthsText whole tenths, (!isExponentMarker c) = true := by
    intro c member
    rcases chars c member with digit | rfl
    · have first := isDigit_ne_of c 'e' digit (by decide)
      have second := isDigit_ne_of c 'E' digit (by decide)
      simp [isExponentMarker, first, second]
    · decide
  have noSign :
      unsigned (tenthsText whole tenths) = tenthsText whole tenths := by
    cases text : tenthsText whole tenths with
    | nil => rfl
    | cons first rest =>
        have notMinus : first ≠ '-' := by
          rcases chars first (text ▸ List.mem_cons_self) with digit | rfl
          · exact isDigit_ne_of first '-' digit (by decide)
          · decide
        unfold unsigned
        split
        · rename_i equal
          cases equal
          exact (notMinus rfl).elim
        · rfl
  have noPoint : ∀ c ∈ Nat.toDigits 10 whole, (c != '.') = true := by
    intro c member
    simpa using isDigit_ne_of c '.' (digits c member) (by decide)
  have mantissa : isMantissa (tenthsText whole tenths) = true := by
    rw [isMantissa, tenthsText, List.takeWhile_append_of_pos noPoint,
      List.dropWhile_append_of_pos noPoint]
    simp [isIntegerPart_toDigits, isDigits, tenth]
  have numberChars : (tenthsText whole tenths).all isNumberChar = true := by
    rw [List.all_eq_true]
    intro c member
    rcases chars c member with digit | rfl
    · exact isNumberChar_of_isDigit c digit
    · decide
  rw [isFloatLiteral, noSign, List.takeWhile_eq_self_iff.mpr noMarker,
    List.dropWhile_eq_nil_iff.mpr noMarker, numberChars, mantissa]
  rfl

/-- The literal of a number which is not negative, rounded to tenths. -/
def tenthsLiteral (value : ℚ) : FloatLiteral :=
  ⟨tenthsText ⌊value⌋₊ ⌊value * 10⌋₊, isFloatLiteral_tenthsText _ _⟩

/-- The literal is in the range of floats. -/
def InRange (literal : FloatLiteral) : Prop :=
  |literalValue literal| < floatLimit

instance (literal : FloatLiteral) : Decidable (InRange literal) :=
  inferInstanceAs (Decidable (_ < _))

/-- A float which is kept as its literal, or a name. -/
abbrev LiteralFloat := {literal : FloatLiteral // InRange literal} ⊕ NonFinite

/-- The order of floats which are kept as literals. -/
def literalAtMost : LiteralFloat → LiteralFloat → Bool
  | .inr .nan, _ => false
  | _, .inr .nan => false
  | .inr .negativeInfinity, _ => true
  | _, .inr .infinity => true
  | .inl left, .inl right =>
      decide (literalValue left.1 ≤ literalValue right.1)
  | .inl _, .inr .negativeInfinity => false
  | .inr .infinity, _ => false

/-- A literal in the range of floats, or an infinity. -/
def readLiteral (literal : FloatLiteral) : LiteralFloat :=
  if inRange : InRange literal then .inl ⟨literal, inRange⟩
  else if literalValue literal < 0 then .inr .negativeInfinity
  else .inr .infinity

/-- The nearest tenths, if they are in the range of floats. -/
def nearestTenths (value : ℚ) : Option LiteralFloat :=
  if inRange : InRange (tenthsLiteral value) then
    some (.inl ⟨tenthsLiteral value, inRange⟩)
  else none

theorem inRange_tenths : ∀ whole < 2, ∀ tenths < 10,
    InRange ⟨tenthsText whole tenths, isFloatLiteral_tenthsText _ _⟩ := by
  decide +kernel

theorem nearestTenths_unit
    (value : ℚ) (nonneg : 0 ≤ value) (small : value ≤ 1) :
    (nearestTenths value).isSome = true := by
  have whole : ⌊value⌋₊ < 2 := by
    rw [Nat.floor_lt nonneg]
    exact lt_of_le_of_lt small (by norm_num)
  have sameText :
      tenthsLiteral value =
        ⟨tenthsText ⌊value⌋₊ (⌊value * 10⌋₊ % 10),
          isFloatLiteral_tenthsText _ _⟩ := by
    rw [tenthsLiteral, FloatLiteral.mk.injEq, tenthsText, tenthsText,
      Nat.mod_mod]
  have inRange : InRange (tenthsLiteral value) := by
    rw [sameText]
    exact inRange_tenths _ whole _ (Nat.mod_lt _ (by decide))
  rw [nearestTenths, dif_pos inRange]
  rfl

/-- Floats as literals, where the results of divisions are tenths. -/
def literalFloats : JsonFloats LiteralFloat where
  nearest := nearestTenths
  atMost := literalAtMost
  nearest_unit := nearestTenths_unit
  read := readLiteral
  readName := .inr
  isNegative number :=
    match number with
    | .inl literal => decide (literalValue literal.1 < 0)
    | .inr name => decide (name = .negativeInfinity)
  write number := number.map Subtype.val id
  read_write number literal isWritten := by
    cases number with
    | inl given =>
        cases isWritten
        exact dif_pos given.2
    | inr name => cases isWritten
  write_readName _ := rfl
  write_nearest value number isNearest := by
    rw [nearestTenths] at isNearest
    split_ifs at isNearest
    cases isNearest
    rfl

end Foundation.JsonNumbers
