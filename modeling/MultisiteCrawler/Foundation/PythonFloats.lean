import Mathlib.Data.Int.Log
import Mathlib.Data.Rat.Floor
import MultisiteCrawler.Foundation.PythonErrors

/-!
# Floats

What the modelled code uses of floats: the float nearest to a number, their
order, and where `float` and the division of integers overflow.
-/

namespace Foundation.PythonFloats

open Foundation.PythonErrors

/-- Floats and their arithmetic. -/
structure FloatArithmetic (Number : Type) where
  /-- The float nearest to a number; `none` if it is beyond their range. -/
  nearest : ℚ → Option Number
  /-- `left <= right`. -/
  atMost : Number → Number → Bool
  nearest_unit : ∀ value, 0 ≤ value → value ≤ 1 →
    (nearest value).isSome = true

section Conversions

variable {Number : Type} (floats : FloatArithmetic Number)

/-- The float nearest to a number, or an `OverflowError`. -/
def FloatArithmetic.rounded (value : ℚ) : Except PyError Number :=
  match floats.nearest value with
  | none => .error (.library .overflowError)
  | some number => .ok number

/-- `float(value)` of an integer. -/
def FloatArithmetic.float (value : ℤ) : Except PyError Number :=
  floats.rounded value

/-- `numerator / denominator` of integers. -/
def FloatArithmetic.trueDivide (numerator denominator : ℤ) :
    Except PyError Number :=
  if denominator = 0 then
    .error (.library (.other "ZeroDivisionError"))
  else floats.rounded (numerator / denominator)

theorem FloatArithmetic.rounded_eq_ok_iff (value : ℚ) (number : Number) :
    floats.rounded value = .ok number ↔ floats.nearest value = some number := by
  rw [FloatArithmetic.rounded]
  cases floats.nearest value <;> simp

/-- A share of one does not overflow. -/
theorem FloatArithmetic.exists_rounded
    (value : ℚ) (nonneg : 0 ≤ value) (small : value ≤ 1) :
    ∃ number, floats.rounded value = .ok number := by
  simp only [floats.rounded_eq_ok_iff, ← Option.isSome_iff_exists]
  exact floats.nearest_unit value nonneg small

end Conversions

/--
The least integer which is nearer to `2 ** 1024` than to the greatest float,
or as near to both.
-/
def floatLimit : ℤ := 2 ^ 1024 - 2 ^ 970

theorem one_lt_floatLimit : (1 : ℚ) < floatLimit := by
  have large : 1 < floatLimit := by decide +kernel
  exact_mod_cast large

/-- Exact arithmetic in the range of double precision. -/
def boundedArithmetic : FloatArithmetic ℚ where
  nearest value := if |value| < floatLimit then some value else none
  atMost left right := decide (left ≤ right)
  nearest_unit value nonneg small := by
    rw [if_pos]
    · rfl
    · rw [abs_of_nonneg nonneg]
      exact lt_of_le_of_lt small one_lt_floatLimit

/-- Which integers have a float. -/
theorem boundedArithmetic_float (value : ℤ) :
    boundedArithmetic.float value =
      if |value| < floatLimit then .ok (value : ℚ)
      else .error (.library .overflowError) := by
  have order : |(value : ℚ)| < floatLimit ↔ |value| < floatLimit := by
    exact_mod_cast Iff.rfl
  rw [FloatArithmetic.float, FloatArithmetic.rounded, boundedArithmetic]
  dsimp only
  rw [if_congr order rfl rfl]
  split_ifs <;> rfl

/-! ## Rounding -/

/-- The integer nearest to a number, the even one of two. -/
def roundHalfEven (value : ℚ) : ℤ :=
  if Int.fract value < 1 / 2 then ⌊value⌋
  else if 1 / 2 < Int.fract value then ⌊value⌋ + 1
  else if ⌊value⌋ % 2 = 0 then ⌊value⌋
  else ⌊value⌋ + 1

/--
The float nearest to a number in the range of double precision: a multiple of
the last of its 53 binary places, none of which is below `2 ** -1074`.
-/
def nearestDouble (value : ℚ) : ℚ :=
  if value = 0 then 0
  else
    let place : ℚ := 2 ^ max (Int.log 2 |value| - 52) (-1074)
    roundHalfEven (value / place) * place

/-! ## Numbers which are not finite -/

/-- A number as Python compares it, whether an integer or a float. -/
inductive PyNumber where
  | finite (value : ℚ)
  | infinity
  | negativeInfinity
  | notANumber
deriving DecidableEq

/-- `left <= right`; what is not a number is not comparable. -/
def PyNumber.atMost : PyNumber → PyNumber → Bool
  | .notANumber, _ => false
  | _, .notANumber => false
  | .negativeInfinity, _ => true
  | _, .infinity => true
  | .finite left, .finite right => decide (left ≤ right)
  | .finite _, .negativeInfinity => false
  | .infinity, _ => false

/-- Floats in the range of double precision, up to their rounding. -/
def doubleArithmetic : FloatArithmetic PyNumber where
  nearest value := (boundedArithmetic.nearest value).map .finite
  atMost := PyNumber.atMost
  nearest_unit value nonneg small := by
    rw [Option.isSome_map]
    exact boundedArithmetic.nearest_unit value nonneg small

end Foundation.PythonFloats
