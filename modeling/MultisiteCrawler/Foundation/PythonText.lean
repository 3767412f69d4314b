import Mathlib.Data.List.DropRight
import Mathlib.Data.List.TakeWhile
import Mathlib.Data.String.Basic
import Mathlib.Tactic

/-!
# Python texts

What the modelled code uses of `str` and `re`: stripping whitespace, and
patterns which ask for one or more characters of a class.
-/

namespace Foundation.PythonText

/-- `str.isspace` of one character. -/
def isSpace (character : Char) : Bool :=
  (9 ≤ character.toNat && character.toNat ≤ 13) ||
    (28 ≤ character.toNat && character.toNat ≤ 32) ||
    (0x2000 ≤ character.toNat && character.toNat ≤ 0x200a) ||
    [0x85, 0xa0, 0x1680, 0x2028, 0x2029, 0x202f, 0x205f, 0x3000].contains
      character.toNat

/-- The visible characters of ASCII are not whitespace. -/
theorem isSpace_of_visible
    (character : Char) (lower : 33 ≤ character.toNat)
    (upper : character.toNat < 0x85) :
    isSpace character = false := by
  simp only [isSpace, Bool.or_eq_false_iff, Bool.and_eq_false_iff,
    decide_eq_false_iff_not, not_le, List.contains_eq_mem, List.mem_cons,
    List.not_mem_nil, or_false, not_or]
  omega

/-- `str.strip()`. -/
def strip (text : String) : String :=
  String.ofList
    ((text.toList.dropWhile isSpace).rdropWhile isSpace)

/-- `re.fullmatch` of one or more characters of a class. -/
def fullmatch (accepted : Char → Bool) (text : String) : Bool :=
  !text.toList.isEmpty && text.toList.all accepted

theorem fullmatch_iff (accepted : Char → Bool) (text : String) :
    fullmatch accepted text = true ↔
      text ≠ "" ∧ ∀ character ∈ text.toList, accepted character = true := by
  simp [fullmatch, List.all_eq_true]

/-- The parts of Python's Unicode database which the code uses. -/
structure UnicodeRules where
  /-- `str.lower()`. -/
  lower : List Char → List Char
  /-- `unicodedata.normalize("NFKC", text)`. -/
  nfkc : List Char → List Char

/-- A letter of ASCII. -/
def isAsciiAlpha (character : Char) : Bool :=
  (65 ≤ character.toNat && character.toNat ≤ 90) ||
    (97 ≤ character.toNat && character.toNat ≤ 122)

/-- A digit of ASCII. -/
def isAsciiDigit (character : Char) : Bool :=
  48 ≤ character.toNat && character.toNat ≤ 57

/-- One letter of `[A-Z]` in lower case, any other character as it is. -/
def lowerAscii (character : Char) : Char :=
  if 65 ≤ character.toNat ∧ character.toNat ≤ 90 then
    Char.ofNat (character.toNat + 32)
  else character

/-- The rules on texts of ASCII. -/
def asciiRules : UnicodeRules :=
  ⟨List.map lowerAscii, id⟩

/-- `part in text`. -/
def isPart (part text : List Char) : Bool :=
  text.tails.any fun rest => part.isPrefixOf rest

/-- The groups of hexadecimal digits of a UUID. -/
def uuidText (value : BitVec 128) : String :=
  let digits := (Nat.toDigits 16 value.toNat).leftpad 32 '0'
  "-".intercalate
    [.ofList (digits.take 8), .ofList ((digits.drop 8).take 4),
      .ofList ((digits.drop 12).take 4), .ofList ((digits.drop 16).take 4),
      .ofList (digits.drop 20)]

end Foundation.PythonText
