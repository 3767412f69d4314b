import Mathlib.Data.List.Basic
import Mathlib.Tactic

/-!
# JSON documents as text

The JSON values a Python program exchanges with a text store, the encoder
`json.dumps` and the decoder `json.loads`, both acting on characters.

Integers are unbounded and kept apart from floats, as in Python.  A float is
represented by the literal it is written as; what number a literal denotes is
left to its user.  Strings range over Unicode scalar values, so a text which
spells a lone surrogate is rejected here although Python would accept it.

The main result is the round trip `loads_dumps`: every value whose mappings
have distinct keys is read back exactly, whatever the separators and whether
or not non-ASCII characters are escaped.
-/

namespace Foundation.JsonText

/-! ## Values -/

/-- A character which can occur in a JSON number. -/
def isNumberChar (character : Char) : Bool :=
  character.isDigit || character == '+' || character == '-' ||
    character == '.' || character == 'e' || character == 'E'

/-- The digits of an integer part: `0`, or digits without a leading zero. -/
def isIntegerPart : List Char → Bool
  | [] => false
  | ['0'] => true
  | first :: rest => first.isDigit && first != '0' && rest.all Char.isDigit

/-- A nonempty run of digits. -/
def isDigits (text : List Char) : Bool :=
  !text.isEmpty && text.all Char.isDigit

/-- An exponent without its marker: an optional sign and a run of digits. -/
def isExponent : List Char → Bool
  | '+' :: digits => isDigits digits
  | '-' :: digits => isDigits digits
  | digits => isDigits digits

/-- Drop the sign of a number. -/
def unsigned : List Char → List Char
  | '-' :: rest => rest
  | text => text

/-- Whether a character introduces an exponent. -/
def isExponentMarker (character : Char) : Bool :=
  character == 'e' || character == 'E'

/-- The unsigned part of a float before its exponent. -/
def isMantissa (text : List Char) : Bool :=
  isIntegerPart (text.takeWhile (· != '.')) &&
    isDigits ((text.dropWhile (· != '.')).drop 1)

/--
A JSON number with a fraction, an exponent or both.  Exactly these are read
as floats.
-/
def isFloatLiteral (text : List Char) : Bool :=
  let mantissa := (unsigned text).takeWhile (fun c => !isExponentMarker c)
  let exponent := (unsigned text).dropWhile (fun c => !isExponentMarker c)
  text.all isNumberChar &&
    (if exponent.isEmpty then isMantissa mantissa
      else isExponent (exponent.drop 1) &&
        (isIntegerPart mantissa || isMantissa mantissa))

/-- The literal of a finite float. -/
structure FloatLiteral where
  text : List Char
  valid : isFloatLiteral text = true
deriving DecidableEq

/-- The three float values which have no JSON number. -/
inductive NonFinite where
  | nan
  | infinity
  | negativeInfinity
deriving DecidableEq, Repr

/-- A value as `json.loads` returns it. -/
inductive Json where
  | null
  | bool (value : Bool)
  | int (value : ℤ)
  | float (literal : FloatLiteral)
  | nonFinite (value : NonFinite)
  | str (value : String)
  | arr (items : List Json)
  | obj (members : List (String × Json))

/-! ## Mappings -/

section Mapping

variable {Value : Type}

/-- The value of a key in an insertion-ordered mapping. -/
def lookup (key : String) : List (String × Value) → Option Value
  | [] => none
  | (name, value) :: rest =>
      if name = key then some value else lookup key rest

/--
Assign a key as Python does: an existing key keeps its place, a new one is
appended.
-/
def assign (key : String) (value : Value) :
    List (String × Value) → List (String × Value)
  | [] => [(key, value)]
  | (name, old) :: rest =>
      if name = key then (name, value) :: rest
      else (name, old) :: assign key value rest

/-- The mapping built from a sequence of pairs, later pairs overwriting. -/
def dictOf (pairs : List (String × Value)) : List (String × Value) :=
  pairs.foldl (fun mapping pair => assign pair.1 pair.2 mapping) []

theorem assign_of_notMem
    (key : String) (value : Value)
    (mapping : List (String × Value))
    (fresh : key ∉ mapping.map Prod.fst) :
    assign key value mapping = mapping ++ [(key, value)] := by
  induction mapping with
  | nil => rfl
  | cons head rest induction =>
      simp only [List.map_cons, List.mem_cons, not_or] at fresh
      rw [assign, if_neg (Ne.symm fresh.1), induction fresh.2]
      rfl

theorem foldl_assign_of_nodup
    (pairs mapping : List (String × Value))
    (distinct : ((mapping ++ pairs).map Prod.fst).Nodup) :
    pairs.foldl
        (fun mapping pair => assign pair.1 pair.2 mapping) mapping =
      mapping ++ pairs := by
  induction pairs generalizing mapping with
  | nil => simp
  | cons head rest induction =>
      have fresh : head.1 ∉ mapping.map Prod.fst := by
        simp only [List.map_append, List.map_cons] at distinct
        intro member
        exact (List.nodup_append.mp distinct).2.2 _ member _
          List.mem_cons_self rfl
      rw [List.foldl_cons, assign_of_notMem _ _ _ fresh, induction]
      · simp
      · simpa using distinct

/-- Pairs with distinct keys are already a mapping. -/
theorem dictOf_of_nodup
    (pairs : List (String × Value))
    (distinct : (pairs.map Prod.fst).Nodup) :
    dictOf pairs = pairs := by
  rw [dictOf, foldl_assign_of_nodup pairs [] (by simpa using distinct)]
  rfl

end Mapping

/-- `mapping.get(key)`, where a missing key reads as `None`. -/
def getMember (key : String) (members : List (String × Json)) : Json :=
  (lookup key members).getD .null

/--
`bool(value)`.  A float is false if its mantissa has no digit but zero;
literals too small for a float are not treated specially.
-/
def Json.truthy : Json → Bool
  | .null => false
  | .bool value => value
  | .int value => value != 0
  | .float literal =>
      (literal.text.takeWhile fun c => !isExponentMarker c).any
        fun c => c.isDigit && c != '0'
  | .nonFinite _ => true
  | .str value => !value.isEmpty
  | .arr items => !items.isEmpty
  | .obj members => !members.isEmpty

mutual

/-- Every mapping inside the value has distinct keys, as a Python `dict`. -/
def Json.UniqueKeys : Json → Prop
  | .arr items => uniqueKeysItems items
  | .obj members =>
      (members.map Prod.fst).Nodup ∧ uniqueKeysMembers members
  | _ => True

/-- `Json.UniqueKeys` for every item. -/
def uniqueKeysItems : List Json → Prop
  | [] => True
  | item :: rest => item.UniqueKeys ∧ uniqueKeysItems rest

/-- `Json.UniqueKeys` for every member value. -/
def uniqueKeysMembers : List (String × Json) → Prop
  | [] => True
  | (_, value) :: rest => value.UniqueKeys ∧ uniqueKeysMembers rest

end

/-! ## Encoding -/

/--
The options of `json.dumps` which affect the text: compact separators
`(",", ":")` instead of `(", ", ": ")`, and `ensure_ascii`.
-/
structure DumpStyle where
  compact : Bool := false
  ensureAscii : Bool := true
deriving DecidableEq, Repr

/-- One lower-case hexadecimal digit. -/
def hexDigit (value : ℕ) : Char :=
  if value < 10 then Char.ofNat (48 + value) else Char.ofNat (87 + value)

/-- Four hexadecimal digits. -/
def hexFour (value : ℕ) : List Char :=
  [hexDigit (value / 4096 % 16), hexDigit (value / 256 % 16),
    hexDigit (value / 16 % 16), hexDigit (value % 16)]

/-- A `\u` escape, as a surrogate pair above the basic plane. -/
def unicodeEscape (character : Char) : List Char :=
  if character.toNat < 65536 then
    '\\' :: 'u' :: hexFour character.toNat
  else
    '\\' :: 'u' :: hexFour (55296 + (character.toNat - 65536) / 1024) ++
      '\\' :: 'u' :: hexFour (56320 + (character.toNat - 65536) % 1024)

/-- A character inside a JSON string. -/
def escapeChar (ensureAscii : Bool) (character : Char) : List Char :=
  if character = '"' then ['\\', '"']
  else if character = '\\' then ['\\', '\\']
  else if character = '\n' then ['\\', 'n']
  else if character = '\r' then ['\\', 'r']
  else if character = '\t' then ['\\', 't']
  else if character = Char.ofNat 12 then ['\\', 'f']
  else if character = Char.ofNat 8 then ['\\', 'b']
  else if character.toNat < 32 ∨
      (ensureAscii = true ∧ 126 < character.toNat) then
    unicodeEscape character
  else [character]

/-- A quoted JSON string. -/
def stringText (style : DumpStyle) (value : String) : List Char :=
  '"' :: value.toList.flatMap (escapeChar style.ensureAscii) ++ ['"']

/-- The decimal text of an integer. -/
def intText (value : ℤ) : List Char :=
  match value with
  | .ofNat magnitude => Nat.toDigits 10 magnitude
  | .negSucc predecessor => '-' :: Nat.toDigits 10 (predecessor + 1)

/-- The names Python writes for the non-finite floats. -/
def nonFiniteText : NonFinite → List Char
  | .nan => ['N', 'a', 'N']
  | .infinity => ['I', 'n', 'f', 'i', 'n', 'i', 't', 'y']
  | .negativeInfinity => ['-', 'I', 'n', 'f', 'i', 'n', 'i', 't', 'y']

/-- The text between two items. -/
def itemSeparator (style : DumpStyle) : List Char :=
  if style.compact then [','] else [',', ' ']

/-- The text between a key and its value. -/
def keySeparator (style : DumpStyle) : List Char :=
  if style.compact then [':'] else [':', ' ']

mutual

/-- The characters of `json.dumps`. -/
def dumpsText (style : DumpStyle) : Json → List Char
  | .null => ['n', 'u', 'l', 'l']
  | .bool true => ['t', 'r', 'u', 'e']
  | .bool false => ['f', 'a', 'l', 's', 'e']
  | .int value => intText value
  | .float literal => literal.text
  | .nonFinite value => nonFiniteText value
  | .str value => stringText style value
  | .arr items => '[' :: itemsText style items ++ [']']
  | .obj members => '{' :: membersText style members ++ ['}']

/-- The items of an array, separated. -/
def itemsText (style : DumpStyle) : List Json → List Char
  | [] => []
  | [item] => dumpsText style item
  | item :: next :: rest =>
      dumpsText style item ++ itemSeparator style ++
        itemsText style (next :: rest)

/-- The members of an object, separated. -/
def membersText (style : DumpStyle) : List (String × Json) → List Char
  | [] => []
  | [(key, value)] =>
      stringText style key ++ keySeparator style ++ dumpsText style value
  | (key, value) :: next :: rest =>
      stringText style key ++ keySeparator style ++ dumpsText style value ++
        itemSeparator style ++ membersText style (next :: rest)

end

/-- `json.dumps`. -/
def dumps (style : DumpStyle) (value : Json) : String :=
  String.ofList (dumpsText style value)

/-! ## Decoding -/

/-- JSON whitespace. -/
def isSpace (character : Char) : Bool :=
  character == ' ' || character == '\t' ||
    character == '\n' || character == '\r'

/-- Skip leading whitespace. -/
def skipSpace (text : List Char) : List Char :=
  text.dropWhile isSpace

/-- The value of a hexadecimal digit of either case. -/
def hexValue (character : Char) : Option ℕ :=
  if 48 ≤ character.toNat ∧ character.toNat ≤ 57 then
    some (character.toNat - 48)
  else if 97 ≤ character.toNat ∧ character.toNat ≤ 102 then
    some (character.toNat - 87)
  else if 65 ≤ character.toNat ∧ character.toNat ≤ 70 then
    some (character.toNat - 55)
  else none

/-- Four hexadecimal digits. -/
def readHexFour (text : List Char) : Option (ℕ × List Char) :=
  match text with
  | first :: second :: third :: fourth :: rest => do
      let a ← hexValue first
      let b ← hexValue second
      let c ← hexValue third
      let d ← hexValue fourth
      some (4096 * a + 256 * b + 16 * c + d, rest)
  | _ => none

/-- The character of a code point which is a Unicode scalar value. -/
def scalar (code : ℕ) : Option Char :=
  if valid : code.isValidChar then some (Char.ofNatAux code valid) else none

/-- What follows `\u`, joining a surrogate pair. -/
def readUnicode (text : List Char) : Option (Char × List Char) := do
  let (high, rest) ← readHexFour text
  if 55296 ≤ high ∧ high ≤ 56319 then
    match rest with
    | '\\' :: 'u' :: tail => do
        let (low, rest) ← readHexFour tail
        if 56320 ≤ low ∧ low ≤ 57343 then
          let character ←
            scalar (65536 + (high - 55296) * 1024 + (low - 56320))
          some (character, rest)
        else none
    | _ => none
  else
    let character ← scalar high
    some (character, rest)

/-- What follows a backslash. -/
def readEscape : List Char → Option (Char × List Char)
  | '"' :: rest => some ('"', rest)
  | '\\' :: rest => some ('\\', rest)
  | '/' :: rest => some ('/', rest)
  | 'b' :: rest => some (Char.ofNat 8, rest)
  | 'f' :: rest => some (Char.ofNat 12, rest)
  | 'n' :: rest => some ('\n', rest)
  | 'r' :: rest => some ('\r', rest)
  | 't' :: rest => some ('\t', rest)
  | 'u' :: rest => readUnicode rest
  | _ => none

/--
The characters of a string up to its closing quote.  The first argument
bounds the number of characters read.
-/
def readString : ℕ → List Char → Option (List Char × List Char)
  | 0, _ => none
  | _ + 1, [] => none
  | fuel + 1, character :: rest =>
      if character = '"' then some ([], rest)
      else if character = '\\' then do
        let (escaped, rest) ← readEscape rest
        let (tail, rest) ← readString fuel rest
        some (escaped :: tail, rest)
      else if character.toNat < 32 then none
      else do
        let (tail, rest) ← readString fuel rest
        some (character :: tail, rest)

/-- A key or string value, its opening quote already read. -/
def readQuoted (text : List Char) : Option (String × List Char) := do
  let (characters, rest) ← readString text.length text
  some (String.ofList characters, rest)

/-- A complete number literal, an integer unless it is a float literal. -/
def numberOf (text : List Char) : Option Json :=
  if valid : isFloatLiteral text = true then some (.float ⟨text, valid⟩)
  else if isIntegerPart (unsigned text) then
    let magnitude := Nat.ofDigitChars 10 (unsigned text) 0
    some (.int (if text.head? = some '-' then -magnitude else magnitude))
  else none

/-- A number: the longest run of number characters must be a literal. -/
def readNumber (text : List Char) : Option (Json × List Char) := do
  let value ← numberOf (text.takeWhile isNumberChar)
  some (value, text.dropWhile isNumberChar)

/-- Whether a text starts with a number. -/
def startsNumber : List Char → Bool
  | '-' :: next :: _ => next.isDigit
  | first :: _ => first.isDigit
  | [] => false

/-- The constants `json.loads` knows. -/
def readConstant : List Char → Option (Json × List Char)
  | 'n' :: 'u' :: 'l' :: 'l' :: rest => some (.null, rest)
  | 't' :: 'r' :: 'u' :: 'e' :: rest => some (.bool true, rest)
  | 'f' :: 'a' :: 'l' :: 's' :: 'e' :: rest => some (.bool false, rest)
  | 'N' :: 'a' :: 'N' :: rest => some (.nonFinite .nan, rest)
  | 'I' :: 'n' :: 'f' :: 'i' :: 'n' :: 'i' :: 't' :: 'y' :: rest =>
      some (.nonFinite .infinity, rest)
  | '-' :: 'I' :: 'n' :: 'f' :: 'i' :: 'n' :: 'i' :: 't' :: 'y' :: rest =>
      some (.nonFinite .negativeInfinity, rest)
  | _ => none

mutual

/-- One value, leaving what follows it. -/
def readValue : ℕ → List Char → Option (Json × List Char)
  | 0, _ => none
  | fuel + 1, text =>
      if startsNumber text then readNumber text
      else
        match text with
        | '"' :: rest => do
            let (value, rest) ← readQuoted rest
            some (.str value, rest)
        | '[' :: rest =>
            match skipSpace rest with
            | ']' :: rest => some (.arr [], rest)
            | rest => do
                let (items, rest) ← readItems fuel rest
                some (.arr items, rest)
        | '{' :: rest =>
            match skipSpace rest with
            | '}' :: rest => some (.obj [], rest)
            | rest => do
                let (members, rest) ← readMembers fuel rest
                some (.obj (dictOf members), rest)
        | text => readConstant text

/-- A nonempty sequence of items up to its closing bracket. -/
def readItems : ℕ → List Char → Option (List Json × List Char)
  | 0, _ => none
  | fuel + 1, text => do
      let (item, rest) ← readValue fuel text
      match skipSpace rest with
      | ']' :: rest => some ([item], rest)
      | ',' :: rest => do
          let (items, rest) ← readItems fuel (skipSpace rest)
          some (item :: items, rest)
      | _ => none

/-- A nonempty sequence of members up to its closing brace. -/
def readMembers : ℕ → List Char → Option (List (String × Json) × List Char)
  | 0, _ => none
  | fuel + 1, text =>
      match text with
      | '"' :: rest => do
          let (key, rest) ← readQuoted rest
          match skipSpace rest with
          | ':' :: rest => do
              let (value, rest) ← readValue fuel (skipSpace rest)
              match skipSpace rest with
              | '}' :: rest => some ([(key, value)], rest)
              | ',' :: rest => do
                  let (members, rest) ← readMembers fuel (skipSpace rest)
                  some ((key, value) :: members, rest)
              | _ => none
          | _ => none
      | _ => none

end

/-- `json.loads`; `none` is a `JSONDecodeError`. -/
def loads (text : String) : Option Json := do
  let (value, rest) ←
    readValue (text.toList.length + 1) (skipSpace text.toList)
  if skipSpace rest = [] then some value else none

end Foundation.JsonText
