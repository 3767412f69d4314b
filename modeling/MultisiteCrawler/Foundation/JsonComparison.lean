import MultisiteCrawler.Foundation.JsonNumbers
import MultisiteCrawler.Foundation.JsonOrder

/-!
# Python's equality of JSON values

`==` compares numbers of all types by their value, `False` and `True` being
`0` and `1`, and mappings without regard to the order of their keys.  What it
sees of a value is written down as a value of its own, so that equality is
equality of what is seen.
-/

namespace Foundation.JsonComparison

open Foundation.JsonNumbers
open Foundation.JsonOrder
open Foundation.JsonText
open Foundation.PythonFloats

mutual

/-- What `==` sees of a value. -/
inductive Compared where
  | null
  | number (value : ℚ)
  | nonFinite (value : NonFinite)
  | str (value : String)
  | arr (items : ComparedItems)
  | obj (members : ComparedMembers)

/-- What `==` sees of the items of a list. -/
inductive ComparedItems where
  | nil
  | cons (item : Compared) (rest : ComparedItems)

/-- What `==` sees of the members of a mapping, in the order of their keys. -/
inductive ComparedMembers where
  | nil
  | cons (key : String) (value : Compared) (rest : ComparedMembers)

end

deriving instance DecidableEq for Compared, ComparedItems, ComparedMembers

mutual

/-- What `==` sees of a value whose keys are sorted. -/
def compared : Json → Compared
  | .null => .null
  | .bool value => .number (if value then 1 else 0)
  | .int value => .number value
  | .float literal => .number (nearestDouble (literalValue literal))
  | .nonFinite value => .nonFinite value
  | .str value => .str value
  | .arr items => .arr (comparedItems items)
  | .obj members => .obj (comparedMembers members)

/-- `compared` for every item. -/
def comparedItems : List Json → ComparedItems
  | [] => .nil
  | item :: rest => .cons (compared item) (comparedItems rest)

/-- `compared` for every member value. -/
def comparedMembers : List (String × Json) → ComparedMembers
  | [] => .nil
  | (key, value) :: rest => .cons key (compared value) (comparedMembers rest)

end

/-- `value == other`. -/
def PyEquals (value other : Json) : Prop :=
  compared (sortKeys value) = compared (sortKeys other)

instance (value other : Json) : Decidable (PyEquals value other) :=
  inferInstanceAs (Decidable (_ = _))

end Foundation.JsonComparison
