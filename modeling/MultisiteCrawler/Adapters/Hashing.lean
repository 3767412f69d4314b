import MultisiteCrawler.Foundation.JsonOrder
import MultisiteCrawler.Foundation.PythonErrors

/-!
# Canonical hashing of business data

Business data is a JSON mapping.  Its canonical bytes are those of the compact
JSON text with the keys of every mapping sorted; non-finite floats have none.
The digest of the bytes is a parameter.
-/

namespace MultisiteCrawler.Adapters

open Foundation.JsonOrder
open Foundation.JsonText
open Foundation.PythonErrors

/-- Normalized business data: the members of a JSON object. -/
abbrev BusinessData := List (String × Json)

mutual

/-- No float inside the value is infinite or not a number. -/
def isFinite : Json → Bool
  | .nonFinite _ => false
  | .arr items => isFiniteItems items
  | .obj members => isFiniteMembers members
  | _ => true

/-- `isFinite` for every item. -/
def isFiniteItems : List Json → Bool
  | [] => true
  | item :: rest => isFinite item && isFiniteItems rest

/-- `isFinite` for every member value. -/
def isFiniteMembers : List (String × Json) → Bool
  | [] => true
  | (_, value) :: rest => isFinite value && isFiniteMembers rest

end

/-- The text of the canonical bytes. -/
def canonicalText (data : BusinessData) : String :=
  dumps { compact := true, ensureAscii := false } (sortKeys (.obj data))

/-- `canonical_json_bytes`. -/
def canonicalJsonBytes (data : BusinessData) : Except PyError ByteArray :=
  if isFiniteMembers data then .ok (canonicalText data).toUTF8
  else .error (.value "Business data must be JSON-compatible.")

/-- `fingerprint_business_data`, given the hexadecimal digest of bytes. -/
def fingerprintBusinessData (sha256 : ByteArray → String)
    (data : BusinessData) : Except PyError String := do
  let bytes ← canonicalJsonBytes data
  .ok (sha256 bytes)

/-- Data which has a fingerprint. -/
def JsonCompatible (data : BusinessData) : Prop :=
  isFiniteMembers data = true

/-- The fingerprint of data which has one. -/
def fingerprint (sha256 : ByteArray → String) (data : BusinessData) :
    String :=
  sha256 (canonicalText data).toUTF8

theorem fingerprintBusinessData_of_compatible
    (sha256 : ByteArray → String) {data : BusinessData}
    (compatible : JsonCompatible data) :
    fingerprintBusinessData sha256 data = .ok (fingerprint sha256 data) := by
  have finite : isFiniteMembers data = true := compatible
  unfold fingerprintBusinessData canonicalJsonBytes
  rw [if_pos finite]
  rfl

end MultisiteCrawler.Adapters
