import MultisiteCrawler.Adapters.Hashing
import MultisiteCrawler.Foundation.JsonEquality
import MultisiteCrawler.Foundation.JsonLimits

/-!
# Canonical bytes identify business data

Business data which is a Python `dict` without infinite floats has canonical
bytes, and they are those of equal data only.  Fingerprints tell data apart as
far as the digest tells bytes apart.

An interpreter has canonical bytes only for data which `json.dumps` can write
within its limits; for other data an exception is raised.
-/

namespace MultisiteCrawler.Adapters

open Foundation.JsonLimits
open Foundation.JsonOrder
open Foundation.JsonText
open Foundation.PythonErrors

/-! ## Limits of the interpreter -/

section Limits

variable (limits : InterpreterLimits)

/-- `canonical_json_bytes`, on an interpreter with limits. -/
def canonicalJsonBytesWithin (data : BusinessData) :
    Except PyError ByteArray :=
  match dumpFault limits false limits.nesting (sortKeys (.obj data)) with
  | none => .ok (canonicalText data).toUTF8
  | some .nesting => .error recursionError
  | some .digits => .error (.value "Business data must be JSON-compatible.")
  | some .notFinite =>
      .error (.value "Business data must be JSON-compatible.")

/-- `fingerprint_business_data`, on an interpreter with limits. -/
def fingerprintBusinessDataWithin (sha256 : ByteArray → String)
    (data : BusinessData) : Except PyError String := do
  let bytes ← canonicalJsonBytesWithin limits data
  .ok (sha256 bytes)

mutual

theorem isFinite_eq_allScalars :
    (value : Json) → isFinite value = allScalars isFiniteScalar value
  | .arr items => isFiniteItems_eq_allScalars items
  | .obj members => isFiniteMembers_eq_allScalars members
  | .null => rfl
  | .bool _ => rfl
  | .int _ => rfl
  | .float _ => rfl
  | .nonFinite _ => rfl
  | .str _ => rfl

theorem isFiniteItems_eq_allScalars :
    (items : List Json) →
      isFiniteItems items = allScalarsItems isFiniteScalar items
  | [] => rfl
  | item :: rest => by
      rw [isFiniteItems, allScalarsItems, isFinite_eq_allScalars item,
        isFiniteItems_eq_allScalars rest]

theorem isFiniteMembers_eq_allScalars :
    (members : List (String × Json)) →
      isFiniteMembers members = allScalarsMembers isFiniteScalar members
  | [] => rfl
  | (_, value) :: rest => by
      rw [isFiniteMembers, allScalarsMembers, isFinite_eq_allScalars value,
        isFiniteMembers_eq_allScalars rest]

end

variable {limits}

/-- What `json.dumps` can write within the limits. -/
theorem dumpFault_sortKeys_eq_none_iff (data : BusinessData) :
    dumpFault limits false limits.nesting (sortKeys (.obj data)) = none ↔
      Fits limits (.obj data) ∧ isFiniteMembers data = true := by
  have finite :
      isFiniteMembers data = allScalars isFiniteScalar (.obj data) :=
    isFiniteMembers_eq_allScalars data
  rw [dumpFault_eq_none_iff, depth_sortKeys, allScalars_sortKeys,
    isWritable_finite, allScalars_and, Bool.and_eq_true, finite]
  constructor
  · rintro ⟨nests, isFinite, short⟩
    exact ⟨⟨nests, short⟩, isFinite⟩
  · rintro ⟨⟨nests, short⟩, isFinite⟩
    exact ⟨nests, isFinite, short⟩

/-- There are bytes just if the data fits and has bytes without limits. -/
theorem canonicalJsonBytesWithin_eq_ok_iff
    (data : BusinessData) (bytes : ByteArray) :
    canonicalJsonBytesWithin limits data = .ok bytes ↔
      Fits limits (.obj data) ∧ canonicalJsonBytes data = .ok bytes := by
  have fault := @dumpFault_sortKeys_eq_none_iff limits data
  rw [canonicalJsonBytesWithin, canonicalJsonBytes]
  cases found :
      dumpFault limits false limits.nesting (sortKeys (.obj data)) with
  | none =>
      have ⟨fits, finite⟩ := fault.mp found
      rw [if_pos finite]
      exact (and_iff_right fits).symm
  | some other =>
      have refused :
          ¬ (Fits limits (.obj data) ∧ isFiniteMembers data = true) := by
        rw [← fault, found]
        nofun
      split_ifs with finite
      · refine iff_of_false ?_ fun both => refused ⟨both.1, finite⟩
        cases other <;> nofun
      · refine iff_of_false ?_ fun both => nomatch both.2
        cases other <;> nofun

/-- The exception where there are no bytes. -/
theorem canonicalJsonBytesWithin_of_not_fits
    {data : BusinessData} (unfit : ¬ Fits limits (.obj data)) :
    canonicalJsonBytesWithin limits data =
        .error (.value "Business data must be JSON-compatible.") ∨
      canonicalJsonBytesWithin limits data = .error recursionError := by
  rw [canonicalJsonBytesWithin]
  cases found :
      dumpFault limits false limits.nesting (sortKeys (.obj data)) with
  | none =>
      exact absurd ((dumpFault_sortKeys_eq_none_iff data).mp found).1 unfit
  | some fault =>
      cases fault with
      | nesting => exact Or.inr rfl
      | digits => exact Or.inl rfl
      | notFinite => exact Or.inl rfl

end Limits

/-! ## Data with canonical bytes -/

/-- Business data of any depth, with distinct keys and finite floats. -/
structure FiniteData where
  members : BusinessData
  unique : (Json.obj members).UniqueKeys
  finite : isFiniteMembers members = true

namespace FiniteData

/-- Equality, whatever the order of keys at any level. -/
def Equal (data other : FiniteData) : Prop :=
  Same (.obj data.members) (.obj other.members)

theorem canonicalJsonBytes_eq (data : FiniteData) :
    canonicalJsonBytes data.members =
      .ok (canonicalText data.members).toUTF8 :=
  if_pos data.finite

/-- Data has one canonical text with equal data, and with no other. -/
theorem canonicalText_eq_iff (data other : FiniteData) :
    canonicalText data.members = canonicalText other.members ↔
      data.Equal other :=
  dumps_sortKeys_eq_iff _ data.unique other.unique

/-- The bytes of the canonical texts are equal for equal data only. -/
theorem canonicalText_toUTF8_eq_iff (data other : FiniteData) :
    (canonicalText data.members).toUTF8 =
        (canonicalText other.members).toUTF8 ↔
      data.Equal other := by
  rw [String.toUTF8_eq_toByteArray, String.toUTF8_eq_toByteArray,
    String.toByteArray_inj]
  exact canonicalText_eq_iff data other

/-- Different canonical bytes with one digest. -/
def Collide (sha256 : ByteArray → String) (data other : FiniteData) : Prop :=
  ∃ bytes otherBytes,
    canonicalJsonBytes data.members = .ok bytes ∧
      canonicalJsonBytes other.members = .ok otherBytes ∧
      bytes ≠ otherBytes ∧ sha256 bytes = sha256 otherBytes

/-- Equal fingerprints are those of equal data, or of a collision. -/
theorem fingerprint_eq_iff
    (sha256 : ByteArray → String) (data other : FiniteData) :
    fingerprint sha256 data.members = fingerprint sha256 other.members ↔
      data.Equal other ∨ data.Collide sha256 other := by
  constructor
  · intro sameDigest
    by_cases equal : data.Equal other
    · exact Or.inl equal
    · rw [← canonicalText_toUTF8_eq_iff] at equal
      exact Or.inr
        ⟨_, _, data.canonicalJsonBytes_eq, other.canonicalJsonBytes_eq,
          equal, sameDigest⟩
  · rintro (equal | ⟨bytes, otherBytes, isBytes, isOther, _, sameDigest⟩)
    · exact congrArg sha256 ((canonicalText_toUTF8_eq_iff data other).mpr equal)
    · rw [canonicalJsonBytes_eq] at isBytes isOther
      cases isBytes
      cases isOther
      exact sameDigest

/-! ### On an interpreter with limits -/

section Within

variable (limits : InterpreterLimits) (data other : FiniteData)

/-- The data fits into the limits. -/
def Fits : Prop :=
  Foundation.JsonLimits.Fits limits (.obj data.members)

/-- Two values have the same canonical bytes. -/
def SameBytes : Prop :=
  ∃ bytes, canonicalJsonBytesWithin limits data.members = .ok bytes ∧
    canonicalJsonBytesWithin limits other.members = .ok bytes

/-- Two values have the same fingerprint. -/
def SameFingerprint (sha256 : ByteArray → String) : Prop :=
  ∃ hash,
    fingerprintBusinessDataWithin limits sha256 data.members = .ok hash ∧
      fingerprintBusinessDataWithin limits sha256 other.members = .ok hash

theorem bytesWithin_eq_ok_iff (bytes : ByteArray) :
    canonicalJsonBytesWithin limits data.members = .ok bytes ↔
      data.Fits limits ∧ (canonicalText data.members).toUTF8 = bytes := by
  rw [canonicalJsonBytesWithin_eq_ok_iff, canonicalJsonBytes_eq,
    Except.ok.injEq]
  exact Iff.rfl

theorem exists_bytesWithin_iff :
    (∃ bytes, canonicalJsonBytesWithin limits data.members = .ok bytes) ↔
      data.Fits limits := by
  simp [bytesWithin_eq_ok_iff]

theorem fingerprintWithin_eq_ok_iff
    (sha256 : ByteArray → String) (hash : String) :
    fingerprintBusinessDataWithin limits sha256 data.members = .ok hash ↔
      data.Fits limits ∧ fingerprint sha256 data.members = hash := by
  rw [fingerprintBusinessDataWithin, bind_eq_ok_iff]
  simp only [bytesWithin_eq_ok_iff, Except.ok.injEq]
  constructor
  · rintro ⟨bytes, ⟨fits, rfl⟩, rfl⟩
    exact ⟨fits, rfl⟩
  · rintro ⟨fits, rfl⟩
    exact ⟨_, ⟨fits, rfl⟩, rfl⟩

theorem sameBytes_iff :
    data.SameBytes limits other ↔ data.Fits limits ∧ data.Equal other := by
  simp only [SameBytes, bytesWithin_eq_ok_iff]
  constructor
  · rintro ⟨bytes, ⟨fits, isBytes⟩, _, isOther⟩
    exact
      ⟨fits,
        (canonicalText_toUTF8_eq_iff data other).mp
          (isBytes.trans isOther.symm)⟩
  · rintro ⟨fits, equal⟩
    exact
      ⟨_, ⟨fits, rfl⟩, fits.of_same equal,
        ((canonicalText_toUTF8_eq_iff data other).mpr equal).symm⟩

theorem sameFingerprint_iff (sha256 : ByteArray → String) :
    data.SameFingerprint limits other sha256 ↔
      data.Fits limits ∧ other.Fits limits ∧
        (data.Equal other ∨ data.Collide sha256 other) := by
  simp only [SameFingerprint, fingerprintWithin_eq_ok_iff,
    ← fingerprint_eq_iff]
  constructor
  · rintro ⟨hash, ⟨fits, isHash⟩, otherFits, isOther⟩
    exact ⟨fits, otherFits, isHash.trans isOther.symm⟩
  · rintro ⟨fits, otherFits, same⟩
    exact ⟨_, ⟨fits, rfl⟩, otherFits, same.symm⟩

end Within

end FiniteData

/--
Canonical bytes exist exactly for values within the limits, and for others an
exception is raised.  Two values have the same bytes exactly if they are equal
and within the limits; so fingerprints are equal exactly for equal values, up
to collisions.
-/
theorem canonical_identifies
    (limits : InterpreterLimits) (sha256 : ByteArray → String)
    (data other : FiniteData) :
    ((∃ bytes, canonicalJsonBytesWithin limits data.members = .ok bytes) ↔
        data.Fits limits) ∧
      (data.Fits limits ∨
        canonicalJsonBytesWithin limits data.members =
            .error (.value "Business data must be JSON-compatible.") ∨
          canonicalJsonBytesWithin limits data.members =
            .error recursionError) ∧
      (data.SameBytes limits other ↔
        data.Fits limits ∧ data.Equal other) ∧
      (data.SameFingerprint limits other sha256 ↔
        data.Fits limits ∧ other.Fits limits ∧
          (data.Equal other ∨ data.Collide sha256 other)) :=
  ⟨data.exists_bytesWithin_iff limits,
    or_iff_not_imp_left.mpr canonicalJsonBytesWithin_of_not_fits,
    data.sameBytes_iff limits other,
    data.sameFingerprint_iff limits other sha256⟩

/-- As many digits as CPython writes, and less than its recursion limit. -/
def usualLimits : InterpreterLimits :=
  ⟨4300, 900⟩

/-- The least integer with one digit more. -/
def longInteger : ℤ :=
  (10 ^ usualLimits.maxDigits : ℕ)

theorem isLong_longInteger : usualLimits.isLong longInteger = true := by
  rw [InterpreterLimits.isLong, longInteger, Int.natAbs_natCast,
    decide_eq_true le_rfl]
  rfl

/-- Data with that integer. -/
def longData : FiniteData where
  members := [("n", .int longInteger)]
  unique := ⟨List.nodup_singleton _, trivial, trivial⟩
  finite := rfl

/-- The data has no canonical bytes, although it is equal to itself. -/
theorem not_identifies_longInteger :
    ¬ ∀ data other : FiniteData,
      data.SameBytes usualLimits other ↔ data.Equal other := by
  intro identifies
  have fits :=
    ((longData.sameBytes_iff usualLimits longData).mp
      ((identifies longData longData).mpr (.refl _))).1
  have short := fits.short
  simp [longData, hasShortIntegers, allScalars, allScalarsMembers, isWritable,
    scalarFault, isLong_longInteger] at short

end MultisiteCrawler.Adapters
