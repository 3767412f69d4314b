import MultisiteCrawler.Adapters.Contract
import MultisiteCrawler.Foundation.EscapingErrors

/-!
# The adapter runner

`AdapterRunner` calls the four methods of an adapter and checks what they
return.  The methods raise any exception or return any value; of a value only
what the runner asks of it is modelled: its class, its attributes, two
iterations, its digest, its comparison.  Each of these may raise as well.

An iteration yields finitely many values and then ends or raises.  Values do
not change after they have been returned, but a method may answer differently
each time it is called.
-/

namespace MultisiteCrawler.Adapters

open Foundation.PythonErrors

/-! ## Exceptions -/

/--
An exception and the classes by which the runner tells it from others.  The
locations are those of the errors of a `ValidationError`, a class which cannot
be subclassed.
-/
structure Raised where
  error : PyError
  isAdapterRunError : Bool := false
  isValueError : Bool := false
  isTypeError : Bool := false
  locations : Option (List (List String)) := none
  isAdapterRunError_of_locations :
    locations.isSome = true → isAdapterRunError = false := by
      intro isValidationError
      first | rfl | cases isValidationError
deriving DecidableEq

/-- An exception of a class of this package. -/
def adapterError (className message : String) : Raised where
  error := ⟨.other className, some message⟩
  isAdapterRunError := true

/-- `AdapterContractError`. -/
def contractError (message : String) : Raised :=
  adapterError "AdapterContractError" message

/-- `FetchError`. -/
def fetchError (message : String) : Raised :=
  adapterError "FetchError" message

/-- `ParseError`. -/
def parseError (message : String) : Raised :=
  adapterError "ParseError" message

/-- `NormalizationError`. -/
def normalizationError (message : String) : Raised :=
  adapterError "NormalizationError" message

/-! ## Values -/

/--
What `isinstance` says of a value: the value as an instance, nothing if it is
none, or what asking for its class raises.
-/
abbrev Asked (Instance : Type) := Except Raised (Option Instance)

/-- A header of a response. -/
inductive HeaderValue where
  | missing
  | text (value : String)
  | other
deriving DecidableEq, Repr

/-- The body of a response: bytes, another buffer, or neither. -/
inductive BodyValue where
  | bytes (content : ByteArray)
  | buffer (content : ByteArray)
  | neither (raised : Raised)

/-- An instance of `FetchResult`, a class which checks none of its fields. -/
structure FetchedObject where
  body : BodyValue
  etag : HeaderValue := .missing
  lastModified : HeaderValue := .missing

/-- A value which a sequence yields, and whether it is a mapping. -/
structure RawObject (Raw : Type) where
  value : Raw
  isMapping : Except Raised Bool

/-- An iteration over a sequence. -/
structure Iteration (Raw : Type) where
  items : List (RawObject Raw)
  raised : Option Raised := none

/-- A sequence, neither `str` nor `bytes`, which is iterated over twice. -/
structure ParsedObject (Raw : Type) where
  first : Iteration Raw
  second : Iteration Raw

/--
The attribute `data` of an item: JSON data, data for which `json.dumps` or the
encoding raises, or an attribute which cannot be read.
-/
inductive DataObject where
  | json (data : BusinessData)
  | unencodable (raised : Raised)
  | unreadable (raised : Raised)

/-- An instance of `CrawlItem`, which need not have been validated. -/
structure ItemObject where
  externalId : Option String
  data : DataObject

/-- A fingerprint: a text, or a value with a comparison of its own. -/
inductive FingerprintObject where
  | text (value : String)
  | other (differs : Except Raised Bool)

/-- A source adapter: what its methods raise or return. -/
structure Adapter (Raw : Type) where
  fetch : Except Raised (Asked FetchedObject)
  parse : FetchedObject → Except Raised (Asked (ParsedObject Raw))
  normalize : ℕ → Raw → Except Raised (Asked ItemObject)
  fingerprint : ℕ → ItemObject → Except Raised FingerprintObject

/-- A completed collection. -/
structure RunnerResult where
  response : FetchedObject
  items : List ItemObject
  rawResponseHash : String

/-! ## The runner -/

/-- Let exceptions of the package pass, and replace all others. -/
def guarded {Value : Type} (failure : Raised) :
    Except Raised Value → Except Raised Value
  | .ok value => .ok value
  | .error raised =>
      .error (if raised.isAdapterRunError then raised else failure)

/-- Raise an `AdapterContractError` unless a value is an instance. -/
def demand {Instance : Type} (message : String) :
    Asked Instance → Except Raised Instance
  | .ok (some value) => .ok value
  | .ok none => .error (contractError message)
  | .error raised => .error raised

/-- `all(isinstance(item, Mapping) for item in raw_items)`. -/
def allMappings {Raw : Type} (raised : Option Raised) :
    List (RawObject Raw) → Except Raised Bool
  | [] =>
      match raised with
      | some raised => .error raised
      | none => .ok true
  | item :: rest => do
      let isMapping ← item.isMapping
      if isMapping then allMappings raised rest else .ok false

/-- The paths of the fields which are not valid. -/
def fieldPaths (locations : List (List String)) : String :=
  ", ".intercalate (locations.map (".".intercalate ·))

/-- `fingerprint_business_data(item.data)`. -/
def DataObject.fingerprint (sha256 : ByteArray → String) :
    DataObject → Except Raised String
  | .json data =>
      match fingerprintBusinessData sha256 data with
      | .ok fingerprint => .ok fingerprint
      | .error error => .error { error := error, isValueError := true }
  | .unencodable raised =>
      if raised.isTypeError || raised.isValueError then
        .error
          { error := .value "Business data must be JSON-compatible."
            isValueError := true }
      else .error raised
  | .unreadable raised => .error raised

/-- `actual != expected`. -/
def FingerprintObject.differsFrom (expected : String) :
    FingerprintObject → Except Raised Bool
  | .text value => .ok (decide (value ≠ expected))
  | .other differs => differs

/-- `hashlib.sha256(body).hexdigest()`. -/
def BodyValue.digest (sha256 : ByteArray → String) :
    BodyValue → Except Raised String
  | .bytes content => .ok (sha256 content)
  | .buffer content => .ok (sha256 content)
  | .neither raised => .error raised

namespace AdapterRunner

variable {Raw : Type} (sha256 : ByteArray → String) (adapter : Adapter Raw)

/-- `_fetch`. -/
def fetch : Except Raised FetchedObject := do
  let returned ← guarded (fetchError "Adapter fetch failed.") adapter.fetch
  demand "fetch must return FetchResult." returned

/-- `_parse`. -/
def parse (response : FetchedObject) : Except Raised (ParsedObject Raw) := do
  let returned ←
    guarded (parseError "Adapter parse failed.") (adapter.parse response)
  let parsed ← demand "parse must return a sequence of mappings." returned
  let accepted ← allMappings parsed.first.raised parsed.first.items
  if accepted then .ok parsed
  else .error (contractError "parse must return only mappings.")

/-- The call of `normalize` and what becomes of its exceptions. -/
def normalized (position : ℕ) (rawItem : Raw) :
    Except Raised (Asked ItemObject) :=
  match adapter.normalize position rawItem with
  | .ok returned => .ok returned
  | .error raised =>
      match raised.locations with
      | some locations =>
          .error
            (normalizationError
              ("normalize returned invalid CrawlItem data: " ++
                fieldPaths locations ++ "."))
      | none =>
          guarded (normalizationError "Adapter normalize failed.")
            (.error raised)

/-- The canonical fingerprint of an item. -/
def expectedFingerprint (item : ItemObject) : Except Raised String :=
  match item.data.fingerprint sha256 with
  | .ok expected => .ok expected
  | .error raised =>
      .error
        (if raised.isValueError then
          contractError "CrawlItem data must be JSON-compatible."
        else raised)

/-- The fingerprint which the adapter computes. -/
def actualFingerprint (position : ℕ) (item : ItemObject) :
    Except Raised FingerprintObject :=
  match adapter.fingerprint position item with
  | .ok actual => .ok actual
  | .error _ => .error (contractError "Adapter fingerprint failed.")

/-- `_normalize`. -/
def normalize (position : ℕ) (rawItem : Raw) :
    Except Raised ItemObject := do
  let returned ← normalized adapter position rawItem
  let item ← demand "normalize must return CrawlItem." returned
  let expected ← expectedFingerprint sha256 item
  let actual ← actualFingerprint adapter position item
  let differs ← actual.differsFrom expected
  if differs then
    .error (contractError "Adapter fingerprint must be canonical.")
  else .ok item

/-- `tuple(self._normalize(raw_item) for raw_item in raw_items)`. -/
def normalizeAll (iteration : Iteration Raw) :
    Except Raised (List ItemObject) := do
  let items ← iteration.items.zipIdx.mapM fun yielded =>
    normalize sha256 adapter yielded.2 yielded.1.value
  match iteration.raised with
  | some raised => .error raised
  | none => .ok items

/-- `run`. -/
def run : Except Raised RunnerResult := do
  let response ← fetch adapter
  let rawItems ← parse adapter response
  let items ← normalizeAll sha256 adapter rawItems.second
  let rawResponseHash ← response.body.digest sha256
  .ok ⟨response, items, rawResponseHash⟩

end AdapterRunner

/-! ## Results of the declared types -/

/-- A header which is a text or missing. -/
def HeaderValue.header : HeaderValue → Option (Option String)
  | .missing => some none
  | .text value => some (some value)
  | .other => none

/-- The content of a body which has one. -/
def BodyValue.content : BodyValue → Option ByteArray
  | .bytes content => some content
  | .buffer content => some content
  | .neither _ => none

/-- An item whose fields are of the declared types. -/
def IsItem (object : ItemObject) (item : ItemFields) : Prop :=
  object.externalId = some item.externalId ∧ object.data = .json item.data

/-- A result with the fields of an adapter result. -/
structure IsResult (returned : RunnerResult) (result : AdapterResult) :
    Prop where
  body : returned.response.body.content = some result.response.body
  etag : returned.response.etag.header = some result.response.etag
  lastModified :
    returned.response.lastModified.header = some result.response.lastModified
  items : List.Forall₂ IsItem returned.items result.items
  rawResponseHash : result.rawResponseHash = returned.rawResponseHash

end MultisiteCrawler.Adapters
