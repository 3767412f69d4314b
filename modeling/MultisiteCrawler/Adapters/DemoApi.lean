import MultisiteCrawler.Adapters.Boundary

/-!
# The demo adapter

`DemoApiAdapter` fetches a document over HTTP, takes the array under `items`
and makes an item of each object with a text under `id`.  Whatever it is
replied, a run collects all objects of the array, or fails with the error of
the first step or of the first object which is not as it should be.
-/

namespace MultisiteCrawler.Adapters

open Foundation.EscapingErrors
open Foundation.JsonText
open Foundation.PythonErrors
open Foundation.PythonText

/-! ## `json.loads` of bytes -/

/-- What the adapter uses of the standard library. -/
structure HttpLibrary where
  /--
  What `json.loads` raises on a text beyond the limits of the interpreter,
  on digits or on nesting.
  -/
  exceeds : String → Option Raised
  /-- What `json.dumps` raises on business data beyond these limits. -/
  unencodable : BusinessData → Option Raised
  /-- Whether `json.dumps` raises on a document of the server beyond them. -/
  unwritable : Json → Bool
  /-- The text of bytes which are not UTF-8, or what decoding them raises. -/
  decodeOther : ByteArray → Except Raised String
  /-- The text which is read of a header sent with a text, or what is raised. -/
  header : String → Except Raised String

/-- The encodings which `json.detect_encoding` tells apart. -/
inductive DetectedEncoding where
  | utf8
  | utf8Sig
  | wide
deriving DecidableEq

/-- `json.detect_encoding`; the four wide encodings are not told apart. -/
def detectEncoding (bytes : List UInt8) : DetectedEncoding :=
  if [0xff, 0xfe].isPrefixOf bytes || [0xfe, 0xff].isPrefixOf bytes then .wide
  else if [0xef, 0xbb, 0xbf].isPrefixOf bytes then .utf8Sig
  else
    match bytes with
    | first :: second :: _ :: _ :: _ =>
        if first = 0 ∨ second = 0 then .wide else .utf8
    | [first, second] => if first = 0 ∨ second = 0 then .wide else .utf8
    | _ => .utf8

/-- The text which `json.loads` reads bytes as. -/
def decodeBytes (library : HttpLibrary) (content : ByteArray) :
    Except Raised String :=
  let encoded :=
    match detectEncoding content.data.toList with
    | .utf8 => String.fromUTF8? content
    | .utf8Sig => String.fromUTF8? (content.extract 3 content.size)
    | .wide => none
  match encoded with
  | some text => .ok text
  | none => library.decodeOther content

/-- `json.loads` of bytes: a document, or no document, or another exception. -/
def loadsBytes (library : HttpLibrary) (content : ByteArray) :
    Except Raised (Option Json) := do
  let text ← decodeBytes library content
  match library.exceeds text with
  | some raised => .error raised
  | none => .ok (loads text)

/-! ## The adapter -/

/-- What `urlopen` and reading the response come to. -/
inductive HttpReply where
  /-- An `HTTPError`, an `URLError` or a `TimeoutError`. -/
  | refused
  | broken (raised : Raised)
  | received (body : ByteArray) (etag : Option String)

/-- A header as an attribute of a response. -/
def headerValue : Option String → HeaderValue
  | none => .missing
  | some text => .text text

/-- The object of a received response. -/
def receivedObject (body : ByteArray) (etag : Option String) :
    FetchedObject where
  body := .bytes body
  etag := headerValue etag

/-- `DemoApiAdapter.fetch`. -/
def demoFetch : HttpReply → Except Raised (Asked FetchedObject)
  | .refused => .error (fetchError "demo_api request failed")
  | .broken raised => .error raised
  | .received body etag => .ok (.ok (some (receivedObject body etag)))

/-- `document["items"]`; other documents than mappings have no such item. -/
def itemsMember : Json → Option Json
  | .obj members => lookup "items" members
  | _ => none

/-- The mappings in a list, if it holds nothing else. -/
def mappings : List Json → Option (List BusinessData)
  | [] => some []
  | .obj members :: rest => (mappings rest).map (members :: ·)
  | _ :: _ => none

/-- `DemoApiAdapter.parse`. -/
def demoParse (library : HttpLibrary) (body : ByteArray) :
    Except Raised (List BusinessData) := do
  let document ← loadsBytes library body
  match document.bind itemsMember with
  | none =>
      .error (parseError "demo_api response is not a valid items document")
  | some (.arr items) =>
      match mappings items with
      | some found => .ok found
      | none =>
          .error (parseError "demo_api items must be a list of objects")
  | some _ => .error (parseError "demo_api items must be a list of objects")

/-- The error of a `CrawlItem` with an id which is not accepted. -/
def validationError : Raised where
  error := ⟨.other "ValidationError", none⟩
  isValueError := true
  locations := some [["external_id"]]

theorem accepted_of_not_blank {text : String} (notBlank : strip text ≠ "") :
    rejectBlankExternalId text = .ok text :=
  if_neg notBlank

/-- `CrawlItem(external_id=..., data=...)`. -/
def createItem (externalId : String) (data : BusinessData) :
    Except Raised CrawlItem :=
  if short : externalId.length < 1 then .error validationError
  else if blank : strip externalId = "" then .error validationError
  else
    .ok
      ⟨⟨externalId, data⟩, not_lt.mp short, accepted_of_not_blank blank⟩

/-- `DemoApiAdapter.normalize`. -/
def demoNormalize (rawItem : BusinessData) : Except Raised CrawlItem :=
  match lookup "id" rawItem with
  | some (.str identifier) => createItem identifier rawItem
  | _ => .error (parseError "demo_api item is missing string id")

/-- An item as the object which is returned. -/
def CrawlItem.object (item : CrawlItem) : ItemObject :=
  ⟨some item.externalId, .json item.data⟩

/-- The same, for an interpreter which may not encode the data. -/
def CrawlItem.objectIn (library : HttpLibrary) (item : CrawlItem) :
    ItemObject :=
  match library.unencodable item.data with
  | none => item.object
  | some raised => ⟨some item.externalId, .unencodable raised⟩

theorem objectIn_of_encodable {library : HttpLibrary} {item : CrawlItem}
    (within : library.unencodable item.data = none) :
    item.objectIn library = item.object := by
  rw [CrawlItem.objectIn, within]

theorem objectIn_of_unencodable {library : HttpLibrary} {item : CrawlItem}
    {raised : Raised} (beyond : library.unencodable item.data = some raised) :
    item.objectIn library = ⟨some item.externalId, .unencodable raised⟩ := by
  rw [CrawlItem.objectIn, beyond]

theorem CrawlItem.notBlank (item : CrawlItem) : strip item.externalId ≠ "" := by
  intro blank
  have accepted := item.externalId_accepted
  rw [rejectBlankExternalId, if_pos blank] at accepted
  cases accepted

/-- A list of mappings as the sequence which is returned. -/
def parsedList (found : List BusinessData) : ParsedObject BusinessData :=
  let iteration : Iteration BusinessData :=
    { items := found.map fun members => ⟨members, .ok true⟩ }
  ⟨iteration, iteration⟩

/-- The body of a fetched object, if it is bytes. -/
def bytesOf (response : FetchedObject) : ByteArray :=
  match response.body with
  | .bytes content => content
  | .buffer content => content
  | .neither _ => .empty

/-- `DemoApiAdapter`, when the server replies with this. -/
def demoApi (sha256 : ByteArray → String) (library : HttpLibrary)
    (reply : HttpReply) : Adapter BusinessData where
  fetch := demoFetch reply
  parse response :=
    (demoParse library (bytesOf response)).map fun found =>
      .ok (some (parsedList found))
  normalize _ rawItem :=
    (demoNormalize rawItem).map fun item =>
      .ok (some (item.objectIn library))
  fingerprint _ item := (item.data.fingerprint sha256).map .text

/-! ## A run -/

theorem length_of_not_blank {text : String} (notBlank : strip text ≠ "") :
    1 ≤ text.length := by
  by_contra short
  have empty : text = "" :=
    String.length_eq_zero_iff.mp (Nat.lt_one_iff.mp (not_le.mp short))
  exact notBlank (by rw [empty]; rfl)

/-- What the runner raises where hashing the data of an item raises. -/
def unencodableError (raised : Raised) : Raised :=
  if raised.isTypeError || raised.isValueError then
    contractError "CrawlItem data must be JSON-compatible."
  else raised

/--
The item which a run makes of one mapping: the mapping under its id, which
must be a text which is not blank, and without infinite floats.
-/
def collectItem (library : HttpLibrary) (members : BusinessData) :
    Except Raised CrawlItem :=
  match lookup "id" members with
  | some (.str identifier) =>
      if blank : strip identifier = "" then
        .error
          (normalizationError
            "normalize returned invalid CrawlItem data: external_id.")
      else
        match library.unencodable members with
        | some raised => .error (unencodableError raised)
        | none =>
            if isFiniteMembers members then
              .ok
                ⟨⟨identifier, members⟩, length_of_not_blank blank,
                  accepted_of_not_blank blank⟩
            else
              .error (contractError "CrawlItem data must be JSON-compatible.")
  | _ => .error (parseError "demo_api item is missing string id")

/-- An item is created if and only if its id is not blank. -/
theorem createItem_eq (externalId : String) (data : BusinessData) :
    createItem externalId data =
      if blank : strip externalId = "" then .error validationError
      else
        .ok
          ⟨⟨externalId, data⟩, length_of_not_blank blank,
            accepted_of_not_blank blank⟩ := by
  rw [createItem]
  split_ifs with short blank
  · rfl
  · exact absurd (length_of_not_blank blank) (not_le.mpr short)
  · rfl
  · rfl

section Run

variable (sha256 : ByteArray → String) (library : HttpLibrary)
variable (reply : HttpReply) (position : ℕ)

theorem demoApi_normalize (members : BusinessData) :
    (demoApi sha256 library reply).normalize position members =
      (demoNormalize members).map fun item =>
        .ok (some (item.objectIn library)) :=
  rfl

/-- The runner passes on what the adapter raises of the package's classes. -/
theorem normalize_of_runError {members : BusinessData} {raised : Raised}
    (raises : demoNormalize members = .error raised)
    (isRunError : raised.IsRunError) :
    AdapterRunner.normalize sha256 (demoApi sha256 library reply) position
        members =
      .error raised := by
  rw [AdapterRunner.normalize, AdapterRunner.normalized, demoApi_normalize,
    raises]
  dsimp only [Except.map]
  rw [isRunError.locations]
  dsimp only
  rw [guarded_of_isRunError isRunError]
  rfl

/-- The runner names the field which a validation error is about. -/
theorem normalize_of_validationError {members : BusinessData}
    (raises : demoNormalize members = .error validationError) :
    AdapterRunner.normalize sha256 (demoApi sha256 library reply) position
        members =
      .error
        (normalizationError
          "normalize returned invalid CrawlItem data: external_id.") := by
  rw [AdapterRunner.normalize, AdapterRunner.normalized, demoApi_normalize,
    raises]
  rfl

/-- The runner does not get beyond data which cannot be encoded. -/
theorem normalize_of_unencodable {members : BusinessData} {item : CrawlItem}
    {raised : Raised} (normalized : demoNormalize members = .ok item)
    (beyond : library.unencodable item.data = some raised) :
    AdapterRunner.normalize sha256 (demoApi sha256 library reply) position
        members =
      .error (unencodableError raised) := by
  have returned :
      AdapterRunner.normalized (demoApi sha256 library reply) position
          members =
        .ok (.ok (some ⟨some item.externalId, .unencodable raised⟩)) := by
    rw [AdapterRunner.normalized, demoApi_normalize, normalized,
      ← objectIn_of_unencodable beyond]
    rfl
  have refused :
      AdapterRunner.expectedFingerprint sha256
          ⟨some item.externalId, .unencodable raised⟩ =
        .error (unencodableError raised) := by
    rw [AdapterRunner.expectedFingerprint, DataObject.fingerprint,
      unencodableError]
    cases isType : raised.isTypeError with
    | true => rfl
    | false =>
        cases isValue : raised.isValueError with
        | true => rfl
        | false =>
            show Except.error (if raised.isValueError then _ else _) = _
            rw [isValue]
            rfl
  rw [AdapterRunner.normalize, returned]
  show
    (AdapterRunner.expectedFingerprint sha256 _ >>= fun expected => _) = _
  rw [refused]
  rfl

/-- The runner checks that the data of an item can be hashed. -/
theorem normalize_of_item {members : BusinessData} {item : CrawlItem}
    (normalized : demoNormalize members = .ok item)
    (within : library.unencodable item.data = none) :
    AdapterRunner.normalize sha256 (demoApi sha256 library reply) position
        members =
      if isFiniteMembers item.data then .ok item.object
      else
        .error (contractError "CrawlItem data must be JSON-compatible.") := by
  have returned :
      AdapterRunner.normalized (demoApi sha256 library reply) position
          members =
        .ok (.ok (some item.object)) := by
    rw [AdapterRunner.normalized, demoApi_normalize, normalized,
      ← objectIn_of_encodable within]
    rfl
  rw [AdapterRunner.normalize, returned]
  show
    (AdapterRunner.expectedFingerprint sha256 item.object >>= fun expected =>
      AdapterRunner.actualFingerprint (demoApi sha256 library reply) position
          item.object >>= _) = _
  split_ifs with finite
  · have hashed :
        item.object.data.fingerprint sha256 =
          .ok (fingerprint sha256 item.data) := by
      rw [CrawlItem.object, DataObject.fingerprint,
        fingerprintBusinessData_of_compatible sha256 finite]
    have actual :
        (demoApi sha256 library reply).fingerprint position item.object =
          .ok (.text (fingerprint sha256 item.data)) := by
      show (item.object.data.fingerprint sha256).map _ = _
      rw [hashed]
      rfl
    rw [AdapterRunner.expectedFingerprint, hashed,
      AdapterRunner.actualFingerprint, actual]
    show
      (if decide (fingerprint sha256 item.data ≠ fingerprint sha256 item.data)
        then _ else _) = _
    rw [if_neg (by rw [decide_eq_true_eq]; exact not_not_intro rfl)]
  · have unhashed :
        fingerprintBusinessData sha256 item.data =
          .error (.value "Business data must be JSON-compatible.") := by
      rw [fingerprintBusinessData, canonicalJsonBytes, if_neg finite]
      rfl
    rw [AdapterRunner.expectedFingerprint, CrawlItem.object,
      DataObject.fingerprint, unhashed]
    rfl

/-- The checks of the runner let through what the adapter makes. -/
theorem normalize_demoApi (members : BusinessData) :
    AdapterRunner.normalize sha256 (demoApi sha256 library reply) position
        members =
      (collectItem library members).map CrawlItem.object := by
  have missing (noText : ∀ identifier,
      lookup "id" members ≠ some (.str identifier)) :
      demoNormalize members =
          .error (parseError "demo_api item is missing string id") ∧
        collectItem library members =
          .error (parseError "demo_api item is missing string id") := by
    rw [demoNormalize, collectItem]
    cases found : lookup "id" members with
    | none => exact ⟨rfl, rfl⟩
    | some value =>
        cases value with
        | str identifier => exact absurd found (noText identifier)
        | _ => exact ⟨rfl, rfl⟩
  by_cases isText : ∃ identifier, lookup "id" members = some (.str identifier)
  · rcases isText with ⟨identifier, isId⟩
    have created :
        demoNormalize members = createItem identifier members := by
      rw [demoNormalize, isId]
    rw [createItem_eq] at created
    rw [collectItem, isId]
    by_cases blank : strip identifier = ""
    · rw [dif_pos blank] at created
      rw [normalize_of_validationError sha256 library reply position created]
      dsimp only
      rw [dif_pos blank]
      rfl
    · rw [dif_neg blank] at created
      dsimp only
      rw [dif_neg blank]
      cases limit : library.unencodable members with
      | some raised =>
          rw [normalize_of_unencodable sha256 library reply position created
            limit]
          rfl
      | none =>
          rw [normalize_of_item sha256 library reply position created limit]
          dsimp only
          split_ifs <;> rfl
  · rcases missing (not_exists.mp isText) with ⟨raises, collected⟩
    rw [normalize_of_runError sha256 library reply position raises rfl,
      collected]
    rfl

/-- A list of mappings is accepted as what was parsed. -/
theorem parse_received {body : ByteArray} {found : List BusinessData}
    (etag : Option String) (parsed : demoParse library body = .ok found) :
    AdapterRunner.parse (demoApi sha256 library reply)
        (receivedObject body etag) =
      .ok (parsedList found) := by
  have returned :
      (demoApi sha256 library reply).parse (receivedObject body etag) =
        .ok (.ok (some (parsedList found))) := by
    show (demoParse library body).map _ = _
    rw [parsed]
    rfl
  have allMapping :
      ∀ item ∈ (parsedList found).first.items, item.isMapping = .ok true := by
    intro item member
    rcases List.mem_map.mp member with ⟨members, _, rfl⟩
    rfl
  exact
    (AdapterRunner.parse_eq_ok_iff _ _ _).mpr ⟨returned, allMapping, rfl⟩

/-- Every mapping of the list becomes an item, or the first fault is raised. -/
theorem normalizeAll_parsedList (found : List BusinessData) :
    AdapterRunner.normalizeAll sha256 (demoApi sha256 library reply)
        (parsedList found).second =
      (found.mapM (collectItem library)).map (List.map CrawlItem.object) := by
  have normalized (start : ℕ) :
      ((found.map fun members =>
          (⟨members, .ok true⟩ : RawObject BusinessData)).zipIdx start).mapM
          (fun yielded =>
            AdapterRunner.normalize sha256 (demoApi sha256 library reply)
              yielded.2 yielded.1.value) =
        (found.mapM (collectItem library)).map (List.map CrawlItem.object) := by
    induction found generalizing start with
    | nil => rfl
    | cons members rest induction =>
        rw [List.map_cons, List.zipIdx_cons, List.mapM_cons, List.mapM_cons,
          normalize_demoApi, induction]
        cases collectItem library members with
        | error raised => rfl
        | ok item => cases rest.mapM (collectItem library) <;> rfl
  rw [AdapterRunner.normalizeAll, parsedList]
  dsimp only
  rw [normalized]
  cases found.mapM (collectItem library) <;> rfl

end Run

section Replies

variable (sha256 : ByteArray → String) (library : HttpLibrary)

/-- Nothing is collected where the server does not reply. -/
theorem run_demoApi_refused :
    AdapterRunner.run sha256 (demoApi sha256 library .refused) =
      .error (fetchError "demo_api request failed") :=
  fetch_propagates sha256 _ rfl rfl

/-- What a run makes of a response. -/
def collected (body : ByteArray) : Except Raised (List CrawlItem) := do
  let found ←
    guarded (parseError "Adapter parse failed.") (demoParse library body)
  found.mapM (collectItem library)

/-- What is raised instead of a reply makes the fetch of the adapter fail. -/
theorem run_demoApi_broken (raised : Raised) :
    AdapterRunner.run sha256 (demoApi sha256 library (.broken raised)) =
      .error
        (if raised.isAdapterRunError then raised
          else fetchError "Adapter fetch failed.") := by
  rw [AdapterRunner.run, AdapterRunner.fetch, demoApi, demoFetch, guarded]
  rfl

theorem run_demoApi_received (body : ByteArray) (etag : Option String) :
    AdapterRunner.run sha256 (demoApi sha256 library (.received body etag)) =
      (collected library body).map fun items =>
        ⟨receivedObject body etag, items.map CrawlItem.object,
          sha256 body⟩ := by
  have fetched :
      AdapterRunner.fetch (demoApi sha256 library (.received body etag)) =
        .ok (receivedObject body etag) := rfl
  rw [AdapterRunner.run, fetched, ok_bind, collected]
  cases parsed : demoParse library body with
  | error raised =>
      have returned :
          (demoApi sha256 library (.received body etag)).parse
              (receivedObject body etag) =
            .error raised := by
        show (demoParse library body).map _ = _
        rw [parsed]
        rfl
      rw [AdapterRunner.parse, returned]
      rfl
  | ok found =>
      rw [parse_received sha256 library _ etag parsed, ok_bind,
        normalizeAll_parsedList]
      show _ = (found.mapM (collectItem library)).map _
      cases found.mapM (collectItem library) <;> rfl

end Replies

end MultisiteCrawler.Adapters
