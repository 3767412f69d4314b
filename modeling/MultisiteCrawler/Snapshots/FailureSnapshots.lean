import MultisiteCrawler.Foundation.Files
import MultisiteCrawler.Observability.EventLines

/-!
# Failure snapshots

Redacted material of a failed run, written as JSON below a directory which is
checked not to be inside the repository.
-/

namespace MultisiteCrawler.Snapshots

open Foundation.Files
open Foundation.JsonOrder
open Foundation.JsonText
open Foundation.PythonErrors
open Foundation.PythonText
open Foundation.PythonUrls
open Observability

/-! ## The snapshot root -/

/-- `SnapshotConfigurationError(message)`. -/
def snapshotConfigurationError (message : String) : PyError :=
  ⟨.other "SnapshotConfigurationError", some message⟩

/-- A path as it is given: relative, or absolute and resolved. -/
inductive GivenPath where
  | relative (parts : List String)
  | absolute (resolved : ResolvedPath)
deriving DecidableEq

/-- `_external_root`. -/
def externalRoot (root : GivenPath) (repositoryRoot : ResolvedPath) :
    Except PyError ResolvedPath :=
  match root with
  | .relative _ =>
      .error
        (snapshotConfigurationError "snapshot root must be an absolute path")
  | .absolute resolved =>
      if isRelativeTo resolved repositoryRoot then
        .error
          (snapshotConfigurationError
            "snapshot root must be outside the repository root")
      else .ok resolved

/-- An accepted root is the path given, and not in the repository. -/
theorem externalRoot_eq_ok_iff
    {root : GivenPath} {repositoryRoot resolved : ResolvedPath} :
    externalRoot root repositoryRoot = .ok resolved ↔
      root = .absolute resolved ∧ ¬ repositoryRoot <+: resolved := by
  cases root with
  | relative parts => simp [externalRoot]
  | absolute path =>
      rw [externalRoot, ← isRelativeTo_iff]
      split_ifs with inside
      · constructor
        · rintro ⟨⟩
        · rintro ⟨⟨⟩, outside⟩
          exact absurd inside outside
      · constructor
        · rintro ⟨⟩
          exact ⟨rfl, inside⟩
        · rintro ⟨⟨⟩, _⟩
          rfl

/-! ## Writing snapshots -/

/-- Material of a failed adapter operation. -/
structure SnapshotRequest (Object : Type) where
  sourceId : String
  crawlRunId : RunIdentifier
  headers : List (String × String)
  body : PyValue Object

/-- A file which has been written. -/
structure SnapshotFile where
  responsePath : ResolvedPath
  content : ByteArray

/-- A writer below an external root. -/
structure FailureSnapshotWriter where
  root : ResolvedPath
  maxBytes : ℕ
  maxBytes_pos : 0 < maxBytes

/-- Build a `FailureSnapshotWriter`. -/
def failureSnapshotWriter (root : GivenPath) (repositoryRoot : ResolvedPath)
    (maxBytes : ℤ) : Except PyError FailureSnapshotWriter :=
  if positive : maxBytes ≤ 0 then
    .error (snapshotConfigurationError "max_bytes must be positive")
  else do
    let resolved ← externalRoot root repositoryRoot
    .ok ⟨resolved, maxBytes.toNat, by omega⟩

/-- `_HEADER_ALLOWLIST`. -/
def headerAllowlist : List String :=
  ["content-type", "etag", "last-modified"]

section Write

variable (rules : UrlRules) {Object : Type}

/-- The headers which are kept. -/
def allowedHeaders (headers : List (String × String)) :
    List (String × String) :=
  headers.filter fun header =>
    headerAllowlist.contains (String.ofList (rules.lower header.1.toList))

/-- The payload which is encoded. -/
def snapshotPayload (headers : List (String × String)) (body : Json) : Json :=
  .obj
    [("headers", .obj (headers.map fun header => (header.1, .str header.2))),
      ("body", body)]

/-- The encoded payload. -/
def encodeSnapshot (headers : List (String × String)) (body : Json) :
    ByteArray :=
  (dumps compactStyle (sortKeys (snapshotPayload headers body))).toUTF8

/-- Write the file of a request, unless it is too large. -/
def FailureSnapshotWriter.store (writer : FailureSnapshotWriter)
    (sourceId : String) (crawlRunId : RunIdentifier) (encoded : ByteArray) :
    Except PyError SnapshotFile :=
  if writer.maxBytes < encoded.size then
    .error (.value "redacted snapshot exceeds configured maximum size")
  else
    .ok
      { responsePath := writer.root ++
          [sourceId ++ "_" ++ uuidText crawlRunId ++ "_response.json"]
        content := encoded }

/-- `FailureSnapshotWriter.write`. -/
def FailureSnapshotWriter.write (writer : FailureSnapshotWriter)
    (request : SnapshotRequest Object) : Except PyError SnapshotFile :=
  if matchesSourceId request.sourceId then do
    let body ← redactValue rules none request.body
    writer.store request.sourceId request.crawlRunId
      (encodeSnapshot (allowedHeaders rules request.headers) body)
  else .error (.value "source_id must match [a-z0-9_-]+")

/-! ## Requests which differ in secrets -/

/-- Requests which agree in all that is not secret. -/
structure AlikeRequests (request other : SnapshotRequest Object) : Prop where
  sourceId : request.sourceId = other.sourceId
  crawlRunId : request.crawlRunId = other.crawlRunId
  distinct : (request.headers.map Prod.fst).Nodup
  headers :
    (allowedHeaders rules request.headers).Perm
      (allowedHeaders rules other.headers)
  body : Alike rules request.body other.body

variable {rules}

/-- The order of the headers does not matter, nor that of keys in the body. -/
theorem encodeSnapshot_eq
    {headers otherHeaders : List (String × String)} {body otherBody : Json}
    (distinct : (headers.map Prod.fst).Nodup)
    (perm : headers.Perm otherHeaders) (same : Same body otherBody) :
    encodeSnapshot headers body = encodeSnapshot otherHeaders otherBody := by
  have sameHeaders :
      Same (.obj (headers.map fun header => (header.1, .str header.2)))
        (.obj (otherHeaders.map fun header => (header.1, .str header.2))) := by
    have keys (given : List (String × String)) :
        (given.map fun header => (header.1, Json.str header.2)).map
            Prod.fst = given.map Prod.fst := by
      rw [List.map_map]
      rfl
    have shown := perm.map fun header => (header.1, Json.str header.2)
    refine .obj ?_ (shown.map Prod.fst) ?_
    · rw [keys]
      exact distinct
    · intro key value other member otherMember
      have unique :
          ((headers.map fun header => (header.1, Json.str header.2)).map
            Prod.fst).Nodup := by
        rw [keys]
        exact distinct
      have isPair :=
        List.inj_on_of_nodup_map unique member
          (shown.mem_iff.mpr otherMember) rfl
      cases isPair
      exact .refl _
  unfold encodeSnapshot snapshotPayload
  rw [sortKeys, sortKeys, sortKeysMembers_eq_map, sortKeysMembers_eq_map]
  simp only [List.map_cons, List.map_nil, sameHeaders.sortKeys_eq,
    same.sortKeys_eq]

/-- Alike requests make the same file, or raise the same exception. -/
theorem AlikeRequests.write_eq
    {request other : SnapshotRequest Object}
    (alike : AlikeRequests rules request other)
    (writer : FailureSnapshotWriter) :
    writer.write rules request = writer.write rules other := by
  unfold FailureSnapshotWriter.write
  rw [alike.sourceId, alike.crawlRunId]
  split_ifs with accepted
  · have distinct :
        ((allowedHeaders rules request.headers).map Prod.fst).Nodup :=
      alike.distinct.sublist (List.filter_sublist.map Prod.fst)
    apply (alike.body.sameOutcome none).bind_eq
    intro body otherBody same
    rw [encodeSnapshot_eq distinct alike.headers same]
  · rfl

end Write

/-! ## Nothing written depends on secrets -/

/--
Values which differ only below sensitive keys, or in objects which are not
JSON, are redacted to equal values or make `redact_value` raise the same
exception.  So records which differ in such extra data, in the message, the
arguments or the traceback of an exception, or without a run event in any
message, make the same line; and requests which differ in such bodies, or in
other headers than the allowed ones, make the same file or the same error.
-/
theorem nothing_depends_on_secrets (rules : FormatRules) {Object : Type} :
    (∀ (key : Option String) (value other : PyValue Object),
        Alike rules.toUrlRules value other →
          SameOutcome (redactValue rules.toUrlRules key value)
            (redactValue rules.toUrlRules key other)) ∧
      (∀ record other : LogRecord Object,
        AlikeRecords rules record other →
          formatRecord rules record = formatRecord rules other) ∧
      ∀ (writer : FailureSnapshotWriter)
          (request other : SnapshotRequest Object),
        AlikeRequests rules.toUrlRules request other →
          writer.write rules.toUrlRules request =
            writer.write rules.toUrlRules other := by
  refine ⟨?_, ?_, ?_⟩
  · intro key value other alike
    exact alike.sameOutcome key
  · intro record other alike
    exact alike.formatRecord_eq
  · intro writer request other alike
    exact alike.write_eq writer

/-- Rules for texts of ASCII, whatever time it is. -/
def quietRules : FormatRules where
  toUnicodeRules := asciiRules
  isBracketedHost _ := false
  fromtimestamp _ := .error (.library .overflowError)
  zones := Foundation.AwareTime.eightHoursAhead
  floatLiteral _ := ⟨['1', '.', '5'], by decide⟩

/-- A body with a secret, in a list below another key. -/
def secretBody (secret : String) : PyValue Unit :=
  .mapping
    [("users",
      .list [.mapping [("name", .str "one"), ("Access-Token", .str secret)]])]

theorem alike_secretBody (first second : String) :
    Alike quietRules.toUrlRules (secretBody first) (secretBody second) := by
  have sensitive :
      isSensitiveKey quietRules.toUrlRules "Access-Token" = true := rfl
  refine .mapping (List.nodup_singleton _) (List.Perm.refl _) ?_
  intro key value other member otherMember _
  cases List.mem_singleton.mp member
  cases List.mem_singleton.mp otherMember
  refine .list rfl ?_
  intro item another pair
  cases List.mem_singleton.mp pair
  have distinct : ["name", "Access-Token"].Nodup := by decide
  refine .mapping distinct (List.Perm.refl _) ?_
  intro key value other member otherMember shown
  rcases List.mem_pair.mp member with isName | isToken
  · cases isName
    rcases List.mem_pair.mp otherMember with otherName | otherToken
    · cases otherName
      exact .refl _
    · have isKey : "name" = "Access-Token" := congrArg Prod.fst otherToken
      simp at isKey
  · cases isToken
    rw [sensitive] at shown
    cases shown

/-- The secret does not matter. -/
theorem nothing_depends_on_secrets_token :
    SameOutcome
      (redactValue quietRules.toUrlRules none (secretBody "first"))
      (redactValue quietRules.toUrlRules none (secretBody "second")) :=
  (nothing_depends_on_secrets quietRules).1 none _ _
    (alike_secretBody "first" "second")

end MultisiteCrawler.Snapshots
