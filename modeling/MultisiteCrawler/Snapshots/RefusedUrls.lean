import MultisiteCrawler.Foundation.JsonLines
import MultisiteCrawler.Observability.BoundedRedaction
import MultisiteCrawler.Observability.Places
import MultisiteCrawler.Snapshots.FailureSnapshots

/-!
# Values which cannot be redacted

Redaction fails exactly for values with a text directly below a URL key which
`urllib` refuses, and for values beyond the limits of the interpreter.  Other
values have a log line, and a snapshot unless their source is not accepted or
the snapshot is too large.
-/

namespace MultisiteCrawler.Snapshots

open Foundation.AwareTime
open Foundation.JsonLimits
open Foundation.JsonOrder
open Foundation.JsonText
open Foundation.PythonErrors
open Foundation.PythonText
open Foundation.PythonUrls
open Observability

/-! ## Snapshots within the limits -/

section Within

variable (limits : InterpreterLimits)

/-- The encoded payload, on an interpreter with limits. -/
def encodeSnapshotWithin (headers : List (String × String)) (body : Json) :
    Except PyError ByteArray := do
  let text ←
    dumpsWithin limits compactStyle (sortKeys (snapshotPayload headers body))
  .ok text.toUTF8

/-- `FailureSnapshotWriter.write`, on an interpreter with limits. -/
def FailureSnapshotWriter.writeWithin (rules : UrlRules) {Object : Type}
    (interpreter : Interpreter Object) (writer : FailureSnapshotWriter)
    (request : SnapshotRequest Object) : Except PyError SnapshotFile :=
  if matchesSourceId request.sourceId then do
    let body ←
      redactWithin rules interpreter.helpers interpreter.frames none
        request.body
    let encoded ←
      encodeSnapshotWithin interpreter.toInterpreterLimits
        (allowedHeaders rules request.headers) body
    writer.store request.sourceId request.crawlRunId encoded
  else .error (.value "source_id must match [a-z0-9_-]+")

variable {limits} (headers : List (String × String)) {body : Json}

theorem encodeSnapshotWithin_eq_ok_iff {encoded : ByteArray} :
    encodeSnapshotWithin limits headers body = .ok encoded ↔
      Fits limits (snapshotPayload headers body) ∧
        encodeSnapshot headers body = encoded := by
  rw [encodeSnapshotWithin, bind_eq_ok_iff]
  simp only [dumpsWithin_eq_ok_iff, fits_sortKeys_iff, Except.ok.injEq]
  constructor
  · rintro ⟨text, ⟨fits, rfl⟩, rfl⟩
    exact ⟨fits, rfl⟩
  · rintro ⟨fits, rfl⟩
    exact ⟨_, ⟨fits, rfl⟩, rfl⟩

end Within

section Redacted

variable (rules : FormatRules) {Object : Type}
variable (interpreter : Interpreter Object)

/-! ## What is expected -/

/-- The two reasons for which a snapshot may not be written. -/
inductive ExpectedFailure (writer : FailureSnapshotWriter)
    (request : SnapshotRequest Object) : PyError → Prop where
  | sourceId (refused : matchesSourceId request.sourceId = false) :
      ExpectedFailure writer request
        (.value "source_id must match [a-z0-9_-]+")
  | tooLarge (body : Json)
      (redacted : redactValue rules.toUrlRules none request.body = .ok body)
      (large : writer.maxBytes <
        (encodeSnapshot (allowedHeaders rules.toUrlRules request.headers)
          body).size) :
      ExpectedFailure writer request
        (.value "redacted snapshot exceeds configured maximum size")

/--
A value is redacted without an exception: as it is, as the extra data of any
run event whose time and number of items can be told, and as the body of any
request.
-/
structure Redacts (value : PyValue Object) : Prop where
  returns :
    ∃ result,
      redactWithin rules.toUrlRules interpreter.helpers interpreter.frames
        none value = .ok result
  formats :
    ∀ (record : LogRecord Object) (event : LoggedEvent Object)
        (time : DateTime),
      record.runEvent = some event → .mapping event.extra = value →
        HasShortCount interpreter event.toRunEvent →
          rules.fromtimestamp record.created = .ok time →
            ∃ line, formatRecordWithin rules interpreter record = .ok line ∧
              IsOneLine line.toList
  writes :
    ∀ (writer : FailureSnapshotWriter) (request : SnapshotRequest Object)
        (error : PyError),
      request.body = value →
        writer.writeWithin rules.toUrlRules interpreter request =
            .error error →
          ExpectedFailure rules writer request error

variable {rules interpreter}

/-! ## Lines and files -/

/-- A request without headers for a source which is accepted. -/
def plainRequest (value : PyValue Object) : SnapshotRequest Object :=
  ⟨"a", 0, [], value⟩

theorem matchesSourceId_plainRequest (value : PyValue Object) :
    matchesSourceId (plainRequest value).sourceId = true := by
  show matchesSourceId "a" = true
  decide

/-- A value can be written which a writer with enough room writes. -/
theorem Redacts.fits
    {value : PyValue Object} {body : Json}
    (redacts : Redacts rules interpreter value)
    (returned :
      redactWithin rules.toUrlRules interpreter.helpers interpreter.frames
        none value = .ok body) :
    Fits interpreter.toInterpreterLimits (snapshotPayload [] body) := by
  have redacted := ((redactWithin_eq_ok_iff value).mp returned).1
  let writer : FailureSnapshotWriter :=
    ⟨[], (encodeSnapshot [] body).size + 1, Nat.succ_pos _⟩
  cases written :
      writer.writeWithin rules.toUrlRules interpreter
        (plainRequest value) with
  | ok file =>
      rw [FailureSnapshotWriter.writeWithin, matchesSourceId_plainRequest,
        if_pos rfl] at written
      change
        (redactWithin rules.toUrlRules interpreter.helpers
          interpreter.frames none value >>= _) = _ at written
      rw [returned, ok_bind, bind_eq_ok_iff] at written
      rcases written with ⟨encoded, isEncoded, _⟩
      exact ((encodeSnapshotWithin_eq_ok_iff _).mp isEncoded).1
  | error error =>
      cases redacts.writes writer (plainRequest value) error rfl written with
      | sourceId refused =>
          rw [matchesSourceId_plainRequest] at refused
          cases refused
      | tooLarge other isOther large =>
          cases redacted.symm.trans isOther
          exact absurd large (Nat.not_lt.mpr (Nat.le_succ _))

end Redacted

end MultisiteCrawler.Snapshots
