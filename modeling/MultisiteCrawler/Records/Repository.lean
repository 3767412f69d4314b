import MultisiteCrawler.Adapters.Contract
import MultisiteCrawler.Foundation.CivilTime
import MultisiteCrawler.Foundation.Interaction
import MultisiteCrawler.Foundation.JsonComparison

/-!
# Record repository

`RecordRepository.persist_collection` as a program of database statements, and
the tables these act on.  Every statement sees the statements before it in the
same transaction.  Rows are kept in the order of their insertion; a query
without an order may return them in any other.

The session writes a changed attribute back only if Python's `==` tells its new
value from the old one.  For the payload this is less than equality of JSON
values, since `==` takes `1`, `1.0` and `True` for equal.  The old value is the
one read from the table or, later in the same transaction, one which `==` does
not tell from it; so the row itself can be asked.
-/

namespace MultisiteCrawler.Records

open Adapters
open Foundation.CivilTime
open Foundation.Interaction
open Foundation.Interaction.Program (Handler)
open Foundation.JsonComparison
open Foundation.PythonErrors

/-! ## Tables -/

/-- The identifier of a source, a UUID. -/
abbrev SourceId := BitVec 128

/--
The primary key of a record.  Its values are random UUIDs, so all that is
known of them is that they differ; they are counted in order of insertion.
-/
abbrev RecordId := ℕ

/-- The current representation of a business record. -/
structure Record where
  id : RecordId
  sourceId : SourceId
  externalId : String
  payload : BusinessData
  contentHash : String
  isActive : Bool
  lastSeenAt : Option NaiveDateTime
  missingCount : ℕ

/-- The business key of a record. -/
def Record.key (record : Record) : SourceId × String :=
  (record.sourceId, record.externalId)

/-- An append-only change notification of a record. -/
structure ChangeEvent where
  recordId : RecordId
  eventType : String
  payload : BusinessData

/-- Latest response validators of a source. -/
structure SourceFetchState where
  sourceId : SourceId
  etag : Option String
  lastModified : Option String
  rawResponseHash : Option String
  updatedAt : NaiveDateTime

/-- The tables. -/
structure Database where
  records : List Record
  events : List ChangeEvent
  fetchStates : List SourceFetchState

/-- The database without rows. -/
def Database.empty : Database :=
  ⟨[], [], []⟩

/-! ## Statements -/

/-- What the repository asks of its session. -/
inductive RepositoryCommand where
  | beijingNow
  | lockRecordKey (sourceId : SourceId) (externalId : String)
  | selectRecord (sourceId : SourceId) (externalId : String)
  | insertRecord (build : RecordId → Record)
  | updateRecord (record : Record)
  | insertEvent (event : ChangeEvent)
  | selectFetchState (sourceId : SourceId)
  | insertFetchState (state : SourceFetchState)
  | updateFetchState (state : SourceFetchState)
  | selectActiveRecords (sourceId : SourceId)

/-- What the session replies. -/
abbrev RepositoryCommand.Reply : RepositoryCommand → Type
  | .beijingNow => NaiveDateTime
  | .selectRecord _ _ => Option Record
  | .insertRecord _ => Except PyError RecordId
  | .selectFetchState _ => Option SourceFetchState
  | .insertFetchState _ => Except PyError Unit
  | .selectActiveRecords _ => List Record
  | _ => Unit

/-- Programs of the repository. -/
abbrev RepositoryProgram :=
  Program RepositoryCommand RepositoryCommand.Reply PyError

namespace RepositoryProgram

/-- `beijing_now`. -/
def beijingNow : RepositoryProgram NaiveDateTime :=
  .perform .beijingNow .done

/-- `_lock_record_key`. -/
def lockRecordKey (sourceId : SourceId) (externalId : String) :
    RepositoryProgram Unit :=
  .perform (.lockRecordKey sourceId externalId) .done

/-- Select the record of a business key for update. -/
def selectRecord (sourceId : SourceId) (externalId : String) :
    RepositoryProgram (Option Record) :=
  .perform (.selectRecord sourceId externalId) .done

/-- Add a record and flush, which gives it its primary key. -/
def insertRecord (build : RecordId → Record) : RepositoryProgram RecordId :=
  .perform (.insertRecord build) Program.ofOutcome

/-- Write the attributes of a record back. -/
def updateRecord (record : Record) : RepositoryProgram Unit :=
  .perform (.updateRecord record) .done

/-- `_event`. -/
def insertEvent (recordId : RecordId) (eventType : String)
    (payload : BusinessData) : RepositoryProgram Unit :=
  .perform (.insertEvent ⟨recordId, eventType, payload⟩) .done

/-- Select the fetch state of a source for update. -/
def selectFetchState (sourceId : SourceId) :
    RepositoryProgram (Option SourceFetchState) :=
  .perform (.selectFetchState sourceId) .done

/-- Add a fetch state. -/
def insertFetchState (state : SourceFetchState) : RepositoryProgram Unit :=
  .perform (.insertFetchState state) Program.ofOutcome

/-- Write the attributes of a fetch state back. -/
def updateFetchState (state : SourceFetchState) : RepositoryProgram Unit :=
  .perform (.updateFetchState state) .done

/-- Select the active records of a source for update, in any order. -/
def selectActiveRecords (sourceId : SourceId) :
    RepositoryProgram (List Record) :=
  .perform (.selectActiveRecords sourceId) .done

end RepositoryProgram

/-! ## Persisting a collection -/

/-- `INACTIVE_AFTER_SUCCESSFUL_ABSENCES`. -/
def inactiveAfterSuccessfulAbsences : ℕ := 3

/-- The row of a record which is seen for the first time. -/
def createdRecord (sourceId : SourceId) (item : ItemFields)
    (contentHash : String) (now : NaiveDateTime) (id : RecordId) :
    Record where
  id := id
  sourceId := sourceId
  externalId := item.externalId
  payload := item.data
  contentHash := contentHash
  isActive := true
  lastSeenAt := some now
  missingCount := 0

/-- The payload of a row after another one was assigned to its record. -/
def writtenPayload (stored data : BusinessData) : BusinessData :=
  if PyEquals (.obj stored) (.obj data) then stored else data

/-- The row of a record which is seen again. -/
def seenRecord (item : ItemFields) (contentHash : String)
    (now : NaiveDateTime) (record : Record) : Record :=
  { record with
    payload := writtenPayload record.payload item.data
    contentHash := contentHash
    isActive := true
    lastSeenAt := some now
    missingCount := 0 }

variable (sha256 : ByteArray → String)

/-- The loop body of `persist_collection`. -/
def persistItem (sourceId : SourceId) (now : NaiveDateTime)
    (item : ItemFields) : RepositoryProgram Unit := do
  RepositoryProgram.lockRecordKey sourceId item.externalId
  let contentHash ←
    Program.ofOutcome (fingerprintBusinessData sha256 item.data)
  match ← RepositoryProgram.selectRecord sourceId item.externalId with
  | none => do
      let recordId ←
        RepositoryProgram.insertRecord
          (createdRecord sourceId item contentHash now)
      RepositoryProgram.insertEvent recordId "created" item.data
  | some record =>
      if record.contentHash ≠ contentHash then do
        RepositoryProgram.updateRecord
          (seenRecord item contentHash now record)
        RepositoryProgram.insertEvent record.id "updated" item.data
      else
        RepositoryProgram.updateRecord
          (seenRecord item record.contentHash now record)

/-- The loop of `persist_collection`; it returns the ids it has observed. -/
def persistItems (sourceId : SourceId) (now : NaiveDateTime) :
    List ItemFields → List String → RepositoryProgram (List String)
  | [], observedIds => pure observedIds
  | item :: rest, observedIds => do
      persistItem sha256 sourceId now item
      persistItems sourceId now rest (item.externalId :: observedIds)

/-- `_update_fetch_state`. -/
def updateFetchState (sourceId : SourceId) (result : AdapterResult)
    (now : NaiveDateTime) : RepositoryProgram Unit := do
  let state : SourceFetchState :=
    ⟨sourceId, result.response.etag, result.response.lastModified,
      some result.rawResponseHash, now⟩
  match ← RepositoryProgram.selectFetchState sourceId with
  | none => RepositoryProgram.insertFetchState state
  | some _ => RepositoryProgram.updateFetchState state

/-- The loop body of `_reconcile_missing` for an absent record. -/
def missRecord (record : Record) : RepositoryProgram Unit :=
  if inactiveAfterSuccessfulAbsences ≤ record.missingCount + 1 then do
    RepositoryProgram.updateRecord
      { record with
        missingCount := record.missingCount + 1
        isActive := false }
    RepositoryProgram.insertEvent record.id "inactive" record.payload
  else
    RepositoryProgram.updateRecord
      { record with missingCount := record.missingCount + 1 }

/-- The loop of `_reconcile_missing`. -/
def missRecords (observedIds : List String) :
    List Record → RepositoryProgram Unit
  | [] => pure ()
  | record :: rest => do
      if record.externalId ∈ observedIds then pure ()
      else missRecord record
      missRecords observedIds rest

/-- `_reconcile_missing`. -/
def reconcileMissing (sourceId : SourceId) (observedIds : List String) :
    RepositoryProgram Unit := do
  let records ← RepositoryProgram.selectActiveRecords sourceId
  missRecords observedIds records

/-- `persist_collection`. -/
def persistCollection (sourceId : SourceId) (result : AdapterResult) :
    RepositoryProgram Unit := do
  let now ← RepositoryProgram.beijingNow
  let observedIds ← persistItems sha256 sourceId now result.items []
  updateFetchState sourceId result now
  reconcileMissing sourceId observedIds

/-! ## The database -/

/-- The order in which a query returns its rows. -/
structure ScanOrder where
  arrange : List Record → List Record
  perm : ∀ rows, (arrange rows).Perm rows

namespace Database

/-- The record of a business key. -/
def find (database : Database) (key : SourceId × String) : Option Record :=
  database.records.find? fun record => decide (record.key = key)

/-- The fetch state of a source. -/
def findState (database : Database) (sourceId : SourceId) :
    Option SourceFetchState :=
  database.fetchStates.find? fun state =>
    decide (state.sourceId = sourceId)

/-- The active records of a source, in order of insertion. -/
def activeRecords (database : Database) (sourceId : SourceId) :
    List Record :=
  database.records.filter fun record =>
    decide (record.sourceId = sourceId) && record.isActive

/-- Append a record. -/
def insertRecord (database : Database) (record : Record) : Database :=
  { database with records := database.records ++ [record] }

/-- Replace the record which has the same primary key. -/
def updateRecord (database : Database) (record : Record) : Database :=
  { database with
    records :=
      database.records.map fun row =>
        if row.id = record.id then record else row }

/-- Append a change event. -/
def insertEvent (database : Database) (event : ChangeEvent) : Database :=
  { database with events := database.events ++ [event] }

/-- Append a fetch state. -/
def insertFetchState (database : Database) (state : SourceFetchState) :
    Database :=
  { database with fetchStates := database.fetchStates ++ [state] }

/-- Replace the fetch state of the same source. -/
def updateFetchState (database : Database) (state : SourceFetchState) :
    Database :=
  { database with
    fetchStates :=
      database.fetchStates.map fun row =>
        if row.sourceId = state.sourceId then state else row }

end Database

/-- A unique constraint is violated. -/
def integrityError : PyError :=
  .library (.other "IntegrityError")

/-- How a session answers, at a given time. -/
def databaseHandler (scan : ScanOrder) (now : NaiveDateTime) :
    Handler RepositoryCommand RepositoryCommand.Reply Database
  | .beijingNow, database => (now, database)
  | .lockRecordKey _ _, database => ((), database)
  | .selectRecord sourceId externalId, database =>
      (database.find (sourceId, externalId), database)
  | .insertRecord build, database =>
      let record := build database.records.length
      if (database.find record.key).isSome then
        (.error integrityError, database)
      else (.ok record.id, database.insertRecord record)
  | .updateRecord record, database => ((), database.updateRecord record)
  | .insertEvent event, database => ((), database.insertEvent event)
  | .selectFetchState sourceId, database =>
      (database.findState sourceId, database)
  | .insertFetchState state, database =>
      if (database.findState state.sourceId).isSome then
        (.error integrityError, database)
      else (.ok (), database.insertFetchState state)
  | .updateFetchState state, database =>
      ((), database.updateFetchState state)
  | .selectActiveRecords sourceId, database =>
      (scan.arrange (database.activeRecords sourceId), database)

/-- One collection of a source which an adapter runner has accepted. -/
structure Collection where
  sourceId : SourceId
  result : AdapterResult
  compatible : result.Compatible
  persistedAt : NaiveDateTime
  scan : ScanOrder

/-- Persist a collection and commit; an error rolls the transaction back. -/
def Database.persist (database : Database) (collection : Collection) :
    Database :=
  match
    (persistCollection sha256 collection.sourceId collection.result).run
      (databaseHandler collection.scan collection.persistedAt) database
  with
  | (.ok _, after) => after
  | (.error _, _) => database

/-- The database after collections persisted one after another. -/
def persistAll (collections : List Collection) : Database :=
  collections.foldl (Database.persist sha256) .empty

end MultisiteCrawler.Records
