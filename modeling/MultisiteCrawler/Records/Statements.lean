import MultisiteCrawler.Foundation.Transactions
import MultisiteCrawler.Records.Repository

/-!
# The statements of a transaction

`persist_collection` as it reaches a PostgreSQL server at READ COMMITTED: what
its statements see, write and lock.  A query for update of many rows finds its
rows first, and then locks and rereads them one by one.
-/

namespace MultisiteCrawler.Records

open Adapters
open Foundation.CivilTime
open Foundation.Interaction
open Foundation.PythonErrors
open Foundation.PythonText
open Foundation.Transactions

/-! ## Statements -/

/-- What a transaction asks of the server, one lock at a time. -/
inductive StatementCommand where
  | beijingNow
  | lockRecordKey (sourceId : SourceId) (externalId : String)
  | selectRecord (sourceId : SourceId) (externalId : String)
  | insertRecord (build : RecordId → Record)
  | updateRecord (record : Record)
  | insertEvent (event : ChangeEvent)
  | selectFetchState (sourceId : SourceId)
  | insertFetchState (state : SourceFetchState)
  | updateFetchState (state : SourceFetchState)
  | scanActiveRecords (sourceId : SourceId)
  | lockActiveRecord (sourceId : SourceId) (id : RecordId)

/-- What the server replies. -/
abbrev StatementCommand.Reply : StatementCommand → Type
  | .beijingNow => NaiveDateTime
  | .selectRecord _ _ => Option Record
  | .insertRecord _ => Except PyError RecordId
  | .selectFetchState _ => Option SourceFetchState
  | .insertFetchState _ => Except PyError Unit
  | .scanActiveRecords _ => List RecordId
  | .lockActiveRecord _ _ => Option Record
  | _ => Unit

/-- Programs of statements. -/
abbrev StatementProgram :=
  Program StatementCommand StatementCommand.Reply PyError

/-- The statements of a transaction and their replies. -/
abbrev StatementHistory :=
  History StatementCommand StatementCommand.Reply

/-- Lock the rows found and keep those which are still active. -/
def lockActiveRecords (sourceId : SourceId) :
    List RecordId → StatementProgram (List Record)
  | [] => .done []
  | id :: rest =>
      .perform (.lockActiveRecord sourceId id) fun reread =>
        (lockActiveRecords sourceId rest).bind fun records =>
          .done (reread.toList ++ records)

/-- The statements of one request of the repository. -/
def statements :
    (command : RepositoryCommand) → StatementProgram command.Reply
  | .beijingNow => .perform .beijingNow .done
  | .lockRecordKey sourceId externalId =>
      .perform (.lockRecordKey sourceId externalId) .done
  | .selectRecord sourceId externalId =>
      .perform (.selectRecord sourceId externalId) .done
  | .insertRecord build => .perform (.insertRecord build) .done
  | .updateRecord record => .perform (.updateRecord record) .done
  | .insertEvent event => .perform (.insertEvent event) .done
  | .selectFetchState sourceId => .perform (.selectFetchState sourceId) .done
  | .insertFetchState state => .perform (.insertFetchState state) .done
  | .updateFetchState state => .perform (.updateFetchState state) .done
  | .selectActiveRecords sourceId =>
      .perform (.scanActiveRecords sourceId) (lockActiveRecords sourceId)

/-! ## Locks and writes -/

/-- The text whose hash is locked for a business key. -/
def lockKey (key : SourceId × String) : String :=
  uuidText key.1 ++ ":" ++ key.2

/--
What transactions exclude each other from: a value of the advisory lock, rows,
and the index entries of rows which are not committed.
-/
inductive DatabaseLock where
  | advisory (hash : ℤ)
  | recordRow (id : RecordId)
  | recordEntry (key : SourceId × String)
  | fetchStateRow (sourceId : SourceId)
  | fetchStateEntry (sourceId : SourceId)
deriving DecidableEq

/-- What a statement writes. -/
inductive DatabaseWrite where
  | insertRecord (record : Record)
  | updateRecord (record : Record)
  | insertEvent (event : ChangeEvent)
  | insertFetchState (state : SourceFetchState)
  | updateFetchState (state : SourceFetchState)

/-- The tables after a write. -/
def DatabaseWrite.apply (database : Database) : DatabaseWrite → Database
  | .insertRecord record => database.insertRecord record
  | .updateRecord record => database.updateRecord record
  | .insertEvent event => database.insertEvent event
  | .insertFetchState state => database.insertFetchState state
  | .updateFetchState state => database.updateFetchState state

/-- The active record of a source with a primary key. -/
def Database.activeRecord (database : Database) (sourceId : SourceId)
    (id : RecordId) : Option Record :=
  (database.activeRecords sourceId).find? fun record =>
    decide (record.id = id)

variable (hashtext : String → ℤ)

/-- The lock for which a statement waits. -/
def statementDemand :
    StatementCommand → Database → Option DatabaseLock
  | .lockRecordKey sourceId externalId, _ =>
      some (.advisory (hashtext (lockKey (sourceId, externalId))))
  | .selectRecord sourceId externalId, database =>
      (database.find (sourceId, externalId)).map fun record =>
        .recordRow record.id
  | .insertRecord build, _ => some (.recordEntry (build 0).key)
  | .selectFetchState sourceId, database =>
      (database.findState sourceId).map fun _ => .fetchStateRow sourceId
  | .insertFetchState state, _ => some (.fetchStateEntry state.sourceId)
  | .lockActiveRecord _ id, _ => some (.recordRow id)
  | _, _ => none

/-- The replies to a statement, given what it sees. -/
def StatementAnswers :
    (command : StatementCommand) → Database → command.Reply → Prop
  | .selectRecord sourceId externalId, database, reply =>
      reply = database.find (sourceId, externalId)
  | .insertRecord build, database, reply =>
      if (database.find (build 0).key).isSome then
        reply = .error integrityError
      else
        ∃ id, reply = .ok id ∧ ∀ record ∈ database.records, record.id ≠ id
  | .selectFetchState sourceId, database, reply =>
      reply = database.findState sourceId
  | .insertFetchState state, database, reply =>
      if (database.findState state.sourceId).isSome then
        reply = .error integrityError
      else reply = .ok ()
  | .scanActiveRecords sourceId, database, reply =>
      reply.Perm ((database.activeRecords sourceId).map Record.id)
  | .lockActiveRecord sourceId id, database, reply =>
      reply = database.activeRecord sourceId id
  | _, _, _ => True

/-- The writes of a statement. -/
def statementEffects :
    (command : StatementCommand) → command.Reply → List DatabaseWrite
  | .insertRecord build, .ok id => [.insertRecord (build id)]
  | .updateRecord record, _ => [.updateRecord record]
  | .insertEvent event, _ => [.insertEvent event]
  | .insertFetchState state, .ok _ => [.insertFetchState state]
  | .updateFetchState state, _ => [.updateFetchState state]
  | _, _ => []

/-- The locks a statement acquires. -/
def statementAcquires :
    (command : StatementCommand) → command.Reply → List DatabaseLock
  | .lockRecordKey sourceId externalId, _ =>
      [.advisory (hashtext (lockKey (sourceId, externalId)))]
  | .selectRecord _ _, some record => [.recordRow record.id]
  | .insertRecord build, .ok id => [.recordEntry (build 0).key, .recordRow id]
  | .selectFetchState sourceId, some _ => [.fetchStateRow sourceId]
  | .insertFetchState state, .ok _ => [.fetchStateEntry state.sourceId]
  | .lockActiveRecord _ id, _ => [.recordRow id]
  | _, _ => []

/-- The server, given the hash of the advisory lock. -/
def server :
    Semantics StatementCommand StatementCommand.Reply Database DatabaseWrite
      DatabaseLock where
  apply := DatabaseWrite.apply
  demand := statementDemand hashtext
  Answers := StatementAnswers
  effects := statementEffects
  acquires := statementAcquires hashtext

/-! ## Transactions -/

/-- A collection to persist, as an adapter runner has accepted it. -/
structure Request where
  sourceId : SourceId
  result : AdapterResult
  compatible : result.Compatible

/-- The business keys of a request, in the order of its items. -/
def Request.keys (request : Request) : List (SourceId × String) :=
  request.result.items.map fun item => (request.sourceId, item.externalId)

/-- The statements of `persist_collection`. -/
def Request.program (sha256 : ByteArray → String) (request : Request) :
    StatementProgram Unit :=
  (persistCollection sha256 request.sourceId request.result).expand
    statements

end MultisiteCrawler.Records
