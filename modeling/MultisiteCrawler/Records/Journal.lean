import MultisiteCrawler.Records.Statements

/-!
# The journal of a transaction

The statements of `persist_collection` and their replies, condensed: which
business keys have been locked and looked up, which rows are known, whether an
insertion is under way, how far the fetch state has come and which rows the
reconciliation has locked.  `follows_program` says in which order the
statements come, whatever is replied.
-/

namespace MultisiteCrawler.Records

open Adapters
open Foundation.CivilTime
open Foundation.Interaction
open Foundation.PythonErrors
open Foundation.Transactions

/-! ## Journals -/

/-- A record about to be inserted, or inserted without its first event. -/
inductive Pending where
  | nothing
  | absent (key : SourceId × String)
  | unannounced (id : RecordId)

/-- How far the fetch state has come. -/
inductive FetchStage where
  | unasked
  | absent
  | present
  | written
  | failed
deriving DecidableEq

/-- What matters of the statements of a transaction. -/
structure Journal where
  locked : List (SourceId × String)
  selected : List (SourceId × String)
  rows : List (RecordId × SourceId × String)
  pending : Pending
  fetch : FetchStage
  scanned : Option (List RecordId)
  held : List RecordId

/-- Nothing has been done. -/
def Journal.empty : Journal :=
  ⟨[], [], [], .nothing, .unasked, none, []⟩

/-- The journal after a statement. -/
def Journal.after (journal : Journal) :
    (command : StatementCommand) → command.Reply → Journal
  | .lockRecordKey sourceId externalId, _ =>
      { journal with locked := journal.locked ++ [(sourceId, externalId)] }
  | .selectRecord sourceId externalId, none =>
      { journal with
        selected := journal.selected ++ [(sourceId, externalId)]
        pending := .absent (sourceId, externalId) }
  | .selectRecord sourceId externalId, some record =>
      { journal with
        selected := journal.selected ++ [(sourceId, externalId)]
        rows := (record.id, record.key) :: journal.rows }
  | .insertRecord build, .ok id =>
      { journal with
        rows := (id, (build id).key) :: journal.rows
        pending := .unannounced id }
  | .insertEvent _, _ => { journal with pending := .nothing }
  | .selectFetchState _, reply =>
      { journal with fetch := if reply.isSome then .present else .absent }
  | .insertFetchState _, .ok _ => { journal with fetch := .written }
  | .insertFetchState _, .error _ => { journal with fetch := .failed }
  | .updateFetchState _, _ => { journal with fetch := .written }
  | .scanActiveRecords _, ids => { journal with scanned := some ids }
  | .lockActiveRecord _ id, none =>
      { journal with held := id :: journal.held }
  | .lockActiveRecord _ id, some record =>
      { journal with
        held := id :: journal.held
        rows := (record.id, record.key) :: journal.rows }
  | _, _ => journal

/-- The journal of a history. -/
def journal (history : StatementHistory) : Journal :=
  history.foldl (fun earlier entry => earlier.after entry.1 entry.2) .empty

@[simp]
theorem journal_nil : journal [] = .empty := rfl

@[simp]
theorem journal_concat
    (history : StatementHistory) (command : StatementCommand)
    (reply : command.Reply) :
    journal (history ++ [⟨command, reply⟩]) =
      (journal history).after command reply := by
  simp [journal, List.foldl_append]

/-! ## The discipline of a request -/

section Discipline

variable (request : Request)

/-- A fetch state which tells of the response of the request. -/
def Request.Matches (state : SourceFetchState) : Prop :=
  state.sourceId = request.sourceId ∧
    state.etag = request.result.response.etag ∧
    state.lastModified = request.result.response.lastModified ∧
    state.rawResponseHash = some request.result.rawResponseHash

/-- Between two items: those before have been persisted. -/
structure Journal.Between (keys : List (SourceId × String))
    (journal : Journal) : Prop where
  locked : journal.locked = keys
  selected : journal.selected = keys
  pending : journal.pending = .nothing
  known : ∀ key ∈ keys, ∃ id, (id, key) ∈ journal.rows
  scanned : journal.scanned = none
  held : journal.held = []

/-- After the fetch state has been written. -/
structure Journal.Reconciling (keys : List (SourceId × String))
    (journal : Journal) : Prop where
  locked : journal.locked = keys
  selected : journal.selected = keys
  pending : journal.pending = .nothing
  known : ∀ key ∈ keys, ∃ id, (id, key) ∈ journal.rows
  fetch : journal.fetch = .written

/-- All rows which were found have been locked. -/
def Journal.Complete (journal : Journal) : Prop :=
  ∃ ids, journal.scanned = some ids ∧ ∀ id ∈ ids, id ∈ journal.held

/-- The statements which may come next. -/
def Request.Allows (journal : Journal) : StatementCommand → Prop
  | .beijingNow => journal.Between [] ∧ journal.fetch = .unasked
  | .lockRecordKey sourceId externalId =>
      journal.Between journal.locked ∧ journal.fetch = .unasked ∧
        ∃ rest, request.keys =
          journal.locked ++ (sourceId, externalId) :: rest
  | .selectRecord sourceId externalId =>
      journal.pending = .nothing ∧ journal.fetch = .unasked ∧
        journal.scanned = none ∧
        journal.locked = journal.selected ++ [(sourceId, externalId)] ∧
        sourceId = request.sourceId
  | .insertRecord build =>
      ∃ key ∈ journal.locked, journal.pending = .absent key ∧
        journal.fetch = .unasked ∧ journal.scanned = none ∧
        ∀ id, (build id).id = id ∧ (build id).key = key
  | .updateRecord record =>
      journal.pending = .nothing ∧
        (record.id, record.key) ∈ journal.rows ∧
        (journal.fetch = .unasked ∨ journal.fetch = .written ∧ journal.Complete)
  | .insertEvent event =>
      (journal.pending = .unannounced event.recordId ∧
          event.eventType = "created" ∧ journal.fetch = .unasked) ∨
        journal.pending = .nothing ∧ event.eventType ≠ "created" ∧
          (journal.fetch = .unasked ∨ journal.fetch = .written)
  | .selectFetchState sourceId =>
      journal.Between request.keys ∧ journal.fetch = .unasked ∧
        sourceId = request.sourceId
  | .insertFetchState state =>
      journal.Between request.keys ∧ journal.fetch = .absent ∧
        request.Matches state
  | .updateFetchState state =>
      journal.Between request.keys ∧ journal.fetch = .present ∧
        request.Matches state
  | .scanActiveRecords sourceId =>
      journal.Reconciling request.keys ∧ journal.scanned = none ∧
        journal.held = [] ∧ sourceId = request.sourceId
  | .lockActiveRecord sourceId id =>
      journal.Reconciling request.keys ∧ sourceId = request.sourceId ∧
        ∃ ids, journal.scanned = some ids ∧ id ∈ ids

/-- What is known of a reply beforehand. -/
def Expected : (command : StatementCommand) → command.Reply → Prop
  | .selectRecord sourceId externalId, reply =>
      ∀ record ∈ reply, record.key = (sourceId, externalId)
  | .insertRecord _, reply => ∃ id, reply = .ok id
  | .insertFetchState _, reply =>
      reply = .ok () ∨ reply = .error integrityError
  | .lockActiveRecord _ id, reply => ∀ record ∈ reply, record.id = id
  | _, _ => True

/-- The discipline of `persist_collection`. -/
def Request.discipline :
    Discipline StatementCommand StatementCommand.Reply PyError where
  Allowed history command := request.Allows (journal history) command
  Possible _ command reply := Expected command reply
  Fails history error :=
    (journal history).fetch = .failed ∧ error = integrityError

/-- What is known at the end of `persist_collection`. -/
def Request.Ends (history : StatementHistory) (_ : Unit) : Prop :=
  (journal history).Reconciling request.keys ∧ (journal history).Complete

end Discipline

/-! ## The program follows the discipline -/

section Follows

variable (sha256 : ByteArray → String) (request : Request)

/-- Between two items, before the fetch state is asked for. -/
def Journal.AtItems (keys : List (SourceId × String)) (journal : Journal) :
    Prop :=
  journal.Between keys ∧ journal.fetch = .unasked

section AtItems

variable {entries : Journal} {keys : List (SourceId × String)}
variable {sourceId : SourceId} {externalId : String}

/-- A key which was not found has been inserted and announced. -/
theorem Journal.AtItems.created
    (atItems : entries.AtItems keys) {build : RecordId → Record}
    (isKey : ∀ id, (build id).key = (sourceId, externalId))
    (id : RecordId) (event : ChangeEvent) :
    ((((entries.after (.lockRecordKey sourceId externalId) ()).after
        (.selectRecord sourceId externalId) none).after
        (.insertRecord build) (.ok id)).after
        (.insertEvent event) ()).AtItems
      (keys ++ [(sourceId, externalId)]) := by
  rcases atItems with
    ⟨⟨locked, selected, pending, known, scanned, held⟩, unasked⟩
  refine ⟨⟨?_, ?_, rfl, ?_, scanned, held⟩, unasked⟩
  · simp only [Journal.after, locked]
  · simp only [Journal.after, selected]
  · intro key member
    rcases List.mem_append.mp member with earlier | isItem
    · rcases known key earlier with ⟨row, isRow⟩
      exact ⟨row, List.mem_cons_of_mem _ isRow⟩
    · rw [List.mem_singleton.mp isItem, ← isKey id]
      exact ⟨id, List.mem_cons_self⟩

/-- A key which was found. -/
theorem Journal.AtItems.seen
    (atItems : entries.AtItems keys) {record : Record}
    (isKey : record.key = (sourceId, externalId)) :
    ((entries.after (.lockRecordKey sourceId externalId) ()).after
        (.selectRecord sourceId externalId) (some record)).AtItems
      (keys ++ [(sourceId, externalId)]) := by
  rcases atItems with
    ⟨⟨locked, selected, pending, known, scanned, held⟩, unasked⟩
  refine ⟨⟨?_, ?_, pending, ?_, scanned, held⟩, unasked⟩
  · simp only [Journal.after, locked]
  · simp only [Journal.after, selected]
  · intro key member
    rcases List.mem_append.mp member with earlier | isItem
    · rcases known key earlier with ⟨row, isRow⟩
      exact ⟨row, List.mem_cons_of_mem _ isRow⟩
    · rw [List.mem_singleton.mp isItem, ← isKey]
      exact ⟨record.id, List.mem_cons_self⟩

/-- An event is announced while nothing is pending. -/
theorem Journal.AtItems.insertEvent
    (atItems : entries.AtItems keys) (event : ChangeEvent) :
    (entries.after (.insertEvent event) ()).AtItems keys := by
  rcases atItems with
    ⟨⟨locked, selected, pending, known, scanned, held⟩, unasked⟩
  exact ⟨⟨locked, selected, rfl, known, scanned, held⟩, unasked⟩

end AtItems

/-- The statements for a record which was found. -/
def seenStatements (now : NaiveDateTime) (item : ItemFields)
    (record : Record) : StatementProgram Unit :=
  if record.contentHash ≠ fingerprint sha256 item.data then
    .perform
      (.updateRecord
        (seenRecord item (fingerprint sha256 item.data) now record)) fun _ =>
      .perform (.insertEvent ⟨record.id, "updated", item.data⟩) .done
  else
    .perform (.updateRecord (seenRecord item record.contentHash now record))
      .done

/-- The statements for an item. -/
theorem persistItem_statements
    (now : NaiveDateTime) {item : ItemFields}
    (compatible : JsonCompatible item.data) :
    (persistItem sha256 request.sourceId now item).expand statements =
      .perform (.lockRecordKey request.sourceId item.externalId) fun _ =>
        .perform (.selectRecord request.sourceId item.externalId) fun
          | none =>
              .perform
                (.insertRecord
                  (createdRecord request.sourceId item
                    (fingerprint sha256 item.data) now)) fun
                | .ok id =>
                    .perform (.insertEvent ⟨id, "created", item.data⟩) .done
                | .error error => .fail error
          | some record => seenStatements sha256 now item record := by
  unfold persistItem
  rw [fingerprintBusinessData_of_compatible sha256 compatible]
  refine congrArg (Program.perform _) (funext fun _ => ?_)
  refine congrArg (Program.perform _) (funext fun found => ?_)
  cases found with
  | none =>
      refine congrArg (Program.perform _) (funext fun reply => ?_)
      cases reply <;> rfl
  | some record =>
      exact apply_ite (Program.expand statements)
        (record.contentHash ≠ fingerprint sha256 item.data) _ _

/-- The statements for a record which was found keep the place. -/
theorem follows_seenStatements
    (now : NaiveDateTime) (item : ItemFields) {record : Record}
    {keys : List (SourceId × String)} {history : StatementHistory}
    (atItems : (journal history).AtItems keys)
    (isRow : (record.id, record.key) ∈ (journal history).rows) :
    Follows request.discipline (fun later _ => (journal later).AtItems keys)
      history (seenStatements sha256 now item record) := by
  unfold seenStatements
  split_ifs with changed
  · refine ⟨⟨atItems.1.pending, isRow, Or.inl atItems.2⟩, fun _ _ => ?_⟩
    refine Follows.issue ?_ ?_
    · simp only [Request.discipline, journal_concat]
      have different : "updated" ≠ "created" := by decide
      exact Or.inr ⟨atItems.1.pending, different, Or.inl atItems.2⟩
    · intro _ _
      simp only [journal_concat]
      exact atItems.insertEvent _
  · refine Follows.issue ⟨atItems.1.pending, isRow, Or.inl atItems.2⟩ ?_
    intro _ _
    rw [journal_concat]
    exact atItems

/-- The statements for an item lead from one item to the next. -/
theorem follows_persistItem
    (now : NaiveDateTime) {item : ItemFields}
    (compatible : JsonCompatible item.data)
    {keys rest : List (SourceId × String)} {history : StatementHistory}
    (atItems : (journal history).AtItems keys)
    (isNext :
      request.keys = keys ++ (request.sourceId, item.externalId) :: rest) :
    Follows request.discipline
      (fun later _ => (journal later).AtItems
        (keys ++ [(request.sourceId, item.externalId)]))
      history
      ((persistItem sha256 request.sourceId now item).expand statements) := by
  have ⟨between, unasked⟩ := atItems
  rw [persistItem_statements sha256 request now compatible]
  refine ⟨?_, fun _ _ => ⟨?_, fun found expected => ?_⟩⟩
  · refine ⟨?_, unasked, rest, ?_⟩
    · rw [between.locked]
      exact between
    · rw [between.locked]
      exact isNext
  · simp only [Request.discipline, journal_concat]
    refine ⟨between.pending, unasked, between.scanned, ?_, rfl⟩
    simp only [Journal.after, between.locked, between.selected]
  · cases found with
    | none =>
        refine ⟨?_, ?_⟩
        · simp only [Request.discipline, journal_concat]
          refine ⟨(request.sourceId, item.externalId), ?_, rfl, unasked,
            between.scanned, fun _ => ⟨rfl, rfl⟩⟩
          exact List.mem_append_right _ List.mem_cons_self
        · rintro _ ⟨id, rfl⟩
          refine Follows.issue ?_ ?_
          · simp only [Request.discipline, journal_concat]
            exact Or.inl ⟨rfl, rfl, unasked⟩
          · intro _ _
            have isKey (row : RecordId) :
                (createdRecord request.sourceId item
                  (fingerprint sha256 item.data) now row).key =
                  (request.sourceId, item.externalId) := rfl
            simp only [journal_concat]
            exact atItems.created isKey id _
    | some record =>
        have isKey := expected record rfl
        refine follows_seenStatements sha256 request now item ?_ ?_
        · simp only [journal_concat]
          exact atItems.seen isKey
        · simp only [journal_concat]
          exact List.mem_cons_self

/-- The loop over the items leads to the end of the items. -/
theorem follows_persistItems
    (now : NaiveDateTime) (items : List ItemFields)
    (observedIds : List String)
    (compatible : ∀ item ∈ items, JsonCompatible item.data)
    {keys : List (SourceId × String)} {history : StatementHistory}
    (atItems : (journal history).AtItems keys)
    (remaining :
      request.keys =
        keys ++ items.map fun item => (request.sourceId, item.externalId)) :
    Follows request.discipline
      (fun later _ => (journal later).AtItems request.keys)
      history
      ((persistItems sha256 request.sourceId now items observedIds).expand
        statements) := by
  induction items generalizing keys history observedIds with
  | nil =>
      rw [List.map_nil, List.append_nil] at remaining
      rw [remaining]
      exact atItems
  | cons item rest induction =>
      rw [persistItems, Program.expand_bind]
      refine (follows_persistItem sha256 request now
        (compatible item List.mem_cons_self) atItems remaining).bind ?_
      intro later _ atNext
      refine induction _ (fun other member =>
        compatible other (List.mem_cons_of_mem _ member)) atNext ?_
      rw [remaining, List.map_cons, List.append_assoc]
      rfl

/-- The fetch state is written. -/
theorem follows_updateFetchState
    (now : NaiveDateTime) {history : StatementHistory}
    (atItems : (journal history).AtItems request.keys) :
    Follows request.discipline
      (fun later _ => (journal later).Reconciling request.keys ∧
        (journal later).scanned = none ∧ (journal later).held = [])
      history
      ((updateFetchState request.sourceId request.result now).expand
        statements) := by
  have ⟨between, unasked⟩ := atItems
  have ⟨locked, selected, pending, known, scanned, held⟩ := between
  refine ⟨⟨between, unasked, rfl⟩, ?_⟩
  intro found _
  cases found with
  | none =>
      refine ⟨?_, ?_⟩
      · simp only [Request.discipline, journal_concat]
        exact ⟨⟨locked, selected, pending, known, scanned, held⟩, rfl, rfl,
          rfl, rfl, rfl⟩
      · rintro _ (rfl | rfl)
        · change Journal.Reconciling _ (journal _) ∧ _
          simp only [journal_concat]
          exact ⟨⟨locked, selected, pending, known, rfl⟩, scanned, held⟩
        · change (journal _).fetch = _ ∧ _
          simp only [journal_concat]
          exact ⟨rfl, trivial⟩
  | some state =>
      refine Follows.issue ?_ ?_
      · simp only [Request.discipline, journal_concat]
        exact ⟨⟨locked, selected, pending, known, scanned, held⟩, rfl, rfl,
          rfl, rfl, rfl⟩
      · intro _ _
        simp only [journal_concat]
        exact ⟨⟨locked, selected, pending, known, rfl⟩, scanned, held⟩

/-- The rows found are locked one by one. -/
theorem follows_lockActiveRecords
    (ids rest : List RecordId) {history : StatementHistory}
    (reconciling : (journal history).Reconciling request.keys)
    (isScanned : (journal history).scanned = some ids)
    (members : ∀ id ∈ rest, id ∈ ids)
    (others : ∀ id ∈ ids, id ∈ rest ∨ id ∈ (journal history).held) :
    Follows request.discipline
      (fun later records => (journal later).Reconciling request.keys ∧
        (journal later).Complete ∧
        (journal history).rows ⊆ (journal later).rows ∧
        ∀ record ∈ records,
          (record.id, record.key) ∈ (journal later).rows)
      history (lockActiveRecords request.sourceId rest) := by
  induction rest generalizing history with
  | nil =>
      refine ⟨reconciling, ⟨ids, isScanned, ?_⟩, List.Subset.refl _, ?_⟩
      · intro id member
        exact (others id member).resolve_left List.not_mem_nil
      · rintro record ⟨⟩
  | cons id rest induction =>
      have ⟨locked, selected, pending, known, written⟩ := reconciling
      have restMembers : ∀ other ∈ rest, other ∈ ids := fun other member =>
        members other (List.mem_cons_of_mem _ member)
      have othersHeld :
          ∀ other ∈ ids,
            other ∈ rest ∨ other ∈ id :: (journal history).held := by
        intro other member
        rcases others other member with inList | isHeld
        · rcases List.mem_cons.mp inList with rfl | inRest
          · exact Or.inr List.mem_cons_self
          · exact Or.inl inRest
        · exact Or.inr (List.mem_cons_of_mem _ isHeld)
      refine ⟨⟨reconciling, rfl, ids, isScanned, members id
        List.mem_cons_self⟩, ?_⟩
      intro reread _
      cases reread with
      | none =>
          refine Follows.bind (induction ?_ ?_ restMembers ?_) ?_
          · rw [journal_concat]
            exact ⟨locked, selected, pending, known, written⟩
          · rw [journal_concat]
            exact isScanned
          · rw [journal_concat]
            exact othersHeld
          · intro later records ended
            rw [journal_concat] at ended
            exact ended
      | some record =>
          refine Follows.bind (induction ?_ ?_ restMembers ?_) ?_
          · rw [journal_concat]
            refine ⟨locked, selected, pending, ?_, written⟩
            intro key member
            rcases known key member with ⟨row, isRow⟩
            exact ⟨row, List.mem_cons_of_mem _ isRow⟩
          · rw [journal_concat]
            exact isScanned
          · rw [journal_concat]
            exact othersHeld
          · rintro later records ⟨stillReconciling, complete, kept, rows⟩
            rw [journal_concat] at kept
            refine ⟨stillReconciling, complete,
              fun row isRow => kept (List.mem_cons_of_mem _ isRow), ?_⟩
            intro other member
            rcases List.mem_cons.mp member with rfl | earlier
            · exact kept List.mem_cons_self
            · exact rows other earlier

/-- An absence is counted for a known row. -/
theorem follows_missRecord
    {record : Record} {history : StatementHistory}
    (ends : request.Ends history ())
    (isRow : (record.id, record.key) ∈ (journal history).rows) :
    Follows request.discipline
      (fun later _ => request.Ends later () ∧
        (journal history).rows ⊆ (journal later).rows)
      history ((missRecord record).expand statements) := by
  have ⟨⟨locked, selected, pending, known, written⟩, complete⟩ := ends
  unfold missRecord
  split_ifs with reached
  · refine ⟨⟨pending, isRow, Or.inr ⟨written, complete⟩⟩, fun _ _ => ?_⟩
    refine Follows.issue ?_ ?_
    · have different : "inactive" ≠ "created" := by decide
      simp only [Request.discipline, journal_concat]
      exact Or.inr ⟨pending, different, Or.inr written⟩
    · intro _ _
      simp only [Request.Ends, journal_concat]
      exact ⟨⟨⟨locked, selected, rfl, known, written⟩, complete⟩,
        List.Subset.refl _⟩
  · refine Follows.issue ⟨pending, isRow, Or.inr ⟨written, complete⟩⟩ ?_
    intro _ _
    simp only [Request.Ends, journal_concat]
    exact ⟨ends, List.Subset.refl _⟩

/-- Absences are counted for known rows. -/
theorem follows_missRecords
    (observedIds : List String) (records : List Record)
    {history : StatementHistory} (ends : request.Ends history ())
    (rows : ∀ record ∈ records,
      (record.id, record.key) ∈ (journal history).rows) :
    Follows request.discipline request.Ends history
      ((missRecords observedIds records).expand statements) := by
  induction records generalizing history with
  | nil => exact ends
  | cons record rest induction =>
      have restRows := fun other member =>
        rows other (List.mem_cons_of_mem _ member)
      rw [missRecords]
      by_cases observed : record.externalId ∈ observedIds
      · rw [if_pos observed]
        exact induction ends restRows
      · rw [if_neg observed, Program.expand_bind]
        refine (follows_missRecord request ends
          (rows record List.mem_cons_self)).bind ?_
        rintro later _ ⟨stillEnds, kept⟩
        exact induction stillEnds fun other member =>
          kept (restRows other member)

/-- Rows are found, locked, and absences counted. -/
theorem follows_reconcileMissing
    (observedIds : List String) {history : StatementHistory}
    (reconciling : (journal history).Reconciling request.keys)
    (scanned : (journal history).scanned = none)
    (held : (journal history).held = []) :
    Follows request.discipline request.Ends history
      ((reconcileMissing request.sourceId observedIds).expand
        statements) := by
  have ⟨locked, selected, pending, known, written⟩ := reconciling
  rw [reconcileMissing, Program.expand_bind]
  refine Follows.bind ⟨⟨reconciling, scanned, held, rfl⟩, fun ids _ => ?_⟩
    fun later records (ended : request.Ends later () ∧
      ∀ record ∈ records, (record.id, record.key) ∈ (journal later).rows) =>
      follows_missRecords request observedIds records ended.1 ended.2
  have isScanned :
      (journal
        (history ++ [⟨.scanActiveRecords request.sourceId, ids⟩])).scanned =
          some ids := by
    rw [journal_concat]
    rfl
  refine Follows.bind (follows_lockActiveRecords request ids ids ?_ isScanned
    (fun _ member => member) fun _ member => Or.inl member) ?_
  · rw [journal_concat]
    exact ⟨locked, selected, pending, known, written⟩
  · rintro later records ⟨stillReconciling, complete, _, rows⟩
    exact ⟨⟨stillReconciling, complete⟩, rows⟩

/-- The program of a request follows its discipline. -/
theorem follows_program :
    Follows request.discipline request.Ends [] (request.program sha256) := by
  have start : (journal []).AtItems [] :=
    ⟨⟨rfl, rfl, rfl, by rintro key ⟨⟩, rfl, rfl⟩, rfl⟩
  refine ⟨start, fun now _ => ?_⟩
  have started : (journal [⟨.beijingNow, now⟩]).AtItems [] := start
  have whole :
      Follows request.discipline request.Ends [⟨.beijingNow, now⟩]
        ((do
          let observedIds ←
            persistItems sha256 request.sourceId now request.result.items []
          updateFetchState request.sourceId request.result now
          reconcileMissing request.sourceId observedIds :
            RepositoryProgram Unit).expand statements) := by
    rw [Program.expand_bind]
    refine (follows_persistItems sha256 request now request.result.items []
      request.compatible started rfl).bind ?_
    intro later observedIds atItems
    rw [Program.expand_bind]
    refine (follows_updateFetchState request now atItems).bind ?_
    rintro last _ ⟨reconciling, scanned, held⟩
    exact follows_reconcileMissing request observedIds reconciling scanned
      held
  exact whole

end Follows

end MultisiteCrawler.Records
