import MultisiteCrawler.BrowserRuntime.ManagedEdge
import MultisiteCrawler.Foundation.Protocols
import MultisiteCrawler.Tasks.TerminalOutcome

/-!
# Browser operations under a lease

`run_browser_operation` passes the browser runtime as the operation of
`run_with_source_lease`.  Whatever the lease store, the heartbeat, the browser
and the operation reply or raise, the browser is open only while the call
holds its lease with a heartbeat, and is closed before the heartbeat stops and
the lease is given back.
-/

namespace MultisiteCrawler.Tasks

open BrowserRuntime
open Foundation.Interaction
open Foundation.PythonErrors
open MultisiteCrawler.Locking
open Observability
open Program (Expands Handler KeepsTo)

/-! ## The protocol of the browser -/

/-- How far a call of the runtime has come. -/
inductive EdgePhase (Page : Type) where
  | fresh
  /-- The context is open, with a page from some time on. -/
  | opened (page : Option Page)
  | pageClosed
  | closed

/-- A page is used while it is open, and closed before its context. -/
def edgeProtocol (Page Value : Type) :
    Protocol (EdgeCommand Page) (EdgeCommand.Reply Value) (EdgePhase Page)
    where
  Allowed phase command :=
    match command with
    | .launchPersistentContext _ _ => phase = .fresh
    | .pages => phase = .opened none
    | .newPage => phase = .opened none
    | .route _ => ∃ page, phase = .opened (some page)
    | .setDefaultTimeout page _ => phase = .opened (some page)
    | .setDefaultNavigationTimeout page _ => phase = .opened (some page)
    | .operation page => phase = .opened (some page)
    | .writeFailure _ => ∃ page, phase = .opened page
    | .closePage page => phase = .opened (some page)
    | .closeContext => phase = .opened none ∨ phase = .pageClosed
  next
    | _, .launchPersistentContext _ _, .ok _ => .opened none
    | _, .launchPersistentContext _ _, .error _ => .closed
    | _, .pages, .ok (page :: _) => .opened (some page)
    | _, .newPage, .ok page => .opened (some page)
    | _, .closePage _, _ => .pageClosed
    | _, .closeContext, _ => .closed
    | phase, _, _ => phase

section Edge

variable {Page Value : Type}

theorem keepsTo_caught
    {phase : EdgePhase Page} {Result : Type}
    {program : EdgeProgram Page Value Result}
    {Ends : EdgePhase Page → Except EdgeError Result → Prop}
    (keeps : KeepsTo (edgeProtocol Page Value) phase program Ends) :
    KeepsTo (edgeProtocol Page Value) phase (caught program)
      fun reached settled =>
        ∃ outcome, settled = .ok outcome ∧ Ends reached outcome := by
  have bound :
      KeepsTo (edgeProtocol Page Value) phase
        (program >>= fun result =>
          (pure (.ok result) :
            EdgeProgram Page Value (Except EdgeError Result)))
        fun reached settled =>
          (∃ result, settled = .ok (.ok result) ∧
            Ends reached (.ok result)) ∨
          ∃ error, settled = .error error ∧ Ends reached (.error error) := by
    refine keeps.bind ?_ ?_
    · exact fun _ result ends => Or.inl ⟨result, rfl, ends⟩
    · exact fun _ error ends => Or.inr ⟨error, rfl, ends⟩
  refine bound.tryCatch ?_ ?_
  · rintro _ _ (⟨result, isResult, ends⟩ | ⟨_, impossible, _⟩)
    · cases isResult
      exact ⟨.ok result, rfl, ends⟩
    · cases impossible
  · rintro _ raised (⟨_, impossible, _⟩ | ⟨error, isError, ends⟩)
    · cases impossible
    · cases isError
      exact ⟨.error raised, rfl, ends⟩

/-- A page comes out of the context, or none does. -/
theorem keepsTo_openPage :
    KeepsTo (edgeProtocol Page Value) (.opened none) openPage
      fun reached outcome => reached = .opened outcome.toOption := by
  refine ⟨rfl, fun reply => ?_⟩
  rcases reply with error | pages
  · rfl
  · rcases pages with _ | ⟨page, rest⟩
    · refine ⟨rfl, fun reply => ?_⟩
      cases reply <;> rfl
    · rfl

theorem keepsTo_useContext (settings : EdgeSettings) (page : Page) :
    KeepsTo (edgeProtocol Page Value) (.opened (some page))
      (useContext settings page)
      fun reached _ => reached = .opened (some page) := by
  refine ⟨⟨page, rfl⟩, fun reply => ?_⟩
  rcases reply with error | _
  · rfl
  refine ⟨rfl, fun reply => ?_⟩
  rcases reply with error | _
  · rfl
  refine ⟨rfl, fun reply => ?_⟩
  rcases reply with error | _
  · rfl
  refine ⟨rfl, fun reply => ?_⟩
  cases reply <;> rfl

theorem keepsTo_handleError
    (hasWriter : Bool) (error : EdgeError) (page : Option Page) :
    KeepsTo (edgeProtocol Page Value) (.opened page)
      (handleError hasWriter error : EdgeProgram Page Value Value)
      fun reached _ => reached = .opened page := by
  cases error with
  | other error => rfl
  | browserOperation failure =>
      cases hasWriter with
      | false => rfl
      | true =>
          refine ⟨⟨page, rfl⟩, fun reply => ?_⟩
          cases reply <;> rfl

theorem keepsTo_closePageAndContext
    (page : Option Page) (suppress : Bool) :
    KeepsTo (edgeProtocol Page Value) (.opened page)
      (closePageAndContext page suppress : EdgeProgram Page Value Unit)
      fun reached _ => reached = .closed := by
  cases page with
  | none =>
      refine ⟨Or.inl rfl, fun reply => ?_⟩
      rcases reply with error | _
      · cases suppress <;> rfl
      · rfl
  | some page =>
      refine ⟨rfl, fun closed => ?_⟩
      rcases closed with error | _
      · cases suppress
        · refine ⟨Or.inr rfl, fun reply => ?_⟩
          cases reply <;> rfl
        · refine ⟨Or.inr rfl, fun reply => ?_⟩
          cases reply <;> rfl
      · refine ⟨Or.inr rfl, fun reply => ?_⟩
        rcases reply with error | _
        · cases suppress <;> rfl
        · rfl

theorem keepsTo_finish
    (hasWriter : Bool) (page : Option Page)
    (outcome : Except EdgeError Value) :
    KeepsTo (edgeProtocol Page Value) (.opened page)
      (finish hasWriter page outcome)
      fun reached _ => reached = .closed := by
  cases outcome with
  | ok value =>
      have returned :
          KeepsTo (edgeProtocol Page Value) (.opened page)
            (pure value : EdgeProgram Page Value Value)
            fun reached _ => reached = .opened page := rfl
      refine returned.tryFinally ?_
      rintro _ _ rfl
      exact keepsTo_closePageAndContext page false
  | error error =>
      refine (keepsTo_handleError hasWriter error page).tryFinally ?_
      rintro _ _ rfl
      exact keepsTo_closePageAndContext page true

/-- The runtime keeps to the protocol, and leaves nothing open. -/
theorem keepsTo_edgeRun (settings : EdgeSettings) (hasWriter : Bool) :
    KeepsTo (edgeProtocol Page Value) .fresh (run settings hasWriter)
      fun reached _ => reached = .closed := by
  refine ⟨rfl, fun reply => ?_⟩
  rcases reply with error | _
  · rfl
  · refine (keepsTo_caught keepsTo_openPage).bind ?_ ?_
    · rintro _ opened ⟨outcome, isOutcome, rfl⟩
      cases isOutcome
      cases opened with
      | error error => exact keepsTo_finish hasWriter none (.error error)
      | ok page =>
          refine
            (keepsTo_caught (keepsTo_useContext settings page)).bind ?_ ?_
          · rintro _ used ⟨outcome, isOutcome, rfl⟩
            cases isOutcome
            exact keepsTo_finish hasWriter (some page) used
          · rintro _ _ ⟨_, impossible, _⟩
            cases impossible
    · rintro _ _ ⟨_, impossible, _⟩
      cases impossible

end Edge

/-! ## The protocol of the lease -/

/-- How far a call has come with its lease. -/
inductive LeasePhase where
  | notHeld
  | refused
  | held (lease : RedisLease)
  | beating (lease : RedisLease)
  | operated (lease : RedisLease)
  | stopped (lease : RedisLease)
  | released

/-- The heartbeat has not been stopped yet, if there is one. -/
def LeasePhase.reports : LeasePhase → Bool
  | .stopped _ => false
  | .released => false
  | _ => true

/-- No heartbeat is running, and a lease which had one is given back. -/
def LeasePhase.isAtRest : LeasePhase → Bool
  | .beating _ => false
  | .operated _ => false
  | .stopped _ => false
  | _ => true

/--
The operation runs once, under a lease with a heartbeat; then the heartbeat
stops, and then the lease is released.
-/
def leaseProtocol (Value : Type) (key : String) :
    Protocol (LeasedCommand Value) LeasedCommand.Reply LeasePhase where
  Allowed phase command :=
    match command with
    | .acquire lease => phase = .notHeld ∧ lease.key = key
    | .startHeartbeat lease _ => phase = .held lease
    | .operation => ∃ lease, phase = .beating lease
    | .stopHeartbeat => ∃ lease, phase = .operated lease
    | .release lease => phase = .stopped lease
    | _ => phase.reports = true
  next phase command :=
    match command with
    | .acquire lease => fun reply =>
        match reply with
        | .ok true => .held lease
        | _ => .refused
    | .startHeartbeat lease _ => fun reply =>
        match reply with
        | .ok _ => .beating lease
        | .error _ => phase
    | .operation => fun _ =>
        match phase with
        | .beating lease => .operated lease
        | _ => phase
    | .stopHeartbeat => fun _ =>
        match phase with
        | .operated lease => .stopped lease
        | _ => phase
    | .release _ => fun _ => .released
    | _ => fun _ => phase

/-- How a call may end with its lease. -/
structure LeaseEnds {Value : Type} (phase : LeasePhase)
    (outcome : Except PyError (LeasedResult Value)) : Prop where
  atRest : phase.isAtRest = true
  value : ∀ value, outcome = .ok (.value value) → phase = .released
  skipped : outcome = .ok .skippedOverlap → phase = .refused

theorem leaseEnds_of_error
    {Value : Type} {phase : LeasePhase} (atRest : phase.isAtRest = true)
    (error : PyError) :
    LeaseEnds phase (.error error : Except PyError (LeasedResult Value)) :=
  ⟨atRest, nofun, nofun⟩

section Lease

variable {Value : Type} {key : String}

theorem keepsTo_reportOutcome
    {phase : LeasePhase} (reports : phase.reports = true) (name : String)
    (context : RunContext) (outcome : RunOutcome) (startedAt : ℚ)
    (exception : Option PyError) :
    KeepsTo (leaseProtocol Value key) phase
      (reportOutcome name context outcome startedAt exception)
      fun reached _ => reached = phase := by
  refine ⟨reports, fun endedAt => ?_⟩
  refine Program.keepsTo_ofOutcome_bind ?_ ?_
  · exact fun event _ => ⟨reports, fun _ => rfl⟩
  · exact fun _ _ => rfl

theorem keepsTo_recordTerminalMetric
    {phase : LeasePhase} (reports : phase.reports = true)
    (hasMetricsStore : Bool) (context : RunContext) (outcome : RunOutcome)
    (startedAt : ℚ) :
    KeepsTo (leaseProtocol Value key) phase
      (recordTerminalMetric hasMetricsStore context outcome startedAt)
      fun reached _ => reached = phase := by
  cases hasMetricsStore with
  | false => rfl
  | true =>
      refine ⟨reports, fun _ => ⟨reports, fun _ => ⟨reports, fun reply => ?_⟩⟩⟩
      cases reply <;> rfl

/-- The operation has run at the end of the `try`, and a value is returned. -/
theorem keepsTo_attempt
    (lease : RedisLease) (call : LeasedCall) (context : RunContext)
    (startedAt : ℚ) :
    KeepsTo (leaseProtocol Value key) (.beating lease)
      (attempt call context startedAt)
      fun reached outcome =>
        reached = .operated lease ∧ outcome ≠ .ok .skippedOverlap := by
  refine ⟨⟨lease, rfl⟩, fun reply => ?_⟩
  rcases reply with error | result
  · exact ⟨rfl, nofun⟩
  · refine
      (keepsTo_reportOutcome rfl _ context _ startedAt none).bind ?_ ?_
    · rintro _ _ rfl
      refine
        (keepsTo_recordTerminalMetric rfl _ context _ startedAt).bind ?_ ?_
      · rintro _ _ rfl
        exact ⟨rfl, nofun⟩
      · rintro _ _ rfl
        exact ⟨rfl, nofun⟩
    · rintro _ _ rfl
      exact ⟨rfl, nofun⟩

theorem keepsTo_reportFailure
    (lease : RedisLease) (call : LeasedCall) (context : RunContext)
    (startedAt : ℚ) (error : PyError) :
    KeepsTo (leaseProtocol Value key) (.operated lease)
      (reportFailure call context startedAt error :
        LeasedProgram Value (LeasedResult Value))
      fun reached outcome =>
        reached = .operated lease ∧ outcome ≠ .ok .skippedOverlap := by
  refine
    (keepsTo_reportOutcome rfl _ context _ startedAt (some error)).bind ?_ ?_
  · rintro _ _ rfl
    refine
      (keepsTo_recordTerminalMetric rfl _ context _ startedAt).bind ?_ ?_
    · rintro _ _ rfl
      exact ⟨rfl, nofun⟩
    · rintro _ _ rfl
      exact ⟨rfl, nofun⟩
  · rintro _ _ rfl
    exact ⟨rfl, nofun⟩

theorem keepsTo_giveBack (lease : RedisLease) :
    KeepsTo (leaseProtocol Value key) (.operated lease)
      (giveBack lease : LeasedProgram Value Unit)
      fun reached _ => reached = .released := by
  refine ⟨⟨lease, rfl⟩, fun _ => ⟨rfl, fun reply => ?_⟩⟩
  cases reply <;> rfl

/-- What follows on a lease which is held. -/
theorem keepsTo_held
    (lease : RedisLease) (call : LeasedCall) (context : RunContext)
    (startedAt : ℚ) :
    KeepsTo (leaseProtocol Value key) (.held lease)
      (do
        let interval ← Program.ofOutcome call.heartbeat
        LeasedProgram.startHeartbeat lease interval
        ((attempt call context startedAt).tryCatch
            (reportFailure call context startedAt)).tryFinally
          (giveBack lease))
      LeaseEnds := by
  refine Program.keepsTo_ofOutcome_bind ?_ ?_
  · intro interval _
    refine ⟨rfl, fun reply => ?_⟩
    rcases reply with error | _
    · exact leaseEnds_of_error rfl error
    · have handled :
          KeepsTo (leaseProtocol Value key) (.beating lease)
            ((attempt call context startedAt).tryCatch
              (reportFailure call context startedAt))
            fun reached outcome =>
              reached = .operated lease ∧ outcome ≠ .ok .skippedOverlap := by
        refine (keepsTo_attempt lease call context startedAt).tryCatch ?_ ?_
        · exact fun _ _ ends => ends
        · rintro _ error ⟨rfl, _⟩
          exact keepsTo_reportFailure lease call context startedAt error
      refine handled.tryFinally ?_
      rintro _ outcome ⟨rfl, notSkipped⟩
      refine (keepsTo_giveBack lease).mono ?_
      rintro _ ended rfl
      refine ⟨rfl, fun _ _ => rfl, fun skipped => ?_⟩
      cases ended with
      | ok _ => exact absurd skipped notSkipped
      | error error => cases skipped
  · exact fun error _ => leaseEnds_of_error rfl error

/-- What follows where the lease is taken. -/
theorem keepsTo_refused
    (call : LeasedCall) (context : RunContext) (startedAt : ℚ) :
    KeepsTo (leaseProtocol Value key) .refused
      (do
        LeasedProgram.logSkip call.sourceId
        reportOutcome "run_skipped" context .skipped startedAt none
        recordTerminalMetric call.hasMetricsStore context .skipped startedAt
        pure (.skippedOverlap : LeasedResult Value))
      LeaseEnds := by
  refine ⟨rfl, fun _ => ?_⟩
  refine (keepsTo_reportOutcome rfl _ context _ startedAt none).bind ?_ ?_
  · rintro _ _ rfl
    refine
      (keepsTo_recordTerminalMetric rfl _ context _ startedAt).bind ?_ ?_
    · rintro _ _ rfl
      exact ⟨rfl, nofun, fun _ => rfl⟩
    · rintro _ error rfl
      exact leaseEnds_of_error rfl error
  · rintro _ error rfl
    exact leaseEnds_of_error rfl error

theorem key_of_create
    {ttlSeconds : ℤ} {token : Option String} {fresh : String}
    {lease : RedisLease}
    (created : RedisLease.create key ttlSeconds token fresh = .ok lease) :
    lease.key = key := by
  unfold RedisLease.create at created
  split_ifs at created
  cases created
  rfl

/-- A call keeps to the protocol of its lease. -/
theorem keepsTo_runWithSourceLease (call : LeasedCall) :
    KeepsTo (leaseProtocol Value (sourceLockKey call.sourceId)) .notHeld
      (runWithSourceLease call) LeaseEnds := by
  refine ⟨rfl, fun crawlRunId => ?_⟩
  refine Program.keepsTo_ofOutcome_bind ?_ ?_
  · intro context _
    refine ⟨rfl, fun startedAt => ⟨rfl, fun token => ?_⟩⟩
    refine Program.keepsTo_ofOutcome_bind ?_ ?_
    · intro lease created
      refine ⟨⟨rfl, key_of_create created⟩, fun reply => ?_⟩
      rcases reply with error | _ | _
      · exact leaseEnds_of_error rfl error
      · exact keepsTo_refused call context startedAt
      · exact keepsTo_held lease call context startedAt
    · exact fun error _ => leaseEnds_of_error rfl error
  · exact fun error _ => leaseEnds_of_error rfl error

end Lease

/-! ## The browser as the operation -/

/-- What a browser operation asks of its surroundings. -/
inductive BrowserCommand (Page Value : Type) where
  | lease (command : LeasedCommand Value)
  | edge (command : EdgeCommand Page)
  /-- `page.goto(url)` of an operation. -/
  | goto (page : Page) (url : String)
  /-- `page.title()` of an operation. -/
  | title (page : Page)

/-- What the surroundings reply, or raise. -/
abbrev BrowserCommand.Reply {Page Value : Type} :
    BrowserCommand Page Value → Type
  | .lease command => command.Reply
  | .edge command => EdgeCommand.Reply Value command
  | .goto _ _ => Except EdgeError Unit
  | .title _ => Except EdgeError String

/-- Programs of a browser operation. -/
abbrev BrowserProgram (Page Value : Type) :=
  Program (BrowserCommand Page Value) BrowserCommand.Reply PyError

/-- The exception as the lease sees it. -/
def EdgeError.toPyError : EdgeError → PyError
  | .browserOperation failure =>
      ⟨.other "BrowserOperationError", some failure.message⟩
  | .other error => error

section Programs

variable {Page Value : Type}

/-- A command of the runtime is issued as it is. -/
def edgeMeaning (command : EdgeCommand Page) :
    Program (BrowserCommand Page Value) BrowserCommand.Reply EdgeError
      (EdgeCommand.Reply Value command) :=
  .perform (.edge command) .done

/-- `runtime.run(operation)`. -/
def runtimeRun (settings : EdgeSettings) (hasWriter : Bool) :
    BrowserProgram Page Value (Except PyError Value) := do
  let outcome ←
    (Program.expand edgeMeaning
      (run settings hasWriter : EdgeProgram Page Value Value)).settled
  pure (outcome.mapError EdgeError.toPyError)

/-- The operation of the call is a call of the runtime. -/
def leaseMeaning (settings : EdgeSettings) (hasWriter : Bool) :
    (command : LeasedCommand Value) →
      BrowserProgram Page Value command.Reply
  | .operation => runtimeRun settings hasWriter
  | command => .perform (.lease command) .done

/-- The call of `run_browser_operation`. -/
def browserCall (sourceId : String) : LeasedCall where
  sourceId := sourceId
  ttlSeconds := 90
  renewIntervalSeconds := none
  taskId := "internal"
  hasMetricsStore := false

/-- `run_browser_operation`. -/
def runBrowserOperation (sourceId : String) (settings : EdgeSettings)
    (hasWriter : Bool) : BrowserProgram Page Value (LeasedResult Value) :=
  (runWithSourceLease (browserCall sourceId)).expand
    (leaseMeaning settings hasWriter)

end Programs

/-! ## The protocol of a browser operation -/

/-- The phase of the lease, and that of the browser while it is open. -/
inductive BrowserPhase (Page : Type) where
  | lease (phase : LeasePhase)
  | browser (lease : RedisLease) (phase : EdgePhase Page)

section Protocol

variable {Page Value : Type}

/-- The browser of a call, from the start of the heartbeat on. -/
def BrowserPhase.ofEdge (held : RedisLease) :
    EdgePhase Page → BrowserPhase Page
  | .fresh => .lease (.beating held)
  | .closed => .lease (.operated held)
  | phase => .browser held phase

/-- The browser of a call, until it is closed. -/
def BrowserPhase.edge :
    BrowserPhase Page → Option (RedisLease × EdgePhase Page)
  | .lease (.beating held) => some (held, .fresh)
  | .lease _ => none
  | .browser held phase => some (held, phase)

theorem edge_ofEdge
    (held : RedisLease) {phase : EdgePhase Page}
    (notClosed : phase ≠ .closed) :
    (BrowserPhase.ofEdge held phase).edge = some (held, phase) := by
  cases phase with
  | closed => exact absurd rfl notClosed
  | _ => rfl

/--
The runtime keeps to its protocol in place of the operation of the lease, and
an operation visits only some URLs, on an open page.
-/
def browserProtocol (Page Value : Type) (key : String) (Operates : Prop)
    (MayVisit : String → Prop) :
    Protocol (BrowserCommand Page Value) BrowserCommand.Reply
      (BrowserPhase Page) where
  Allowed phase command :=
    match command with
    | .lease .operation => False
    | .lease command =>
        ∃ held, phase = .lease held ∧
          (leaseProtocol Value key).Allowed held command
    | .edge (.operation page) =>
        Operates ∧ ∃ lease, phase = .browser lease (.opened (some page))
    | .edge command =>
        ∃ lease edge, phase.edge = some (lease, edge) ∧
          (edgeProtocol Page Value).Allowed edge command
    | .goto page url =>
        MayVisit url ∧ ∃ lease, phase = .browser lease (.opened (some page))
    | .title page => ∃ lease, phase = .browser lease (.opened (some page))
  next phase command :=
    match command with
    | .lease command => fun reply =>
        match phase with
        | .lease held =>
            .lease ((leaseProtocol Value key).next held command reply)
        | .browser _ _ => phase
    | .edge command => fun reply =>
        match phase.edge with
        | some (lease, edge) =>
            .ofEdge lease ((edgeProtocol Page Value).next edge command reply)
        | none => phase
    | .goto _ _ => fun _ => phase
    | .title _ => fun _ => phase

variable {key : String} {MayVisit : String → Prop}

/-- Nothing is asked of a closed context. -/
theorem not_closed_of_allowed
    {phase : EdgePhase Page} {command : EdgeCommand Page}
    (allowed : (edgeProtocol Page Value).Allowed phase command) :
    phase ≠ .closed := by
  rintro rfl
  cases command with
  | route pattern =>
      rcases allowed with ⟨_, impossible⟩
      cases impossible
  | writeFailure failure =>
      rcases allowed with ⟨_, impossible⟩
      cases impossible
  | closeContext =>
      rcases allowed with impossible | impossible <;> cases impossible
  | _ => cases allowed

/-- Every command of the runtime is one of the browser of the call. -/
theorem expands_edgeMeaning (lease : RedisLease) :
    Expands (edgeProtocol Page Value)
      (browserProtocol Page Value key True MayVisit)
      (BrowserPhase.ofEdge lease) edgeMeaning := by
  intro phase command allowed
  have notClosed : phase ≠ .closed := not_closed_of_allowed allowed
  have isEdge := edge_ofEdge lease notClosed
  have mayIssue :
      (browserProtocol Page Value key True MayVisit).Allowed
        (BrowserPhase.ofEdge lease phase) (.edge command) := by
    cases command with
    | operation page =>
        have opened : phase = .opened (some page) := allowed
        rw [opened]
        exact ⟨trivial, lease, rfl⟩
    | _ => exact ⟨lease, phase, isEdge, allowed⟩
  refine ⟨mayIssue, fun reply => ⟨reply, rfl, ?_⟩⟩
  show
    (browserProtocol Page Value key True MayVisit).next
      (BrowserPhase.ofEdge lease phase) (.edge command) reply = _
  rw [browserProtocol]
  dsimp only
  rw [isEdge]

/-- The runtime ends with a reply for the lease, and leaves nothing open. -/
theorem keepsTo_runtimeRun
    (lease : RedisLease) (settings : EdgeSettings) (hasWriter : Bool) :
    KeepsTo (browserProtocol Page Value key True MayVisit)
      (.lease (.beating lease))
      (runtimeRun settings hasWriter : BrowserProgram Page Value _)
      fun reached outcome =>
        ∃ reply, outcome = .ok reply ∧
          reached = .lease (.operated lease) := by
  have expanded :=
    (@keepsTo_edgeRun Page Value settings hasWriter).expand
      (@expands_edgeMeaning Page Value key MayVisit lease)
  refine expanded.settled.bind ?_ ?_
  · rintro _ outcome ⟨_, _, _, rfl, rfl⟩
    exact ⟨_, rfl, rfl⟩
  · rintro _ _ ⟨_, impossible, _⟩
    cases impossible

/-- Every command of the call is one of the browser operation. -/
theorem expands_leaseMeaning (settings : EdgeSettings) (hasWriter : Bool) :
    Expands (leaseProtocol Value key)
      (browserProtocol Page Value key True MayVisit) BrowserPhase.lease
      (leaseMeaning settings hasWriter) := by
  intro phase command allowed
  cases command with
  | operation =>
      rcases allowed with ⟨lease, rfl⟩
      refine (keepsTo_runtimeRun lease settings hasWriter).mono ?_
      rintro _ _ ⟨reply, rfl, rfl⟩
      exact ⟨reply, rfl, rfl⟩
  | _ => exact ⟨⟨phase, rfl, allowed⟩, fun reply => ⟨reply, rfl, rfl⟩⟩

/-- How a browser operation may end: nothing is open, and as its lease does. -/
def BrowserEnds (phase : BrowserPhase Page)
    (outcome : Except PyError (LeasedResult Value)) : Prop :=
  ∃ held, phase = .lease held ∧ LeaseEnds held outcome

theorem keepsTo_runBrowserOperation
    (sourceId : String) (settings : EdgeSettings) (hasWriter : Bool) :
    KeepsTo
      (browserProtocol Page Value (sourceLockKey sourceId) True MayVisit)
      (.lease .notHeld) (runBrowserOperation sourceId settings hasWriter)
      BrowserEnds :=
  (keepsTo_runWithSourceLease (browserCall sourceId)).expand
    (expands_leaseMeaning settings hasWriter)

/--
In every run of a browser operation the browser is opened only under the lease
of the source with a heartbeat, the operation uses a page which is open, and
the browser is closed before the heartbeat is stopped and the lease released.
Nothing else is released or left open, and a value is returned only after the
release.
-/
theorem browser_operation_guarded
    {State : Type}
    (handler : Handler (BrowserCommand Page Value) BrowserCommand.Reply State)
    (state : State) (sourceId : String) (settings : EdgeSettings)
    (hasWriter : Bool) :
    (browserProtocol Page Value (sourceLockKey sourceId) True
        fun _ => False).Accepts (.lease .notHeld)
        ((runBrowserOperation sourceId settings hasWriter).history handler
          state) ∧
      BrowserEnds
        ((browserProtocol Page Value (sourceLockKey sourceId) True
            fun _ => False).after (.lease .notHeld)
          ((runBrowserOperation sourceId settings hasWriter).history handler
            state))
        ((runBrowserOperation sourceId settings hasWriter).run handler
          state).1 :=
  (keepsTo_runBrowserOperation sourceId settings hasWriter).run handler state

end Protocol

end MultisiteCrawler.Tasks
