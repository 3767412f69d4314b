import MultisiteCrawler.BrowserArtifacts.Writer
import MultisiteCrawler.Foundation.Interaction

/-!
# The managed browser runtime

One call of `ManagedEdgeRuntime.run`.  Everything it calls may raise: the page
and its timeouts, the operation, the closing of the page and of the context,
and the writer of failure artifacts.

What a closing raises is suppressed after another exception.  What the writer
raises is not: it is called in the `except` clause, and its exception takes
the place of the one which is handled.
-/

namespace MultisiteCrawler.BrowserRuntime

open BrowserArtifacts
open Foundation.Interaction
open Foundation.Interaction.Program (Handler)
open Foundation.PythonErrors
open Foundation.PythonText (asciiRules strip)

/-! ## The call -/

/-- An exception, as the `except` clause tells it. -/
inductive EdgeError where
  | browserOperation (failure : BrowserFailure)
  | other (error : PyError)
deriving DecidableEq

/-- The settings which a call uses. -/
structure EdgeSettings where
  userDataDir : String
  edgeExecutablePath : String
  pageTimeoutSeconds : ℚ
  actionTimeoutSeconds : ℚ

/-- What a call asks of its surroundings. -/
inductive EdgeCommand (Page : Type) where
  | launchPersistentContext (userDataDir executablePath : String)
  | pages
  | newPage
  | route (pattern : String)
  | setDefaultTimeout (page : Page) (milliseconds : ℤ)
  | setDefaultNavigationTimeout (page : Page) (milliseconds : ℤ)
  | operation (page : Page)
  | writeFailure (failure : BrowserFailure)
  | closePage (page : Page)
  | closeContext

/-- What the surroundings reply, or raise. -/
abbrev EdgeCommand.Reply (Value : Type) {Page : Type} :
    EdgeCommand Page → Type
  | .launchPersistentContext _ _ => Except EdgeError Unit
  | .pages => Except EdgeError (List Page)
  | .newPage => Except EdgeError Page
  | .route _ => Except EdgeError Unit
  | .setDefaultTimeout _ _ => Except EdgeError Unit
  | .setDefaultNavigationTimeout _ _ => Except EdgeError Unit
  | .operation _ => Except EdgeError Value
  | .writeFailure _ => Except PyError BrowserFailureArtifact
  | .closePage _ => Except EdgeError Unit
  | .closeContext => Except EdgeError Unit

/-- Programs of a call. -/
abbrev EdgeProgram (Page Value : Type) :=
  Program (EdgeCommand Page) (EdgeCommand.Reply Value) EdgeError

/-- `int(seconds * 1000)` of a time which is not negative. -/
def milliseconds (seconds : ℚ) : ℤ := ⌊seconds * 1000⌋

section Programs

variable {Page Value : Type}

/-- `context.pages[0] if context.pages else context.new_page()`. -/
def openPage : EdgeProgram Page Value Page :=
  .perform .pages fun reply => do
    let pages ← Program.ofOutcome reply
    match pages with
    | page :: _ => pure page
    | [] => .perform .newPage Program.ofOutcome

/-- The rest of the `try` clause, when there is a page. -/
def useContext (settings : EdgeSettings) (page : Page) :
    EdgeProgram Page Value Value := do
  .perform (.route "**/*") Program.ofOutcome
  .perform
    (.setDefaultTimeout page (milliseconds settings.actionTimeoutSeconds))
    Program.ofOutcome
  .perform
    (.setDefaultNavigationTimeout page
      (milliseconds settings.pageTimeoutSeconds))
    Program.ofOutcome
  .perform (.operation page) Program.ofOutcome

/-- `_persist_failure_artifact`. -/
def persistFailureArtifact (hasWriter : Bool) (failure : BrowserFailure) :
    EdgeProgram Page Value Unit :=
  if hasWriter then
    .perform (.writeFailure failure) fun reply =>
      Program.ofOutcome ((reply.map fun _ => ()).mapError .other)
  else pure ()

/-- The `except` clause. -/
def handleError (hasWriter : Bool) (error : EdgeError) :
    EdgeProgram Page Value Value := do
  match error with
  | .browserOperation failure => persistFailureArtifact hasWriter failure
  | .other _ => pure ()
  Program.fail error

/-- `_close_page_and_context`. -/
def closePageAndContext (page : Option Page) (suppressCleanupErrors : Bool) :
    EdgeProgram Page Value Unit := do
  let pageError : Option EdgeError ←
    match page with
    | none => pure none
    | some page =>
        .perform (.closePage page) fun reply =>
          match reply with
          | .ok _ => pure none
          | .error error =>
              pure (if suppressCleanupErrors then none else some error)
  .perform .closeContext fun reply =>
    match reply, pageError with
    | .error error, _ =>
        if suppressCleanupErrors then pure () else Program.fail error
    | .ok _, some error => Program.fail error
    | .ok _, none => pure ()

/-- What follows the `try` clause, with the page it has got, if any. -/
def finish (hasWriter : Bool) (page : Option Page) :
    Except EdgeError Value → EdgeProgram Page Value Value
  | .ok value =>
      (pure value : EdgeProgram Page Value Value).tryFinally
        (closePageAndContext page false)
  | .error error =>
      (handleError hasWriter error).tryFinally
        (closePageAndContext page true)

/-- A program whose exception is kept as a result. -/
def caught {Result : Type} (program : EdgeProgram Page Value Result) :
    EdgeProgram Page Value (Except EdgeError Result) :=
  (program >>= fun result => pure (.ok result)).tryCatch
    fun error => pure (.error error)

/-- `ManagedEdgeRuntime.run`. -/
def run (settings : EdgeSettings) (hasWriter : Bool) :
    EdgeProgram Page Value Value := do
  .perform
    (.launchPersistentContext settings.userDataDir
      settings.edgeExecutablePath)
    Program.ofOutcome
  -- the variable `page` is set as soon as there is a page
  let opened ← caught openPage
  match opened with
  | .error error => finish hasWriter none (.error error)
  | .ok page => do
      let outcome ← caught (useContext settings page)
      finish hasWriter (some page) outcome

end Programs

/-! ## Its surroundings -/

/-- How everything which is called behaves. -/
structure EdgeSurroundings (Page Value : Type) where
  launches : Except EdgeError Unit
  pages : Except EdgeError (List Page)
  newPage : Except EdgeError Page
  route : String → Except EdgeError Unit
  setDefaultTimeout : Page → ℤ → Except EdgeError Unit
  setDefaultNavigationTimeout : Page → ℤ → Except EdgeError Unit
  operation : Page → Except EdgeError Value
  closePage : Page → Except EdgeError Unit
  closeContext : Except EdgeError Unit
  /-- The writer of artifacts, if the runtime has one. -/
  writer : Option WriterSurroundings

/-- What a call has tried to close so far. -/
structure EdgeState (Page : Type) where
  closedPages : List Page := []
  closedContexts : ℕ := 0

section Runs

variable {Page Value : Type} (surroundings : EdgeSurroundings Page Value)

/-- How the writer of artifacts ends. -/
def EdgeSurroundings.writes (failure : BrowserFailure) :
    Except PyError BrowserFailureArtifact :=
  match surroundings.writer with
  | some writer =>
      BrowserArtifacts.writeFailure writer failure.sourceId failure.safeHtml
        failure.redactedPng
  | none => .error (.library .attributeError)

/-- The surroundings answer and note what is closed. -/
def edgeHandler :
    Handler (EdgeCommand Page) (EdgeCommand.Reply Value) (EdgeState Page)
  | .launchPersistentContext _ _, state => (surroundings.launches, state)
  | .pages, state => (surroundings.pages, state)
  | .newPage, state => (surroundings.newPage, state)
  | .route pattern, state => (surroundings.route pattern, state)
  | .setDefaultTimeout page milliseconds, state =>
      (surroundings.setDefaultTimeout page milliseconds, state)
  | .setDefaultNavigationTimeout page milliseconds, state =>
      (surroundings.setDefaultNavigationTimeout page milliseconds, state)
  | .operation page, state => (surroundings.operation page, state)
  | .writeFailure failure, state => (surroundings.writes failure, state)
  | .closePage page, state =>
      (surroundings.closePage page,
        { state with closedPages := state.closedPages ++ [page] })
  | .closeContext, state =>
      (surroundings.closeContext,
        { state with closedContexts := state.closedContexts + 1 })

/-- A call from its beginning: how it ends and what it has closed. -/
def edgeRun (settings : EdgeSettings) :
    Except EdgeError Value × EdgeState Page :=
  (run settings surroundings.writer.isSome).run (edgeHandler surroundings) {}

/-- How the creation of the page ends. -/
def EdgeSurroundings.openedPage : Except EdgeError Page := do
  let pages ← surroundings.pages
  match pages with
  | page :: _ => .ok page
  | [] => surroundings.newPage

/-- How the set-up and the operation end on a page. -/
def EdgeSurroundings.used (settings : EdgeSettings) (page : Page) :
    Except EdgeError Value := do
  surroundings.route "**/*"
  surroundings.setDefaultTimeout page
    (milliseconds settings.actionTimeoutSeconds)
  surroundings.setDefaultNavigationTimeout page
    (milliseconds settings.pageTimeoutSeconds)
  surroundings.operation page

/-- How the page creation, the set-up and the operation end. -/
def EdgeSurroundings.primary (settings : EdgeSettings) :
    Except EdgeError Value := do
  let page ← surroundings.openedPage
  surroundings.used settings page

/--
The page, if there is one, and the context are closed once.  The exception of
the page creation, the set-up or the operation propagates; without one the
value is returned unless a closing fails.
-/
structure CleansUp (settings : EdgeSettings) : Prop where
  context : (edgeRun surroundings settings).2.closedContexts = 1
  page : (edgeRun surroundings settings).2.closedPages =
    match surroundings.openedPage with
    | .ok page => [page]
    | .error _ => []
  propagates : ∀ error, surroundings.primary settings = .error error →
    (edgeRun surroundings settings).1 = .error error
  returns : ∀ value, surroundings.primary settings = .ok value →
    (∀ page, surroundings.openedPage = .ok page →
      surroundings.closePage page = .ok ()) →
    surroundings.closeContext = .ok () →
      (edgeRun surroundings settings).1 = .ok value

/-! ## Steps -/

variable {surroundings}

theorem run_caught
    {Result : Type} (program : EdgeProgram Page Value Result)
    (state : EdgeState Page) :
    (caught program).run (edgeHandler surroundings) state =
      (.ok (program.run (edgeHandler surroundings) state).1,
        (program.run (edgeHandler surroundings) state).2) := by
  rw [caught, Program.run_tryCatch, Program.run_bind]
  cases program.run (edgeHandler surroundings) state with
  | mk outcome after => cases outcome <;> rfl

theorem run_openPage (state : EdgeState Page) :
    openPage.run (edgeHandler surroundings) state =
      (surroundings.openedPage, state) := by
  rw [openPage, Program.run_perform]
  refine Program.run_bind_of_run _ (Program.run_ofOutcome _ _ _)
    fun pages => ?_
  cases pages with
  | nil => exact Program.run_ofOutcome _ _ _
  | cons page rest => rfl

theorem run_useContext
    (settings : EdgeSettings) (page : Page) (state : EdgeState Page) :
    (useContext settings page).run (edgeHandler surroundings) state =
      (surroundings.used settings page, state) := by
  refine Program.run_bind_of_run _ (Program.run_ofOutcome _ _ _)
    fun routed => ?_
  refine Program.run_bind_of_run _ (Program.run_ofOutcome _ _ _)
    fun isDefault => ?_
  refine Program.run_bind_of_run _ (Program.run_ofOutcome _ _ _)
    fun isNavigation => ?_
  exact Program.run_ofOutcome _ _ _

variable (surroundings) in
/-- How the closing of a page and of the context ends. -/
def EdgeSurroundings.closes (page : Option Page) : Except EdgeError Unit := do
  surroundings.closeContext
  match page with
  | some page => surroundings.closePage page
  | none => .ok ()

/-- Everything is closed, whatever the closings raise. -/
theorem run_closePageAndContext
    (page : Option Page) (suppress : Bool) (state : EdgeState Page) :
    (closePageAndContext page suppress).run (edgeHandler surroundings) state =
      (if suppress then .ok () else surroundings.closes page,
        { closedPages := state.closedPages ++ page.toList
          closedContexts := state.closedContexts + 1 }) := by
  cases page with
  | none =>
      cases context : surroundings.closeContext <;> cases suppress <;>
        simp [closePageAndContext, edgeHandler,
          EdgeSurroundings.closes, context]
  | some page =>
      cases closed : surroundings.closePage page <;>
        cases context : surroundings.closeContext <;> cases suppress <;>
          simp [closePageAndContext, edgeHandler,
            EdgeSurroundings.closes, closed, context]

variable (surroundings) in
/-- The exception which leaves the `except` clause. -/
def EdgeSurroundings.handled (error : EdgeError) : EdgeError :=
  match error with
  | .other _ => error
  | .browserOperation failure =>
      match surroundings.writer, surroundings.writes failure with
      | some _, .error raised => .other raised
      | _, _ => error

theorem run_handleError (error : EdgeError) (state : EdgeState Page) :
    (handleError surroundings.writer.isSome error :
        EdgeProgram Page Value Value).run (edgeHandler surroundings) state =
      (.error (surroundings.handled error), state) := by
  cases error with
  | other error => rfl
  | browserOperation failure =>
      rw [handleError, Program.run_bind, EdgeSurroundings.handled]
      dsimp only
      rw [persistFailureArtifact]
      cases surroundings.writer with
      | none => rfl
      | some writer =>
          rw [Option.isSome_some, if_pos rfl, Program.run_perform,
            Program.run_ofOutcome, edgeHandler]
          dsimp only
          cases surroundings.writes failure <;> rfl

/-- The exception is kept exactly if the writer, if any, accepts it. -/
theorem handled_eq_iff (error : EdgeError) :
    surroundings.handled error = error ↔
      ∀ failure writer, error = .browserOperation failure →
        surroundings.writer = some writer →
          Accepts writer failure.sourceId failure.safeHtml
            failure.redactedPng := by
  cases error with
  | other error => exact iff_of_true rfl fun _ _ different => by cases different
  | browserOperation failure =>
      rw [EdgeSurroundings.handled]
      cases isWriter : surroundings.writer with
      | none => exact iff_of_true rfl fun _ _ _ absent => by cases absent
      | some writer =>
          simp only [EdgeError.browserOperation.injEq, Option.some.injEq,
            forall_eq', forall_apply_eq_imp_iff, ← writeFailure_isOk_iff,
            EdgeSurroundings.writes, isWriter]
          cases BrowserArtifacts.writeFailure writer failure.sourceId
              failure.safeHtml failure.redactedPng with
          | error raised => exact iff_of_false nofun nofun
          | ok artifact => exact iff_of_true rfl ⟨artifact, rfl⟩

/-! ## Whole calls -/

/-- How a call ends after this outcome of its `try` clause. -/
theorem run_finish
    (page : Option Page) (outcome : Except EdgeError Value)
    (state : EdgeState Page) :
    (finish surroundings.writer.isSome page outcome).run
        (edgeHandler surroundings) state =
      (match outcome with
        | .ok value => (surroundings.closes page).map fun _ => value
        | .error error => .error (surroundings.handled error),
        { closedPages := state.closedPages ++ page.toList
          closedContexts := state.closedContexts + 1 }) := by
  cases outcome with
  | ok value =>
      rw [finish, Program.run_tryFinally, run_closePageAndContext]
      cases surroundings.closes page <;> simp [Except.map]
  | error error =>
      rw [finish, Program.run_tryFinally, run_handleError,
        run_closePageAndContext]
      rfl

/-- How a call ends once the context has been launched. -/
theorem edgeRun_eq
    (settings : EdgeSettings) (launched : surroundings.launches = .ok ()) :
    edgeRun surroundings settings =
      (match surroundings.primary settings with
        | .ok value =>
            (surroundings.closes surroundings.openedPage.toOption).map
              fun _ => value
        | .error error => .error (surroundings.handled error),
        { closedPages := surroundings.openedPage.toOption.toList
          closedContexts := 1 }) := by
  rw [edgeRun, run, Program.run_bind, Program.run_perform,
    Program.run_ofOutcome, edgeHandler, launched]
  dsimp only
  rw [Program.run_bind, run_caught, run_openPage, EdgeSurroundings.primary]
  dsimp only
  cases surroundings.openedPage with
  | error error => exact run_finish none (.error error) _
  | ok page =>
      dsimp only
      rw [Program.run_bind, run_caught, run_useContext]
      exact run_finish (some page) _ _

/--
A call cleans up exactly if the writer, if there is one, writes the failure
which the page creation, the set-up or the operation raises.
-/
theorem cleansUp_iff
    (surroundings : EdgeSurroundings Page Value) (settings : EdgeSettings)
    (launched : surroundings.launches = .ok ()) :
    CleansUp surroundings settings ↔
      ∀ failure writer,
        surroundings.primary settings = .error (.browserOperation failure) →
          surroundings.writer = some writer →
            Accepts writer failure.sourceId failure.safeHtml
              failure.redactedPng := by
  have ran := edgeRun_eq settings launched
  have closedPages :
      (edgeRun surroundings settings).2.closedPages =
        match surroundings.openedPage with
        | .ok page => [page]
        | .error _ => [] := by
    rw [ran]
    cases surroundings.openedPage <;> rfl
  have closedContexts :
      (edgeRun surroundings settings).2.closedContexts = 1 := by rw [ran]
  cases ended : surroundings.primary settings with
  | ok value =>
      rw [ended] at ran
      refine iff_of_true ⟨closedContexts, closedPages, ?_, ?_⟩ nofun
      · intro error raised
        cases ended.symm.trans raised
      · intro other isValue pageCloses contextCloses
        cases ended.symm.trans isValue
        rw [ran]
        cases opened : surroundings.openedPage with
        | error error =>
            rw [Except.toOption, EdgeSurroundings.closes, contextCloses]
            rfl
        | ok page =>
            rw [Except.toOption, EdgeSurroundings.closes, contextCloses,
              ok_bind, pageCloses page opened]
            rfl
  | error error =>
      rw [ended] at ran
      have isResult :
          (edgeRun surroundings settings).1 =
            .error (surroundings.handled error) := congrArg Prod.fst ran
      have kept :
          CleansUp surroundings settings ↔
            surroundings.handled error = error := by
        constructor
        · intro cleansUp
          have propagated := cleansUp.propagates error ended
          rw [isResult] at propagated
          exact Except.error.inj propagated
        · intro same
          refine ⟨closedContexts, closedPages, ?_, ?_⟩
          · intro other raised
            rw [isResult, same, ← ended, raised]
          · intro value isValue
            cases ended.symm.trans isValue
      rw [kept, handled_eq_iff]
      simp only [Except.error.injEq]

end Runs

/-! ## Examples -/

/-- Timeouts of thirty and of ten seconds. -/
def demoSettings : EdgeSettings := ⟨"profile", "msedge", 30, 10⟩

/-- What is parsed of a table with a word in it. -/
def demoEvents : List Event :=
  [.startTag "table".toList [], .data "ok".toList, .endTag "table".toList]

/-- A writer whose directory takes every file. -/
def demoWriter : WriterSurroundings where
  rules := asciiRules
  parse _ := .ok demoEvents
  artifactId := "0"
  writeText _ _ := .ok ()
  writeBytes _ _ := .ok ()

/-- A failure with a table as its fragment. -/
def demoFailure (sourceId : String) : BrowserFailure :=
  ⟨"parse failed", sourceId, some "<table>ok</table>", none⟩

/-- A page on which the operation raises. -/
def failing (failure : BrowserFailure) : EdgeSurroundings Unit ℕ where
  launches := .ok ()
  pages := .ok [()]
  newPage := .ok ()
  route _ := .ok ()
  setDefaultTimeout _ _ := .ok ()
  setDefaultNavigationTimeout _ _ := .ok ()
  operation _ := .error (.browserOperation failure)
  closePage _ := .ok ()
  closeContext := .ok ()
  writer := some demoWriter

/-- The exception of an operation survives an artifact which is written. -/
theorem cleansUp_demo :
    CleansUp (failing (demoFailure "demo")) demoSettings := by
  apply (cleansUp_iff (failing (demoFailure "demo")) demoSettings rfl).mpr
  intro failure writer raised isWriter
  cases raised
  cases isWriter
  have fragment : strip "<table>ok</table>" = "<table>ok</table>" := by
    decide +kernel
  refine ⟨by decide, ⟨_, demoEvents, rfl, ?_, rfl, by decide, rfl⟩, nofun⟩
  rw [fragment]
  decide

/-- A source id which the writer refuses hides the exception. -/
theorem not_cleansUp_hyphen :
    ¬ CleansUp (failing (demoFailure "demo-api")) demoSettings := by
  intro cleansUp
  have raised := cleansUp.propagates _ rfl
  have replaced :
      (edgeRun (failing (demoFailure "demo-api")) demoSettings).1 =
        .error (.other (.value "source_id must match [a-z0-9_]+")) := by
    rfl
  rw [replaced] at raised
  cases raised

end MultisiteCrawler.BrowserRuntime
