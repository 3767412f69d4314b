import MultisiteCrawler.Foundation.AddressUrls
import MultisiteCrawler.Tasks.BrowserOperations

/-!
# The probe of the browser runtime

`run_browser_runtime_probe` visits the URL of an environment variable in a
browser operation.  It does nothing at all unless the URL is one of `http` at
the loopback address, and it visits no other URL.
-/

namespace MultisiteCrawler.Tasks

open BrowserRuntime
open Foundation.Interaction
open Foundation.PythonErrors
open Foundation.PythonText
open Foundation.PythonUrls
open MultisiteCrawler.Locking
open Program (Expands Handler KeepsTo)

/-! ## The URL -/

/-- What stands before the last `@` of a network location, if there is one. -/
def userinfo (netloc : List Char) : Option (List Char) :=
  if netloc.contains '@' then some (netloc.rdropWhile (· != '@')).dropLast
  else none

/-- `username`. -/
def username (netloc : List Char) : Option (List Char) :=
  (userinfo netloc).map fun info => (partition ':' info).1

/-- `password`. -/
def password (netloc : List Char) : Option (List Char) :=
  (userinfo netloc).bind fun info =>
    if info.contains ':' then some (partition ':' info).2 else none

/-- The value of `BROWSER_RUNTIME_PROBE_URL`, stripped. -/
def configuredUrl (environ : Option String) : String :=
  strip (environ.getD "")

/-- The exception of a URL which is not one of the loopback address. -/
def probeUrlError : PyError :=
  ⟨.other "BrowserRuntimeConfigurationError",
    some ("BROWSER_RUNTIME_PROBE_URL must be an explicit " ++
      "http://127.0.0.1 fixture URL")⟩

/-- `_probe_url_from_environment`. -/
def probeUrlFromEnvironment (rules : UrlRules) (environ : Option String) :
    Except PyError String := do
  let url := configuredUrl environ
  let parsed ← urlsplit rules url.toList
  if url = "" ∨ parsed.scheme ≠ "http".toList ∨
      hostname rules parsed.netloc ≠ "127.0.0.1".toList ∨
      username parsed.netloc ≠ none ∨ password parsed.netloc ≠ none then
    .error probeUrlError
  else .ok url

/-- A URL of `http` at the loopback address. -/
def IsLoopback (rules : UrlRules) (url : String) : Prop :=
  IsUrlAt rules "http".toList "127.0.0.1".toList (cleanUrl url.toList)

theorem isScheme_http : IsScheme "http".toList :=
  ⟨⟨'h', ['t', 't', 'p'], rfl, rfl⟩, List.all_eq_true.mp rfl⟩

theorem dotted_loopback : IsDotted "127.0.0.1".toList := by
  intro character member
  have each :
      ("127.0.0.1".toList.all fun character =>
        isAsciiDigit character || character == '.') = true := rfl
  simpa using List.all_eq_true.mp each character member

theorem userinfo_eq_none_iff {netloc : List Char} :
    username netloc = none ∧ password netloc = none ↔ '@' ∉ netloc := by
  rw [username, password, userinfo]
  split_ifs with user
  · have member := List.contains_iff_mem.mp user
    exact iff_of_false (fun both => nomatch both.1) (not_not_intro member)
  · refine iff_of_true ⟨rfl, rfl⟩ fun member => user ?_
    exact List.contains_iff_mem.mpr member

/-- Just the URLs of the loopback address are accepted, as they are. -/
theorem probeUrlFromEnvironment_eq_ok_iff
    {rules : UrlRules} (facts : AddressRules rules) (environ : Option String)
    (url : String) :
    probeUrlFromEnvironment rules environ = .ok url ↔
      url = configuredUrl environ ∧ IsLoopback rules url := by
  rw [IsLoopback,
    ← urlsplit_at_iff facts isScheme_http dotted_loopback (nomatch ·),
    probeUrlFromEnvironment]
  generalize configuredUrl environ = text
  cases split : urlsplit rules text.toList with
  | error error =>
      refine iff_of_false (fun ok => nomatch ok) ?_
      rintro ⟨rfl, parsed, isSplit, _⟩
      rw [split] at isSplit
      cases isSplit
  | ok parsed =>
      rw [ok_bind]
      split_ifs with refused
      · refine iff_of_false (fun ok => nomatch ok) ?_
        rintro ⟨rfl, other, isSplit, scheme, host, noUser⟩
        rw [split] at isSplit
        cases isSplit
        have plain := userinfo_eq_none_iff.mpr noUser
        rcases refused with rfl | notScheme | notHost | user | pass
        · cases split
          cases scheme
        · exact notScheme scheme
        · exact notHost host
        · exact user plain.1
        · exact pass plain.2
      · simp only [not_or, not_not] at refused
        rcases refused with ⟨_, scheme, host, noUser, noPassword⟩
        have noAt := userinfo_eq_none_iff.mp ⟨noUser, noPassword⟩
        constructor
        · intro ok
          cases ok
          exact ⟨rfl, parsed, split, scheme, host, noAt⟩
        · rintro ⟨rfl, _⟩
          rfl

/-- Why a URL is refused. -/
theorem probeUrlFromEnvironment_eq_error
    {rules : UrlRules} {environ : Option String} {error : PyError}
    (raised : probeUrlFromEnvironment rules environ = .error error) :
    error = probeUrlError ∨ error = .library .valueError := by
  rw [probeUrlFromEnvironment, bind_eq_error_iff] at raised
  rcases raised with notSplit | ⟨parsed, _, raised⟩
  · exact Or.inr (urlsplit_eq_error notSplit)
  · split_ifs at raised
    exact Or.inl (Except.error.inj raised).symm

/-! ## The operation -/

section Probe

variable {Page : Type}

/-- The operation of the probe. -/
def probeOperation (url : String) (page : Page) :
    Program (BrowserCommand Page String) BrowserCommand.Reply EdgeError
      String := do
  .perform (.goto page url) Program.ofOutcome
  .perform (.title page) Program.ofOutcome

/-- The operation of the runtime is that of the probe. -/
def probeMeaning (url : String) :
    (command : BrowserCommand Page String) →
      BrowserProgram Page String command.Reply
  | .edge (.operation page) => (probeOperation url page).settled
  | command => .perform command .done

/-- `run_browser_runtime_probe`. -/
def runBrowserRuntimeProbe (rules : UrlRules) (environ : Option String)
    (settings : EdgeSettings) (hasWriter : Bool) :
    BrowserProgram Page String (LeasedResult String) := do
  let url ← Program.ofOutcome (probeUrlFromEnvironment rules environ)
  (runBrowserOperation "browser_runtime_probe" settings hasWriter).expand
    (probeMeaning url)

/-- The operation is the probe, which visits one URL. -/
def probeProtocol (Page : Type) (url : String) :
    Protocol (BrowserCommand Page String) BrowserCommand.Reply
      (BrowserPhase Page) :=
  browserProtocol Page String (sourceLockKey "browser_runtime_probe") False
    (· = url)

/-- The probe leaves its page as it is. -/
theorem keepsTo_probeOperation
    (url : String) (page : Page) {phase : BrowserPhase Page}
    {lease : RedisLease}
    (opened : phase = .browser lease (.opened (some page))) :
    KeepsTo (probeProtocol Page url) phase (probeOperation url page)
      fun reached _ => reached = phase := by
  refine ⟨⟨rfl, lease, opened⟩, fun visited => ?_⟩
  cases visited with
  | error error => rfl
  | ok _ =>
      refine ⟨⟨lease, opened⟩, fun title => ?_⟩
      cases title <;> rfl

theorem expands_probeMeaning (url : String) :
    Expands
      (browserProtocol Page String (sourceLockKey "browser_runtime_probe")
        True fun _ => False)
      (probeProtocol Page url) id (probeMeaning url) := by
  intro phase command allowed
  cases command with
  | lease command =>
      have mayIssue :
          (probeProtocol Page url).Allowed phase (.lease command) := by
        cases command <;> exact allowed
      exact ⟨mayIssue, fun reply => ⟨reply, rfl, rfl⟩⟩
  | edge command =>
      cases command with
      | operation page =>
          rcases allowed with ⟨_, lease, rfl⟩
          refine (keepsTo_probeOperation url page rfl).settled.mono ?_
          rintro _ _ ⟨outcome, rfl, rfl⟩
          exact ⟨outcome, rfl, rfl⟩
      | _ => exact ⟨allowed, fun reply => ⟨reply, rfl, rfl⟩⟩
  | goto page url => cases allowed.1
  | title page => exact ⟨allowed, fun reply => ⟨reply, rfl, rfl⟩⟩

theorem keepsTo_probe
    (url : String) (settings : EdgeSettings) (hasWriter : Bool) :
    KeepsTo (probeProtocol Page url) (.lease .notHeld)
      ((runBrowserOperation "browser_runtime_probe" settings hasWriter).expand
        (probeMeaning url))
      BrowserEnds := by
  refine
    ((keepsTo_runBrowserOperation "browser_runtime_probe" settings
      hasWriter).expand (expands_probeMeaning url)).mono ?_
  rintro _ outcome ⟨ended, rfl, ends⟩
  exact ends

/--
Whatever the surroundings reply: if the configured URL is one of `http` at the
loopback address, the probe is a browser operation which visits this URL only.
Otherwise nothing is asked of the surroundings, and the call raises.
-/
theorem probe_visits_loopback
    {rules : UrlRules} (facts : AddressRules rules) (environ : Option String)
    {State : Type}
    (handler : Handler (BrowserCommand Page String) BrowserCommand.Reply State)
    (state : State) (settings : EdgeSettings) (hasWriter : Bool) :
    IsLoopback rules (configuredUrl environ) ∧
        (probeProtocol Page (configuredUrl environ)).Accepts (.lease .notHeld)
          ((runBrowserRuntimeProbe rules environ settings hasWriter).history
            handler state) ∧
        BrowserEnds
          ((probeProtocol Page (configuredUrl environ)).after (.lease .notHeld)
            ((runBrowserRuntimeProbe rules environ settings hasWriter).history
              handler state))
          ((runBrowserRuntimeProbe rules environ settings hasWriter).run
            handler state).1 ∨
      ¬ IsLoopback rules (configuredUrl environ) ∧
        (runBrowserRuntimeProbe rules environ settings hasWriter).history
            handler state = [] ∧
        ∃ error,
          (runBrowserRuntimeProbe rules environ settings hasWriter).run
              handler state = (.error error, state) ∧
            (error = probeUrlError ∨ error = .library .valueError) := by
  cases configured : probeUrlFromEnvironment rules environ with
  | ok url =>
      rcases (probeUrlFromEnvironment_eq_ok_iff facts environ url).mp
          configured with
        ⟨rfl, loopback⟩
      rw [runBrowserRuntimeProbe, configured]
      exact Or.inl
        ⟨loopback, (keepsTo_probe _ settings hasWriter).run handler state⟩
  | error error =>
      refine Or.inr ⟨?_, ?_, error, ?_, ?_⟩
      · intro loopback
        have accepted :=
          (probeUrlFromEnvironment_eq_ok_iff facts environ _).mpr
            ⟨rfl, loopback⟩
        rw [configured] at accepted
        cases accepted
      · rw [runBrowserRuntimeProbe, configured]
        rfl
      · rw [runBrowserRuntimeProbe, configured]
        rfl
      · exact probeUrlFromEnvironment_eq_error configured

end Probe

/-! ## A fixture -/

/-- Rules for texts of ASCII, without hosts in brackets. -/
def fixtureRules : UrlRules where
  toUnicodeRules := asciiRules
  isBracketedHost _ := false

/-- A user-info, also one behind a backslash, is refused. -/
example :
    probeUrlFromEnvironment fixtureRules
        (some "http://127.0.0.1\\@example.invalid/") =
      .error probeUrlError := by decide

/-- A lease which is free and a browser with one page, which has a title. -/
def fixtureBrowser :
    Handler (BrowserCommand Unit String) BrowserCommand.Reply LeasedState
  | .lease command, state =>
      leasedHandler
        { crawlRunId := 0
          token := "token"
          clock := ⟨fun _ => 0, monotone_zero⟩
          wallClock := fun _ =>
            Foundation.AwareTime.naive Scheduler.firstMoment
          acquires := .ok true
          startsHeartbeat := .ok ()
          operation := .ok "unused"
          recordRun := fun _ => .ok ()
          releases := .ok true }
        command state
  | .edge command, state =>
      (match command with
        | .launchPersistentContext _ _ => .ok ()
        | .pages => .ok [()]
        | .newPage => .ok ()
        | .route _ => .ok ()
        | .setDefaultTimeout _ _ => .ok ()
        | .setDefaultNavigationTimeout _ _ => .ok ()
        | .operation _ => .ok "unused"
        | .writeFailure _ => .error (.library .osError)
        | .closePage _ => .ok ()
        | .closeContext => .ok (), state)
  | .goto _ _, state => (.ok (), state)
  | .title _, state => (.ok "Fixture", state)

theorem addressRules_fixture : AddressRules fixtureRules :=
  addressRules_ascii rfl fun _ _ => rfl

theorem isLoopback_fixture :
    IsLoopback fixtureRules
      (configuredUrl (some "http://127.0.0.1:8080/fixture\n")) := by
  have accepted :
      probeUrlFromEnvironment fixtureRules
          (some "http://127.0.0.1:8080/fixture\n") =
        .ok (configuredUrl (some "http://127.0.0.1:8080/fixture\n")) := by
    decide
  exact
    ((probeUrlFromEnvironment_eq_ok_iff addressRules_fixture _ _).mp
      accepted).2

/-- The probe of a fixture visits it. -/
theorem probe_visits_loopback_fixture :
    (probeProtocol Unit
        (configuredUrl (some "http://127.0.0.1:8080/fixture\n"))).Accepts
      (.lease .notHeld)
      ((runBrowserRuntimeProbe fixtureRules
          (some "http://127.0.0.1:8080/fixture\n") ⟨"profile", "edge", 30, 10⟩
          false).history fixtureBrowser {}) := by
  have probed :=
    probe_visits_loopback addressRules_fixture
      (some "http://127.0.0.1:8080/fixture\n") fixtureBrowser {}
      ⟨"profile", "edge", 30, 10⟩ false
  exact
    (probed.resolve_right fun refused => refused.1 isLoopback_fixture).2.1

end MultisiteCrawler.Tasks
