import MultisiteCrawler.BrowserSession.Manager

/-!
# Terminal session states

`login_required`, `access_denied` and `captcha` ask for an operator.  Nothing
in the manager looks at the stored status before replacing it, so a later
`READY` observation leaves a terminal status like any other.  The terminal
states are left by operators alone exactly in the runs in which no `READY`
observation follows a terminal one without a manual refresh in between.
-/

namespace MultisiteCrawler.BrowserSession

open Foundation.AwareTime
open Foundation.Interaction
open Foundation.JsonText

variable (rules : ZoneRules)

/-- The states which require an operator. -/
def BrowserSessionStatus.Terminal (status : BrowserSessionStatus) : Prop :=
  status = .loginRequired ∨ status = .accessDenied ∨ status = .captcha

/-- The status in the text stored for a profile. -/
def storedStatus (profileReference : String)
    (state : StoreState String String Empty) :
    Option BrowserSessionStatus := do
  let text ← state.values (stateKey profileReference)
  match loads text with
  | some (.obj members) =>
      match lookup "status" members with
      | some (.str value) => BrowserSessionStatus.ofValue value
      | _ => none
  | _ => none

/-- A manual refresh recorded for the profile. -/
def Call.Refreshes (profileReference : String) (call : Call) : Prop :=
  call.Records profileReference ∧
    ∃ current, call = .refresh profileReference current

/-- An observation recorded for the profile. -/
def Call.Reports (profileReference : String)
    (observation : BrowserSessionObservation) (call : Call) : Prop :=
  call.Records profileReference ∧
    ∃ current, call = .observe profileReference observation current

/--
Once the stored status is terminal, calls without a manual refresh of the
profile do not make it `READY`.
-/
def TerminalHeld (profileReference : String) (calls : List Call) : Prop :=
  ∀ before between after status,
    calls = before ++ (between ++ after) →
      storedStatus profileReference (execute rules before .empty) =
          some status →
        status.Terminal →
          (∀ call ∈ between, ¬ call.Refreshes profileReference) →
            storedStatus profileReference
                (execute rules (before ++ between) .empty) ≠
              some .ready

/-- Every recorded observation which leaves a terminal status raises. -/
def TerminalRaised (profileReference : String) (calls : List Call) : Prop :=
  ∀ before call after status,
    calls = before ++ call :: after →
      (∃ observation, call.Reports profileReference observation) →
        storedStatus profileReference
            (execute rules (before ++ [call]) .empty) = some status →
          status.Terminal →
            ((call.program rules).run sessionHandler
                (execute rules before .empty)).1 =
              .error (.required (.ofState call.written))

/-- Every recorded manual refresh makes the stored status `READY`. -/
def RefreshReady (profileReference : String) (calls : List Call) : Prop :=
  ∀ before call after,
    calls = before ++ call :: after →
      call.Refreshes profileReference →
        storedStatus profileReference
            (execute rules (before ++ [call]) .empty) = some .ready

/--
A recorded `READY` observation follows a recorded terminal one only with a
recorded manual refresh in between.
-/
def ReadyOnlyAfterRefresh (profileReference : String)
    (calls : List Call) : Prop :=
  ∀ before first observation between second after,
    calls = before ++ first :: (between ++ second :: after) →
      observation ≠ .ready →
        first.Reports profileReference observation →
          second.Reports profileReference .ready →
            ∃ call ∈ between, call.Refreshes profileReference

theorem observationState_terminal_iff
    (observation : BrowserSessionObservation) :
    (observationState observation).1.Terminal ↔ observation ≠ .ready := by
  cases observation <;> simp [observationState, BrowserSessionStatus.Terminal]

theorem observationState_ready_iff
    (observation : BrowserSessionObservation) :
    (observationState observation).1 = .ready ↔ observation = .ready := by
  cases observation <;> simp [observationState]

/-- The stored status is that of the last recorded call. -/
theorem storedStatus_execute
    (profileReference : String) (calls : List Call) :
    storedStatus profileReference (execute rules calls .empty) =
      (lastRecorded profileReference calls).map
        fun call => call.written.status := by
  rw [storedStatus, values_execute]
  cases lastRecorded profileReference calls with
  | none => rfl
  | some call =>
      simp only [Option.map_some, Option.bind_eq_bind, Option.bind_some]
      rw [loads_encode]
      simp [payload, lookup]

/-- A recorded call is a manual refresh or an observation. -/
theorem Call.refreshes_or_reports
    {profileReference : String} {call : Call}
    (records : call.Records profileReference) :
    call.Refreshes profileReference ∨
      ∃ observation, call.Reports profileReference observation := by
  cases call with
  | refresh reference current =>
      obtain rfl : reference = profileReference := records.1
      exact Or.inl ⟨records, current, rfl⟩
  | observe reference observation current =>
      obtain rfl : reference = profileReference := records.1
      exact Or.inr ⟨observation, records, current, rfl⟩

theorem lastRecorded_append
    (profileReference : String) (before after : List Call) :
    lastRecorded profileReference (before ++ after) =
      (lastRecorded profileReference after).or
        (lastRecorded profileReference before) := by
  unfold lastRecorded
  rw [List.filter_append, List.getLast?_append]

/-- The stored status after a recorded call. -/
theorem storedStatus_execute_concat
    {profileReference : String} {call : Call}
    (records : call.Records profileReference) (calls : List Call) :
    storedStatus profileReference
        (execute rules (calls ++ [call]) .empty) =
      some call.written.status := by
  rw [storedStatus_execute, lastRecorded_concat, if_pos records]
  rfl

theorem terminalRaised (profileReference : String) (calls : List Call) :
    TerminalRaised rules profileReference calls := by
  rintro before call after status _ ⟨observation, records, current, rfl⟩
    stored terminal
  rw [storedStatus_execute_concat rules records] at stored
  cases stored
  rw [run_call]
  have notReady : (observationState observation).1 ≠ .ready := by
    rw [Ne, observationState_ready_iff]
    exact (observationState_terminal_iff observation).mp terminal
  simp only [Call.outcome, validateProfileReference,
    validateBeijingDatetime, if_pos records.2.1, if_pos records.2.2]
  exact if_neg notReady

theorem refreshReady (profileReference : String) (calls : List Call) :
    RefreshReady rules profileReference calls := by
  rintro before call after _ ⟨records, current, rfl⟩
  rw [storedStatus_execute_concat rules records]
  rfl

/-- Without such a `READY` observation a terminal status is held. -/
theorem terminalHeld_of_readyOnlyAfterRefresh
    {profileReference : String} {calls : List Call}
    (orderly : ReadyOnlyAfterRefresh profileReference calls) :
    TerminalHeld rules profileReference calls := by
  intro before between after status split stored terminal noRefresh ready
  rw [storedStatus_execute] at stored ready
  rw [lastRecorded_append] at ready
  rcases Option.map_eq_some_iff.mp stored with ⟨first, isFirst, rfl⟩
  rcases exists_of_lastRecorded isFirst with
    ⟨early, middle, rfl, firstRecords, silent⟩
  cases isSecond : lastRecorded profileReference between with
  | none =>
      rw [isSecond, Option.none_or, isFirst] at ready
      have isReady : first.written.status = .ready :=
        Option.some.inj ready
      rw [isReady] at terminal
      rcases terminal with terminal | terminal | terminal <;> cases terminal
  | some second =>
      rw [isSecond, Option.some_or] at ready
      have isReady : second.written.status = .ready :=
        Option.some.inj ready
      rcases exists_of_lastRecorded isSecond with
        ⟨late, rest, rfl, secondRecords, _⟩
      rcases first.refreshes_or_reports firstRecords with
        ⟨_, current, rfl⟩ | ⟨observation, firstReports⟩
      · rcases terminal with terminal | terminal | terminal <;>
          cases terminal
      rcases second.refreshes_or_reports secondRecords with
        refreshes | ⟨other, secondReports⟩
      · exact noRefresh second (by simp) refreshes
      have notReady : observation ≠ .ready := by
        rcases firstReports with ⟨_, current, rfl⟩
        exact (observationState_terminal_iff observation).mp terminal
      have otherReady : other = .ready := by
        rcases secondReports with ⟨_, current, rfl⟩
        exact (observationState_ready_iff other).mp isReady
      subst otherReady
      rcases orderly early first observation (middle ++ late) second
          (rest ++ after) (by rw [split]; simp) notReady firstReports
          secondReports with
        ⟨call, member, refreshes⟩
      rcases List.mem_append.mp member with member | member
      · exact silent call member refreshes.1
      · exact noRefresh call (by simp [member]) refreshes

/-- Such a `READY` observation leaves a terminal status. -/
theorem readyOnlyAfterRefresh_of_terminalHeld
    {profileReference : String} {calls : List Call}
    (held : TerminalHeld rules profileReference calls) :
    ReadyOnlyAfterRefresh profileReference calls := by
  intro before first observation between second after split notReady
    firstReports secondReports
  by_contra noRefresh
  push Not at noRefresh
  refine
    held (before ++ [first]) (between ++ [second]) after
      (observationState observation).1 (by rw [split]; simp) ?_
      ((observationState_terminal_iff observation).mpr notReady) ?_ ?_
  · rw [storedStatus_execute_concat rules firstReports.1]
    rcases firstReports with ⟨_, current, rfl⟩
    rfl
  · intro call member refreshes
    rcases List.mem_append.mp member with member | member
    · exact noRefresh call member refreshes
    · rw [List.mem_singleton.mp member] at refreshes
      rcases secondReports with ⟨_, current, rfl⟩
      rcases refreshes with ⟨_, _, equal⟩
      cases equal
  · rw [← List.append_assoc,
      storedStatus_execute_concat rules secondReports.1]
    rcases secondReports with ⟨_, current, rfl⟩
    rfl

/--
Terminal states are left by operators alone, for every profile, just in the
runs in which each `READY` observation after a terminal one comes after a
manual refresh.
-/
theorem terminal_contract_iff (calls : List Call) :
    (∀ profileReference,
        TerminalHeld rules profileReference calls ∧
          TerminalRaised rules profileReference calls ∧
          RefreshReady rules profileReference calls) ↔
      ∀ profileReference, ReadyOnlyAfterRefresh profileReference calls := by
  constructor
  · intro contract profileReference
    exact readyOnlyAfterRefresh_of_terminalHeld rules
      (contract profileReference).1
  · intro orderly profileReference
    exact ⟨terminalHeld_of_readyOnlyAfterRefresh rules
        (orderly profileReference),
      terminalRaised rules profileReference calls,
      refreshReady rules profileReference calls⟩

/-- A `READY` observation leaves `captcha` without an operator. -/
theorem captcha_left_by_observation :
    ¬ TerminalHeld eightHoursAhead "sporttery_primary"
      [.observe "sporttery_primary" .captcha beijingNoon,
        .observe "sporttery_primary" .ready beijingNoon] := by
  have records :
      ∀ observation,
        (Call.observe "sporttery_primary" observation beijingNoon).Records
          "sporttery_primary" := by
    intro observation
    have valid : isProfileReference "sporttery_primary" = true := by decide
    exact ⟨rfl, valid, rfl⟩
  intro held
  refine
    held [.observe "sporttery_primary" .captcha beijingNoon]
      [.observe "sporttery_primary" .ready beijingNoon] [] .captcha rfl
      (storedStatus_execute_concat _ (records .captcha) [])
      (Or.inr (Or.inr rfl)) ?_
      (storedStatus_execute_concat _ (records .ready)
        [.observe "sporttery_primary" .captcha beijingNoon])
  rintro call member ⟨_, current, rfl⟩
  simp at member

end MultisiteCrawler.BrowserSession
