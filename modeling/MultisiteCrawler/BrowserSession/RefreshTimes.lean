import MultisiteCrawler.BrowserSession.Terminal

/-!
# Times of manual refreshes

A stored state is written as a whole, and an observation writes it without
a refresh time.  The time of the last manual refresh of a profile therefore
lasts until the next observation recorded for the profile.  The stored times
are those of the last refreshes just in the runs in which observations are
recorded only for profiles which were never refreshed.
-/

namespace MultisiteCrawler.BrowserSession

open Foundation.AwareTime
open Foundation.Interaction
open Foundation.JsonText

/-! ## Runs of the manager -/

/-- A call of the manager; reading a state records nothing. -/
inductive ManagerCall where
  | read (profileReference : String)
  | record (call : Call)
deriving DecidableEq

/-- The recording call, if it is one. -/
def ManagerCall.recording : ManagerCall → Option Call
  | .read _ => none
  | .record call => some call

/-- The recording calls of a run, in order. -/
def recordings (run : List ManagerCall) : List Call :=
  run.filterMap ManagerCall.recording

@[simp]
theorem recordings_append (before after : List ManagerCall) :
    recordings (before ++ after) = recordings before ++ recordings after :=
  List.filterMap_append

@[simp]
theorem recordings_singleton_record (call : Call) :
    recordings [.record call] = [call] := rfl

variable (rules : ZoneRules)

/-- The operation a call performs. -/
def ManagerCall.program : ManagerCall → SessionProgram BrowserSessionState
  | .read profileReference => getState profileReference
  | .record call => call.program rules

/-- The store after a run, whatever its calls raise. -/
def executeRun (run : List ManagerCall)
    (state : StoreState String String Empty) :
    StoreState String String Empty :=
  run.foldl
    (fun state call => ((call.program rules).run sessionHandler state).2)
    state

/-- Reading a state leaves the store as it was. -/
theorem run_getState_state
    (profileReference : String) (state : StoreState String String Empty) :
    ((getState profileReference).run sessionHandler state).2 = state := by
  by_cases valid : isProfileReference profileReference = true
  · rw [run_getState profileReference state valid]
  · simp [getState, require, validateProfileReference, valid,
      Except.mapError, Program.ofOutcome]

/-- Only the recording calls of a run matter. -/
theorem executeRun_eq_execute
    (run : List ManagerCall) (state : StoreState String String Empty) :
    executeRun rules run state = execute rules (recordings run) state := by
  induction run generalizing state with
  | nil => rfl
  | cons call rest induction =>
      cases call with
      | read profileReference =>
          have unchanged := run_getState_state profileReference state
          calc
            executeRun rules (.read profileReference :: rest) state =
                executeRun rules rest
                  ((getState profileReference).run sessionHandler
                    state).2 := rfl
            _ = execute rules (recordings rest) state := by
              rw [unchanged, induction]
      | record call => exact induction _

/-! ## What a document carries -/

/-- A member of the document stored for a profile. -/
def storedMember (name profileReference : String)
    (state : StoreState String String Empty) : Option Json := do
  let text ← state.values (stateKey profileReference)
  match loads text with
  | some (.obj members) => lookup name members
  | _ => none

/-- The member in which a refresh time is stored. -/
def refreshMember (refreshAt : Option DateTime) : Json :=
  match refreshAt with
  | some refreshAt => .str (refreshAt.isoformat rules)
  | none => .null

/-- The time of a call which refreshes the profile. -/
def Call.refreshAt (profileReference : String) : Call → Option DateTime
  | .refresh reference current =>
      if (Call.refresh reference current).Records profileReference then
        some current
      else none
  | .observe _ _ _ => none

/-- The time of the most recent manual refresh of a profile. -/
def lastRefresh (profileReference : String) (calls : List Call) :
    Option DateTime :=
  (calls.filterMap (Call.refreshAt profileReference)).getLast?

/--
The stored states carry the times of the last refreshes, and a recorded
observation changes nothing but the status and the reason.
-/
structure RefreshTimesKept (run : List ManagerCall) : Prop where
  carried :
    ∀ profileReference before after member,
      run = before ++ after →
        storedMember "last_manual_refresh_at" profileReference
            (executeRun rules before .empty) = some member →
          member =
            refreshMember rules
              (lastRefresh profileReference (recordings before))
  framed :
    ∀ profileReference reference observation current before after
        name member,
      run = before ++ .record (.observe reference observation current) ::
          after →
        name ≠ "status" → name ≠ "reason" →
          storedMember name profileReference
              (executeRun rules before .empty) = some member →
            storedMember name profileReference
                (executeRun rules
                  (before ++ [.record (.observe reference observation
                    current)]) .empty) = some member

/-- Observations are recorded only for profiles which were not refreshed. -/
def ObservesUnrefreshed (run : List ManagerCall) : Prop :=
  ∀ before call after profileReference observation,
    run = before ++ .record call :: after →
      call.Reports profileReference observation →
        lastRefresh profileReference (recordings before) = none

theorem lastRefresh_concat
    (profileReference : String) (calls : List Call) (call : Call) :
    lastRefresh profileReference (calls ++ [call]) =
      (call.refreshAt profileReference).or
        (lastRefresh profileReference calls) := by
  unfold lastRefresh
  rw [List.filterMap_append, List.getLast?_append]
  cases found : call.refreshAt profileReference <;> simp [found]

theorem Call.refreshAt_eq_none
    {profileReference : String} {call : Call}
    (unrecorded : ¬ call.Records profileReference) :
    call.refreshAt profileReference = none := by
  cases call with
  | refresh reference current => exact if_neg unrecorded
  | observe reference observation current => rfl

/-- Calls which record nothing for a profile keep its last refresh. -/
theorem lastRefresh_append_of_silent
    {profileReference : String} (before : List Call) {after : List Call}
    (silent : ∀ call ∈ after, call.refreshAt profileReference = none) :
    lastRefresh profileReference (before ++ after) =
      lastRefresh profileReference before := by
  unfold lastRefresh
  have nothing :
      after.filterMap (Call.refreshAt profileReference) = [] :=
    List.filterMap_eq_nil_iff.mpr silent
  rw [List.filterMap_append, nothing, List.append_nil]

/-- The members of a stored document are those of the last written state. -/
theorem storedMember_execute
    (name profileReference : String) (calls : List Call) :
    storedMember name profileReference (execute rules calls .empty) =
      (lastRecorded profileReference calls).bind fun call =>
        match payload rules call.written with
        | .obj members => lookup name members
        | _ => none := by
  rw [storedMember, values_execute]
  cases lastRecorded profileReference calls with
  | none => rfl
  | some call =>
      simp only [Option.map_some, Option.bind_eq_bind, Option.bind_some]
      rw [loads_encode]
      rfl

/-- The refresh time in a document is the one its state was written with. -/
theorem storedRefresh_execute
    (profileReference : String) (calls : List Call) :
    storedMember "last_manual_refresh_at" profileReference
        (execute rules calls .empty) =
      (lastRecorded profileReference calls).map fun call =>
        refreshMember rules call.written.lastManualRefreshAt := by
  rw [storedMember_execute]
  cases lastRecorded profileReference calls with
  | none => rfl
  | some call =>
      cases refreshAt : call.written.lastManualRefreshAt <;>
        simp [payload, lookup, refreshMember, refreshAt]

/-- Everything but the status and the reason is the same in two states. -/
theorem lookup_payload_congr
    {name : String} {left right : BrowserSessionState}
    (sameProfile : left.profileReference = right.profileReference)
    (sameRefresh : left.lastManualRefreshAt = right.lastManualRefreshAt)
    (notStatus : name ≠ "status") (notReason : name ≠ "reason") :
    (match payload rules left with
      | .obj members => lookup name members
      | _ => none) =
      match payload rules right with
      | .obj members => lookup name members
      | _ => none := by
  simp [payload, lookup, sameProfile, sameRefresh, Ne.symm notStatus,
    Ne.symm notReason]

/--
If observations are recorded only for profiles which were not refreshed, a
state is written with the time of the last refresh.
-/
theorem lastManualRefreshAt_of_lastRecorded
    {profileReference : String} {calls : List Call} {last : Call}
    (isLast : lastRecorded profileReference calls = some last)
    (unrefreshed :
      ∀ before after observation,
        calls = before ++ last :: after →
          last.Reports profileReference observation →
            lastRefresh profileReference before = none) :
    last.written.lastManualRefreshAt =
      lastRefresh profileReference calls := by
  rcases exists_of_lastRecorded isLast with
    ⟨before, after, rfl, records, silent⟩
  have latest :
      lastRefresh profileReference (before ++ last :: after) =
        (last.refreshAt profileReference).or
          (lastRefresh profileReference before) := by
    rw [List.append_cons,
      lastRefresh_append_of_silent (before ++ [last]) fun call member =>
        Call.refreshAt_eq_none (silent call member),
      lastRefresh_concat]
  rw [latest]
  rcases last.refreshes_or_reports records with
    ⟨_, current, rfl⟩ | ⟨observation, reports⟩
  · rw [Call.refreshAt, if_pos records, Option.some_or]
    rfl
  · rw [unrefreshed before after observation rfl reports]
    rcases reports with ⟨_, current, rfl⟩
    rfl

/-- A prefix of the recordings comes from a prefix of the run. -/
theorem exists_of_recordings_eq
    {run : List ManagerCall} {before after : List Call} {call : Call}
    (split : recordings run = before ++ call :: after) :
    ∃ earlier later,
      run = earlier ++ .record call :: later ∧
        recordings earlier = before := by
  rcases List.filterMap_eq_append_iff.mp split with
    ⟨early, rest, rfl, rfl, isRest⟩
  rcases List.filterMap_eq_cons_iff.mp isRest with
    ⟨skipped, first, later, rfl, silent, isFirst, _⟩
  refine ⟨early ++ skipped, later, ?_, ?_⟩
  · cases first with
    | read profileReference => cases isFirst
    | record recorded =>
        cases isFirst
        simp
  · rw [recordings_append]
    have nothing : recordings skipped = [] :=
      List.filterMap_eq_nil_iff.mpr silent
    rw [nothing, List.append_nil]
    rfl

/-- Without an observation of a refreshed profile the times are kept. -/
theorem carried_of_observesUnrefreshed
    {run before after : List ManagerCall}
    (orderly : ObservesUnrefreshed run)
    (split : run = before ++ after)
    (profileReference : String) {last : Call}
    (isLast :
      lastRecorded profileReference (recordings before) = some last) :
    last.written.lastManualRefreshAt =
      lastRefresh profileReference (recordings before) := by
  refine lastManualRefreshAt_of_lastRecorded isLast ?_
  intro early late observation isSplit reports
  rcases exists_of_recordings_eq isSplit with ⟨earlier, later, isBefore, rfl⟩
  exact
    orderly earlier last (later ++ after) profileReference observation
      (by rw [split, isBefore]; simp) reports

/-- What one recorded observation leaves as it was. -/
theorem framed_of_observesUnrefreshed
    {run before after : List ManagerCall} {call : Call}
    (orderly : ObservesUnrefreshed run)
    (split : run = before ++ .record call :: after)
    (profileReference name : String) {member : Json}
    (observes : ∀ current, call ≠ .refresh profileReference current)
    (notStatus : name ≠ "status") (notReason : name ≠ "reason")
    (stored :
      storedMember name profileReference
        (executeRun rules before .empty) = some member) :
    storedMember name profileReference
        (executeRun rules (before ++ [.record call]) .empty) =
      some member := by
  rw [executeRun_eq_execute] at stored ⊢
  rw [recordings_append, recordings_singleton_record]
  rw [storedMember_execute] at stored ⊢
  rw [lastRecorded_concat]
  split_ifs with records
  · rcases Option.bind_eq_some_iff.mp stored with ⟨last, isLast, isMember⟩
    have earlier :=
      carried_of_observesUnrefreshed orderly split profileReference isLast
    rcases call.refreshes_or_reports records with
      ⟨_, current, isRefresh⟩ | ⟨observation, reports⟩
    · exact absurd isRefresh (observes current)
    have neverRefreshed :=
      orderly before call after profileReference observation split reports
    rcases exists_of_lastRecorded isLast with ⟨_, _, _, lastRecords, _⟩
    rw [Option.bind_some, ← isMember]
    refine lookup_payload_congr rules ?_ ?_ notStatus notReason
    · rw [Call.written_profileReference, Call.written_profileReference,
        records.1, lastRecords.1]
    · rw [earlier, neverRefreshed]
      rcases reports with ⟨_, current, rfl⟩
      rfl
  · exact stored

theorem refreshTimesKept_of_observesUnrefreshed
    {run : List ManagerCall} (orderly : ObservesUnrefreshed run) :
    RefreshTimesKept rules run where
  carried := by
    intro profileReference before after member split stored
    rw [executeRun_eq_execute, storedRefresh_execute] at stored
    rcases Option.map_eq_some_iff.mp stored with ⟨last, isLast, rfl⟩
    rw [carried_of_observesUnrefreshed orderly split profileReference isLast]
  framed := by
    intro profileReference reference observation current before after name
      member split notStatus notReason stored
    exact
      framed_of_observesUnrefreshed rules orderly split profileReference name
        (fun _ equal => by cases equal) notStatus notReason stored

/-- An observation of a refreshed profile loses the time of the refresh. -/
theorem observesUnrefreshed_of_refreshTimesKept
    {run : List ManagerCall} (kept : RefreshTimesKept rules run) :
    ObservesUnrefreshed run := by
  intro before call after profileReference observation split reports
  have carried :=
    kept.carried profileReference (before ++ [.record call]) after .null
      (by rw [split]; simp)
  rw [executeRun_eq_execute, recordings_append, recordings_singleton_record,
    storedRefresh_execute, lastRecorded_concat, if_pos reports.1,
    lastRefresh_concat] at carried
  rcases reports with ⟨_, current, rfl⟩
  have isNull := carried rfl
  cases earlier :
      lastRefresh profileReference (recordings before) with
  | none => rfl
  | some refreshAt =>
      rw [earlier] at isNull
      cases isNull

/--
The time of the last manual refresh survives in every stored state just in
the runs in which observations are recorded only for profiles which were not
refreshed before.
-/
theorem refreshTimesKept_iff (run : List ManagerCall) :
    RefreshTimesKept rules run ↔ ObservesUnrefreshed run :=
  ⟨observesUnrefreshed_of_refreshTimesKept rules,
    refreshTimesKept_of_observesUnrefreshed rules⟩

/-- A `READY` observation after a manual refresh forgets its time. -/
theorem refresh_forgotten_by_observation :
    ¬ RefreshTimesKept eightHoursAhead
      [.record (.refresh "sporttery_primary" beijingNoon),
        .record (.observe "sporttery_primary" .ready beijingNoon)] := by
  intro kept
  have valid : isProfileReference "sporttery_primary" = true := by decide
  have refreshes :
      (Call.refresh "sporttery_primary" beijingNoon).Records
        "sporttery_primary" := ⟨rfl, valid, rfl⟩
  have observes :
      (Call.observe "sporttery_primary" .ready beijingNoon).Records
        "sporttery_primary" := ⟨rfl, valid, rfl⟩
  have recorded :
      recordings
          [.record (.refresh "sporttery_primary" beijingNoon),
            .record (.observe "sporttery_primary" .ready beijingNoon)] =
        [.refresh "sporttery_primary" beijingNoon] ++
          [.observe "sporttery_primary" .ready beijingNoon] := rfl
  have isNull :=
    kept.carried "sporttery_primary"
      [.record (.refresh "sporttery_primary" beijingNoon),
        .record (.observe "sporttery_primary" .ready beijingNoon)] []
      .null rfl
  rw [executeRun_eq_execute, storedRefresh_execute, recorded,
    lastRecorded_concat, if_pos observes, lastRefresh_concat,
    ← List.nil_append [Call.refresh _ _], lastRefresh_concat,
    Call.refreshAt, Call.refreshAt, if_pos refreshes] at isNull
  cases isNull rfl

end MultisiteCrawler.BrowserSession
