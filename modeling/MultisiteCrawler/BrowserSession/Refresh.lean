import MultisiteCrawler.BrowserSession.Manager

/-!
# Reading a browser session state back

Writing a state and reading it are separate pieces of code, and the reader
checks the zone of the refresh time again.  The ISO text has kept only the
offset of the zone, so no manual refresh survives that check.  Everything else
is read back exactly.
-/

namespace MultisiteCrawler.BrowserSession

open Foundation.AwareTime
open Foundation.CivilTime
open Foundation.Interaction

variable (rules : ZoneRules)

/-- The last call made for a profile. -/
def lastCall (profileReference : String) (calls : List Call) : Option Call :=
  (calls.filter fun call =>
    call.profileReference = profileReference).getLast?

/-- Two states agree, their refresh times up to the instant they denote. -/
structure Matches (read written : BrowserSessionState) : Prop where
  profileReference : read.profileReference = written.profileReference
  status : read.status = written.status
  reason : read.reason = written.reason
  refreshAt :
    read.lastManualRefreshAt.map (DateTime.instant rules) =
      written.lastManualRefreshAt.map (DateTime.instant rules)

/--
`get_state` returns the state the last call for the profile wrote, and
`UNKNOWN` just when there was no such call.
-/
def ReadsBack (profileReference : String) (calls : List Call) : Prop :=
  ∃ state,
    ((getState profileReference).run sessionHandler
        (execute rules calls .empty)).1 = .ok state ∧
      (∀ call, lastCall profileReference calls = some call →
        Matches rules state call.written) ∧
      (state.status = .unknown ↔ lastCall profileReference calls = none)

/-- The last call for the profile was a manual refresh. -/
def EndsWithRefresh (profileReference : String) (calls : List Call) : Prop :=
  ∃ current,
    lastCall profileReference calls =
      some (.refresh profileReference current)

/-- If all arguments are valid, the last call is the last recorded one. -/
theorem lastRecorded_eq_lastCall
    {profileReference : String} {calls : List Call}
    (valid : isProfileReference profileReference = true)
    (times : ∀ call ∈ calls, call.current.tzinfo = some beijing) :
    lastRecorded profileReference calls =
      lastCall profileReference calls := by
  unfold lastRecorded lastCall
  congr 1
  apply List.filter_congr
  intro call member
  apply decide_eq_decide.mpr
  constructor
  · exact fun records => records.1
  · intro same
    exact ⟨same, by rw [same]; exact valid, times call member⟩

theorem lastCall_profileReference
    {profileReference : String} {calls : List Call} {call : Call}
    (isLast : lastCall profileReference calls = some call) :
    call.profileReference = profileReference := by
  have member := List.mem_of_getLast? isLast
  simpa using (List.mem_filter.mp member).2

/-- A recorded observation is read back, a manual refresh is not. -/
theorem deserializeState_encode (call : Call) :
    deserializeState call.profileReference (encode rules call.written) =
      match call with
      | .refresh profileReference _ => unknownState profileReference
      | .observe _ _ _ => call.written := by
  cases call with
  | refresh profileReference current =>
      have undecodable :=
        decodeState_encode_of_refresh rules
          (Call.refresh profileReference current).written current rfl
      rw [Call.written_profileReference] at undecodable
      rw [deserializeState, undecodable]
      rfl
  | observe profileReference observation current =>
      have decodable :=
        decodeState_encode_of_no_refresh rules
          (Call.observe profileReference observation current).written rfl
      rw [Call.written_profileReference] at decodable
      rw [deserializeState, decodable]

/-- What `get_state` returns after a sequence of valid calls. -/
theorem run_getState_execute
    {profileReference : String} {calls : List Call}
    (valid : isProfileReference profileReference = true)
    (times : ∀ call ∈ calls, call.current.tzinfo = some beijing) :
    ((getState profileReference).run sessionHandler
        (execute rules calls .empty)).1 =
      .ok
        (match lastCall profileReference calls with
        | some (.observe reference observation current) =>
            (Call.observe reference observation current).written
        | _ => unknownState profileReference) := by
  rw [run_getState _ _ valid, values_execute,
    lastRecorded_eq_lastCall valid times]
  cases isLast : lastCall profileReference calls with
  | none => rfl
  | some call =>
      rw [← lastCall_profileReference isLast, Option.map_some]
      simp only [deserializeState_encode]
      cases call <;> rfl

/-- An observation is never recorded as `UNKNOWN`. -/
theorem observationState_ne_unknown
    (observation : BrowserSessionObservation) :
    (observationState observation).1 ≠ .unknown := by
  cases observation <;> decide

/--
The state of a profile is read back unless the last call made for it was a
manual refresh.
-/
theorem readsBack_iff_not_endsWithRefresh
    (profileReference : String) (calls : List Call)
    (valid : isProfileReference profileReference = true)
    (times : ∀ call ∈ calls, call.current.tzinfo = some beijing) :
    ReadsBack rules profileReference calls ↔
      ¬ EndsWithRefresh profileReference calls := by
  unfold ReadsBack EndsWithRefresh
  rw [run_getState_execute rules valid times]
  cases isLast : lastCall profileReference calls with
  | none =>
      constructor
      · rintro _ ⟨current, refresh⟩
        cases refresh
      · intro _
        refine ⟨_, rfl, ?_, ?_⟩
        · rintro call ⟨⟩
        · exact iff_of_true rfl rfl
  | some call =>
      cases call with
      | refresh reference current =>
          have same := lastCall_profileReference isLast
          constructor
          · rintro ⟨state, read, _, onlyNone⟩
            cases read
            cases onlyNone.mp rfl
          · intro noRefresh
            exact absurd ⟨current, by rw [← same]; rfl⟩ noRefresh
      | observe reference observation current =>
          constructor
          · rintro _ ⟨current, refresh⟩
            cases refresh
          · intro _
            refine ⟨_, rfl, ?_, ?_⟩
            · rintro call ⟨⟩
              exact ⟨rfl, rfl, rfl, rfl⟩
            · constructor
              · intro isUnknown
                exact absurd isUnknown
                  (observationState_ne_unknown observation)
              · rintro ⟨⟩

/-- An observation after a manual refresh is read back. -/
theorem readsBack_observation_after_refresh :
    ReadsBack eightHoursAhead "sporttery_primary"
      [.refresh "sporttery_primary" beijingNoon,
        .observe "sporttery_primary" .captcha beijingNoon] := by
  refine
    (readsBack_iff_not_endsWithRefresh eightHoursAhead _ _ (by decide)
      (by decide)).mpr ?_
  rintro ⟨current, refresh⟩
  simp [lastCall, Call.profileReference] at refresh

/-- A manual refresh is not read back, although its arguments are valid. -/
theorem not_readsBack_refresh :
    isProfileReference "sporttery_primary" = true ∧
      (∀ call ∈ [Call.refresh "sporttery_primary" beijingNoon],
        call.current.tzinfo = some beijing) ∧
      ¬ ReadsBack eightHoursAhead "sporttery_primary"
        [.refresh "sporttery_primary" beijingNoon] := by
  refine ⟨by decide, by decide, ?_⟩
  rintro ⟨state, read, _, onlyNone⟩
  rw [run_getState_execute _ (by decide) (by decide)] at read
  cases read
  simp [lastCall, Call.profileReference, unknownState] at onlyNone

end MultisiteCrawler.BrowserSession
