import MultisiteCrawler.Foundation.AwareTime
import MultisiteCrawler.Foundation.Interaction
import MultisiteCrawler.Foundation.JsonRoundTrip
import MultisiteCrawler.Foundation.PythonErrors

/-!
# Browser session manager

The lifecycle state of dedicated browser profiles, stored as one JSON text per
profile.  A manual refresh or an observation replaces the text; reading it
decodes the text and validates it again, and any failure to do so reads as
`UNKNOWN`.

The last part describes runs of the manager: the text stored for a profile is
that of the last call which was accepted for it.
-/

namespace MultisiteCrawler.BrowserSession

open Foundation.AwareTime
open Foundation.Interaction
open Foundation.JsonText
open Foundation.PythonErrors

/-! ## States and observations -/

/-- Persisted generic state for one dedicated browser profile. -/
inductive BrowserSessionStatus where
  | unknown
  | ready
  | loginRequired
  | accessDenied
  | captcha
deriving DecidableEq, Repr

/-- The text of a status. -/
def BrowserSessionStatus.value : BrowserSessionStatus → String
  | .unknown => "unknown"
  | .ready => "ready"
  | .loginRequired => "login_required"
  | .accessDenied => "access_denied"
  | .captcha => "captcha"

/-- The status of a text; `none` is the `ValueError` of an unknown one. -/
def BrowserSessionStatus.ofValue (value : String) :
    Option BrowserSessionStatus :=
  if value = "unknown" then some .unknown
  else if value = "ready" then some .ready
  else if value = "login_required" then some .loginRequired
  else if value = "access_denied" then some .accessDenied
  else if value = "captcha" then some .captcha
  else none

@[simp]
theorem BrowserSessionStatus.ofValue_value (status : BrowserSessionStatus) :
    ofValue status.value = some status := by
  cases status <;> decide

/-- Safe adapter-provided observation without page text or selectors. -/
inductive BrowserSessionObservation where
  | ready
  | loginRequired
  | unauthorized
  | forbidden
  | captcha
  | accessControl
deriving DecidableEq, Repr

/-- Non-sensitive latest state for an opaque profile reference. -/
structure BrowserSessionState where
  profileReference : String
  status : BrowserSessionStatus
  lastManualRefreshAt : Option DateTime
  reason : Option String
deriving DecidableEq

/-- Raised when an observation requires an operator to review the profile. -/
structure BrowserSessionRequiredError where
  profileReference : String
  status : BrowserSessionStatus
  reason : Option String
  message : String
deriving DecidableEq

/-- The error which reports a state. -/
def BrowserSessionRequiredError.ofState (state : BrowserSessionState) :
    BrowserSessionRequiredError where
  profileReference := state.profileReference
  status := state.status
  reason := state.reason
  message :=
    "browser session requires human review: profile_reference=" ++
      state.profileReference ++ " status=" ++ state.status.value ++
      " reason=" ++ state.reason.getD "None"

/-- What a manager operation raises. -/
inductive SessionError where
  | python (error : PyError)
  | required (error : BrowserSessionRequiredError)
deriving DecidableEq

/-- The key of the text stored for a profile. -/
def stateKey (profileReference : String) : String :=
  "browser-session:" ++ profileReference

/-- The state of a profile about which nothing is known. -/
def unknownState (profileReference : String) : BrowserSessionState where
  profileReference := profileReference
  status := .unknown
  lastManualRefreshAt := none
  reason := none

/-- The status and the reason an observation is recorded with. -/
def observationState :
    BrowserSessionObservation → BrowserSessionStatus × Option String
  | .ready => (.ready, none)
  | .loginRequired => (.loginRequired, some "login_required")
  | .captcha => (.captcha, some "captcha")
  | .unauthorized => (.accessDenied, some "unauthorized")
  | .forbidden => (.accessDenied, some "forbidden")
  | .accessControl => (.accessDenied, some "access_control")

theorem stateKey_injective : Function.Injective stateKey := by
  intro left right equal
  exact (String.append_right_inj _).mp equal

/-! ## Validation -/

/-- `[a-z0-9_]+`, matched in full. -/
def isProfileReference (profileReference : String) : Bool :=
  !profileReference.toList.isEmpty &&
    profileReference.toList.all fun character =>
      character.isLower || character.isDigit || character == '_'

/-- `_validate_profile_reference`. -/
def validateProfileReference (profileReference : String) :
    Except PyError Unit :=
  if isProfileReference profileReference then .ok ()
  else .error (.value "profile reference must match [a-z0-9_]+")

/-- `ZoneInfo("Asia/Shanghai")`. -/
def beijing : TzInfo := .zoneInfo "Asia/Shanghai"

/-- Noon in Beijing on 11 July 2026. -/
def beijingNoon : DateTime :=
  ⟨⟨63919368000000000, by decide⟩, false, some beijing⟩

/-- `_validate_beijing_datetime`. -/
def validateBeijingDatetime (value : DateTime) : Except PyError Unit :=
  if value.tzinfo = some beijing then .ok ()
  else .error (.value "timestamp must be timezone-aware Beijing time")

/-! ## Encoding and decoding -/

variable (rules : ZoneRules)

/-- The document stored for a state. -/
def payload (state : BrowserSessionState) : Json :=
  .obj
    [("profile_reference", .str state.profileReference),
      ("status", .str state.status.value),
      ("last_manual_refresh_at",
        match state.lastManualRefreshAt with
        | some refreshAt => .str (refreshAt.isoformat rules)
        | none => .null),
      ("reason",
        match state.reason with
        | some reason => .str reason
        | none => .null)]

/-- The text stored for a state. -/
def encode (state : BrowserSessionState) : String :=
  dumps { compact := true } (payload rules state)

/-- The status of a decoded document. -/
def decodeStatus (members : List (String × Json)) :
    Except PyError BrowserSessionStatus :=
  match lookup "status" members with
  | none => .error (.library .keyError)
  | some (.str value) =>
      match BrowserSessionStatus.ofValue value with
      | some status => .ok status
      | none => .error (.library .valueError)
  | some _ => .error (.library .valueError)

/-- The reason of a decoded document. -/
def decodeReason (members : List (String × Json)) :
    Except PyError (Option String) :=
  match getMember "reason" members with
  | .null => .ok none
  | .str reason => .ok (some reason)
  | _ => .error (.value "reason must be a string")

/-- The refresh time of a decoded document, validated once more. -/
def decodeRefreshAt (members : List (String × Json)) :
    Except PyError (Option DateTime) :=
  match getMember "last_manual_refresh_at" members with
  | .null => .ok none
  | .str text =>
      match fromisoformat text with
      | none => .error (.library .valueError)
      | some refreshAt => do
          validateBeijingDatetime refreshAt
          .ok (some refreshAt)
  | _ => .error (.value "refresh time must be a string")

/-- The body of `_deserialize_state`, before its errors are caught. -/
def decodeState (profileReference value : String) :
    Except PyError BrowserSessionState := do
  match loads value with
  | none => .error (.library .valueError)
  | some (.obj members) => do
      match getMember "profile_reference" members with
      | .str reference =>
          if reference = profileReference then .ok ()
          else .error (.value "profile reference mismatch")
      | _ => .error (.value "profile reference mismatch")
      let status ← decodeStatus members
      let reason ← decodeReason members
      let refreshAt ← decodeRefreshAt members
      .ok ⟨profileReference, status, refreshAt, reason⟩
  | some _ => .error (.value "state must be a mapping")

/-- `_deserialize_state`: every decoding error reads as `UNKNOWN`. -/
def deserializeState (profileReference value : String) :
    BrowserSessionState :=
  match decodeState profileReference value with
  | .ok state => state
  | .error _ => unknownState profileReference

theorem loads_encode (state : BrowserSessionState) :
    loads (encode rules state) = some (payload rules state) := by
  refine loads_dumps _ _ ?_
  refine ⟨by simp, trivial, trivial, ?_, ?_, trivial⟩
  · cases state.lastManualRefreshAt <;> trivial
  · cases state.reason <;> trivial

/-- A state without a refresh time is decoded exactly. -/
theorem decodeState_encode_of_no_refresh
    (state : BrowserSessionState)
    (noRefresh : state.lastManualRefreshAt = none) :
    decodeState state.profileReference (encode rules state) = .ok state := by
  rcases state with ⟨profileReference, status, refreshAt, reason⟩
  subst noRefresh
  rw [decodeState, loads_encode]
  cases reason <;>
    simp [payload, getMember, lookup, decodeStatus, decodeReason,
      decodeRefreshAt]

/--
A state with a refresh time is never decoded: the text has kept the offset of
the time but not its named zone.
-/
theorem decodeState_encode_of_refresh
    (state : BrowserSessionState) (refreshAt : DateTime)
    (refreshed : state.lastManualRefreshAt = some refreshAt) :
    decodeState state.profileReference (encode rules state) =
      .error (.value "timestamp must be timezone-aware Beijing time") := by
  rcases state with ⟨profileReference, status, _, reason⟩
  subst refreshed
  have read := fromisoformat_isoformat rules refreshAt
  have fixed := tzinfo_ne_zoneInfo_of_fromisoformat read "Asia/Shanghai"
  rw [decodeState, loads_encode]
  cases reason <;>
    simp [payload, getMember, lookup, decodeStatus, decodeReason,
      decodeRefreshAt, read, validateBeijingDatetime, beijing]

/-! ## Operations -/

/-- Programs over a session store. -/
abbrev SessionProgram := StoreProgram String String Empty Empty SessionError

/-- A session store: keys never expire and nothing is emitted. -/
def sessionHandler :
    Program.Handler (StoreCommand String String Empty)
      (StoreCommand.Reply Empty) (StoreState String String Empty) :=
  storeHandler fun _ event => event

/-- Raise the error of a check, if it failed. -/
def require (check : Except PyError Unit) : SessionProgram Unit :=
  Program.ofOutcome (check.mapError .python)

/-- `get_state`. -/
def getState (profileReference : String) :
    SessionProgram BrowserSessionState := do
  require (validateProfileReference profileReference)
  match ← StoreProgram.get (stateKey profileReference) with
  | none => pure (unknownState profileReference)
  | some value => pure (deserializeState profileReference value)

/-- `_save`. -/
def save (state : BrowserSessionState) : SessionProgram Unit :=
  StoreProgram.set (stateKey state.profileReference) (encode rules state) none

/-- `record_manual_refresh`. -/
def recordManualRefresh (profileReference : String) (current : DateTime) :
    SessionProgram BrowserSessionState := do
  require (validateProfileReference profileReference)
  require (validateBeijingDatetime current)
  let state : BrowserSessionState :=
    ⟨profileReference, .ready, some current, none⟩
  save rules state
  pure state

/-- `record_observation`. -/
def recordObservation
    (profileReference : String) (observation : BrowserSessionObservation)
    (current : DateTime) :
    SessionProgram BrowserSessionState := do
  require (validateProfileReference profileReference)
  require (validateBeijingDatetime current)
  let (status, reason) := observationState observation
  let state : BrowserSessionState := ⟨profileReference, status, none, reason⟩
  save rules state
  if status ≠ .ready then Program.fail (.required (.ofState state))
  else pure state

/-! ## Calls and runs -/

/-- A call which records something. -/
inductive Call where
  | refresh (profileReference : String) (current : DateTime)
  | observe (profileReference : String)
      (observation : BrowserSessionObservation) (current : DateTime)
deriving DecidableEq

/-- The profile a call is made for. -/
def Call.profileReference : Call → String
  | .refresh profileReference _ => profileReference
  | .observe profileReference _ _ => profileReference

/-- The timestamp a call is made with. -/
def Call.current : Call → DateTime
  | .refresh _ current => current
  | .observe _ _ current => current

/-- The operation a call performs. -/
def Call.program : Call → SessionProgram BrowserSessionState
  | .refresh profileReference current =>
      recordManualRefresh rules profileReference current
  | .observe profileReference observation current =>
      recordObservation rules profileReference observation current

/-- The state a call writes if its arguments are valid. -/
def Call.written : Call → BrowserSessionState
  | .refresh profileReference current =>
      ⟨profileReference, .ready, some current, none⟩
  | .observe profileReference observation _ =>
      ⟨profileReference, (observationState observation).1, none,
        (observationState observation).2⟩

/-- Both arguments of a call pass validation. -/
def Call.Accepted (call : Call) : Prop :=
  isProfileReference call.profileReference = true ∧
    call.current.tzinfo = some beijing

instance (call : Call) : Decidable call.Accepted := by
  unfold Call.Accepted
  infer_instance

@[simp]
theorem Call.written_profileReference (call : Call) :
    call.written.profileReference = call.profileReference := by
  cases call <;> rfl

/-- What a call returns or raises. -/
def Call.outcome (call : Call) : Except SessionError BrowserSessionState :=
  match validateProfileReference call.profileReference with
  | .error error => .error (.python error)
  | .ok () =>
      match validateBeijingDatetime call.current with
      | .error error => .error (.python error)
      | .ok () =>
          if call.written.status = .ready then .ok call.written
          else .error (.required (.ofState call.written))

/-- The store after a call. -/
def Call.after (call : Call) (state : StoreState String String Empty) :
    StoreState String String Empty :=
  if call.Accepted then
    { state with
      values := Function.update state.values (stateKey call.profileReference)
        (some (encode rules call.written)) }
  else state

/-- What one call does: it writes its state if both arguments are valid. -/
theorem run_call (call : Call) (state : StoreState String String Empty) :
    (call.program rules).run sessionHandler state =
      (call.outcome, call.after rules state) := by
  unfold Call.after Call.outcome Call.Accepted
  cases call with
  | refresh profileReference current =>
      simp only [Call.program, recordManualRefresh, Call.profileReference,
        Call.current, validateProfileReference, validateBeijingDatetime]
      by_cases validProfile : isProfileReference profileReference = true
      · by_cases validTime : current.tzinfo = some beijing
        · simp [validProfile, validTime, require, Except.mapError, save,
            Program.ofOutcome, Call.written, sessionHandler]
        · simp [validProfile, validTime, require, Except.mapError,
            Program.ofOutcome]
      · simp [validProfile, require, Except.mapError, Program.ofOutcome]
  | observe profileReference observation current =>
      simp only [Call.program, recordObservation, Call.profileReference,
        Call.current, validateProfileReference, validateBeijingDatetime]
      by_cases validProfile : isProfileReference profileReference = true
      · by_cases validTime : current.tzinfo = some beijing
        · cases observation <;>
            simp [validProfile, validTime, require, Except.mapError, save,
              Program.ofOutcome, Call.written, sessionHandler,
              observationState]
        · simp [validProfile, validTime, require, Except.mapError,
            Program.ofOutcome]
      · simp [validProfile, require, Except.mapError, Program.ofOutcome]

/-- What `get_state` reads for a valid reference. -/
theorem run_getState
    (profileReference : String) (state : StoreState String String Empty)
    (valid : isProfileReference profileReference = true) :
    (getState profileReference).run sessionHandler state =
      (.ok
        (match state.values (stateKey profileReference) with
        | none => unknownState profileReference
        | some value => deserializeState profileReference value),
        state) := by
  have passes : validateProfileReference profileReference = .ok () :=
    if_pos valid
  simp only [getState, require, passes, Except.mapError, Program.ofOutcome,
    Program.bind_done, StoreProgram.bind_get, Program.run_perform,
    sessionHandler, storeHandler_get]
  cases state.values (stateKey profileReference) <;> rfl

/-- The store after a sequence of calls, whatever they raise. -/
def execute (calls : List Call) (state : StoreState String String Empty) :
    StoreState String String Empty :=
  calls.foldl
    (fun state call => ((call.program rules).run sessionHandler state).2)
    state

theorem execute_concat
    (calls : List Call) (call : Call)
    (state : StoreState String String Empty) :
    execute rules (calls ++ [call]) state =
      call.after rules (execute rules calls state) := by
  rw [execute, List.foldl_append, List.foldl_cons, List.foldl_nil, run_call]
  rfl

/-- The call is made for the profile and its arguments are valid. -/
def Call.Records (profileReference : String) (call : Call) : Prop :=
  call.profileReference = profileReference ∧ call.Accepted

instance (profileReference : String) (call : Call) :
    Decidable (call.Records profileReference) := by
  unfold Call.Records
  infer_instance

/-- The last call which recorded something for the profile. -/
def lastRecorded (profileReference : String) (calls : List Call) :
    Option Call :=
  (calls.filter fun call => call.Records profileReference).getLast?

theorem lastRecorded_concat
    (profileReference : String) (calls : List Call) (call : Call) :
    lastRecorded profileReference (calls ++ [call]) =
      if call.Records profileReference then some call
      else lastRecorded profileReference calls := by
  unfold lastRecorded
  rw [List.filter_append, List.filter_singleton]
  by_cases records : call.Records profileReference
  · simp [records]
  · simp [records]

/-- The text of a profile is the one its last recorded call wrote. -/
theorem values_execute (profileReference : String) (calls : List Call) :
    (execute rules calls .empty).values (stateKey profileReference) =
      (lastRecorded profileReference calls).map
        fun call => encode rules call.written := by
  induction calls using List.reverseRecOn with
  | nil => rfl
  | append_singleton calls call induction =>
      rw [execute_concat, lastRecorded_concat, Call.after]
      by_cases accepted : call.Accepted
      · rw [if_pos accepted]
        by_cases same : call.profileReference = profileReference
        · rw [if_pos ⟨same, accepted⟩, ← same]
          exact Function.update_self _ _ _
        · rw [if_neg fun records => same records.1, ← induction]
          refine Function.update_of_ne ?_ _ _
          intro equal
          exact same (stateKey_injective equal).symm
      · rw [if_neg accepted, if_neg fun records => accepted records.2]
        exact induction

/-- The last recorded call and what surrounds it. -/
theorem exists_of_lastRecorded
    {profileReference : String} {calls : List Call} {last : Call}
    (isLast : lastRecorded profileReference calls = some last) :
    ∃ before after,
      calls = before ++ last :: after ∧ last.Records profileReference ∧
        ∀ call ∈ after, ¬ call.Records profileReference := by
  induction calls using List.reverseRecOn with
  | nil => cases isLast
  | append_singleton calls call induction =>
      rw [lastRecorded_concat] at isLast
      split_ifs at isLast with records
      · cases isLast
        exact ⟨calls, [], rfl, records, by simp⟩
      · rcases induction isLast with ⟨before, after, rfl, recorded, silent⟩
        refine ⟨before, after ++ [call], by simp, recorded, ?_⟩
        intro other member
        rcases List.mem_append.mp member with member | member
        · exact silent other member
        · rw [List.mem_singleton.mp member]
          exact records

end MultisiteCrawler.BrowserSession
