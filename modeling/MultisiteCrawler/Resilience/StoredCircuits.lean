import MultisiteCrawler.Resilience.SharedCircuit

/-!
# Stored circuits

What a text of the Redis breaker stands for: a closed circuit, some failures,
or an open circuit whose probe may be under way.  Calls which read the text of
a circuit act as the operations below act on circuits, and raise nothing.
-/

namespace MultisiteCrawler.Resilience

open Foundation.Interaction
open Foundation.Interaction.Program
open Foundation.JsonText
open Foundation.PythonErrors

variable {Time : Type}

/-- The circuit of one source; a failure was counted unless it is closed. -/
inductive StoredCircuit (Time : Type) where
  | closed
  | counting (earlier : ℕ)
  | opened (earlier : ℕ) (openedAt : Time) (probing : Bool)
deriving DecidableEq

namespace StoredCircuit

/-- The failures counted. -/
def failures : StoredCircuit Time → ℕ
  | .closed => 0
  | .counting earlier => earlier + 1
  | .opened earlier _ _ => earlier + 1

/-- The circuit after one more failure. -/
def failed (policy : CircuitPolicy) (circuit : StoredCircuit Time)
    (now : Time) : StoredCircuit Time :=
  if policy.threshold ≤ circuit.failures + 1 then
    .opened circuit.failures now false
  else .counting circuit.failures

section Cooling

variable [CommRing Time] [LinearOrder Time]

/-- A request is admitted to the circuit. -/
def admits (policy : CircuitPolicy) (circuit : StoredCircuit Time)
    (now : Time) : Bool :=
  match circuit with
  | .closed => true
  | .counting _ => true
  | .opened _ openedAt probing =>
      !decide (now - openedAt < policy.recoverySeconds) && !probing

/-- The circuit after a request was admitted, if that is written. -/
def probed : StoredCircuit Time → Option (StoredCircuit Time)
  | .closed => none
  | .counting _ => none
  | .opened earlier openedAt _ => some (.opened earlier openedAt true)

end Cooling

variable (codec : TimeCodec Time)

/-- The document of a circuit. -/
def members : StoredCircuit Time → List (String × Json)
  | .closed => []
  | .counting earlier => [("failures", .int (earlier + 1))]
  | .opened earlier openedAt false =>
      [("failures", .int (earlier + 1)), ("opened", codec.number openedAt)]
  | .opened earlier openedAt true =>
      [("failures", .int (earlier + 1)), ("opened", codec.number openedAt),
        ("half_open", .bool true)]

/-- The text of a circuit. -/
def text (circuit : StoredCircuit Time) : String :=
  dumps {} (.obj (circuit.members codec))

/-- What is read where a circuit is stored, or nothing any more. -/
def found : Option (StoredCircuit Time) → StoredCircuit Time
  | none => .closed
  | some circuit => circuit

theorem uniqueKeys_number (time : Time) : (codec.number time).UniqueKeys := by
  rcases codec.isNumber time with ⟨value, isInt⟩ | ⟨literal, isFloat⟩
  · rw [isInt]
    trivial
  · rw [isFloat]
    trivial

theorem uniqueKeys_members (circuit : StoredCircuit Time) :
    (Json.obj (circuit.members codec)).UniqueKeys := by
  cases circuit with
  | closed => exact ⟨List.nodup_nil, trivial⟩
  | counting earlier => exact ⟨List.nodup_singleton _, trivial, trivial⟩
  | opened earlier openedAt probing =>
      have number := uniqueKeys_number codec openedAt
      cases probing with
      | false =>
          have distinct : ["failures", "opened"].Nodup := by decide
          exact ⟨distinct, trivial, number, trivial⟩
      | true =>
          have distinct : ["failures", "opened", "half_open"].Nodup := by
            decide
          exact ⟨distinct, trivial, number, trivial, trivial⟩

/-- A text which was read is that of the circuit. -/
theorem loads_found (stored : Option (StoredCircuit Time)) :
    loads (orEmpty (stored.map (text codec))) =
      some (.obj ((found stored).members codec)) := by
  cases stored with
  | none => exact loads_empty
  | some circuit => exact loads_orEmpty_dumps (circuit.uniqueKeys_members codec)

theorem failureCount_found (stored : Option (StoredCircuit Time)) :
    failureCount (stored.map (text codec)) = .ok (found stored).failures := by
  rw [failureCount_of_members (loads_found codec stored)]
  cases found stored with
  | closed => rfl
  | counting earlier => rfl
  | opened earlier openedAt probing => cases probing <;> rfl

theorem failureText_failures
    (policy : CircuitPolicy) (circuit : StoredCircuit Time) (now : Time) :
    RedisCircuitBreaker.failureText codec policy (circuit.failures + 1) now =
      (circuit.failed policy now).text codec := by
  rw [RedisCircuitBreaker.failureText, failed]
  by_cases reached : policy.threshold ≤ circuit.failures + 1
  · rw [if_pos reached, if_pos (by exact_mod_cast reached)]
    rfl
  · rw [if_neg reached, if_neg (by exact_mod_cast reached)]
    rfl

variable [CommRing Time] [LinearOrder Time]

/-- Members whose time of opening is a number are those of an open circuit. -/
theorem allowMembers_of_opened
    (policy : CircuitPolicy) (sourceId : String) (now openedAt : Time)
    {members : List (String × Json)}
    (isOpened : getMember "opened" members = codec.number openedAt) :
    allowMembers codec policy sourceId now members =
      if now - openedAt < policy.recoverySeconds then done (some false)
      else if (getMember "half_open" members).truthy then done (some false)
      else
        perform
          (.set (circuitKey sourceId)
            (dumps {} (.obj (assign "half_open" (.bool true) members)))
            (some policy.recoverySeconds))
          fun _ => done (some true) := by
  have isRead := codec.float_number openedAt
  rw [allowMembers, isOpened]
  rcases codec.isNumber openedAt with ⟨value, isInt⟩ | ⟨literal, isFloat⟩
  · rw [isInt] at isRead ⊢
    dsimp only
    rw [isRead]
  · rw [isFloat] at isRead ⊢
    dsimp only
    rw [isRead]

/-- A request to a circuit is answered, and writes if it becomes the probe. -/
theorem allowMembers_members
    (policy : CircuitPolicy) (sourceId : String) (now : Time)
    (circuit : StoredCircuit Time) :
    allowMembers codec policy sourceId now (circuit.members codec) =
      if circuit.admits policy now then
        match circuit.probed with
        | none => done (some true)
        | some probed =>
            perform
              (.set (circuitKey sourceId) (probed.text codec)
                (some policy.recoverySeconds))
              fun _ => done (some true)
      else done (some false) := by
  cases circuit with
  | closed => rfl
  | counting earlier => rfl
  | opened earlier openedAt probing =>
      cases probing with
      | false =>
          rw [allowMembers_of_opened codec policy sourceId now openedAt rfl]
          by_cases cooling : now - openedAt < policy.recoverySeconds
          · rw [if_pos cooling, admits, decide_eq_true cooling]
            rfl
          · rw [if_neg cooling, admits, decide_eq_false cooling]
            rfl
      | true =>
          rw [allowMembers_of_opened codec policy sourceId now openedAt rfl,
            admits, Bool.not_true, Bool.and_false]
          by_cases cooling : now - openedAt < policy.recoverySeconds
          · rw [if_pos cooling]
            rfl
          · rw [if_neg cooling]
            rfl

end StoredCircuit

end MultisiteCrawler.Resilience
