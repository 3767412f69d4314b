import MultisiteCrawler.Alerts.Evaluator
import MultisiteCrawler.BrowserSession.Manager
import MultisiteCrawler.Foundation.SharedServer
import MultisiteCrawler.Locking.RedisLease
import MultisiteCrawler.Redis.Server
import MultisiteCrawler.Resilience.CircuitBreaker
import MultisiteCrawler.Scheduler.Operations

/-!
# The clients of the Redis server

The scheduler, the alert evaluator, the browser sessions, the circuit
breakers, the leases and the metrics keep their keys apart by a prefix.  The
task queues, and whoever else uses the server, have the keys with none of the
prefixes.  What a client's commands do to the server is what they do to the
store its own module gives it.
-/

namespace MultisiteCrawler.Redis

open Foundation.ExpiringStore
open Foundation.Interaction
open Foundation.Interaction.Program (Handler)
open Foundation.JsonText
open Foundation.PythonErrors
open Foundation.SharedServer
open MultisiteCrawler.Alerts
open MultisiteCrawler.Locking
open MultisiteCrawler.Metrics
open MultisiteCrawler.Scheduler (DispatchCallback)

/-- Who uses the server. -/
inductive Client where
  | scheduler
  | alerts
  | sessions
  | circuits
  | leases
  | metrics
  | others
deriving DecidableEq

/-! ## Keys -/

namespace Client

/-- What the keys of a client begin with. -/
def keyPrefix : Client → Option String
  | .scheduler => some "scheduler:"
  | .alerts => some "crawler:alerts:"
  | .sessions => some "browser-session:"
  | .circuits => some "circuit:"
  | .leases => some "crawler:lock:source:"
  | .metrics => some "crawler:metrics:"
  | .others => none

/-- The key begins with the prefix of the client. -/
def HasPrefix (client : Client) (key : String) : Prop :=
  ∃ start ∈ client.keyPrefix, start.toList <+: key.toList

/-- The key is the client's. -/
def Owns (client : Client) (key : String) : Prop :=
  match client with
  | .others => ∀ other : Client, ¬ other.HasPrefix key
  | named => named.HasPrefix key

theorem hasPrefix_append
    {client : Client} {start : String}
    (isPrefix : client.keyPrefix = some start)
    (rest : String) : client.HasPrefix (start ++ rest) := by
  refine ⟨start, isPrefix, ?_⟩
  rw [String.toList_append]
  exact List.prefix_append _ _

/-- No prefix begins with another. -/
theorem eq_of_hasPrefix
    {first second : Client} {start other : String}
    (isPrefix : first.keyPrefix = some start)
    (isOther : second.keyPrefix = some other)
    (nested : start.toList <+: other.toList) : first = second := by
  cases first <;> cases second <;> cases isPrefix <;> cases isOther <;>
    first
      | rfl
      | exact absurd (List.isPrefixOf_iff_prefix.mpr nested) (by decide)

theorem HasPrefix.unique
    {first second : Client} {key : String} (firstHas : first.HasPrefix key)
    (secondHas : second.HasPrefix key) : first = second := by
  rcases firstHas with ⟨start, isPrefix, before⟩
  rcases secondHas with ⟨other, isOther, otherBefore⟩
  rcases List.prefix_or_prefix_of_prefix before otherBefore with
    nested | nested
  · exact eq_of_hasPrefix isPrefix isOther nested
  · exact (eq_of_hasPrefix isOther isPrefix nested).symm

theorem Owns.hasPrefix
    {client : Client} {key : String} (named : client ≠ .others)
    (owns : client.Owns key) : client.HasPrefix key := by
  cases client with
  | others => exact absurd rfl named
  | _ => exact owns

theorem HasPrefix.owns
    {client : Client} {key : String} (has : client.HasPrefix key) :
    client.Owns key := by
  cases client with
  | others =>
      rcases has with ⟨start, isPrefix, _⟩
      cases isPrefix
  | _ => exact has

/-- No key has two owners. -/
theorem Owns.unique
    {first second : Client} {key : String} (firstOwns : first.Owns key)
    (secondOwns : second.Owns key) : first = second := by
  by_cases firstNamed : first = .others
  · by_cases secondNamed : second = .others
    · rw [firstNamed, secondNamed]
    · subst firstNamed
      exact absurd (secondOwns.hasPrefix secondNamed) (firstOwns second)
  · by_cases secondNamed : second = .others
    · subst secondNamed
      exact absurd (firstOwns.hasPrefix firstNamed) (secondOwns first)
    · exact
        (firstOwns.hasPrefix firstNamed).unique
          (secondOwns.hasPrefix secondNamed)

theorem scheduler_owns (sourceId : String) :
    Client.scheduler.Owns (Scheduler.stateKey sourceId) :=
  (hasPrefix_append rfl sourceId).owns

theorem alerts_owns (sourceId : String) (rule : AlertRule) :
    Client.alerts.Owns (alertKey sourceId rule) := by
  rw [alertKey, String.append_assoc, String.append_assoc]
  exact (hasPrefix_append rfl _).owns

theorem sessions_owns (profileReference : String) :
    Client.sessions.Owns (BrowserSession.stateKey profileReference) :=
  (hasPrefix_append rfl profileReference).owns

theorem circuits_owns (sourceId : String) :
    Client.circuits.Owns (Resilience.circuitKey sourceId) :=
  (hasPrefix_append rfl sourceId).owns

theorem leases_owns (sourceId : String) :
    Client.leases.Owns (sourceLockKey sourceId) :=
  (hasPrefix_append rfl sourceId).owns

theorem metrics_owns_sources : Client.metrics.Owns sourcesKey := by
  have same : sourcesKey = "crawler:metrics:" ++ "sources" := by
    decide
  rw [same]
  exact (hasPrefix_append rfl _).owns

theorem metrics_owns_source (sourceId : String) :
    Client.metrics.Owns (sourceKey sourceId) := by
  have same :
      sourceKey sourceId = "crawler:metrics:" ++ ("source:" ++ sourceId) := by
    rw [← String.append_assoc]
    rfl
  rw [same]
  exact (hasPrefix_append rfl _).owns

end Client

/-- The set of sources has no key of a hash. -/
theorem sourceKey_ne_sourcesKey (sourceId : String) :
    sourceKey sourceId ≠ sourcesKey := by
  intro same
  have characters := congrArg (fun key => (String.toList key)[22]?) same
  have colon : (sourceKey sourceId).toList[22]? = some ':' := by
    rw [sourceKey, String.toList_append,
      List.getElem?_append_left (by decide)]
    decide
  rw [colon] at characters
  revert characters
  decide

/-! ## What the clients hold -/

section Cells

variable {Time : Type}

/-- A text and its deadline, on the server. -/
def textCell (entry : Option (Entry String Time)) : Cell Time :=
  entry.map fun entry => ⟨.text entry.value, entry.deadline⟩

/-- A text which does not expire. -/
def plainCell (value : Option String) : Cell Time :=
  textCell (value.map fun value => ⟨value, none⟩)

/-- A hash, which is absent when it is empty. -/
def hashCell (fields : List (String × String)) : Cell Time :=
  if fields = [] then none else some ⟨.hash fields, none⟩

/-- A set, which is absent when it is empty. -/
def setCell (members : List String) : Cell Time :=
  if members = [] then none else some ⟨.set members, none⟩

section Present

variable [LinearOrder Time]

theorem present_textCell_of_read
    {now : Time} {key : String} {store : Store String String Time}
    {value : String} (isRead : read now key store = some value) :
    present now (textCell (store key)) = textCell (store key) ∧
      ∃ deadline, store key = some ⟨value, deadline⟩ := by
  rcases exists_entry_of_read isRead with ⟨entry, isStored, rfl, live⟩
  rw [isStored]
  refine ⟨?_, entry.deadline, rfl⟩
  exact if_pos live

theorem present_textCell_of_absent
    {now : Time} {key : String} {store : Store String String Time}
    (absent : read now key store = none) :
    present now (textCell (store key)) = none := by
  cases isStored : store key with
  | none => rfl
  | some entry =>
      rw [read_eq_ite isStored] at absent
      split_ifs at absent with live
      exact if_neg live

/-- `GET` on the server is `GET` on the client's store. -/
theorem textOf_present
    (now : Time) (key : String) (store : Store String String Time) :
    textOf (present now (textCell (store key))) =
      some (read now key store) := by
  cases isRead : read now key store with
  | none => rw [present_textCell_of_absent isRead, textOf]
  | some value =>
      rcases present_textCell_of_read isRead with
        ⟨isPresent, deadline, isStored⟩
      rw [isPresent, isStored]
      rfl

@[simp]
theorem textOf_present_plainCell (now : Time) (value : Option String) :
    textOf (present now (plainCell value)) = some value := by
  cases value with
  | none => rfl
  | some text => simp [plainCell, textCell, present, textOf, Entry.Live]

@[simp]
theorem present_hashCell (now : Time) (fields : List (String × String)) :
    present now (hashCell fields) = hashCell fields := by
  unfold hashCell
  split_ifs
  · rfl
  · simp [present, Entry.Live]

@[simp]
theorem present_setCell (now : Time) (members : List String) :
    present now (setCell members) = setCell members := by
  unfold setCell
  split_ifs
  · rfl
  · simp [present, Entry.Live]

end Present

@[simp]
theorem fieldsOf_hashCell (fields : List (String × String)) :
    fieldsOf (hashCell fields : Cell Time) = some fields := by
  unfold hashCell
  split_ifs with empty
  · rw [empty, fieldsOf]
  · rfl

theorem withValue_hashCell
    (fields : List (String × String)) {written : List (String × String)}
    (filled : written ≠ []) :
    (hashCell fields : Cell Time).withValue (.hash written) =
      hashCell written := by
  unfold hashCell Cell.withValue
  rw [if_neg filled]
  split_ifs <;> rfl

@[simp]
theorem membersOf_setCell (members : List String) :
    membersOf (setCell members : Cell Time) = some members := by
  unfold setCell
  split_ifs with empty
  · rw [empty, membersOf]
  · rfl

theorem withValue_setCell
    (members : List String) {written : List String}
    (filled : written ≠ []) :
    (setCell members : Cell Time).withValue (.set written) =
      setCell written := by
  unfold setCell Cell.withValue
  rw [if_neg filled]
  split_ifs <;> rfl

end Cells

theorem assign_ne_nil
    (field value : String) (fields : List (String × String)) :
    assign field value fields ≠ [] := by
  intro empty
  have member := (mem_keys_assign_iff field value fields).mpr (Or.inl rfl)
  rw [empty] at member
  cases member

theorem incrementField_ne_nil
    {field : String} {amount value : ℤ}
    {fields changed : List (String × String)}
    (done : incrementField field amount fields = some (value, changed)) :
    changed ≠ [] := by
  unfold incrementField at done
  split at done
  · cases done
  · split_ifs at done
    cases done
    exact assign_ne_nil _ _ _

theorem addMember_ne_nil (member : String) (members : List String) :
    addMember member members ≠ [] := by
  unfold addMember
  split_ifs with isMember
  · exact List.ne_nil_of_mem isMember
  · exact List.append_ne_nil_of_right_ne_nil _ (List.cons_ne_nil _ _)

/-! ## Commands on hashes and sets -/

section Effects

variable {Time : Type} [CommRing Time] [LinearOrder Time]

/-- `HINCRBY` is refused, and the hash stays. -/
theorem effect_hincrby_refused
    (now : Time) (name : String) {field : String} {amount : ℤ}
    {fields : List (String × String)}
    (refused : incrementField field amount fields = none) :
    (RedisCommand.hincrby name field amount).effect now (hashCell fields) =
      some (.error responseError, hashCell fields) := by
  rw [RedisCommand.effect, present_hashCell, fieldsOf_hashCell,
    Option.map_some, refused]

theorem effect_hincrby
    (now : Time) (name : String) {field : String} {amount value : ℤ}
    {fields changed : List (String × String)}
    (counted : incrementField field amount fields = some (value, changed)) :
    (RedisCommand.hincrby name field amount).effect now (hashCell fields) =
      some (.ok value, hashCell changed) := by
  rw [RedisCommand.effect, present_hashCell, fieldsOf_hashCell,
    Option.map_some, counted]
  dsimp only
  rw [withValue_hashCell _ (incrementField_ne_nil counted)]

theorem effect_hset
    (now : Time) (name field value : String)
    (fields : List (String × String)) :
    (RedisCommand.hset name field value).effect now (hashCell fields) =
      some
        (newlyAdded (decide (field ∈ fields.map Prod.fst)),
          hashCell (assign field value fields)) := by
  rw [RedisCommand.effect, present_hashCell, fieldsOf_hashCell,
    Option.map_some, withValue_hashCell _ (assign_ne_nil _ _ _)]

theorem effect_hgetall
    (now : Time) (name : String) (fields : List (String × String)) :
    (RedisCommand.hgetall name).effect now (hashCell fields) =
      some (fields, hashCell fields) := by
  rw [RedisCommand.effect, present_hashCell, fieldsOf_hashCell,
    Option.map_some]

theorem effect_sadd
    (now : Time) (name member : String) (members : List String) :
    (RedisCommand.sadd name member).effect now (setCell members) =
      some
        (newlyAdded (decide (member ∈ members)),
          setCell (addMember member members)) := by
  rw [RedisCommand.effect, present_setCell, membersOf_setCell,
    Option.map_some, withValue_setCell _ (addMember_ne_nil _ _)]

theorem effect_smembers
    (now : Time) (name : String) (members : List String) :
    (RedisCommand.smembers name).effect now (setCell members) =
      some (members, setCell members) := by
  rw [RedisCommand.effect, present_setCell, membersOf_setCell,
    Option.map_some]

end Effects

end MultisiteCrawler.Redis
