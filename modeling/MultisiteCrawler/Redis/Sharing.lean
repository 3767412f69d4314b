import MultisiteCrawler.Metrics.Page
import MultisiteCrawler.Redis.Clients

/-!
# Sharing the Redis server

Every component is modelled on a store of its own.  Here they all run on the
one server, beside the task queues and whatever else uses it.  The server
refuses none of their commands, and every component finds exactly what it
would find on its own store, whatever the others do in between.
-/

namespace MultisiteCrawler.Redis

open Foundation.ExpiringStore
open Foundation.Interaction
open Foundation.Interaction.Program (Handler)
open Foundation.JsonText
open Foundation.PythonErrors
open Foundation.SharedServer
open MultisiteCrawler.Alerts
open MultisiteCrawler.Locking
open MultisiteCrawler.Metrics
open MultisiteCrawler.Scheduler (DispatchCallback)

/-! ## Commands -/

/-- What a lease asks of its store. -/
inductive LeaseCommand where
  | acquire (lease : RedisLease)
  | renew (lease : RedisLease)
  | release (lease : RedisLease)

/-- The lease which asks. -/
def LeaseCommand.lease : LeaseCommand → RedisLease
  | .acquire lease => lease
  | .renew lease => lease
  | .release lease => lease

/-- Anything done to a key which is not the crawler's own; it is read first. -/
structure OtherCommand (Time : Type) where
  key : String
  change : Time → Cell Time → Cell Time

section Commands

variable (Time : Type)

/-- The commands of a client. -/
abbrev Client.Command : Client → Type
  | .scheduler => StoreCommand String String String
  | .alerts => AlertCommand
  | .sessions => StoreCommand String String Empty
  | .circuits => StoreCommand String String Empty
  | .leases => LeaseCommand
  | .metrics => MetricsCommand
  | .others => OtherCommand Time

/-- What is replied to a command. -/
abbrev Client.Reply : (client : Client) → client.Command Time → Type
  | .scheduler => StoreCommand.Reply (Except PyError Unit)
  | .alerts => AlertCommand.Reply
  | .sessions => StoreCommand.Reply Empty
  | .circuits => StoreCommand.Reply Empty
  | .leases => fun _ => Bool
  | .metrics => MetricsCommand.Reply
  | .others => fun _ => Cell Time

/-- The store a client has in its own module. -/
abbrev Client.Own : Client → Type
  | .scheduler => StoreState String String String
  | .alerts => AlertStore
  | .sessions => StoreState String String Empty
  | .circuits => Store String String Time
  | .leases => Store String String Time
  | .metrics => MetricsRedis
  | .others => String → Cell Time

/-- A client of texts asks for its own keys. -/
def Client.AsksText (client : Client) {Event : Type} :
    StoreCommand String String Event → Prop
  | .get key => client.Owns key
  | .set key _ _ => client.Owns key
  | .emit _ => True

/-- A client of texts which do not expire asks for its own keys. -/
def Client.AsksPlainText (client : Client) {Event : Type} :
    StoreCommand String String Event → Prop
  | .get key => client.Owns key
  | .set key _ expiry => client.Owns key ∧ expiry = none
  | .emit _ => True

/-- The key of an alert command. -/
def alertCommandKey : AlertCommand → String
  | .get key => key
  | .set key _ => key

/-- A client asks for its own keys only. -/
def Client.Permitted : (client : Client) → client.Command Time → Prop
  | .scheduler, command => Client.scheduler.AsksPlainText command
  | .alerts, command => Client.alerts.Owns (alertCommandKey command)
  | .sessions, command => Client.sessions.AsksPlainText command
  | .circuits, command => Client.circuits.AsksText command
  | .leases, command => Client.leases.Owns command.lease.key
  | .metrics, .hincrby name _ _ => Client.metrics.Owns name ∧ name ≠ sourcesKey
  | .metrics, .hset name _ _ => Client.metrics.Owns name ∧ name ≠ sourcesKey
  | .metrics, .hgetall name => Client.metrics.Owns name ∧ name ≠ sourcesKey
  | .metrics, .sadd name _ => name = sourcesKey
  | .metrics, .smembers name => name = sourcesKey
  | .others, command => Client.others.Owns command.key

end Commands

section Stores

variable {Time : Type} [CommRing Time] [LinearOrder Time]

/-- The store of the leases. -/
def leaseHandler (now : Time) :
    Handler LeaseCommand (fun _ => Bool) (Store String String Time)
  | .acquire lease, store => lease.acquire now store
  | .renew lease, store => lease.renew now store
  | .release lease, store => lease.release now store

/-- The hashes and sets of the metrics, with the replies of Redis. -/
def metricsHandler :
    Handler MetricsCommand MetricsCommand.Reply MetricsRedis
  | .hincrby name key amount, store =>
      match incrementField key amount (store.hashes name) with
      | none => (.error responseError, store)
      | some (value, changed) =>
          (.ok value,
            { store with
              hashes := Function.update store.hashes name changed })
  | .hset name key value, store =>
      (.ok (newlyAdded (decide (key ∈ (store.hashes name).map Prod.fst))),
        { store with
          hashes :=
            Function.update store.hashes name
              (assign key value (store.hashes name)) })
  | .hgetall name, store => (.ok (store.hashes name), store)
  | .sadd name value, store =>
      (.ok (newlyAdded (decide (value ∈ store.sets name))),
        { store with
          sets :=
            Function.update store.sets name
              (addMember value (store.sets name)) })
  | .smembers name, store => (.ok (store.sets name), store)

/-- What a client's own store does with a command. -/
def ownHandler (answer : DispatchCallback) :
    (client : Client) → Time →
      Handler (client.Command Time) (client.Reply Time) (client.Own Time)
  | .scheduler, _ => storeHandler answer
  | .alerts, _ => reliable
  | .sessions, _ => BrowserSession.sessionHandler
  | .circuits, now => expiringHandler now
  | .leases, now => leaseHandler now
  | .metrics, _ => metricsHandler
  | .others, now => fun command cells =>
      (present now (cells command.key),
        Function.update cells command.key
          (command.change now (cells command.key)))

/-! ## The server as the clients' store -/

/-- A client which reads and writes texts. -/
def serveTexts {Event Answer : Type}
    (emit : Event → RedisWorld Time → Answer × RedisWorld Time) (now : Time) :
    (command : StoreCommand String String Event) → RedisWorld Time →
      Option (command.Reply Answer × RedisWorld Time)
  | .get key, world => request now (.get key) world
  | .set key value expiry, world => request now (.set key value expiry) world
  | .emit event, world => some (emit event world)

/-- The evaluator, whose commands may raise. -/
def serveAlerts (now : Time) :
    (command : AlertCommand) → RedisWorld Time →
      Option (command.Reply × RedisWorld Time)
  | .get key, world =>
      (request now (.get key) world).map fun done => (.ok done.1, done.2)
  | .set key value, world =>
      (request now (.set key value none) world).map fun done =>
        (.ok done.1, done.2)

/-- A lease, which acquires by `SET NX EX` and has a script for the rest. -/
def serveLeases (now : Time) :
    LeaseCommand → RedisWorld Time → Option (Bool × RedisWorld Time)
  | .acquire lease, world =>
      request now (.setIfAbsent lease.key lease.token lease.ttlSeconds) world
  | .renew lease, world =>
      request now (.renewScript lease.key lease.token lease.ttlSeconds) world
  | .release lease, world =>
      request now (.releaseScript lease.key lease.token) world

/-- The metrics client, whose commands may raise. -/
def serveMetrics (now : Time) :
    (command : MetricsCommand) → RedisWorld Time →
      Option (command.Reply × RedisWorld Time)
  | .hincrby name key amount, world =>
      request now (.hincrby name key amount) world
  | .hset name key value, world =>
      (request now (.hset name key value) world).map fun done =>
        (.ok done.1, done.2)
  | .hgetall name, world =>
      (request now (.hgetall name) world).map fun done =>
        (.ok done.1, done.2)
  | .sadd name value, world =>
      (request now (.sadd name value) world).map fun done =>
        (.ok done.1, done.2)
  | .smembers name, world =>
      (request now (.smembers name) world).map fun done =>
        (.ok done.1, done.2)

/-- What the server does with a command of a client. -/
def serve (answer : DispatchCallback) :
    (client : Client) → Time → (command : client.Command Time) →
      RedisWorld Time →
        Option (client.Reply Time command × RedisWorld Time)
  | .scheduler =>
      serveTexts fun sourceId world =>
        (answer world.dispatched sourceId,
          { world with dispatched := world.dispatched ++ [sourceId] })
  | .alerts => serveAlerts
  | .sessions => serveTexts fun event world => (event, world)
  | .circuits => serveTexts fun event world => (event, world)
  | .leases => serveLeases
  | .metrics => serveMetrics
  | .others => fun now command world =>
      some
        (present now (world.entries command.key),
          { world with
            entries :=
              Function.update world.entries command.key
                (command.change now (world.entries command.key)) })

/-! ## What the server holds for a client -/

/-- What the server holds at the keys of a client with this store. -/
def cells : (client : Client) → client.Own Time → String → Cell Time
  | .scheduler, store, key => plainCell (store.values key)
  | .alerts, store, key => plainCell (store key)
  | .sessions, store, key => plainCell (store.values key)
  | .circuits, store, key => textCell (store key)
  | .leases, store, key => textCell (store key)
  | .metrics, store, key =>
      if key = sourcesKey then setCell (store.sets key)
      else hashCell (store.hashes key)
  | .others, entries, key => entries key

/-- What a client has handed to the task queues, if it does. -/
def queued : (client : Client) → client.Own Time → Option (List String)
  | .scheduler, store => some store.events
  | _, _ => none

/-- The server holds the store of a client. -/
structure Holds (client : Client) (world : RedisWorld Time)
    (store : client.Own Time) : Prop where
  entries : ∀ key, client.Owns key →
    world.entries key = cells client store key
  dispatched : ∀ events ∈ queued client store, world.dispatched = events

variable {answer : DispatchCallback}
variable {client : Client} {now : Time} {world changed : RedisWorld Time}

/-- A request which does to a cell what the client's store does. -/
theorem Holds.request
    {store after : client.Own Time} (holds : Holds client world store)
    (command : RedisCommand) {reply : command.Reply} {cell : Cell Time}
    (owns : client.Owns command.key)
    (done :
      command.effect now (cells client store command.key) =
        some (reply, cell))
    (sameCells :
      cells client after =
        Function.update (cells client store) command.key cell)
    (sameQueue : queued client after = queued client store) :
    ∃ changed, request now command world = some (reply, changed) ∧
      Holds client changed after := by
  have found := holds.entries command.key owns
  refine
    ⟨_, request_eq_some_iff.mpr ⟨cell, by rw [found, done], rfl⟩, ?_, ?_⟩
  · intro key ownsKey
    rw [sameCells]
    show Function.update world.entries command.key cell key = _
    by_cases same : key = command.key
    · rw [same, Function.update_self, Function.update_self]
    · rw [Function.update_of_ne same, Function.update_of_ne same]
      exact holds.entries key ownsKey
  · rw [sameQueue]
    exact holds.dispatched

/-- A request which only reads. -/
theorem Holds.read
    {store : client.Own Time} (holds : Holds client world store)
    (command : RedisCommand) {reply : command.Reply}
    (owns : client.Owns command.key)
    (done :
      command.effect now (cells client store command.key) =
        some (reply, cells client store command.key)) :
    ∃ changed, Redis.request now command world = some (reply, changed) ∧
      Holds client changed store :=
  holds.request command owns done (Function.update_eq_self _ _).symm rfl

/-! ## The server answers as the clients' stores do -/

omit [CommRing Time] [LinearOrder Time] in
theorem plainCell_update
    (values : String → Option String) (key value : String) :
    (fun other =>
        (plainCell (Function.update values key (some value) other) :
          Cell Time)) =
      Function.update (fun other => plainCell (values other)) key
        (some ⟨.text value, none⟩) := by
  funext other
  by_cases same : other = key
  · subst same
    rw [Function.update_self, Function.update_self]
    rfl
  · rw [Function.update_of_ne same, Function.update_of_ne same]

omit [CommRing Time] [LinearOrder Time] in
theorem textCell_update
    (store : Store String String Time) (key : String)
    (entry : Option (Entry String Time)) :
    (fun other => textCell (Function.update store key entry other)) =
      Function.update (fun other => textCell (store other)) key
        (textCell entry) := by
  funext other
  by_cases same : other = key
  · subst same
    rw [Function.update_self, Function.update_self]
  · rw [Function.update_of_ne same, Function.update_of_ne same]

theorem effect_get_plainCell (now : Time) (key : String)
    (value : Option String) :
    (RedisCommand.get key).effect now (plainCell value) =
      some (value, plainCell value) := by
  rw [RedisCommand.effect, textOf_present_plainCell, Option.map_some]

theorem serve_scheduler
    (command : StoreCommand String String String)
    {store : StoreState String String String}
    (permitted : Client.scheduler.Permitted Time command)
    (holds : Holds .scheduler world store) :
    ∃ changed,
      serve answer .scheduler now command world =
          some ((storeHandler answer command store).1, changed) ∧
        Holds .scheduler changed (storeHandler answer command store).2 := by
  cases command with
  | get key =>
      exact
        holds.read (.get key) permitted (effect_get_plainCell now key _)
  | set key value expiry =>
      rcases permitted with ⟨owns, rfl⟩
      exact
        holds.request (.set key value none) owns rfl
          (plainCell_update _ _ _) rfl
  | emit sourceId =>
      have dispatched := holds.dispatched _ rfl
      refine
        ⟨{ world with dispatched := world.dispatched ++ [sourceId] }, ?_,
          holds.entries, ?_⟩
      · rw [storeHandler_emit, ← dispatched]
        rfl
      · rintro events ⟨⟩
        rw [storeHandler_emit, dispatched]

theorem serve_sessions
    (command : StoreCommand String String Empty)
    {store : StoreState String String Empty}
    (permitted : Client.sessions.Permitted Time command)
    (holds : Holds .sessions world store) :
    ∃ changed,
      serve answer .sessions now command world =
          some ((BrowserSession.sessionHandler command store).1, changed) ∧
        Holds .sessions changed
          (BrowserSession.sessionHandler command store).2 := by
  cases command with
  | get key =>
      exact
        holds.read (.get key) permitted (effect_get_plainCell now key _)
  | set key value expiry =>
      rcases permitted with ⟨owns, rfl⟩
      exact
        holds.request (.set key value none) owns rfl
          (plainCell_update _ _ _) rfl
  | emit event => cases event

theorem serve_alerts
    (command : AlertCommand) {store : AlertStore}
    (permitted : Client.alerts.Permitted Time command)
    (holds : Holds .alerts world store) :
    ∃ changed,
      serve answer .alerts now command world =
          some ((reliable command store).1, changed) ∧
        Holds .alerts changed (reliable command store).2 := by
  cases command with
  | get key =>
      rcases holds.read (.get key) permitted
        (effect_get_plainCell now key _) with ⟨changed, done, holdsAfter⟩
      exact ⟨changed, by rw [serve, serveAlerts, done]; rfl, holdsAfter⟩
  | set key value =>
      rcases holds.request (.set key value none) permitted rfl
        (plainCell_update store key value) rfl with
        ⟨changed, done, holdsAfter⟩
      exact ⟨changed, by rw [serve, serveAlerts, done]; rfl, holdsAfter⟩

theorem effect_get_textCell
    (now : Time) (key : String) (store : Store String String Time) :
    (RedisCommand.get key).effect now (textCell (store key)) =
      some (read now key store, textCell (store key)) := by
  rw [RedisCommand.effect, textOf_present, Option.map_some]

theorem serve_circuits
    (command : StoreCommand String String Empty)
    {store : Store String String Time}
    (permitted : Client.circuits.Permitted Time command)
    (holds : Holds .circuits world store) :
    ∃ changed,
      serve answer .circuits now command world =
          some ((expiringHandler now command store).1, changed) ∧
        Holds .circuits changed (expiringHandler now command store).2 := by
  cases command with
  | get key =>
      exact
        holds.read (.get key) permitted (effect_get_textCell now key store)
  | set key value expiry =>
      exact
        holds.request (.set key value expiry) permitted rfl
          (textCell_update store key
            (some ⟨value, expiry.map fun seconds => now + seconds⟩))
          rfl
  | emit event => cases event

theorem serve_leases
    (command : LeaseCommand) {store : Store String String Time}
    (permitted : Client.leases.Permitted Time command)
    (holds : Holds .leases world store) :
    ∃ changed,
      serve answer .leases now command world =
          some ((leaseHandler now command store).1, changed) ∧
        Holds .leases changed (leaseHandler now command store).2 := by
  cases command with
  | acquire lease =>
      cases isRead : read now lease.key store with
      | some held =>
          rcases present_textCell_of_read isRead with
            ⟨isPresent, deadline, isStored⟩
          have effect :
              (RedisCommand.setIfAbsent lease.key lease.token
                  lease.ttlSeconds).effect now (textCell (store lease.key)) =
                some (false, textCell (store lease.key)) := by
            rw [RedisCommand.effect, isPresent, isStored]
            rfl
          rw [leaseHandler, RedisLease.acquire, setIfAbsent_of_present isRead]
          exact
            holds.read (.setIfAbsent lease.key lease.token lease.ttlSeconds)
              permitted effect
      | none =>
          have effect :
              (RedisCommand.setIfAbsent lease.key lease.token
                  lease.ttlSeconds).effect now (textCell (store lease.key)) =
                some
                  (true,
                    some ⟨.text lease.token,
                      some (now + lease.ttlSeconds)⟩) := by
            rw [RedisCommand.effect, present_textCell_of_absent isRead]
          rw [leaseHandler, RedisLease.acquire, setIfAbsent_of_absent isRead]
          exact
            holds.request (.setIfAbsent lease.key lease.token
              lease.ttlSeconds) permitted effect
              (textCell_update store lease.key
                (some ⟨lease.token, some (now + lease.ttlSeconds)⟩))
              rfl
  | renew lease =>
      have effect :
          (RedisCommand.renewScript lease.key lease.token
              lease.ttlSeconds).effect now (textCell (store lease.key)) =
            some
              (if read now lease.key store = some lease.token then
                (true,
                  some ⟨.text lease.token,
                    some (now + lease.ttlSeconds)⟩)
              else (false, textCell (store lease.key))) := by
        rw [RedisCommand.effect, textOf_present, Option.map_some]
      by_cases owns : read now lease.key store = some lease.token
      · rw [if_pos owns] at effect
        rw [leaseHandler, RedisLease.renew, compareExpire, if_pos owns]
        exact
          holds.request (.renewScript lease.key lease.token
            lease.ttlSeconds) permitted effect
            (textCell_update store lease.key
              (some ⟨lease.token, some (now + lease.ttlSeconds)⟩))
            rfl
      · rw [if_neg owns] at effect
        rw [leaseHandler, RedisLease.renew, compareExpire_of_ne owns]
        exact
          holds.read (.renewScript lease.key lease.token lease.ttlSeconds)
            permitted effect
  | release lease =>
      have effect :
          (RedisCommand.releaseScript lease.key lease.token).effect now
              (textCell (store lease.key)) =
            some
              (if read now lease.key store = some lease.token then
                (true, none)
              else (false, textCell (store lease.key))) := by
        rw [RedisCommand.effect, textOf_present, Option.map_some]
      by_cases owns : read now lease.key store = some lease.token
      · rw [if_pos owns] at effect
        rw [leaseHandler, RedisLease.release, compareDelete, if_pos owns]
        exact
          holds.request (.releaseScript lease.key lease.token) permitted
            effect (textCell_update store lease.key none) rfl
      · rw [if_neg owns] at effect
        rw [leaseHandler, RedisLease.release, compareDelete_of_ne owns]
        exact
          holds.read (.releaseScript lease.key lease.token) permitted effect

omit [CommRing Time] [LinearOrder Time] in
/-- The cells of the metrics after a hash is written. -/
theorem cells_metrics_hash
    (store : MetricsRedis) {name : String} (isHash : name ≠ sourcesKey)
    (fields : List (String × String)) :
    (cells .metrics
        { store with hashes := Function.update store.hashes name fields } :
        String → Cell Time) =
      Function.update (cells .metrics store) name (hashCell fields) := by
  funext key
  by_cases same : key = name
  · subst same
    rw [Function.update_self, cells, if_neg isHash]
    show hashCell (Function.update store.hashes key fields key) = _
    rw [Function.update_self]
  · rw [Function.update_of_ne same, cells, cells]
    show (if key = sourcesKey then _
      else hashCell (Function.update store.hashes name fields key)) = _
    rw [Function.update_of_ne same]

omit [CommRing Time] [LinearOrder Time] in
/-- The cells of the metrics after the set of sources is written. -/
theorem cells_metrics_set
    (store : MetricsRedis) (members : List String) :
    (cells .metrics
        { store with
          sets := Function.update store.sets sourcesKey members } :
        String → Cell Time) =
      Function.update (cells .metrics store) sourcesKey
        (setCell members) := by
  funext key
  by_cases same : key = sourcesKey
  · subst same
    rw [Function.update_self, cells, if_pos rfl]
    show setCell (Function.update store.sets sourcesKey members sourcesKey) =
      setCell members
    rw [Function.update_self]
  · rw [Function.update_of_ne same, cells, cells, if_neg same, if_neg same]

theorem serve_metrics
    (command : MetricsCommand) {store : MetricsRedis}
    (permitted : Client.metrics.Permitted Time command)
    (holds : Holds .metrics world store) :
    ∃ changed,
      serve answer .metrics now command world =
          some ((metricsHandler command store).1, changed) ∧
        Holds .metrics changed (metricsHandler command store).2 := by
  have hashOf : ∀ {name}, name ≠ sourcesKey →
      cells .metrics store name =
        (hashCell (store.hashes name) : Cell Time) := by
    intro name isHash
    rw [cells, if_neg isHash]
  have setOf :
      cells .metrics store sourcesKey =
        (setCell (store.sets sourcesKey) : Cell Time) := by
    rw [cells, if_pos rfl]
  cases command with
  | hincrby name field amount =>
      rcases permitted with ⟨owns, isHash⟩
      cases counted : incrementField field amount (store.hashes name) with
      | none =>
          have effect := effect_hincrby_refused now name counted
          rw [← hashOf isHash] at effect
          rw [metricsHandler, counted]
          exact holds.read (.hincrby name field amount) owns effect
      | some done =>
          rcases done with ⟨value, changed⟩
          have effect := effect_hincrby now name counted
          rw [← hashOf isHash] at effect
          rw [metricsHandler, counted]
          exact
            holds.request (.hincrby name field amount) owns effect
              (cells_metrics_hash store isHash _) rfl
  | hset name field value =>
      rcases permitted with ⟨owns, isHash⟩
      have effect := effect_hset now name field value (store.hashes name)
      rw [← hashOf isHash] at effect
      rcases holds.request (.hset name field value) owns effect
        (cells_metrics_hash store isHash _) rfl with
        ⟨changed, done, holdsAfter⟩
      exact ⟨changed, by rw [serve, serveMetrics, done]; rfl, holdsAfter⟩
  | hgetall name =>
      rcases permitted with ⟨owns, isHash⟩
      have effect := effect_hgetall now name (store.hashes name)
      rw [← hashOf isHash] at effect
      rcases holds.read (.hgetall name) owns effect with
        ⟨changed, done, holdsAfter⟩
      exact ⟨changed, by rw [serve, serveMetrics, done]; rfl, holdsAfter⟩
  | sadd name member =>
      cases permitted
      have effect := effect_sadd now sourcesKey member (store.sets sourcesKey)
      rw [← setOf] at effect
      rcases holds.request (.sadd sourcesKey member)
        Client.metrics_owns_sources effect (cells_metrics_set store _) rfl
        with ⟨changed, done, holdsAfter⟩
      exact ⟨changed, by rw [serve, serveMetrics, done]; rfl, holdsAfter⟩
  | smembers name =>
      cases permitted
      have effect := effect_smembers now sourcesKey (store.sets sourcesKey)
      rw [← setOf] at effect
      rcases holds.read (.smembers sourcesKey) Client.metrics_owns_sources
        effect with ⟨changed, done, holdsAfter⟩
      exact ⟨changed, by rw [serve, serveMetrics, done]; rfl, holdsAfter⟩

theorem serve_others
    (command : OtherCommand Time) {store : String → Cell Time}
    (permitted : Client.others.Owns command.key)
    (holds : Holds .others world store) :
    ∃ changed,
      serve answer .others now command world =
          some ((ownHandler answer .others now command store).1, changed) ∧
        Holds .others changed
          (ownHandler answer .others now command store).2 := by
  have found : world.entries command.key = store command.key :=
    holds.entries command.key permitted
  refine
    ⟨{ world with
        entries :=
          Function.update world.entries command.key
            (command.change now (store command.key)) }, ?_, ?_, ?_⟩
  · show some (present now (world.entries command.key), _) =
      some (present now (store command.key), _)
    rw [found]
  · intro key owns
    show Function.update world.entries command.key _ key =
      Function.update store command.key _ key
    by_cases same : key = command.key
    · rw [same, Function.update_self, Function.update_self]
    · rw [Function.update_of_ne same, Function.update_of_ne same]
      exact holds.entries key owns
  · intro events isQueued
    cases isQueued

/-! ## A command leaves the others alone -/

/-- Nothing but keys of the client, and maybe the task queues, is changed. -/
structure Spares (client : Client) (world changed : RedisWorld Time) :
    Prop where
  entries : ∀ key, ¬ client.Owns key →
    changed.entries key = world.entries key
  dispatched : client ≠ .scheduler → changed.dispatched = world.dispatched

theorem spares_of_request
    (command : RedisCommand) {reply : command.Reply}
    (owns : client.Owns command.key)
    (done : request now command world = some (reply, changed)) :
    Spares client world changed where
  entries key notOwned := by
    apply entries_of_request done
    rintro rfl
    exact notOwned owns
  dispatched _ := dispatched_of_request done

theorem spares_of_map_request
    (command : RedisCommand) {Answer : Type}
    {convert : command.Reply → Answer} {reply : Answer}
    (owns : client.Owns command.key)
    (done :
      ((request now command world).map fun done =>
        (convert done.1, done.2)) = some (reply, changed)) :
    Spares client world changed := by
  rcases Option.map_eq_some_iff.mp done with ⟨⟨_, _⟩, isDone, same⟩
  cases same
  exact spares_of_request command owns isDone

theorem spares_of_serve
    (command : client.Command Time) {reply : client.Reply Time command}
    (permitted : client.Permitted Time command)
    (done :
      serve answer client now command world = some (reply, changed)) :
    Spares client world changed := by
  cases client with
  | scheduler =>
      cases command with
      | get key => exact spares_of_request (.get key) permitted done
      | set key value expiry =>
          exact spares_of_request (.set key value expiry) permitted.1 done
      | emit sourceId =>
          cases done
          exact ⟨fun _ _ => rfl, fun notScheduler => absurd rfl notScheduler⟩
  | alerts =>
      cases command with
      | get key => exact spares_of_map_request (.get key) permitted done
      | set key value =>
          exact spares_of_map_request (.set key value none) permitted done
  | sessions =>
      cases command with
      | get key => exact spares_of_request (.get key) permitted done
      | set key value expiry =>
          exact spares_of_request (.set key value expiry) permitted.1 done
      | emit event => cases event
  | circuits =>
      cases command with
      | get key => exact spares_of_request (.get key) permitted done
      | set key value expiry =>
          exact spares_of_request (.set key value expiry) permitted done
      | emit event => cases event
  | leases =>
      cases command with
      | acquire lease =>
          exact
            spares_of_request
              (.setIfAbsent lease.key lease.token lease.ttlSeconds) permitted
              done
      | renew lease =>
          exact
            spares_of_request
              (.renewScript lease.key lease.token lease.ttlSeconds) permitted
              done
      | release lease =>
          exact
            spares_of_request (.releaseScript lease.key lease.token)
              permitted done
  | metrics =>
      cases command with
      | hincrby name field amount =>
          exact
            spares_of_request (.hincrby name field amount) permitted.1 done
      | hset name field value =>
          exact
            spares_of_map_request (.hset name field value) permitted.1 done
      | hgetall name =>
          exact spares_of_map_request (.hgetall name) permitted.1 done
      | sadd name member =>
          have isSources : name = sourcesKey := permitted
          subst isSources
          exact
            spares_of_map_request (.sadd sourcesKey member)
              Client.metrics_owns_sources done
      | smembers name =>
          have isSources : name = sourcesKey := permitted
          subst isSources
          exact
            spares_of_map_request (.smembers sourcesKey)
              Client.metrics_owns_sources done
  | others =>
      cases done
      constructor
      · intro key notOwned
        apply Function.update_of_ne
        rintro rfl
        exact notOwned permitted
      · intro _
        rfl

omit [CommRing Time] [LinearOrder Time] in
/-- What is spared is still held. -/
theorem Spares.holds
    (spares : Spares client world changed) {other : Client}
    (different : other ≠ client) {store : other.Own Time}
    (holds : Holds other world store) : Holds other changed store where
  entries key owns := by
    rw [spares.entries key fun alsoOwns => different (owns.unique alsoOwns)]
    exact holds.entries key owns
  dispatched events isQueued := by
    have isScheduler : other = .scheduler := by
      cases other with
      | scheduler => rfl
      | _ => cases isQueued
    rw [spares.dispatched fun same => different (isScheduler.trans same.symm)]
    exact holds.dispatched events isQueued

/-! ## All clients together -/

/-- The clients of the crawler's server. -/
def crawlerClients (answer : DispatchCallback) :
    Clients Client Time (RedisWorld Time) where
  Command client := client.Command Time
  Reply client := client.Reply Time
  Own client := client.Own Time
  serve := serve answer
  own := ownHandler answer
  Permitted client := client.Permitted Time
  Holds := Holds
  serve_own client now command world store permitted holds := by
    cases client with
    | scheduler => exact serve_scheduler command permitted holds
    | alerts => exact serve_alerts command permitted holds
    | sessions => exact serve_sessions command permitted holds
    | circuits => exact serve_circuits command permitted holds
    | leases => exact serve_leases command permitted holds
    | metrics => exact serve_metrics command permitted holds
    | others => exact serve_others command permitted holds
  serve_frame client now command world reply changed permitted done other
      different store holds :=
    (spares_of_serve command permitted done).holds different holds

end Stores

end MultisiteCrawler.Redis
