import MultisiteCrawler.Foundation.ExpiringStore
import MultisiteCrawler.Metrics.Store

/-!
# The Redis server of a crawler

All processes are given one `REDIS_URL`.  A key holds a text, a hash, a set or
a list, possibly with a deadline.  A command names one key and does something
to what is held there; one which is made for another type of value is refused
with `WRONGTYPE`.  Counters are signed integers of 64 bits, and `HINCRBY`
raises where one would not be.
-/

namespace MultisiteCrawler.Redis

open Foundation.ExpiringStore
open Foundation.JsonText
open Foundation.PythonErrors
open MultisiteCrawler.Metrics

/-- What a key may hold. -/
inductive RedisValue where
  | text (value : String)
  | hash (fields : List (String × String))
  | set (members : List String)
  | list (elements : List String)
deriving DecidableEq

/-- What a key holds, if anything. -/
abbrev Cell (Time : Type) := Option (Entry RedisValue Time)

/-- The commands the crawler makes, its scripts among them. -/
inductive RedisCommand where
  | get (key : String)
  | set (key value : String) (expiry : Option ℕ)
  | setIfAbsent (key value : String) (ttlSeconds : ℤ)
  | renewScript (key token : String) (ttlSeconds : ℤ)
  | releaseScript (key token : String)
  | hincrby (key field : String) (amount : ℤ)
  | hset (key field value : String)
  | hgetall (key : String)
  | sadd (key member : String)
  | smembers (key : String)
  | llen (key : String)

namespace RedisCommand

/-- What is replied to a command which is not refused. -/
abbrev Reply : RedisCommand → Type
  | .get _ => Option String
  | .set _ _ _ => Unit
  | .setIfAbsent _ _ _ => Bool
  | .renewScript _ _ _ => Bool
  | .releaseScript _ _ => Bool
  | .hincrby _ _ _ => Except PyError ℤ
  | .hset _ _ _ => ℤ
  | .hgetall _ => List (String × String)
  | .sadd _ _ => ℤ
  | .smembers _ => List String
  | .llen _ => ℕ

/-- The key a command names. -/
def key : RedisCommand → String
  | .get key => key
  | .set key _ _ => key
  | .setIfAbsent key _ _ => key
  | .renewScript key _ _ => key
  | .releaseScript key _ => key
  | .hincrby key _ _ => key
  | .hset key _ _ => key
  | .hgetall key => key
  | .sadd key _ => key
  | .smembers key => key
  | .llen key => key

end RedisCommand

section Values

variable {Time : Type}

/-- The entry which is still present. -/
def present [LinearOrder Time] (now : Time) : Cell Time → Cell Time
  | none => none
  | some entry => if entry.Live now then some entry else none

/-- `GET` for a text, if nothing else is held. -/
def textOf : Cell Time → Option (Option String)
  | none => some none
  | some ⟨.text value, _⟩ => some (some value)
  | some _ => none

/-- The fields of a hash, if nothing else is held. -/
def fieldsOf : Cell Time → Option (List (String × String))
  | none => some []
  | some ⟨.hash fields, _⟩ => some fields
  | some _ => none

/-- The members of a set, if nothing else is held. -/
def membersOf : Cell Time → Option (List String)
  | none => some []
  | some ⟨.set members, _⟩ => some members
  | some _ => none

/-- The elements of a list, if nothing else is held. -/
def elementsOf : Cell Time → Option (List String)
  | none => some []
  | some ⟨.list elements, _⟩ => some elements
  | some _ => none

/-- The value changed, with the deadline it has. -/
def Cell.withValue (cell : Cell Time) (value : RedisValue) : Cell Time :=
  some ⟨value, cell.bind Entry.deadline⟩

/-- How many of one member are new. -/
def newlyAdded (isThere : Bool) : ℤ :=
  if isThere then 0 else 1

end Values

/-- `redis.exceptions.ResponseError`. -/
def responseError : PyError :=
  .library (.other "ResponseError")

/-- The integer is a signed one of 64 bits. -/
def isSigned64 (value : ℤ) : Bool :=
  decide (-2 ^ 63 ≤ value) && decide (value < 2 ^ 63)

/-- A field after `HINCRBY`, and the hash; nothing if it raises. -/
def incrementField (field : String) (amount : ℤ)
    (fields : List (String × String)) :
    Option (ℤ × List (String × String)) :=
  match readCounter (fieldText field fields) with
  | none => none
  | some current =>
      if [amount, current, current + amount].all isSigned64 then
        some
          (current + amount,
            assign field (integerText (current + amount)) fields)
      else none

section Effects

variable {Time : Type} [CommRing Time] [LinearOrder Time]

/-- What a command replies and leaves at its key, unless it is refused. -/
def RedisCommand.effect (now : Time) (cell : Cell Time) :
    (command : RedisCommand) → Option (command.Reply × Cell Time)
  | .get _ => (textOf (present now cell)).map fun value => (value, cell)
  | .set _ value expiry =>
      some ((), some ⟨.text value, expiry.map fun seconds => now + seconds⟩)
  | .setIfAbsent _ value ttlSeconds =>
      match present now cell with
      | some _ => some (false, cell)
      | none => some (true, some ⟨.text value, some (now + ttlSeconds)⟩)
  | .renewScript _ token ttlSeconds =>
      (textOf (present now cell)).map fun value =>
        if value = some token then
          (true, some ⟨.text token, some (now + ttlSeconds)⟩)
        else (false, cell)
  | .releaseScript _ token =>
      (textOf (present now cell)).map fun value =>
        if value = some token then (true, none) else (false, cell)
  | .hincrby _ field amount =>
      (fieldsOf (present now cell)).map fun fields =>
        match incrementField field amount fields with
        | none => (.error responseError, cell)
        | some (value, changed) =>
            (.ok value, (present now cell).withValue (.hash changed))
  | .hset _ field value =>
      (fieldsOf (present now cell)).map fun fields =>
        (newlyAdded (decide (field ∈ fields.map Prod.fst)),
          (present now cell).withValue (.hash (assign field value fields)))
  | .hgetall _ =>
      (fieldsOf (present now cell)).map fun fields => (fields, cell)
  | .sadd _ member =>
      (membersOf (present now cell)).map fun members =>
        (newlyAdded (decide (member ∈ members)),
          (present now cell).withValue (.set (addMember member members)))
  | .smembers _ =>
      (membersOf (present now cell)).map fun members => (members, cell)
  | .llen _ =>
      (elementsOf (present now cell)).map fun elements =>
        (elements.length, cell)

/-- The entries of a server, and what was handed to the task queues. -/
structure RedisWorld (Time : Type) where
  entries : String → Cell Time
  dispatched : List String

/-- What the server does with a command. -/
def request (now : Time) (command : RedisCommand) (world : RedisWorld Time) :
    Option (command.Reply × RedisWorld Time) :=
  (command.effect now (world.entries command.key)).map fun result =>
    (result.1,
      { world with
        entries := Function.update world.entries command.key result.2 })

/-- What a command which is not refused has done. -/
theorem request_eq_some_iff
    {now : Time} {command : RedisCommand} {world after : RedisWorld Time}
    {reply : command.Reply} :
    request now command world = some (reply, after) ↔
      ∃ cell,
        command.effect now (world.entries command.key) =
            some (reply, cell) ∧
          { world with
            entries := Function.update world.entries command.key cell } =
            after := by
  unfold request
  constructor
  · intro done
    rcases Option.map_eq_some_iff.mp done with ⟨⟨answer, cell⟩, isDone, same⟩
    rcases Prod.mk.inj same with ⟨rfl, rfl⟩
    exact ⟨cell, isDone, rfl⟩
  · rintro ⟨cell, isDone, rfl⟩
    rw [isDone]
    rfl

/-- A command changes nothing but what is held at its key. -/
theorem entries_of_request
    {now : Time} {command : RedisCommand} {world after : RedisWorld Time}
    {reply : command.Reply}
    (done : request now command world = some (reply, after))
    {key : String} (different : key ≠ command.key) :
    after.entries key = world.entries key := by
  rcases request_eq_some_iff.mp done with ⟨cell, _, rfl⟩
  exact Function.update_of_ne different _ _

theorem dispatched_of_request
    {now : Time} {command : RedisCommand} {world after : RedisWorld Time}
    {reply : command.Reply}
    (done : request now command world = some (reply, after)) :
    after.dispatched = world.dispatched := by
  rcases request_eq_some_iff.mp done with ⟨cell, _, rfl⟩
  rfl

end Effects

end MultisiteCrawler.Redis
