import Keyspace.Command.Request
import Keyspace.Failure
import Keyspace.Numeral

namespace Keyspace

/-- How long a text is kept. -/
structure Lifetime where
  milliseconds : Int
  positive : 0 < milliseconds

inductive Command where
  | set (key value : String) (lifetime : Option Lifetime)
  | get (key : String)
  | del (keys : List String)
  | existing (keys : List String)
  | expire (key : String) (seconds : Int)
  | ttl (key : String)
  | persist (key : String)
  | lpush (key : String) (values : List String)
  | rpush (key : String) (values : List String)
  | lpop (key : String)
  | lrange (key : String) (start stop : Int)
  | sadd (key : String) (members : List String)
  | smembers (key : String)
  | sismember (key member : String)
  | hset (key : String) (fields : List (String × String))
  | hget (key field : String)
  | hgetall (key : String)
  | keys (pattern : String)
  | info (topic : Option String)
  | flushall

/-- Why a line gives no command: a failure that is replied, or a numeral with so many digits
that it is not read at all. -/
inductive Refusal where
  | failed (why : Failure)
  | numeralTooLong (digits : Nat)
  deriving DecidableEq

namespace Command

def integer (word : String) : Except Refusal Int :=
  match Numeral.read word with
  | .value n => .ok n
  | .tooLong digits => .error (.numeralTooLong digits)
  | .malformed => .error (.failed .notInteger)

inductive Scale where
  | seconds
  | milliseconds
  deriving DecidableEq

def Scale.factor : Scale → Int
  | seconds => 1000
  | milliseconds => 1

theorem Scale.factor_pos (u : Scale) : 0 < u.factor := by
  cases u <;> decide

def scale? (option : String) : Option Scale :=
  if Text.upper option = "EX" then some .seconds
  else if Text.upper option = "PX" then some .milliseconds
  else none

/-- The amount is read before the option is looked at. -/
def lifetime (option amount : String) : Except Refusal Lifetime :=
  match integer amount with
  | .error refusal => .error refusal
  | .ok n =>
    match scale? option with
    | none => .error (.failed .malformed)
    | some u =>
      if h : 0 < n then .ok ⟨n * u.factor, Int.mul_pos h u.factor_pos⟩
      else .error (.failed .invalidLifetime)

def pairs? : List String → Option (List (String × String))
  | [] => some []
  | [_] => none
  | field :: value :: rest => (pairs? rest).map ((field, value) :: ·)

def wrongArity (v : Verb) : Except Refusal Command := .error (.failed (.wrongArity v.spelling))

def ofArguments : Verb → List String → Except Refusal Command
  | .set, [key, value] => .ok (set key value none)
  | .set, [_, _, _] => .error (.failed .malformed)
  | .set, [key, value, option, amount] =>
    (lifetime option amount).map fun t => set key value (some t)
  | .get, [key] => .ok (get key)
  | .del, ks => .ok (del ks)
  | .existing, ks => .ok (existing ks)
  | .expire, [key, seconds] => (integer seconds).map fun n => expire key n
  | .ttl, [key] => .ok (ttl key)
  | .persist, [key] => .ok (persist key)
  | .lpush, key :: values => .ok (lpush key values)
  | .rpush, key :: values => .ok (rpush key values)
  | .lpop, [key] => .ok (lpop key)
  | .lrange, [key, start, stop] =>
    match integer start with
    | .error refusal => .error refusal
    | .ok i => (integer stop).map fun j => lrange key i j
  | .sadd, key :: members => .ok (sadd key members)
  | .smembers, [key] => .ok (smembers key)
  | .sismember, [key, member] => .ok (sismember key member)
  | .hset, key :: rest =>
    match pairs? rest with
    | some fields => .ok (hset key fields)
    | none => wrongArity .hset
  | .hget, [key, field] => .ok (hget key field)
  | .hgetall, [key] => .ok (hgetall key)
  | .keys, [pattern] => .ok (keys pattern)
  | .info, [] => .ok (info none)
  | .info, [topic] => .ok (info (some topic))
  | .flushall, [] => .ok flushall
  | v, _ => wrongArity v

/-- The name is looked at first, then the number of arguments, then their lengths. -/
def ofRequest (limits : Limits) (r : Request) : Except Refusal Command :=
  if r.name = "" then .error (.failed .emptyLine)
  else
    match r.verb with
    | none => .error (.failed (.unknownCommand r.name))
    | some v =>
      if v.arity.admits r.arguments.length = false then .error (.failed (.wrongArity r.name))
      else if limits.allow r.arguments = false then .error (.failed .argumentTooLong)
      else ofArguments v r.arguments

def ofLine (limits : Limits) (line : String) : Except Refusal Command :=
  ofRequest limits (Request.ofLine line)

end Command

end Keyspace
