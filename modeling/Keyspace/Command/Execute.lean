import Keyspace.Command.Texts
import Keyspace.Command.Keys
import Keyspace.Command.Expiry
import Keyspace.Command.Report
import Keyspace.Command.Lists
import Keyspace.Command.Sets
import Keyspace.Command.Hashes

namespace Keyspace

def Command.run (c : Command) (s : Store) (now : Int) : Except Failure Outcome :=
  match c with
  | .set key value lifetime => .ok (s.setText key value lifetime now)
  | .get key => s.getText key now
  | .del ks => .ok (Store.del s ks now)
  | .existing ks => .ok (s.countLive ks now)
  | .expire key seconds => .ok (Store.expire s key seconds now)
  | .ttl key => .ok (Store.ttl s key now)
  | .persist key => .ok (Store.persist s key now)
  | .lpush key values => s.pushFront key values now
  | .rpush key values => s.pushBack key values now
  | .lpop key => s.popFront key now
  | .lrange key start stop => Store.range s key start stop now
  | .sadd key members => s.addMembers key members now
  | .smembers key => s.listMembers key now
  | .sismember key member => s.hasMember key member now
  | .hset key fields => s.setFields key fields now
  | .hget key field => s.getField key field now
  | .hgetall key => s.allFields key now
  | .keys pattern => .ok (s.matchingKeys pattern now)
  | .info topic => .ok (Store.info s topic now)
  | .flushall => .ok s.flush

/-- A numeral with more digits than are read. -/
structure NumeralTooLong where
  digits : Nat
  deriving DecidableEq

def NumeralTooLong.message (e : NumeralTooLong) : String := Numeral.tooLongMessage e.digits

/-- The outcome of a command; a failure leaves the store as it is. -/
def Command.outcome (c : Command) (s : Store) (now : Int) : Outcome :=
  match c.run s now with
  | .ok o => o
  | .error why => .ofFailure why

/-- Ends without an outcome only at a numeral that is too long, which the line alone decides. -/
def execute (limits : Limits) (line : String) (s : Store) (now : Int) :
    Except NumeralTooLong Outcome :=
  match Command.ofLine limits line with
  | .error (.numeralTooLong digits) => .error ⟨digits⟩
  | .error (.failed why) => .ok (.ofFailure why)
  | .ok c => .ok (c.outcome s now)

section Execute

variable {limits : Limits} {line : String} {s : Store} {now : Int} {c : Command} {o : Outcome}

theorem execute_of_ofLine (h : Command.ofLine limits line = .ok c) :
    execute limits line s now = .ok (c.outcome s now) := by
  rw [execute, h]

theorem execute_eq_error_iff {digits : Nat} :
    execute limits line s now = .error ⟨digits⟩ ↔
      Command.ofLine limits line = .error (.numeralTooLong digits) := by
  unfold execute
  split
  · next hline => simp [hline]
  · next hline => simp [hline]
  · next hline => simp [hline]

theorem outcome_cases (h : execute limits line s now = .ok o) :
    (∃ why, Command.ofLine limits line = .error (.failed why) ∧ o = .ofFailure why) ∨
      ∃ c, Command.ofLine limits line = .ok c ∧ o = c.outcome s now := by
  unfold execute at h
  split at h
  · cases h
  · next why hwhy =>
    cases h
    exact Or.inl ⟨why, hwhy, rfl⟩
  · next c hc =>
    cases h
    exact Or.inr ⟨c, hc, rfl⟩

end Execute

end Keyspace
