import Keyspace.Entry

namespace Keyspace

/-- Entries whose expiry has passed may still be held. -/
abbrev Store := Table Entry

namespace Store

def isLive (now : Int) (e : Entry) : Bool := !e.isExpired now

/-- The entry under a key, if it is live. -/
def lookup (s : Store) (k : String) (now : Int) : Option Entry := (s.get? k).filter (isLive now)

theorem lookup_eq_some_iff {s : Store} {k : String} {now : Int} {e : Entry} :
    lookup s k now = some e ↔ s.get? k = some e ∧ e.isExpired now = false := by
  simp [lookup, isLive, Option.filter_eq_some_iff]

def holds (s : Store) (now : Int) (k : String) : Bool := (lookup s k now).isSome

def expiredKeys (s : Store) (now : Int) : List String :=
  (s.entries.filter fun p => p.2.isExpired now).map Prod.fst

def liveKeys (s : Store) (now : Int) : List String :=
  (s.entries.filter fun p => isLive now p.2).map Prod.fst

/-- The same keys with entries that agree, whatever the order. -/
def agrees (a b : Store) : Bool := Table.agrees Entry.agrees a b

structure Census where
  total : Nat
  expired : Nat
  active : Nat
  volatile : Nat
  ofKind : Kind → Nat

/-- Only live entries count as volatile or under their kind. -/
def census (s : Store) (now : Int) : Census :=
  let held := s.entries.map Prod.snd
  let expired := held.countP fun e => e.isExpired now
  { total := s.size
    expired := expired
    active := s.size - expired
    volatile := held.countP fun e => isLive now e && e.isVolatile
    ofKind := fun k => held.countP fun e => isLive now e && e.kind == k }

/-- The store without what has expired; none if nothing has. -/
def sweep (s : Store) (now : Int) : Option Store :=
  match expiredKeys s now with
  | [] => none
  | ks => some (s.eraseAll ks)

def swept (s : Store) (now : Int) : Store := (sweep s now).getD s

theorem nodup_expiredKeys (s : Store) (now : Int) : (expiredKeys s now).Nodup :=
  (List.filter_sublist.map Prod.fst).nodup s.nodup_names

theorem swept_eq_eraseAll (s : Store) (now : Int) :
    swept s now = s.eraseAll (expiredKeys s now) := by
  unfold swept sweep
  split
  · next h => rw [h, Table.eraseAll_nil, Option.getD_none]
  · rfl

/-- The removal that a sweep comes down to never fails: no key is given to it twice. -/
theorem remove_expiredKeys (s : Store) (now : Int) :
    s.remove (expiredKeys s now) = .ok (swept s now) := by
  rw [Table.remove_eq_ok s (nodup_expiredKeys s now), swept_eq_eraseAll]

end Store

end Keyspace
