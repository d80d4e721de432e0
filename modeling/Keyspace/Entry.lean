import Keyspace.Table
import Keyspace.MemberSet

namespace Keyspace

inductive Kind where
  | string
  | list
  | set
  | hash
  deriving DecidableEq

inductive Payload where
  | string (text : String)
  | list (items : List String)
  | set (members : MemberSet)
  | hash (fields : Table String)

namespace Payload

def kind : Payload → Kind
  | string _ => .string
  | list _ => .list
  | set _ => .set
  | hash _ => .hash

def string? : Payload → Option String
  | string text => some text
  | _ => none

def list? : Payload → Option (List String)
  | list items => some items
  | _ => none

def set? : Payload → Option MemberSet
  | set members => some members
  | _ => none

def hash? : Payload → Option (Table String)
  | hash fields => some fields
  | _ => none

/-- The same kind and the same content; the order of the fields of a hash does not count. -/
def agrees : Payload → Payload → Bool
  | string a, string b => a == b
  | list a, list b => a == b
  | set a, set b => a == b
  | hash a, hash b => a.agrees (· == ·) b
  | _, _ => false

end Payload

/-- Expires at an instant in milliseconds since the epoch, or is kept for good. -/
structure Entry where
  payload : Payload
  expiresAt : Option Int := none

namespace Entry

def kind (e : Entry) : Kind := e.payload.kind

/-- An entry is gone from its instant of expiry on. -/
def isExpired (e : Entry) (now : Int) : Bool :=
  match e.expiresAt with
  | some t => t ≤ now
  | none => false

def isVolatile (e : Entry) : Bool := e.expiresAt.isSome

theorem isExpired_eq_true_iff (e : Entry) (now : Int) :
    e.isExpired now = true ↔ ∃ t, e.expiresAt = some t ∧ t ≤ now := by
  cases h : e.expiresAt <;> simp [isExpired, h]

theorem isExpired_mono {e : Entry} {now later : Int} (h : e.isExpired now = true)
    (hle : now ≤ later) : e.isExpired later = true := by
  obtain ⟨t, ht, htn⟩ := (isExpired_eq_true_iff e now).1 h
  exact (isExpired_eq_true_iff e later).2 ⟨t, ht, by omega⟩

/-- Milliseconds left, none or less once the entry has expired. -/
def remaining (e : Entry) (now : Int) : Option Int := e.expiresAt.map (· - now)

def withExpiry (e : Entry) (t : Option Int) : Entry := { e with expiresAt := t }

def withPayload (e : Entry) (p : Payload) : Entry := { e with payload := p }

def agrees (a b : Entry) : Bool := a.payload.agrees b.payload && a.expiresAt == b.expiresAt

end Entry

end Keyspace
