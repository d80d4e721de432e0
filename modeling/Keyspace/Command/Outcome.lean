import Keyspace.Store
import Keyspace.Failure

namespace Keyspace

/-- A reply and, if anything changed, the store that takes the place of the one given. -/
structure Outcome where
  reply : Reply
  replacement : Option Store := none

namespace Outcome

def unchanged (r : Reply) : Outcome := ⟨r, none⟩

def changed (r : Reply) (s : Store) : Outcome := ⟨r, some s⟩

def ofFailure (f : Failure) : Outcome := unchanged f.reply

/-- The store from then on. -/
def after (o : Outcome) (s : Store) : Store := o.replacement.getD s

end Outcome

/-- The content found under a key, with the expiry of its entry. -/
structure Held (α : Type) where
  content : α
  expiresAt : Option Int

namespace Store

def held {α : Type} (view : Payload → Option α) (nothing : α) (s : Store) (key : String)
    (now : Int) : Except Failure (Held α) :=
  match lookup s key now with
  | none => .ok ⟨nothing, none⟩
  | some e =>
    match view e.payload with
    | some content => .ok ⟨content, e.expiresAt⟩
    | none => .error .wrongKind

theorem held_of_absent {α : Type} {view : Payload → Option α} {nothing : α} {s : Store}
    {key : String} {now : Int} (h : lookup s key now = none) :
    held view nothing s key now = .ok ⟨nothing, none⟩ := by
  simp [held, h]

theorem held_of_live {α : Type} {view : Payload → Option α} {nothing : α} {s : Store}
    {key : String} {now : Int} {e : Entry} {content : α} (h : lookup s key now = some e)
    (hv : view e.payload = some content) :
    held view nothing s key now = .ok ⟨content, e.expiresAt⟩ := by
  simp [held, h, hv]

def heldText : Store → String → Int → Except Failure (Held (Option String)) :=
  held (fun p => p.string?.map some) none

def heldList : Store → String → Int → Except Failure (Held (List String)) :=
  held Payload.list? []

def heldSet : Store → String → Int → Except Failure (Held MemberSet) :=
  held Payload.set? MemberSet.empty

def heldHash : Store → String → Int → Except Failure (Held (Table String)) :=
  held Payload.hash? Table.empty

/-- Writes content back with the expiry that it was found with. -/
def putBack {α : Type} (s : Store) (key : String) (h : Held α) (p : Payload) : Store :=
  s.insert key ⟨p, h.expiresAt⟩

end Store

end Keyspace
