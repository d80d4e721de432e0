import Keyspace.Command.Basic
import Keyspace.Command.Outcome

namespace Keyspace.Store

/-- Whatever was under the key is replaced, its expiry included. -/
def setText (s : Store) (key value : String) (lifetime : Option Lifetime) (now : Int) : Outcome :=
  .changed .ok (s.insert key ⟨.string value, lifetime.map fun t => now + t.milliseconds⟩)

def getText (s : Store) (key : String) (now : Int) : Except Failure Outcome :=
  (heldText s key now).map fun h =>
    match h.content with
    | none => .unchanged .nil
    | some value => .unchanged (.bulk value)

end Keyspace.Store
