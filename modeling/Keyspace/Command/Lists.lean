import Keyspace.Command.Outcome

namespace Keyspace.Store

/-- Each value becomes the new head in turn. -/
def pushFront (s : Store) (key : String) (values : List String) (now : Int) :
    Except Failure Outcome :=
  (heldList s key now).map fun h =>
    let items := values.reverse ++ h.content
    .changed (.integer items.length) (s.putBack key h (.list items))

def pushBack (s : Store) (key : String) (values : List String) (now : Int) :
    Except Failure Outcome :=
  (heldList s key now).map fun h =>
    let items := h.content ++ values
    .changed (.integer items.length) (s.putBack key h (.list items))

/-- The key goes with its last item. -/
def popFront (s : Store) (key : String) (now : Int) : Except Failure Outcome :=
  (heldList s key now).map fun h =>
    match h.content with
    | [] => .unchanged .nil
    | [head] => .changed (.bulk head) (s.erase key)
    | head :: rest => .changed (.bulk head) (s.putBack key h (.list rest))

theorem remove_popFront {s : Store} {key head : String} {now : Int} {h : Held (List String)}
    (hheld : heldList s key now = .ok h) (hlast : h.content = [head]) :
    ∃ o, popFront s key now = .ok o ∧ s.remove [key] = .ok (o.after s) := by
  refine ⟨.changed (.bulk head) (s.erase key), ?_, s.remove_singleton key⟩
  simp only [popFront, hheld, Except.map, hlast]

/-- A negative index counts from behind the end. -/
def position (length : Nat) (i : Int) : Int := if i < 0 then i + length else i

/-- The items from the first index to the last, both included; what lies outside is left out. -/
def slice (items : List String) (start stop : Int) : List String :=
  let first := max (position items.length start) 0
  let last := min (position items.length stop) (items.length - 1)
  if first ≤ last then (items.take (last + 1).toNat).drop first.toNat else []

def range (s : Store) (key : String) (start stop now : Int) : Except Failure Outcome :=
  (heldList s key now).map fun h => .unchanged (.array (slice h.content start stop))

end Keyspace.Store
