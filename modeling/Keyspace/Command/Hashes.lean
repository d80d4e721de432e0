import Keyspace.Command.Outcome

namespace Keyspace.Store

/-- Writes fields one after another, and counts those that were not there. -/
def writeFields : Table String → List (String × String) → Nat × Table String
  | t, [] => (0, t)
  | t, (field, value) :: rest =>
    let r := writeFields (t.insert field value) rest
    (if t.contains field then r.1 else r.1 + 1, r.2)

theorem writeFields_snd (t : Table String) (fields : List (String × String)) :
    (writeFields t fields).2 = fields.foldl (fun t p => t.insert p.1 p.2) t := by
  induction fields generalizing t with
  | nil => rfl
  | cons p fields ih => exact ih (t.insert p.1 p.2)

def setFields (s : Store) (key : String) (fields : List (String × String)) (now : Int) :
    Except Failure Outcome :=
  (heldHash s key now).map fun h =>
    let r := writeFields h.content fields
    .changed (.integer r.1) (s.putBack key h (.hash r.2))

def getField (s : Store) (key field : String) (now : Int) : Except Failure Outcome :=
  (heldHash s key now).map fun h =>
    match h.content.get? field with
    | none => .unchanged .nil
    | some value => .unchanged (.bulk value)

/-- Each field is followed by its value. -/
def flatten (t : Table String) : List String := t.entries.flatMap fun p => [p.1, p.2]

def allFields (s : Store) (key : String) (now : Int) : Except Failure Outcome :=
  (heldHash s key now).map fun h => .unchanged (.array (flatten h.content))

end Keyspace.Store
