import Keyspace.Command.Outcome
import Keyspace.Distinct

namespace Keyspace.Store

/-- Counts the members that were not there; where there are none, nothing is written. -/
def addMembers (s : Store) (key : String) (members : List String) (now : Int) :
    Except Failure Outcome :=
  (heldSet s key now).map fun h =>
    match (distinct members).filter fun m => !h.content.contains m with
    | [] => .unchanged (.integer 0)
    | added =>
      .changed (.integer added.length) (s.putBack key h (.set (h.content.insertAll added)))

def listMembers (s : Store) (key : String) (now : Int) : Except Failure Outcome :=
  (heldSet s key now).map fun h => .unchanged (.array h.content.members)

def hasMember (s : Store) (key member : String) (now : Int) : Except Failure Outcome :=
  (heldSet s key now).map fun h =>
    .unchanged (.integer (if h.content.contains member then 1 else 0))

end Keyspace.Store
