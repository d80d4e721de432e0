import Keyspace.Command.Outcome
import Keyspace.Distinct
import Keyspace.Glob.Match

namespace Keyspace.Store

/-- Takes out the live keys among those named, and counts each once. -/
def del (s : Store) (keys : List String) (now : Int) : Outcome :=
  match (distinct keys).filter (holds s now) with
  | [] => .unchanged (.integer 0)
  | live => .changed (.integer live.length) (s.eraseAll live)

theorem nodup_filter_distinct (s : Store) (keys : List String) (now : Int) :
    ((distinct keys).filter (holds s now)).Nodup :=
  List.filter_sublist.nodup (nodup_distinct keys)

/-- The removal of the live keys never fails, since each is given once. -/
theorem remove_del (s : Store) (keys : List String) (now : Int) :
    s.remove ((distinct keys).filter (holds s now)) = .ok ((del s keys now).after s) := by
  rw [Table.remove_eq_ok s (nodup_filter_distinct s keys now), del]
  split
  · next hnone =>
    rw [hnone, Table.eraseAll_nil]
    rfl
  · rfl

/-- Counts the live keys among those named, each as often as it is named. -/
def countLive (s : Store) (keys : List String) (now : Int) : Outcome :=
  .unchanged (.integer (keys.countP (holds s now)))

/-- Every live key that the pattern matches, in the order of the store. -/
def matchingKeys (s : Store) (pattern : String) (now : Int) : Outcome :=
  .unchanged (.array ((liveKeys s now).filter (Glob.ofKeyPattern pattern).accepts))

def flush (s : Store) : Outcome :=
  if s.isEmpty then .unchanged .ok else .changed .ok Table.empty

end Keyspace.Store
