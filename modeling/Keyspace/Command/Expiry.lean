import Keyspace.Command.Outcome

namespace Keyspace.Store

/-- A key that is to expire at once is taken out. -/
def expire (s : Store) (key : String) (seconds now : Int) : Outcome :=
  match lookup s key now with
  | none => .unchanged (.integer 0)
  | some e =>
    if seconds ≤ 0 then .changed (.integer 1) (s.erase key)
    else .changed (.integer 1) (s.insert key (e.withExpiry (some (now + seconds * 1000))))

theorem remove_expire {s : Store} {key : String} {seconds now : Int} {e : Entry}
    (h : lookup s key now = some e) (hle : seconds ≤ 0) :
    s.remove [key] = .ok ((expire s key seconds now).after s) := by
  simp only [expire, h, if_pos hle, Table.remove_singleton]
  rfl

/-- Thousandths, rounded up. -/
def wholeSeconds (milliseconds : Int) : Int := -(Int.fdiv (-milliseconds) 1000)

theorem wholeSeconds_bounds (n : Int) :
    1000 * (wholeSeconds n - 1) < n ∧ n ≤ 1000 * wholeSeconds n := by
  unfold wholeSeconds
  rw [Int.fdiv_eq_ediv_of_nonneg _ (by decide)]
  omega

def ttl (s : Store) (key : String) (now : Int) : Outcome :=
  match lookup s key now with
  | none => .unchanged (.integer (-2))
  | some e =>
    match e.remaining now with
    | none => .unchanged (.integer (-1))
    | some left => .unchanged (.integer (wholeSeconds left))

def persist (s : Store) (key : String) (now : Int) : Outcome :=
  match lookup s key now with
  | none => .unchanged (.integer 0)
  | some e =>
    if e.isVolatile then .changed (.integer 1) (s.insert key (e.withExpiry none))
    else .unchanged (.integer 0)

end Keyspace.Store
