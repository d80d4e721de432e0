import Keyspace.Store

namespace Keyspace

/-- The totals count the sweeps that ran and the entries that they took out. -/
structure Sweeper where
  interval : Nat
  lastRun : Option Int := none
  totalSweeps : Nat := 0
  totalExpired : Nat := 0
  deriving DecidableEq

namespace Sweeper

def negativeIntervalMessage : String := "interval_ms must not be negative"

/-- A sweeper that has not run yet; there is none for a negative interval. -/
def ofInterval? (milliseconds : Int) : Option Sweeper :=
  if 0 ≤ milliseconds then some { interval := milliseconds.toNat } else none

def isDue (w : Sweeper) (now : Int) : Bool :=
  match w.lastRun with
  | none => true
  | some last => w.interval ≤ now - last

/-- The sweeper after the tick, and the store if entries were taken out. -/
def tick (w : Sweeper) (s : Store) (now : Int) : Sweeper × Option Store :=
  if w.isDue now then
    let swept := Store.sweep s now
    let removed := match swept with
      | some s' => s.size - s'.size
      | none => 0
    ({ w with
        lastRun := some now
        totalSweeps := w.totalSweeps + 1
        totalExpired := w.totalExpired + removed }, swept)
  else (w, none)

theorem tick_of_not_due {w : Sweeper} {now : Int} (h : w.isDue now = false) (s : Store) :
    w.tick s now = (w, none) := by
  simp [tick, h]

/-- Makes the next tick run; the totals stay. -/
def reset (w : Sweeper) : Sweeper := { w with lastRun := none }

end Sweeper

end Keyspace
