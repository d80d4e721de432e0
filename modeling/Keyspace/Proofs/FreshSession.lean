import Keyspace.Proofs.Staleness

namespace Keyspace

/-- The sweeper with more sweeps, and more entries taken out, in its totals. -/
def Sweeper.addTotals (sweeps expired : Nat) (w : Sweeper) : Sweeper :=
  { w with totalSweeps := w.totalSweeps + sweeps, totalExpired := w.totalExpired + expired }

/-- The totals play no part in what a tick does. -/
theorem Sweeper.tick_addTotals (sweeps expired : Nat) (w : Sweeper) (s : Store) (now : Int) :
    (w.addTotals sweeps expired).tick s now =
      ((w.tick s now).1.addTotals sweeps expired, (w.tick s now).2) := by
  have hdue : (w.addTotals sweeps expired).isDue now = w.isDue now := rfl
  unfold Sweeper.tick
  rw [hdue]
  split
  · simp only [addTotals, Nat.add_right_comm]
  · rfl

namespace Session

/-- What a call gives. -/
inductive Result where
  | recorded (r : Record)
  | ended (e : NumeralTooLong)
  | ticked (removed : Bool)
  | emptied

/-- The session after a call, and what the call gives. A line at which reading ends leaves what the
sweep in front of it left, and is not recorded. -/
def call (s : Session) : Call → Session × Result
  | .submit line sweepAt now =>
    match s.submit line sweepAt now with
    | .ok (s', r) => (s', .recorded r)
    | .error e => ((s.tick sweepAt).1, .ended e)
  | .tick now => ((s.tick now).1, .ticked (s.tick now).2)
  | .reset => (s.reset, .emptied)

def afterCalls (s : Session) (calls : List Call) : Session :=
  calls.foldl (fun s c => (s.call c).1) s

/-- What there is to see of a call: what it gives, and the state that it leaves. -/
structure Observation where
  result : Result
  store : Store
  history : List Record
  lastRun : Option Int
  totalSweeps : Nat
  totalExpired : Nat

def observe (s : Session) (r : Result) : Observation where
  result := r
  store := s.store
  history := s.history
  lastRun := s.sweeper.lastRun
  totalSweeps := s.sweeper.totalSweeps
  totalExpired := s.sweeper.totalExpired

/-- One observation for each call. -/
def observations : Session → List Call → List Observation
  | _, [] => []
  | s, c :: cs => (s.call c).1.observe (s.call c).2 :: (s.call c).1.observations cs

section Kept

variable (s : Session)

/-- A line leaves what the sweep left, or that with a record of the line. -/
theorem call_submit_cases (line : String) (sweepAt now : Int) :
    (s.call (.submit line sweepAt now)).1 = (s.tick sweepAt).1 ∨
      ∃ o, (s.call (.submit line sweepAt now)).1 = ((s.tick sweepAt).1.record line o).1 := by
  cases h : s.submit line sweepAt now with
  | error e =>
    left
    simp only [call, h]
  | ok p =>
    right
    simp only [call, h]
    rw [submit] at h
    obtain ⟨o, -, hrecord⟩ := exists_of_map_eq_ok h
    exact ⟨o, congrArg Prod.fst hrecord.symm⟩

theorem kept_call (c : Call) : (s.call c).1.limits = s.limits ∧
    (s.call c).1.sweeper.interval = s.sweeper.interval := by
  cases c with
  | submit line sweepAt now =>
    rcases s.call_submit_cases line sweepAt now with h | ⟨o, h⟩
    · rw [h]
      exact ⟨limits_tick s sweepAt, interval_tick s sweepAt⟩
    · rw [h]
      exact ⟨limits_tick s sweepAt, interval_tick s sweepAt⟩
  | tick now => exact ⟨limits_tick s now, interval_tick s now⟩
  | reset => exact ⟨rfl, rfl⟩

theorem kept_afterCalls (calls : List Call) : (s.afterCalls calls).limits = s.limits ∧
    (s.afterCalls calls).sweeper.interval = s.sweeper.interval := by
  induction calls generalizing s with
  | nil => exact ⟨rfl, rfl⟩
  | cons c calls ih =>
    obtain ⟨hlimits, hinterval⟩ := ih (s.call c).1
    exact ⟨hlimits.trans (s.kept_call c).1, hinterval.trans (s.kept_call c).2⟩

end Kept

def addTotals (sweeps expired : Nat) (s : Session) : Session :=
  { s with sweeper := s.sweeper.addTotals sweeps expired }

def Observation.addTotals (sweeps expired : Nat) (o : Observation) : Observation :=
  { o with totalSweeps := o.totalSweeps + sweeps, totalExpired := o.totalExpired + expired }

variable (sweeps expired : Nat) (s : Session)

theorem tick_addTotals (now : Int) :
    (s.addTotals sweeps expired).tick now =
      ((s.tick now).1.addTotals sweeps expired, (s.tick now).2) := by
  simp only [tick, addTotals, Sweeper.tick_addTotals]
  generalize s.sweeper.tick s.store now = r
  obtain ⟨w, swept⟩ := r
  cases swept with
  | none => rfl
  | some t => rfl

theorem submit_addTotals (line : String) (sweepAt now : Int) :
    (s.addTotals sweeps expired).submit line sweepAt now =
      (s.submit line sweepAt now).map fun p => (p.1.addTotals sweeps expired, p.2) := by
  simp only [submit, tick_addTotals]
  generalize (s.tick sweepAt).1 = t
  show (execute t.limits line t.store now).map ((t.addTotals sweeps expired).record line) = _
  generalize execute t.limits line t.store now = x
  cases x with
  | error e => rfl
  | ok o => rfl

theorem call_addTotals (c : Call) :
    (s.addTotals sweeps expired).call c =
      ((s.call c).1.addTotals sweeps expired, (s.call c).2) := by
  cases c with
  | submit line sweepAt now =>
    simp only [call, submit_addTotals, tick_addTotals]
    cases s.submit line sweepAt now with
    | error e => rfl
    | ok p => rfl
  | tick now => simp only [call, tick_addTotals]
  | reset => rfl

theorem observations_addTotals (calls : List Call) :
    (s.addTotals sweeps expired).observations calls =
      (s.observations calls).map (Observation.addTotals sweeps expired) := by
  induction calls generalizing s with
  | nil => rfl
  | cons c calls ih =>
    rw [observations, call_addTotals, ih, observations, List.map_cons]
    rfl

/-- Nothing but the totals is left of what a session was. -/
theorem reset_eq_start : s.reset = (start s.limits s.sweeper.interval).addTotals
    s.sweeper.totalSweeps s.sweeper.totalExpired := by
  simp only [reset, Sweeper.reset, start, addTotals, Sweeper.addTotals, Nat.zero_add]

/-- After a reset all that further calls show is what a new session shows, but for the totals, which
run ahead by what they were at the reset. -/
theorem reset_session_is_fresh (s : Session) (before further : List Call) :
    (s.afterCalls (before ++ [.reset])).observations further =
      ((start s.limits s.sweeper.interval).observations further).map
        (Observation.addTotals (s.afterCalls before).sweeper.totalSweeps
          (s.afterCalls before).sweeper.totalExpired) := by
  have hreset : s.afterCalls (before ++ [.reset]) = (s.afterCalls before).reset := by
    rw [afterCalls, List.foldl_append]
    rfl
  obtain ⟨hlimits, hinterval⟩ := s.kept_afterCalls before
  rw [hreset, reset_eq_start, observations_addTotals, hlimits, hinterval]

end Session

end Keyspace
