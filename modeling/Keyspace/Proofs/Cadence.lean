import Mathlib.Algebra.Ring.Nat
import Keyspace.Proofs.Sweeping
import Keyspace.Sweeper

namespace Keyspace

namespace Sweeper

inductive Call where
  | tick (store : Store) (now : Int)
  | isDue (now : Int)
  | reset

/-- The sweeper after a call; asking whether a sweep is due leaves it as it is. -/
def perform (w : Sweeper) : Call → Sweeper
  | .tick s now => (w.tick s now).1
  | .isDue _ => w
  | .reset => w.reset

def afterCalls (w : Sweeper) (calls : List Call) : Sweeper := calls.foldl perform w

/-- A tick that runs. -/
structure Sweep where
  store : Store
  instant : Int

/-- How many keys of the store have expired at the instant. -/
def Sweep.expired (p : Sweep) : Nat := (Store.expiredKeys p.store p.instant).length

/-- The sweep that runs at a call, if one does. -/
def sweepAt (w : Sweeper) : Call → Option Sweep
  | .tick s now => if w.isDue now then some ⟨s, now⟩ else none
  | .isDue _ => none
  | .reset => none

/-- The sweeps that run at the calls, in their order. -/
def sweeps : Sweeper → List Call → List Sweep
  | _, [] => []
  | w, c :: cs => (w.sweepAt c).toList ++ (w.perform c).sweeps cs

/-- The sweeper once the sweep has run. -/
def ran (w : Sweeper) (p : Sweep) : Sweeper :=
  { w with
      lastRun := some p.instant
      totalSweeps := w.totalSweeps + 1
      totalExpired := w.totalExpired + p.expired }

/-- The later instant comes the interval or more behind the earlier one. -/
def Apart (interval : Nat) (earlier later : Int) : Prop := earlier + interval ≤ later

theorem Apart.trans {interval : Nat} {a b c : Int} (hab : Apart interval a b)
    (hbc : Apart interval b c) : Apart interval a c := by
  unfold Apart at *
  omega

variable {w : Sweeper} {c : Call} {calls : List Call} {p : Sweep} {now last : Int}

theorem apart_of_isDue (hdue : w.isDue now = true) (hlast : w.lastRun = some last) :
    Apart w.interval last now := by
  simp only [isDue, hlast, decide_eq_true_iff] at hdue
  unfold Apart
  omega

theorem tick_of_due (hdue : w.isDue now = true) (s : Store) :
    w.tick s now = (w.ran ⟨s, now⟩, Store.sweep s now) := by
  cases h : Store.sweep s now with
  | none =>
    have hnil := Store.sweep_eq_none_iff.1 h
    simp [tick, hdue, h, ran, Sweep.expired, hnil]
  | some s' =>
    -- what the sweep takes out is what had expired
    have hremoved : s.size - s'.size = (Store.expiredKeys s now).length := by
      rw [Store.eq_swept_of_sweep h, ← Store.size_swept s now, Nat.add_sub_cancel_left]
    simp [tick, hdue, h, ran, Sweep.expired, hremoved]

/-- A sweep runs at a call if it is a tick that is due. Otherwise the call leaves the sweeper as it
is, unless it is a reset. -/
theorem perform_cases (w : Sweeper) (c : Call) :
    (∃ p, w.sweepAt c = some p ∧ w.isDue p.instant = true ∧ w.perform c = w.ran p) ∨
      w.sweepAt c = none ∧ (w.perform c = w ∨ c = .reset ∧ w.perform c = w.reset) := by
  cases c with
  | tick s now =>
    rw [sweepAt, perform]
    cases hdue : w.isDue now with
    | true =>
      rw [tick_of_due hdue]
      exact Or.inl ⟨⟨s, now⟩, rfl, hdue, rfl⟩
    | false =>
      rw [tick_of_not_due hdue]
      exact Or.inr ⟨rfl, Or.inl rfl⟩
  | isDue now => exact Or.inr ⟨rfl, Or.inl rfl⟩
  | reset => exact Or.inr ⟨rfl, Or.inr ⟨rfl, rfl⟩⟩

theorem interval_perform (w : Sweeper) (c : Call) : (w.perform c).interval = w.interval := by
  rcases w.perform_cases c with ⟨p, -, -, h⟩ | ⟨-, h | ⟨-, h⟩⟩ <;> rw [h] <;> rfl

theorem totals_perform (w : Sweeper) (c : Call) :
    (w.perform c).totalSweeps = w.totalSweeps + (w.sweepAt c).toList.length ∧
      (w.perform c).totalExpired =
        w.totalExpired + ((w.sweepAt c).toList.map Sweep.expired).sum := by
  rcases w.perform_cases c with ⟨p, hp, -, h⟩ | ⟨hnone, h | ⟨-, h⟩⟩
  · rw [h, hp]
    exact ⟨rfl, rfl⟩
  · rw [h, hnone]
    exact ⟨rfl, rfl⟩
  · rw [h, hnone]
    exact ⟨rfl, rfl⟩

theorem interval_afterCalls (w : Sweeper) (calls : List Call) :
    (w.afterCalls calls).interval = w.interval := by
  induction calls generalizing w with
  | nil => rfl
  | cons c calls ih => exact (ih (w.perform c)).trans (w.interval_perform c)

theorem totals_afterCalls (w : Sweeper) (calls : List Call) :
    (w.afterCalls calls).totalSweeps = w.totalSweeps + (w.sweeps calls).length ∧
      (w.afterCalls calls).totalExpired =
        w.totalExpired + ((w.sweeps calls).map Sweep.expired).sum := by
  induction calls generalizing w with
  | nil => exact ⟨rfl, rfl⟩
  | cons c calls ih =>
    obtain ⟨hsweeps, hexpired⟩ := ih (w.perform c)
    obtain ⟨hsweeps', hexpired'⟩ := w.totals_perform c
    rw [afterCalls, List.foldl_cons, ← afterCalls, hsweeps, hexpired, hsweeps', hexpired', sweeps,
      List.length_append, List.map_append, List.sum_append, Nat.add_assoc, Nat.add_assoc]
    exact ⟨rfl, rfl⟩

/-- Without a reset the last sweep and those that follow are the interval apart or more, each from
all before it. -/
theorem instants_apart (w : Sweeper) (h : ∀ c ∈ calls, c ≠ .reset) :
    (w.lastRun.toList ++ (w.sweeps calls).map Sweep.instant).Pairwise (Apart w.interval) := by
  induction calls generalizing w with
  | nil => cases w.lastRun <;> simp [sweeps]
  | cons c calls ih =>
    obtain ⟨hc, hcalls⟩ := List.forall_mem_cons.1 h
    have hrest := ih (w.perform c) hcalls
    rw [interval_perform] at hrest
    rcases w.perform_cases c with ⟨p, hp, hdue, hran⟩ | ⟨hnone, hsame | ⟨hreset, -⟩⟩
    · rw [hran] at hrest
      rw [sweeps, hp, hran]
      cases hlast : w.lastRun with
      | none => exact hrest
      | some last =>
        have hgap := apart_of_isDue hdue hlast
        -- the sweep that runs now comes between the last one and those that follow
        refine List.pairwise_cons.2 ⟨?_, hrest⟩
        rintro b (_ | ⟨_, hb⟩)
        · exact hgap
        · exact hgap.trans (List.rel_of_pairwise_cons hrest hb)
    · rw [hsame] at hrest
      rw [sweeps, hnone, hsame]
      exact hrest
    · exact absurd hreset hc

/-- The induction is on the instants behind the first. -/
theorem span_of_apart {interval : Nat} {a last : Int} {ts : List Int}
    (h : (a :: ts).Pairwise (Apart interval)) (hlast : (a :: ts).getLast? = some last) :
    ts.length * interval ≤ last - a := by
  induction ts generalizing a with
  | nil =>
    cases hlast
    simp
  | cons b ts ih =>
    rw [List.getLast?_cons_cons] at hlast
    have hgap : a + interval ≤ b := List.rel_of_pairwise_cons h List.mem_cons_self
    have hrest := ih (List.pairwise_cons.1 h).2 hlast
    rw [List.length_cons, Int.natCast_succ, Int.add_mul, Int.one_mul]
    omega

end Sweeper

open Sweeper

/-- Totals count the ticks that ran and the keys that had expired, also over resets; sweeps without
a reset in between are the interval apart, on a clock that may run back. -/
theorem sweeper_keeps_cadence_and_totals (interval : Nat) (calls : List Sweeper.Call) :
    let start : Sweeper := { interval := interval }
    let w := start.afterCalls calls
    (w.totalSweeps = (start.sweeps calls).length ∧
      w.totalExpired = ((start.sweeps calls).map Sweep.expired).sum ∧
      w.reset.totalSweeps = w.totalSweeps ∧ w.reset.totalExpired = w.totalExpired) ∧
    (∀ s now, (w.isDue now = false → w.tick s now = (w, none)) ∧
      (w.isDue now = true → (w.tick s now).2 = Store.sweep s now)) ∧
    ∀ further, (∀ c ∈ further, c ≠ .reset) →
      let instants := (w.sweeps further).map Sweep.instant
      instants.Pairwise (Apart interval) ∧
      ∀ first last, instants.head? = some first → instants.getLast? = some last →
        ((instants.length : Int) - 1) * interval ≤ last - first := by
  intro start w
  have hinterval : w.interval = interval := start.interval_afterCalls calls
  refine ⟨?_, ?_, ?_⟩
  · obtain ⟨hsweeps, hexpired⟩ := start.totals_afterCalls calls
    exact ⟨hsweeps.trans (Nat.zero_add _), hexpired.trans (Nat.zero_add _), rfl, rfl⟩
  · intro s now
    refine ⟨fun hdue => tick_of_not_due hdue s, ?_⟩
    intro hdue
    rw [tick_of_due hdue]
  · -- the last sweep before these calls stands in front of their own; here it is left out again
    intro further hfurther instants
    have hall := w.instants_apart hfurther
    rw [hinterval] at hall
    have hapart : instants.Pairwise (Apart interval) := (List.pairwise_append.1 hall).2.1
    refine ⟨hapart, ?_⟩
    intro first last hfirst hlast
    obtain ⟨rest, hrest⟩ := List.head?_eq_some_iff.1 hfirst
    rw [hrest] at hapart hlast ⊢
    have hspan := span_of_apart hapart hlast
    rwa [List.length_cons, Int.natCast_succ, Int.add_sub_cancel]

/-- One text, which expires at 100. -/
def oneStale : Store := ⟨[("a", ⟨.string "x", some 100⟩)], by decide⟩

/-- The clock is set back before the second tick. -/
def ticksRunningBack : List Sweeper.Call :=
  [.tick oneStale 100, .tick oneStale 50, .isDue 150, .tick oneStale 199, .tick oneStale 200]

/-- Two of the four ticks run, the interval apart, and each finds the text expired; the one at 50 is
not due. -/
theorem sweeper_keeps_cadence_and_totals_running_back :
    let w : Sweeper := { interval := 100 }
    let later := w.afterCalls [.tick oneStale 100]
    (w.sweeps ticksRunningBack).map Sweep.instant = [100, 200] ∧
      (w.afterCalls ticksRunningBack).totalExpired = 2 ∧ (2 - 1) * 100 ≤ (200 : Int) - 100 ∧
      later.tick oneStale 50 = (later, none) ∧
      (later.tick oneStale 200).2 = Store.sweep oneStale 200 := by
  have hnone : ∀ c ∈ ticksRunningBack, c ≠ .reset := by simp [ticksRunningBack]
  obtain ⟨⟨-, hexpired, -⟩, -⟩ := sweeper_keeps_cadence_and_totals 100 ticksRunningBack
  have hspan := ((sweeper_keeps_cadence_and_totals 100 []).2.2 ticksRunningBack hnone).2
  have hticks := (sweeper_keeps_cadence_and_totals 100 [.tick oneStale 100]).2.1
  exact ⟨rfl, hexpired, hspan 100 200 rfl rfl, (hticks oneStale 50).1 rfl,
    (hticks oneStale 200).2 rfl⟩

end Keyspace
