import Keyspace.Proofs.AllEntries
import Keyspace.Session

namespace Keyspace

open Store

namespace Session

inductive Call where
  | submit (line : String) (sweepAt now : Int)
  | tick (now : Int)
  | reset

/-- What the clock shows when the call reads it, in the order of reading. -/
def Call.readings : Call → List Int
  | submit _ sweepAt now => [sweepAt, now]
  | tick now => [now]
  | reset => []

def readings (calls : List Call) : List Int := calls.flatMap Call.readings

def perform (s : Session) : Call → Except NumeralTooLong Session
  | .submit line sweepAt now => (s.submit line sweepAt now).map Prod.fst
  | .tick now => .ok (s.tick now).1
  | .reset => .ok s.reset

/-- The session after all the calls, if each of them gives a result. -/
def performAll : Session → List Call → Except NumeralTooLong Session
  | s, [] => .ok s
  | s, c :: cs =>
    match s.perform c with
    | .ok s' => s'.performAll cs
    | .error e => .error e

def start (limits : Limits) (interval : Nat) : Session where
  limits := limits
  sweeper := { interval := interval }

variable {s s' : Session} {now : Int}

theorem tick_of_due (h : s.sweeper.isDue now = true) :
    (s.tick now).1.store = swept s.store now ∧
      (s.tick now).1.sweeper.lastRun = some now ∧
      (s.tick now).1.sweeper.interval = s.sweeper.interval := by
  simp only [tick, Sweeper.tick, h, if_true, swept]
  cases sweep s.store now with
  | none => exact ⟨rfl, rfl, rfl⟩
  | some s' => exact ⟨rfl, rfl, rfl⟩

theorem tick_of_not_due (h : s.sweeper.isDue now = false) : (s.tick now).1 = s := by
  rw [tick, Sweeper.tick_of_not_due h]

/-- Nothing is held that had expired at the last sweep; before the first one, nothing at all. -/
def Settled (s : Session) : Prop :=
  match s.sweeper.lastRun with
  | none => s.store = Table.empty
  | some last => s.store.All fun _ e => isLive last e = true

theorem settled_of_lastRun {last : Int} (h : s.sweeper.lastRun = some last) :
    s.Settled ↔ s.store.All fun _ e => isLive last e = true := by
  rw [Settled, h]

theorem Settled.tick (h : s.Settled) (now : Int) : (s.tick now).1.Settled := by
  cases hdue : s.sweeper.isDue now with
  | true =>
    obtain ⟨hstore, hlast, -⟩ := tick_of_due hdue
    rw [settled_of_lastRun hlast, hstore]
    exact Store.all_isLive_swept s.store now
  | false =>
    rw [tick_of_not_due hdue]
    exact h

/-- A tick is the last sweep, or the one before is too recent for another. -/
theorem lastRun_tick (s : Session) (now : Int) :
    ∃ last, (s.tick now).1.sweeper.lastRun = some last ∧
      (last = now ∨ s.sweeper.lastRun = some last ∧ now - last < s.sweeper.interval) := by
  cases hdue : s.sweeper.isDue now with
  | true => exact ⟨now, (tick_of_due hdue).2.1, Or.inl rfl⟩
  | false =>
    rw [tick_of_not_due hdue]
    unfold Sweeper.isDue at hdue
    split at hdue
    · cases hdue
    · next last hlast =>
      refine ⟨last, hlast, Or.inr ⟨hlast, ?_⟩⟩
      simpa using hdue

theorem interval_tick (s : Session) (now : Int) :
    (s.tick now).1.sweeper.interval = s.sweeper.interval := by
  cases hdue : s.sweeper.isDue now with
  | true => exact (tick_of_due hdue).2.2
  | false => rw [tick_of_not_due hdue]

section Call

variable {c : Call} {line : String} {sweepAt : Int}

theorem exists_of_perform_submit (h : s.perform (.submit line sweepAt now) = .ok s') :
    ∃ o, execute s.limits line (s.tick sweepAt).1.store now = .ok o ∧
      s' = ((s.tick sweepAt).1.record line o).1 := by
  rw [perform] at h
  obtain ⟨p, hp, rfl⟩ := exists_of_map_eq_ok h
  rw [submit] at hp
  obtain ⟨o, ho, rfl⟩ := exists_of_map_eq_ok hp
  rw [limits_tick] at ho
  exact ⟨o, ho, rfl⟩

/-- The sweeper stays as the tick leaves it, but for a reset. -/
theorem sweeper_perform (h : s.perform c = .ok s') :
    s'.sweeper = s.sweeper.reset ∨ ∃ r ∈ c.readings, s'.sweeper = (s.tick r).1.sweeper := by
  cases c with
  | submit line sweepAt now =>
    obtain ⟨o, -, rfl⟩ := exists_of_perform_submit h
    exact Or.inr ⟨sweepAt, List.mem_cons_self, rfl⟩
  | tick now =>
    cases h
    exact Or.inr ⟨now, List.mem_cons_self, rfl⟩
  | reset =>
    cases h
    exact Or.inl rfl

theorem interval_perform (h : s.perform c = .ok s') :
    s'.sweeper.interval = s.sweeper.interval := by
  rcases sweeper_perform h with hs | ⟨r, -, hs⟩
  · rw [hs, Sweeper.reset]
  · rw [hs, interval_tick]

theorem lastRun_perform (h : s.perform c = .ok s') {last : Int}
    (hlast : s'.sweeper.lastRun = some last) :
    s.sweeper.lastRun = some last ∨ last ∈ c.readings := by
  rcases sweeper_perform h with hs | ⟨r, hr, hs⟩
  · rw [hs] at hlast
    cases hlast
  · obtain ⟨last', htick, hcase⟩ := lastRun_tick s r
    rw [hs, htick] at hlast
    cases hlast
    rcases hcase with rfl | ⟨hold, -⟩
    · exact Or.inr hr
    · exact Or.inl hold

/-- What a command writes expires after the command, hence after the last sweep. -/
theorem Settled.perform (h : s.Settled) (hclock : c.readings.Pairwise (· ≤ ·))
    (hlast : ∀ last, s.sweeper.lastRun = some last → ∀ r ∈ c.readings, last ≤ r)
    (hrun : s.perform c = .ok s') : s'.Settled := by
  cases c with
  | submit line sweepAt now =>
    obtain ⟨o, ho, rfl⟩ := exists_of_perform_submit hrun
    obtain ⟨last, htick, hcase⟩ := lastRun_tick s sweepAt
    -- the sweep that counts is this one or an earlier one, so the line runs after it
    have hle : last ≤ now := by
      rcases hcase with rfl | ⟨hold, -⟩
      · exact List.rel_of_pairwise_cons hclock List.mem_cons_self
      · exact hlast last hold now (by simp [Call.readings])
    have hticked := (settled_of_lastRun htick).1 (h.tick sweepAt)
    have hrecord : ((s.tick sweepAt).1.record line o).1.sweeper.lastRun = some last := htick
    apply (settled_of_lastRun hrecord).2
    apply hticked.after_execute ho
    intro c k e _ hch
    exact isLive_of_le hch.write_isLive hle
  | tick now =>
    cases hrun
    exact h.tick now
  | reset =>
    cases hrun
    exact rfl

end Call

theorem Settled.performAll {calls : List Call} (h : s.Settled)
    (hclock : (readings calls).Pairwise (· ≤ ·))
    (hlast : ∀ last, s.sweeper.lastRun = some last → ∀ r ∈ readings calls, last ≤ r)
    (hrun : s.performAll calls = .ok s') :
    s'.Settled ∧ s'.sweeper.interval = s.sweeper.interval := by
  induction calls generalizing s with
  | nil =>
    cases hrun
    exact ⟨h, rfl⟩
  | cons c calls ih =>
    obtain ⟨hc, hcalls, hcross⟩ := List.pairwise_append.1 hclock
    unfold Session.performAll at hrun
    split at hrun
    · next t ht =>
      have hsettled : t.Settled := by
        apply h.perform hc _ ht
        intro last hl r hr
        exact hlast last hl r (List.mem_append_left _ hr)
      have hnext : ∀ last, t.sweeper.lastRun = some last → ∀ r ∈ readings calls, last ≤ r := by
        intro last hl r hr
        rcases lastRun_perform ht hl with hold | hread
        · exact hlast last hold r (List.mem_append_right _ hr)
        · exact hcross last hread r hr
      obtain ⟨hs', hinterval⟩ := ih hsettled hcalls hnext hrun
      exact ⟨hs', hinterval.trans (interval_perform ht)⟩
    · cases hrun

/-- While the clock never runs back, right after a tick nothing is held that has been expired for
the interval or longer. -/
theorem staleness_bounded {limits : Limits} {interval : Nat} {calls : List Call} {s : Session}
    (hclock : (readings calls).Pairwise (· ≤ ·))
    (hrun : (start limits interval).performAll calls = .ok s) :
    (s.sweeper.lastRun = none → s.store = Table.empty) ∧
    (∀ last, s.sweeper.lastRun = some last →
      ∀ k e t, s.store.get? k = some e → e.expiresAt = some t → last < t) ∧
    ∀ now k e, (s.tick now).1.store.get? k = some e →
      (∀ t, e.expiresAt = some t → now - interval < t) ∧
        (interval = 0 → e.isExpired now = false) := by
  obtain ⟨hs, hinterval⟩ := Settled.performAll (s := start limits interval) rfl hclock nofun hrun
  refine ⟨?_, ?_, ?_⟩
  · intro hlast
    rw [Settled, hlast] at hs
    exact hs
  · intro last hlast k e t hk ht
    exact isLive_iff_lt.1 ((settled_of_lastRun hlast).1 hs k e hk) t ht
  · intro now k e hk
    obtain ⟨last, htick, hcase⟩ := lastRun_tick s now
    have hlive : isLive last e = true := (settled_of_lastRun htick).1 (hs.tick now) k e hk
    -- the last sweep is this tick, or less than the interval ago
    have hrecent : now - interval ≤ last := by
      have hi : (start limits interval).sweeper.interval = interval := rfl
      rw [hinterval, hi] at hcase
      omega
    have hexpiry : ∀ t, e.expiresAt = some t → now - interval < t := by
      intro t ht
      have hlt := isLive_iff_lt.1 hlive t ht
      omega
    refine ⟨hexpiry, ?_⟩
    rintro rfl
    apply isLive_eq_true_iff.1
    apply isLive_iff_lt.2
    simpa using hexpiry

def briefCalls : List Call := [.submit "SET k v PX 50" 100 101, .tick 120]

def briefSession : Session where
  sweeper := { interval := 100, lastRun := some 100, totalSweeps := 1 }
  store := ⟨[("k", ⟨.string "v", some 151⟩)], by decide⟩
  history := [⟨"SET k v PX 50", "OK", .success⟩]

/-- At 160 a tick is not due, and still holds what expired at 151. -/
theorem staleness_bounded_brief :
    ∃ e, (briefSession.tick 160).1.store.get? "k" = some e ∧ e.isExpired 160 = true ∧
      ∀ t, e.expiresAt = some t → (160 : Int) - (100 : Nat) < t := by
  have hclock : (readings briefCalls).Pairwise (· ≤ ·) := by decide
  have hrun : (start {} 100).performAll briefCalls = .ok briefSession := rfl
  have hk : (briefSession.tick 160).1.store.get? "k" = some ⟨.string "v", some 151⟩ := rfl
  obtain ⟨-, -, hbound⟩ := staleness_bounded hclock hrun
  exact ⟨_, hk, rfl, (hbound 160 "k" _ hk).1⟩

end Session

end Keyspace
