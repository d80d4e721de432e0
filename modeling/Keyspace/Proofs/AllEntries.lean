import Keyspace.Proofs.Change

namespace Keyspace

open Store

/-- Every entry has the property under its key, expired or not. -/
def Store.All (P : String → Entry → Prop) (s : Store) : Prop := ∀ k e, s.get? k = some e → P k e

variable {P : String → Entry → Prop} {s s' : Store} {now : Int}

theorem Store.all_iff : s.All P ↔ ∀ p ∈ s.entries, P p.1 p.2 := by
  constructor
  · intro h p hp
    exact h p.1 p.2 (s.get?_eq_some_iff.2 hp)
  · intro h k e hk
    exact h (k, e) (s.get?_eq_some_iff.1 hk)

instance [∀ k e, Decidable (P k e)] : Decidable (s.All P) := decidable_of_iff _ Store.all_iff.symm

namespace Store.All

theorem empty : Store.All P Table.empty := nofun

theorem of_subset (h : s.All P) (hsub : ∀ k e, s'.get? k = some e → s.get? k = some e) :
    s'.All P :=
  fun k e hk => h k e (hsub k e hk)

theorem eraseAll (h : s.All P) (ks : List String) : Store.All P (s.eraseAll ks) := by
  apply h.of_subset
  intro k e hk
  rw [Table.get?_eraseAll] at hk
  split at hk
  · cases hk
  · exact hk

theorem insert (h : s.All P) {key : String} {e : Entry} (hnew : P key e) :
    Store.All P (s.insert key e) := by
  intro k a ha
  rw [Table.get?_insert] at ha
  split at ha
  · next hk =>
    cases ha
    exact hk ▸ hnew
  · exact h k a ha

theorem swept (h : s.All P) (now : Int) : Store.All P (swept s now) := by
  apply h.of_subset
  intro k e hk
  rw [get?_swept] at hk
  exact (lookup_eq_some_iff.1 hk).1

theorem apply (h : s.All P) {ch : Change} (hnew : ∀ k e, ch = .write k e → P k e) :
    (ch.apply s).All P := by
  cases ch with
  | write key e => exact h.insert (hnew key e rfl)
  | takeOut ks => exact h.eraseAll ks
  | clear => exact empty

end Store.All

theorem Store.all_isLive_swept (s : Store) (now : Int) :
    (Store.swept s now).All fun _ e => isLive now e = true := by
  intro k e hk
  rw [get?_swept] at hk
  exact isLive_eq_true_iff.2 (lookup_eq_some_iff.1 hk).2

theorem Store.All.after_execute {limits : Limits} {line : String} {o : Outcome} (h : s.All P)
    (ho : execute limits line s now = .ok o)
    (hnew : ∀ c k e, Command.ofLine limits line = .ok c → Makes s now c (.write k e) → P k e) :
    (o.after s).All P := by
  rcases change_of_execute ho with hafter | ⟨c, ch, hc, hch, hafter⟩
  · rw [hafter]
    exact h
  · rw [hafter]
    apply h.apply
    rintro k e rfl
    exact hnew c k e hc hch

theorem Step.all_after {p : Step} (h : p.before.All P)
    (hnew : ∀ c k e, p.Runs c → Makes p.before p.instant c (.write k e) → P k e) :
    p.after.All P := by
  rcases p.after_cases with hafter | hafter | ⟨c, ch, hc, hch, hafter⟩
  · rw [hafter]
    exact h
  · rw [hafter]
    exact h.swept p.instant
  · rw [hafter]
    apply h.apply
    rintro k e rfl
    exact hnew c k e hc hch

/-- What every command keeps, for the limits of the host, every timeline keeps. -/
theorem Host.all_after {h : Host} (es : List Event) (hs : h.store.All P)
    (hnew : ∀ (s : Store) (now : Int) (line : String) (c : Command) (k : String) (e : Entry),
      s.All P → Command.ofLine h.limits line = .ok c → Makes s now c (.write k e) → P k e) :
    (h.after es).store.All P := by
  induction es generalizing h with
  | nil => exact hs
  | cons e es ih =>
    have hstep : (h.perform e).store.All P := by
      apply Step.all_after (p := ⟨h, e⟩) hs
      rintro c k a ⟨line, -, hc⟩ hch
      exact hnew h.store e.instant line c k a hs hc hch
    rw [after_cons]
    apply ih hstep
    rw [limits_perform]
    exact hnew

end Keyspace
