import Keyspace.Command.Report
import Keyspace.Proofs.Live

namespace Keyspace

namespace Store

/-- The same live entry, or none, under every key. -/
def Alike (now : Int) (s₁ s₂ : Store) : Prop := ∀ k, lookup s₁ k now = lookup s₂ k now

variable {now later : Int} {s₁ s₂ s₃ : Store}

namespace Alike

theorem refl (now : Int) (s : Store) : Alike now s s := fun _ => rfl

theorem symm (h : Alike now s₁ s₂) : Alike now s₂ s₁ := fun k => (h k).symm

theorem trans (h : Alike now s₁ s₂) (h' : Alike now s₂ s₃) : Alike now s₁ s₃ :=
  fun k => (h k).trans (h' k)

theorem mono (h : Alike now s₁ s₂) (hle : now ≤ later) : Alike later s₁ s₂ := by
  intro k
  rw [lookup_later s₁ k hle, lookup_later s₂ k hle, h k]

theorem insert (h : Alike now s₁ s₂) (key : String) (e : Entry) :
    Alike now (s₁.insert key e) (s₂.insert key e) := by
  intro k
  rw [lookup_insert, lookup_insert, h k]

theorem eraseAll (h : Alike now s₁ s₂) (ks : List String) :
    Alike now (s₁.eraseAll ks) (s₂.eraseAll ks) := by
  intro k
  rw [lookup_eraseAll, lookup_eraseAll, h k]

/-- A sweep at any instant keeps what is live, if all of it is live at the sweep as well. -/
theorem swept_of_live {s : Store} {sweepAt : Int}
    (h : ∀ k e, lookup s k now = some e → isLive sweepAt e = true) :
    Alike now (Store.swept s sweepAt) s := by
  intro k
  apply Option.ext
  intro e
  rw [lookup_eq_some_iff, get?_swept, lookup_eq_some_iff, lookup_eq_some_iff]
  constructor
  · rintro ⟨⟨hk, -⟩, he⟩
    exact ⟨hk, he⟩
  · rintro ⟨hk, he⟩
    have hlive : isLive sweepAt e = true := h k e (lookup_eq_some_iff.2 ⟨hk, he⟩)
    exact ⟨⟨hk, isLive_eq_true_iff.1 hlive⟩, he⟩

theorem swept (s : Store) (hle : now ≤ later) : Alike later (swept s now) s :=
  fun k => lookup_swept s k hle

theorem perm_liveEntries (h : Alike now s₁ s₂) :
    (liveEntries s₁ now).Perm (liveEntries s₂ now) := by
  apply (List.perm_ext_iff_of_nodup (nodup_liveEntries s₁ now) (nodup_liveEntries s₂ now)).2
  rintro ⟨k, e⟩
  rw [mem_liveEntries, mem_liveEntries, h k]

theorem perm_liveKeys (h : Alike now s₁ s₂) : (liveKeys s₁ now).Perm (liveKeys s₂ now) := by
  rw [liveKeys_eq_map, liveKeys_eq_map]
  exact h.perm_liveEntries.map Prod.fst

theorem holds_eq (h : Alike now s₁ s₂) : holds s₁ now = holds s₂ now := by
  funext k
  rw [holds, holds, h k]

end Alike

theorem census_active (s : Store) (now : Int) :
    (census s now).active = (liveEntries s now).length := by
  have hexp : (s.entries.map Prod.snd).countP (fun e => e.isExpired now) =
      s.entries.countP fun p => p.2.isExpired now := List.countP_map
  have hlive : (liveEntries s now).length = s.entries.countP fun p => !p.2.isExpired now :=
    List.countP_eq_length_filter.symm
  have hsum := List.length_eq_countP_add_countP (fun p : String × Entry => p.2.isExpired now)
    (l := s.entries)
  have hnot : (fun p : String × Entry => decide ¬ p.2.isExpired now = true) =
      fun p => !p.2.isExpired now := by
    funext p
    cases p.2.isExpired now <;> rfl
  rw [hnot] at hsum
  -- the census counts what is active as the rest of all entries
  show s.entries.length - (s.entries.map Prod.snd).countP (fun e => e.isExpired now) = _
  omega

theorem countP_live (s : Store) (now : Int) (p : Entry → Bool) :
    (s.entries.map Prod.snd).countP (fun e => isLive now e && p e) =
      (liveEntries s now).countP fun q => p q.2 := by
  rw [liveEntries, List.countP_filter, List.countP_map]
  apply List.countP_congr
  intro q _
  simp [Bool.and_comm]

theorem census_volatile (s : Store) (now : Int) :
    (census s now).volatile = (liveEntries s now).countP fun p => p.2.isVolatile :=
  countP_live s now Entry.isVolatile

theorem Alike.keyspaceReport_eq (h : Alike now s₁ s₂) :
    keyspaceReport (census s₁ now) = keyspaceReport (census s₂ now) := by
  have hactive : (census s₁ now).active = (census s₂ now).active := by
    rw [census_active, census_active, h.perm_liveEntries.length_eq]
  have hvolatile : (census s₁ now).volatile = (census s₂ now).volatile := by
    rw [census_volatile, census_volatile, h.perm_liveEntries.countP_eq]
  rw [keyspaceReport, keyspaceReport, hactive, hvolatile]

/-- Reports look at a census for the report on the keys alone. -/
theorem reportsOn_congr {c₁ c₂ : Census} (h : keyspaceReport c₁ = keyspaceReport c₂)
    (topic : Option String) : reportsOn topic c₁ = reportsOn topic c₂ := by
  unfold reportsOn
  rw [h]

end Store
end Keyspace
