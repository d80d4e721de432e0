import Keyspace.Proofs.Live

namespace Keyspace

namespace Store

variable {s s' : Store} {now : Int}

theorem entries_swept (s : Store) (now : Int) : (swept s now).entries = liveEntries s now := by
  rw [swept_eq_eraseAll, Table.entries_eraseAll, liveEntries]
  apply List.filter_congr
  rintro ⟨k, e⟩ hp
  -- no other entry has this name, so the entry goes just where its name does
  have hk : s.get? k = some e := s.get?_eq_some_iff.2 hp
  have hexpired : k ∈ expiredKeys s now ↔ e.isExpired now = true := by
    rw [mem_expiredKeys, hk]
    simp
  rw [Bool.eq_iff_iff, Bool.not_eq_true', List.contains_eq_mem, decide_eq_false_iff_not, hexpired,
    isLive_eq_true_iff, Bool.not_eq_true]

theorem sweep_eq_none_iff : sweep s now = none ↔ expiredKeys s now = [] := by
  unfold sweep
  split
  · next hnil => exact iff_of_true rfl hnil
  · next hne => exact iff_of_false nofun hne

theorem eq_swept_of_sweep (h : sweep s now = some s') : s' = swept s now := by
  rw [swept, h, Option.getD_some]

theorem expiredKeys_eq_nil_iff :
    expiredKeys s now = [] ↔ ¬ ∃ p ∈ s.entries, ∃ t, p.2.expiresAt = some t ∧ t ≤ now := by
  simp only [expiredKeys, List.map_eq_nil_iff, List.filter_eq_nil_iff,
    Entry.isExpired_eq_true_iff, not_exists, not_and]

theorem sweep_eq_some_iff :
    sweep s now = some s' ↔ expiredKeys s now ≠ [] ∧ s' = swept s now := by
  constructor
  · intro h
    refine ⟨fun hnil => ?_, eq_swept_of_sweep h⟩
    rw [sweep_eq_none_iff.2 hnil] at h
    cases h
  · rintro ⟨hne, rfl⟩
    obtain ⟨s', hs'⟩ := Option.ne_none_iff_exists'.1 (mt sweep_eq_none_iff.1 hne)
    rw [hs', eq_swept_of_sweep hs']

theorem size_swept (s : Store) (now : Int) :
    (swept s now).size + (expiredKeys s now).length = s.size := by
  have hsplit := List.length_eq_length_filter_add (l := s.entries) fun p => isLive now p.2
  have hexpired : (fun p : String × Entry => !isLive now p.2) = fun p => p.2.isExpired now := by
    funext p
    rw [isLive, Bool.not_not]
  rw [hexpired] at hsplit
  rw [Table.size, entries_swept, liveEntries, expiredKeys, List.length_map]
  exact hsplit.symm

theorem isLive_max (e : Entry) (t₁ t₂ : Int) :
    isLive (max t₁ t₂) e = (isLive t₂ e && isLive t₁ e) := by
  rw [Bool.eq_iff_iff, Bool.and_eq_true, isLive_iff_lt, isLive_iff_lt, isLive_iff_lt]
  simp only [Int.max_lt]
  constructor
  · intro h
    exact ⟨fun t ht => (h t ht).2, fun t ht => (h t ht).1⟩
  · rintro ⟨h₂, h₁⟩ t ht
    exact ⟨h₁ t ht, h₂ t ht⟩

theorem swept_swept (s : Store) (t₁ t₂ : Int) :
    swept (swept s t₁) t₂ = swept s (max t₁ t₂) := by
  apply Table.ext_entries
  simp only [entries_swept, liveEntries, List.filter_filter, isLive_max]

theorem sweep_swept (s : Store) (now : Int) : sweep (swept s now) now = none := by
  rw [sweep_eq_none_iff, expiredKeys, entries_swept, liveEntries, List.filter_filter,
    List.map_eq_nil_iff, List.filter_eq_nil_iff]
  intro p _
  simp [isLive]

end Store

open Store

/-- A sweep leaves what has not expired, unchanged and in its order, and two sweeps, in either
order, leave what one at the later instant leaves. -/
theorem sweep_keeps_unexpired (s : Store) :
    (∀ now,
      (sweep s now = none ↔ ¬ ∃ p ∈ s.entries, ∃ t, p.2.expiresAt = some t ∧ t ≤ now) ∧
      (∀ s', sweep s now = some s' ↔
        (∃ p ∈ s.entries, ∃ t, p.2.expiresAt = some t ∧ t ≤ now) ∧
          s'.entries = s.entries.filter fun p => ∀ t ∈ p.2.expiresAt, now < t) ∧
      s.remove (expiredKeys s now) = .ok (swept s now) ∧
      sweep (swept s now) now = none) ∧
    ∀ t₁ t₂, swept (swept s t₁) t₂ = swept s (max t₁ t₂) ∧
      swept (swept s t₁) t₂ = swept (swept s t₂) t₁ := by
  constructor
  · intro now
    refine ⟨sweep_eq_none_iff.trans expiredKeys_eq_nil_iff, ?_, remove_expiredKeys s now,
      sweep_swept s now⟩
    intro s'
    have hentries : (swept s now).entries =
        s.entries.filter fun p => ∀ t ∈ p.2.expiresAt, now < t := by
      rw [entries_swept, liveEntries]
      apply List.filter_congr
      intro p _
      rw [Bool.eq_iff_iff, isLive_iff_lt, decide_eq_true_iff]
      rfl
    rw [sweep_eq_some_iff, ne_eq, expiredKeys_eq_nil_iff, not_not, ← hentries]
    exact and_congr_right fun _ => ⟨congrArg Table.entries, Table.ext_entries⟩
  · intro t₁ t₂
    refine ⟨swept_swept s t₁ t₂, ?_⟩
    rw [swept_swept, swept_swept, Int.max_comm]

end Keyspace
