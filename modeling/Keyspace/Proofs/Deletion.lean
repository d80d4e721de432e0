import Mathlib.Algebra.Order.BigOperators.Group.Finset
import Keyspace.Proofs.Instant
import Keyspace.Proofs.Removal

namespace Keyspace

open Store

namespace Table

variable {α : Type} {t : Table α} {ks : List String}

/-- Each stored name that is given once takes one entry out. -/
theorem size_eraseAll (distinct : ks.Nodup) (stored : ∀ k ∈ ks, t.contains k = true) :
    (t.eraseAll ks).size + ks.length = t.size := by
  have hkeys : (t.keys.filter fun k => k ∈ ks).Perm ks := by
    apply (List.perm_ext_iff_of_nodup (List.filter_sublist.nodup t.nodup_names) distinct).2
    intro k
    rw [List.mem_filter, decide_eq_true_eq]
    exact ⟨And.right, fun hk => ⟨(contains_iff_mem_keys t k).1 (stored k hk), hk⟩⟩
  have hsplit := List.length_eq_length_filter_add (l := t.keys) fun k => decide (k ∈ ks)
  have hleft : (t.eraseAll ks).keys = t.keys.filter fun k => !decide (k ∈ ks) := by
    simp [keys_eraseAll]
  rw [hkeys.length_eq, ← hleft] at hsplit
  simp only [keys, List.length_map] at hsplit
  rw [size, size, hsplit, Nat.add_comm]

end Table

namespace Store

/-- The live keys among those named, each once. -/
def liveAmong (s : Store) (ks : List String) (now : Int) : Finset String :=
  ks.toFinset.filter fun k => holds s now k = true

variable {s : Store} {ks : List String} {now : Int} {k : String}

theorem mem_liveAmong : k ∈ liveAmong s ks now ↔ k ∈ ks ∧ holds s now k = true := by
  rw [liveAmong, Finset.mem_filter, List.mem_toFinset]

theorem mem_filter_distinct :
    k ∈ (distinct ks).filter (holds s now) ↔ k ∈ liveAmong s ks now := by
  rw [List.mem_filter, mem_distinct, mem_liveAmong]

theorem length_filter_distinct (s : Store) (ks : List String) (now : Int) :
    ((distinct ks).filter (holds s now)).length = (liveAmong s ks now).card := by
  rw [← List.toFinset_card_of_nodup (nodup_filter_distinct s ks now)]
  congr 1
  ext k
  rw [List.mem_toFinset, mem_filter_distinct]

theorem contains_of_holds (h : holds s now k = true) : s.contains k = true := by
  obtain ⟨e, he⟩ := holds_iff.1 h
  rw [Table.contains, (lookup_eq_some_iff.1 he).1]
  rfl

end Store

theorem outcome_existing (s : Store) (ks : List String) (now : Int) :
    (Command.existing ks).outcome s now = .unchanged (.integer (ks.countP (holds s now))) := rfl

theorem countP_holds (s : Store) (ks : List String) (now : Int) :
    ks.countP (holds s now) = ∑ k ∈ liveAmong s ks now, ks.count k := by
  rw [liveAmong, Finset.sum_filter_count_eq_countP]
  simp

theorem card_liveAmong_le (s : Store) (ks : List String) (now : Int) :
    (liveAmong s ks now).card ≤ ks.countP (holds s now) := by
  calc (liveAmong s ks now).card = ∑ k ∈ liveAmong s ks now, 1 := Finset.card_eq_sum_ones _
    _ ≤ ∑ k ∈ liveAmong s ks now, ks.count k := Finset.sum_le_sum fun k hk =>
        List.count_pos_iff.2 (mem_liveAmong.1 hk).1
    _ = ks.countP (holds s now) := (countP_holds s ks now).symm

/-- `DEL` finds none of the keys live, or takes out those that are. -/
theorem del_cases (s : Store) (ks : List String) (now : Int) :
    (distinct ks).filter (holds s now) = [] ∧
        (Command.del ks).outcome s now = .unchanged (.integer 0) ∨
      ∃ live, (distinct ks).filter (holds s now) = live ∧ live ≠ [] ∧
        (Command.del ks).outcome s now = .changed (.integer live.length) (s.eraseAll live) := by
  show _ ∧ Store.del s ks now = _ ∨ ∃ live, _ ∧ _ ∧ Store.del s ks now = _
  unfold Store.del
  split
  · next hnone => exact Or.inl ⟨hnone, rfl⟩
  · next live hlive => exact Or.inr ⟨_, rfl, hlive, rfl⟩

theorem reply_del (s : Store) (ks : List String) (now : Int) :
    ((Command.del ks).outcome s now).reply = .integer (liveAmong s ks now).card := by
  rw [← length_filter_distinct]
  rcases del_cases s ks now with ⟨hnone, ho⟩ | ⟨live, hlive, -, ho⟩
  · rw [ho, hnone]
    rfl
  · rw [ho, hlive]
    rfl

theorem replacement_del_eq_none_iff (s : Store) (ks : List String) (now : Int) :
    ((Command.del ks).outcome s now).replacement = none ↔ (liveAmong s ks now).card = 0 := by
  rw [← length_filter_distinct, List.length_eq_zero_iff]
  rcases del_cases s ks now with ⟨hnone, ho⟩ | ⟨live, rfl, hne, ho⟩
  · rw [ho]
    exact iff_of_true rfl hnone
  · rw [ho]
    exact iff_of_false (fun h => nomatch h) hne

/-- What `DEL` leaves is the store without the live keys among those named. -/
theorem after_del (s : Store) (ks : List String) (now : Int) :
    ((Command.del ks).outcome s now).after s =
      s.eraseAll ((distinct ks).filter (holds s now)) := by
  have hremove := Table.remove_eq_ok s (nodup_filter_distinct s ks now)
  exact Except.ok.inj ((remove_del s ks now).symm.trans hremove)

theorem entries_after_del (s : Store) (ks : List String) (now : Int) :
    (((Command.del ks).outcome s now).after s).entries =
      s.entries.filter fun p => p.1 ∉ liveAmong s ks now := by
  rw [after_del, Table.entries_eraseAll]
  apply List.filter_congr
  intro p _
  rw [Bool.eq_iff_iff, decide_eq_true_eq, ← mem_filter_distinct, List.contains_eq_mem,
    Bool.not_eq_true', decide_eq_false_iff_not]

theorem holds_after_del (s : Store) (ks : List String) (now : Int) (k : String) :
    holds (((Command.del ks).outcome s now).after s) now k = true ↔
      holds s now k = true ∧ k ∉ ks := by
  rw [after_del, holds, lookup_eraseAll]
  by_cases hk : holds s now k = true
  · have hin : k ∈ (distinct ks).filter (holds s now) ↔ k ∈ ks := by
      rw [mem_filter_distinct, mem_liveAmong, and_iff_left hk]
    by_cases hks : k ∈ ks
    · simp [hin, hks]
    · rw [if_neg (mt hin.1 hks)]
      exact ⟨fun h => ⟨h, hks⟩, And.left⟩
  · have hnone : lookup s k now = none := Option.not_isSome_iff_eq_none.1 hk
    simp [hnone, hk]

theorem liveKeys_after_del (s : Store) (ks : List String) (now : Int) :
    liveKeys (((Command.del ks).outcome s now).after s) now =
      (liveKeys s now).filter fun k => k ∉ ks := by
  rw [liveKeys, entries_after_del, liveKeys, List.filter_map, List.filter_filter,
    List.filter_filter]
  congr 1
  apply List.filter_congr
  rintro ⟨k, e⟩ hp
  have hget : s.get? k = some e := (Table.get?_eq_some_iff s).2 hp
  rw [Bool.eq_iff_iff, Bool.and_eq_true, Bool.and_eq_true, Function.comp_apply]
  simp only [decide_eq_true_eq, mem_liveAmong, not_and]
  constructor
  · rintro ⟨hlive, hout⟩
    have hholds : holds s now k = true :=
      holds_iff.2 ⟨e, lookup_eq_some_iff.2 ⟨hget, isLive_eq_true_iff.1 hlive⟩⟩
    exact ⟨fun hk => hout hk hholds, hlive⟩
  · rintro ⟨hk, hlive⟩
    exact ⟨hlive, fun hin => absurd hin hk⟩

/-- `DEL` takes each live key out once and counts it once, however often it is named; `EXISTS`
counts it as often as it is named, and not at all afterwards. -/
theorem del_removes_live_keys (s : Store) (ks : List String) (now : Int) :
    ∃ o, (Command.del ks).run s now = .ok o ∧
      (∀ limits line, LineOf limits .del ks line → execute limits line s now = .ok o) ∧
      o.reply = .integer (liveAmong s ks now).card ∧
      (o.after s).size + (liveAmong s ks now).card = s.size ∧
      (o.replacement = none ↔ (liveAmong s ks now).card = 0) ∧
      s.remove ((distinct ks).filter (holds s now)) = .ok (o.after s) ∧
      (o.after s).entries = s.entries.filter (fun p => p.1 ∉ liveAmong s ks now) ∧
      liveKeys (o.after s) now = (liveKeys s now).filter (fun k => k ∉ ks) ∧
      (∀ t, (Command.existing ks).run t now =
        .ok (.unchanged (.integer (ks.countP (holds t now))))) ∧
      (∀ limits line, LineOf limits .existing ks line → ∀ t,
        execute limits line t now = .ok (.unchanged (.integer (ks.countP (holds t now))))) ∧
      ks.countP (holds s now) = ∑ k ∈ liveAmong s ks now, ks.count k ∧
      (liveAmong s ks now).card ≤ ks.countP (holds s now) ∧
      ks.countP (holds (o.after s) now) = 0 := by
  refine ⟨(Command.del ks).outcome s now, rfl, fun _ _ h => h.execute_eq rfl s now,
    reply_del s ks now, ?_, replacement_del_eq_none_iff s ks now, remove_del s ks now,
    entries_after_del s ks now, liveKeys_after_del s ks now, fun _ => rfl,
    fun _ _ h t => h.execute_eq rfl t now, countP_holds s ks now, card_liveAmong_le s ks now, ?_⟩
  · rw [after_del, ← length_filter_distinct]
    exact Table.size_eraseAll (nodup_filter_distinct s ks now) fun k hk =>
      contains_of_holds (List.mem_filter.1 hk).2
  · rw [List.countP_eq_zero]
    intro k hk hholds
    exact ((holds_after_del s ks now k).1 hholds).2 hk

/-- A key that stays, one that has expired by the instant 10, and one more. -/
def staleBetween : Store :=
  ⟨[("a", ⟨.string "1", none⟩), ("b", ⟨.string "2", some 10⟩), ("c", ⟨.string "3", some 11⟩)],
    by decide⟩

/-- Of two live keys one is named twice, beside an expired key and one that was never there. -/
theorem del_removes_live_keys_repeated :
    ∃ o, execute {} "DEL c b c 'd'" staleBetween 10 = .ok o ∧
      o.reply = .integer (liveAmong staleBetween ["c", "b", "c", "d"] 10).card ∧
      execute {} "EXISTS c b c d" staleBetween 10 = .ok (.unchanged (.integer 2)) ∧
      execute {} "EXISTS c b c d" (o.after staleBetween) 10 = .ok (.unchanged (.integer 0)) := by
  obtain ⟨o, -, hdel, hreply, -, -, -, -, -, -, hexists, -, -, hnone⟩ :=
    del_removes_live_keys staleBetween ["c", "b", "c", "d"] 10
  have hasked : LineOf {} .existing ["c", "b", "c", "d"] "EXISTS c b c d" := ⟨⟨rfl, rfl, rfl⟩, rfl⟩
  refine ⟨o, hdel {} _ ⟨⟨rfl, rfl, rfl⟩, rfl⟩, hreply, hexists {} _ hasked staleBetween, ?_⟩
  rw [hexists {} _ hasked, hnone]
  rfl

end Keyspace
