import Mathlib.Data.List.Induction
import Mathlib.Data.List.Nodup
import Keyspace.Store

namespace Keyspace

namespace Table

variable {α : Type} {t t' : Table α} {k : String} {ks xs ys : List String}

theorem takeOut_append (t : Table α) (xs ys : List String) :
    t.takeOut (xs ++ ys) = (t.takeOut xs).bind fun t' => t'.takeOut ys := by
  induction xs generalizing t with
  | nil => rfl
  | cons x xs ih =>
    rw [List.cons_append, takeOut, takeOut]
    split
    · exact ih (t.erase x)
    · rfl

theorem contains_eraseAll (t : Table α) (ks : List String) (k : String) :
    (t.eraseAll ks).contains k = true ↔ t.contains k = true ∧ k ∉ ks := by
  rw [contains, get?_eraseAll]
  by_cases hk : k ∈ ks <;> simp [hk, contains]

theorem takeOut_stored (h : (ks.filter t.contains).Nodup) :
    t.takeOut (ks.filter t.contains) = .ok (t.eraseAll ks) := by
  have hstored : ∀ k ∈ ks.filter t.contains, t.contains k = true :=
    fun k hk => (List.mem_filter.1 hk).2
  rw [takeOut_eq_ok t h hstored, eraseAll_filter_contains]

theorem remove_of_once (h : (ks.filter t.contains).Nodup) : t.remove ks = .ok (t.eraseAll ks) :=
  takeOut_stored h

/-- The first stored name that is given once more ends a removal. -/
theorem remove_of_repeated {front back : List String} (hk : t.contains k = true)
    (hmem : k ∈ front) (hfront : (front.filter t.contains).Nodup) :
    t.remove (front ++ k :: back) = .error ⟨k⟩ := by
  have hgone : ¬ (t.eraseAll front).contains k = true := fun h =>
    ((contains_eraseAll t front k).1 h).2 hmem
  rw [remove, List.filter_append, List.filter_cons_of_pos hk, takeOut_append,
    takeOut_stored hfront]
  show (t.eraseAll front).takeOut (k :: back.filter t.contains) = _
  rw [takeOut, if_neg hgone]

theorem exists_first_repeated {p : String → Bool} (h : ¬ (ks.filter p).Nodup) :
    ∃ front k back, ks = front ++ k :: back ∧ p k = true ∧ k ∈ front ∧
      (front.filter p).Nodup := by
  induction ks using List.reverseRecOn with
  | nil => exact absurd List.nodup_nil h
  | append_singleton ks x ih =>
    by_cases hfront : (ks.filter p).Nodup
    · -- nothing is repeated in front of the last name, so that one is
      have hx : p x = true ∧ x ∈ ks := by
        by_contra hnot
        apply h
        rw [List.filter_append]
        refine hfront.append ((List.nodup_singleton x).filter p) ?_
        intro y hy hyx
        obtain ⟨hyx, hp⟩ := List.mem_filter.1 hyx
        rw [List.mem_singleton.1 hyx] at hy hp
        exact hnot ⟨hp, (List.mem_filter.1 hy).1⟩
      exact ⟨ks, x, [], rfl, hx.1, hx.2, hfront⟩
    · obtain ⟨front, k, back, rfl, hrest⟩ := ih hfront
      exact ⟨front, k, back ++ [x], by simp, hrest⟩

theorem remove_cases (t : Table α) (ks : List String) :
    ((ks.filter t.contains).Nodup ∧ t.remove ks = .ok (t.eraseAll ks)) ∨
      ∃ front k back, ks = front ++ k :: back ∧ t.contains k = true ∧ k ∈ front ∧
        (front.filter t.contains).Nodup ∧ t.remove ks = .error ⟨k⟩ := by
  by_cases h : (ks.filter t.contains).Nodup
  · exact Or.inl ⟨h, remove_of_once h⟩
  · obtain ⟨front, k, back, rfl, hk, hmem, hfront⟩ := exists_first_repeated h
    exact Or.inr ⟨front, k, back, rfl, hk, hmem, hfront, remove_of_repeated hk hmem hfront⟩

theorem remove_eq_ok_iff :
    t.remove ks = .ok t' ↔ (ks.filter t.contains).Nodup ∧ t' = t.eraseAll ks := by
  constructor
  · intro h
    rcases t.remove_cases ks with ⟨honce, hok⟩ | ⟨_, _, _, _, _, _, _, herror⟩
    · cases h.symm.trans hok
      exact ⟨honce, rfl⟩
    · cases h.symm.trans herror
  · rintro ⟨honce, rfl⟩
    exact remove_of_once honce

theorem remove_eq_error_iff :
    t.remove ks = .error ⟨k⟩ ↔ ∃ front back, ks = front ++ k :: back ∧ t.contains k = true ∧
      k ∈ front ∧ (front.filter t.contains).Nodup := by
  constructor
  · intro h
    rcases t.remove_cases ks with ⟨-, hok⟩ | ⟨front, j, back, hks, hj, hmem, hfront, herror⟩
    · cases h.symm.trans hok
    · cases h.symm.trans herror
      exact ⟨front, back, hks, hj, hmem, hfront⟩
  · rintro ⟨front, back, rfl, hk, hmem, hfront⟩
    exact remove_of_repeated hk hmem hfront

theorem containsAny_eq_false_iff : t.containsAny ks = false ↔ ∀ k ∈ ks, k ∉ t.keys := by
  simp only [containsAny, List.any_eq_false, contains_iff_mem_keys]

theorem eraseAll_eq_self_iff : t.eraseAll ks = t ↔ t.containsAny ks = false := by
  rw [containsAny_eq_false_iff]
  constructor
  · intro h k hk hstored
    have hgone : k ∉ (t.eraseAll ks).keys := by
      rw [keys_eraseAll, List.mem_filter]
      simp [hk]
    rw [h] at hgone
    exact hgone hstored
  · intro h
    apply ext_entries
    rw [entries_eraseAll, List.filter_eq_self]
    intro p hp
    have hstored : p.1 ∈ t.keys := List.mem_map_of_mem hp
    simpa using fun hk : p.1 ∈ ks => h p.1 hk hstored

/-- Two removals in turn are one of all the names, unless a stored name is given in both. -/
theorem remove_append (h : ∀ k ∈ xs, k ∈ ys → k ∉ t.keys) :
    t.remove (xs ++ ys) = (t.remove xs).bind fun t' => t'.remove ys := by
  have hall : t.remove (xs ++ ys) =
      (t.remove xs).bind fun t' => t'.takeOut (ys.filter t.contains) := by
    rw [remove, List.filter_append, takeOut_append, remove]
  rw [hall]
  rcases t.remove_cases xs with ⟨-, hok⟩ | ⟨_, k, _, _, _, _, _, herror⟩
  · -- of the names that are left, the same ones are still stored
    have hsame : ys.filter t.contains = ys.filter (t.eraseAll xs).contains := by
      apply List.filter_congr
      intro y hy
      rw [Bool.eq_iff_iff, contains_eraseAll, contains_iff_mem_keys]
      exact ⟨fun hstored => ⟨hstored, fun hx => h y hx hy hstored⟩, And.left⟩
    rw [hok]
    show (t.eraseAll xs).takeOut (ys.filter t.contains) = (t.eraseAll xs).remove ys
    rw [hsame, remove]
  · rw [herror]
    rfl

end Table

/-- It succeeds if and only if no stored key is given more than once, and ends at the first that is
given once more; removing in two turns is removing all at once. -/
theorem removal_is_exact (s : Store) :
    (∀ ks, (∃ s', s.remove ks = .ok s') ↔ (ks.filter s.contains).Nodup) ∧
    (∀ ks k, s.remove ks = .error ⟨k⟩ ↔ ∃ front back, ks = front ++ k :: back ∧
      s.contains k = true ∧ k ∈ front ∧ (front.filter s.contains).Nodup) ∧
    (∀ ks s', s.remove ks = .ok s' →
      s'.entries = s.entries.filter (fun p => p.1 ∉ ks) ∧
      (s' = s ↔ s.containsAny ks = false) ∧ (s' = s ↔ ∀ k ∈ ks, k ∉ s.keys)) ∧
    ∀ xs ys, (∀ k ∈ xs, k ∈ ys → k ∉ s.keys) →
      ((s.remove xs).bind fun s' => s'.remove ys) = s.remove (xs ++ ys) := by
  refine ⟨?_, fun ks k => Table.remove_eq_error_iff, ?_, ?_⟩
  · intro ks
    constructor
    · rintro ⟨s', h⟩
      exact (Table.remove_eq_ok_iff.1 h).1
    · intro honce
      exact ⟨s.eraseAll ks, Table.remove_of_once honce⟩
  · intro ks s' h
    obtain ⟨-, rfl⟩ := Table.remove_eq_ok_iff.1 h
    have hsame : s.eraseAll ks = s ↔ s.containsAny ks = false := Table.eraseAll_eq_self_iff
    refine ⟨?_, hsame, hsame.trans Table.containsAny_eq_false_iff⟩
    simp [Table.entries_eraseAll]
  · intro xs ys h
    exact (Table.remove_append h).symm

/-- Two texts under two keys. -/
def twoTexts : Store :=
  ⟨[("a", ⟨.string "1", none⟩), ("b", ⟨.string "2", none⟩)], by decide⟩

/-- Taken out in two turns a key may be given in both; in one it may not. -/
theorem removal_of_repeated_key :
    twoTexts.remove ["a", "c", "a"] = .error ⟨"a"⟩ ∧
      (∃ s', ((twoTexts.remove ["a", "c"]).bind fun s => s.remove ["a"]) = .ok s') ∧
      ¬ ∀ (s : Store) (ks : List String), ∃ s', s.remove ks = .ok s' := by
  have herror : twoTexts.remove ["a", "c", "a"] = .error ⟨"a"⟩ := rfl
  refine ⟨herror, ⟨_, rfl⟩, ?_⟩
  intro h
  obtain ⟨s', hs⟩ := h twoTexts ["a", "c", "a"]
  cases herror.symm.trans hs

end Keyspace
