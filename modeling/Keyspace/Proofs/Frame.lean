import Keyspace.Proofs.Change

namespace Keyspace

open Store

/-- Only the touched keys differ; what stays keeps its order, and a key that comes in is the first
argument and stands behind all others. -/
structure Framed (first : Option String) (touched : String → Prop) (s s' : Store) : Prop where
  same_entry : ∀ k, ¬ touched k → s'.get? k = s.get? k
  same_order : s'.keys.filter s.contains = s.keys.filter s'.contains
  newcomer_last : ∀ k ∈ s'.keys, k ∉ s.keys → first = some k ∧ s'.keys = s.keys ++ [k]
  same_place : ∀ k, touched k → k ∈ s.keys → k ∈ s'.keys → s'.keys = s.keys

section Framed

variable {first : Option String} {touched : String → Prop} {s : Store} {k : String}

theorem filter_contains_keys {α : Type} {t : Table α} {ks : List String} (h : ks ⊆ t.keys) :
    ks.filter t.contains = ks :=
  List.filter_eq_self.2 fun _ hk => (t.contains_iff_mem_keys _).2 (h hk)

theorem framed_insert (e : Entry) (hfirst : first = some k) (htouched : ∀ j, touched j ↔ j = k) :
    Framed first touched s (s.insert k e) := by
  have hkeys := s.keys_insert k e
  have hstay : s.keys.filter (s.insert k e).contains = s.keys := by
    apply filter_contains_keys
    rw [hkeys]
    split
    · exact List.Subset.refl s.keys
    · exact List.subset_append_left s.keys [k]
  constructor
  · intro j hj
    rw [Table.get?_insert, if_neg fun e => hj ((htouched j).2 e)]
  · rw [hstay, hkeys]
    split
    · exact filter_contains_keys (List.Subset.refl s.keys)
    · next hk =>
      have hnone : [k].filter s.contains = [] := by
        simpa [s.contains_iff_mem_keys] using hk
      rw [List.filter_append, filter_contains_keys (List.Subset.refl s.keys), hnone,
        List.append_nil]
  · -- the one key that may come in is the one written
    intro j hj hnew
    rw [hkeys] at hj ⊢
    split at hj
    · exact absurd hj hnew
    · next hk =>
      rcases List.mem_append.1 hj with hj | hj
      · exact absurd hj hnew
      · rw [List.mem_singleton.1 hj, if_neg hk]
        exact ⟨hfirst, rfl⟩
  · intro j hj hstored _
    rw [(htouched j).1 hj] at hstored
    rw [hkeys, if_pos hstored]

theorem framed_eraseAll {ks : List String} (htouched : ∀ j, touched j ↔ j ∈ ks) :
    Framed first touched s (s.eraseAll ks) := by
  have hkeys := s.keys_eraseAll ks
  have hsub : (s.eraseAll ks).keys ⊆ s.keys := by
    rw [hkeys]
    exact List.filter_subset_self s.keys
  constructor
  · intro j hj
    rw [Table.get?_eraseAll, if_neg fun hmem => hj ((htouched j).2 hmem)]
  · rw [filter_contains_keys hsub, hkeys]
    apply List.filter_congr
    intro j hj
    rw [Bool.eq_iff_iff, Table.contains_iff_mem_keys, hkeys, List.mem_filter]
    exact ⟨fun h => ⟨hj, h⟩, fun h => h.2⟩
  · intro j hj hnew
    exact absurd (hsub hj) hnew
  · intro j hj _ hstays
    rw [hkeys, List.mem_filter] at hstays
    simpa [(htouched j).1 hj] using hstays.2

end Framed

/-- Asking leaves a store as it is. -/
def Verb.asking : List Verb :=
  [get, existing, ttl, keys, info, lrange, smembers, sismember, hget, hgetall]

section Makes

variable {s : Store} {now : Int} {c : Command} {k : String} {e : Entry} {ks : List String}

theorem Makes.verb_not_asking {ch : Change} (h : Makes s now c ch) : c.verb ∉ Verb.asking := by
  cases h <;> simp only [Command.verb] <;> decide

theorem Makes.key_of_write (h : Makes s now c (.write k e)) : c.key? = some k := by
  cases h <;> rfl

theorem Makes.takeOut_eq (h : Makes s now c (.takeOut ks)) :
    (∃ names, c = .del names ∧ ks = (distinct names).filter (holds s now)) ∨
      ∃ k, c.key? = some k ∧ ks = [k] := by
  cases h with
  | del names => exact Or.inl ⟨names, rfl, rfl⟩
  | expireAtOnce | lpopLast => exact Or.inr ⟨_, rfl, rfl⟩

theorem Makes.eq_flushall (h : Makes s now c .clear) : c = .flushall := by
  cases h
  rfl

end Makes

/-- The keys that a request may touch: for `DEL` the live ones among its arguments, for any other
verb the first argument. -/
def Request.Touches (r : Request) (s : Store) (now : Int) (k : String) : Prop :=
  if r.verb = some .del then k ∈ r.arguments ∧ holds s now k = true
  else r.arguments.head? = some k

instance (r : Request) (s : Store) (now : Int) (k : String) : Decidable (r.Touches s now k) :=
  inferInstanceAs (Decidable (if r.verb = some .del then k ∈ r.arguments ∧ holds s now k = true
    else r.arguments.head? = some k))

section Line

variable {limits : Limits} {line : String} {s : Store} {now : Int} {c : Command} {o : Outcome}

theorem touches_iff_of_key {k : String} (hc : Command.ofLine limits line = .ok c)
    (hk : c.key? = some k) (j : String) : (Request.ofLine line).Touches s now j ↔ j = k := by
  obtain ⟨hverb, hhead⟩ := Command.names_of_ofLine hc hk
  have hdel : c.verb ≠ .del := by
    intro hverb
    cases c <;> cases hverb
    cases hk
  have hne : (Request.ofLine line).verb ≠ some .del := by
    rw [hverb]
    exact fun h => hdel (Option.some.inj h)
  rw [Request.Touches, if_neg hne, hhead, Option.some.injEq, eq_comm]

theorem touches_iff_of_del {names : List String}
    (hc : Command.ofLine limits line = .ok (.del names)) (j : String) :
    (Request.ofLine line).Touches s now j ↔ j ∈ (distinct names).filter (holds s now) := by
  obtain ⟨hpasses, hargs⟩ := Command.ofLine_eq_ok hc
  have hverb : (Request.ofLine line).verb = some .del := hpasses.verb_eq
  have hnames : (Request.ofLine line).arguments = names :=
    Command.arguments_of_several hargs (Or.inl rfl)
  rw [Request.Touches, if_pos hverb, hnames, List.mem_filter, mem_distinct]

/-- Every key that is not named keeps its entry, expired or not, and its place; a line that only
asks never replaces the store. -/
theorem named_keys_alone_are_touched (h : execute limits line s now = .ok o) :
    (∀ s', o.replacement = some s' → (Request.ofLine line).verb ≠ some .flushall →
      Framed (Request.ofLine line).arguments.head? ((Request.ofLine line).Touches s now) s s') ∧
    ((∃ v ∈ Verb.asking, (Request.ofLine line).verb = some v) → o.replacement = none) := by
  constructor
  · intro s' hs hflush
    obtain ⟨c, hc, ch, hch, rfl⟩ := leads_of_execute h hs
    cases ch with
    | write k e =>
      have hk := hch.key_of_write
      exact framed_insert e (Command.names_of_ofLine hc hk).2 (touches_iff_of_key hc hk)
    | takeOut ks =>
      rcases hch.takeOut_eq with ⟨names, rfl, rfl⟩ | ⟨k, hk, rfl⟩
      · exact framed_eraseAll (touches_iff_of_del hc)
      · apply framed_eraseAll
        intro j
        rw [touches_iff_of_key hc hk, List.mem_singleton]
    | clear =>
      cases hch.eq_flushall
      exact absurd (Command.verb_of_ofLine hc) hflush
  · rintro ⟨v, hv, hverb⟩
    rw [Option.eq_none_iff_forall_ne_some]
    intro s' hs
    obtain ⟨c, hc, ch, hch, -⟩ := leads_of_execute h hs
    have hcv : c.verb = v := Command.verb_eq_of_ofLine hc hverb
    exact hch.verb_not_asking (hcv ▸ hv)

end Line

/-- Two keys that have expired, and a list between them. -/
def partlyStale : Store :=
  ⟨[("a", ⟨.string "old", some 3⟩), ("b", ⟨.list ["x"], none⟩), ("c", ⟨.string "old", some 1⟩)],
    by decide⟩

/-- A key that has expired is not taken out with the others that are named, and a write to it
leaves its place and the other one that has expired. -/
theorem named_keys_alone_are_touched_stale :
    (∃ s', execute {} "DEL b a b" partlyStale 5 = .ok (.changed (.integer 1) s') ∧
      s'.get? "a" = partlyStale.get? "a") ∧
    ∃ s', execute {} "RPUSH a y" partlyStale 5 = .ok (.changed (.integer 1) s') ∧
      s'.get? "c" = partlyStale.get? "c" ∧ s'.keys = partlyStale.keys := by
  constructor
  · have hdel : execute {} "DEL b a b" partlyStale 5 =
        .ok (.changed (.integer 1) (partlyStale.eraseAll ["b"])) := rfl
    have hframe := (named_keys_alone_are_touched hdel).1 _ rfl (by decide +kernel)
    exact ⟨_, hdel, hframe.same_entry "a" (by decide +kernel)⟩
  · have hpush : execute {} "RPUSH a y" partlyStale 5 =
        .ok (.changed (.integer 1) (partlyStale.insert "a" ⟨.list ["y"], none⟩)) := rfl
    have hframe := (named_keys_alone_are_touched hpush).1 _ rfl (by decide +kernel)
    exact ⟨_, hpush, hframe.same_entry "c" (by decide +kernel),
      hframe.same_place "a" (by decide +kernel) (by decide) (by decide)⟩

end Keyspace
