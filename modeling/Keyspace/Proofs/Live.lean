import Mathlib.Data.List.Nodup
import Keyspace.Store

namespace Keyspace.Store

variable {s : Store} {k : String} {now later : Int} {e : Entry}

theorem isLive_eq_true_iff : isLive now e = true ↔ e.isExpired now = false := by
  simp [isLive]

theorem isLive_of_le (h : isLive later e = true) (hle : now ≤ later) : isLive now e = true := by
  rw [isLive_eq_true_iff] at h ⊢
  by_contra hx
  have hexp : e.isExpired later = true := Entry.isExpired_mono (Bool.of_not_eq_false hx) hle
  rw [hexp] at h
  exact Bool.noConfusion h

theorem isLive_of_expiresAt {t : Int} (h : e.expiresAt = some t) :
    isLive now e = true ↔ now < t := by
  simp [isLive, Entry.isExpired, h]

theorem isLive_iff_lt : isLive now e = true ↔ ∀ t, e.expiresAt = some t → now < t := by
  cases h : e.expiresAt with
  | none => simp [isLive, Entry.isExpired, h]
  | some t => simp [isLive_of_expiresAt h]

/-- An entry with an expiry is found before that instant, and not from then on. -/
theorem lookup_of_expiresAt {t : Int} (hk : s.get? k = some e) (ht : e.expiresAt = some t)
    (now : Int) : lookup s k now = if now < t then some e else none := by
  rw [lookup, hk, Option.filter_some]
  by_cases h : now < t
  · rw [if_pos ((isLive_of_expiresAt ht).2 h), if_pos h]
  · rw [if_neg (fun hl => h ((isLive_of_expiresAt ht).1 hl)), if_neg h]

theorem lookup_later (s : Store) (k : String) (hle : now ≤ later) :
    lookup s k later = (lookup s k now).filter (isLive later) := by
  unfold lookup
  cases s.get? k with
  | none => rfl
  | some e =>
    by_cases hl : isLive later e = true
    · have hn : isLive now e = true := isLive_of_le hl hle
      simp only [Option.filter_some, hn, hl, if_true]
    · by_cases hn : isLive now e = true
      · simp only [Option.filter_some, hn, hl, if_true]
      · rw [Option.filter_some, Option.filter_some, if_neg hl, if_neg hn, Option.filter_none]

theorem lookup_none_later (h : lookup s k now = none) (hle : now ≤ later) :
    lookup s k later = none := by
  rw [lookup_later s k hle, h, Option.filter_none]

theorem lookup_insert (s : Store) (key : String) (e : Entry) (k : String) (now : Int) :
    lookup (s.insert key e) k now =
      if k = key then (some e).filter (isLive now) else lookup s k now := by
  rw [lookup, Table.get?_insert]
  split
  · rfl
  · rfl

theorem lookup_eraseAll (s : Store) (ks : List String) (k : String) (now : Int) :
    lookup (s.eraseAll ks) k now = if k ∈ ks then none else lookup s k now := by
  rw [lookup, Table.get?_eraseAll]
  split
  · rfl
  · rfl

theorem lookup_erase (s : Store) (key k : String) (now : Int) :
    lookup (s.erase key) k now = if k = key then none else lookup s k now := by
  rw [Table.erase, lookup_eraseAll]
  simp only [List.mem_singleton]

theorem mem_expiredKeys :
    k ∈ expiredKeys s now ↔ ∃ e, s.get? k = some e ∧ e.isExpired now = true := by
  constructor
  · intro h
    obtain ⟨⟨key, e⟩, hp, rfl⟩ := List.mem_map.1 h
    obtain ⟨hm, he⟩ := List.mem_filter.1 hp
    exact ⟨e, s.get?_eq_some_iff.2 hm, he⟩
  · rintro ⟨e, hk, he⟩
    exact List.mem_map.2 ⟨(k, e), List.mem_filter.2 ⟨s.get?_eq_some_iff.1 hk, he⟩, rfl⟩

theorem get?_swept (s : Store) (k : String) (now : Int) :
    (swept s now).get? k = lookup s k now := by
  rw [swept_eq_eraseAll, Table.get?_eraseAll, lookup]
  cases hk : s.get? k with
  | none => simp
  | some e =>
    cases he : e.isExpired now
    · have hm : k ∉ expiredKeys s now := by
        rw [mem_expiredKeys, hk]
        rintro ⟨e', h, h'⟩
        rw [← Option.some.inj h, he] at h'
        exact Bool.noConfusion h'
      rw [if_neg hm, Option.filter_some, if_pos (isLive_eq_true_iff.2 he)]
    · have hm : k ∈ expiredKeys s now := mem_expiredKeys.2 ⟨e, hk, he⟩
      have hl : ¬ isLive now e = true := by simp [isLive, he]
      rw [if_pos hm, Option.filter_some, if_neg hl]

theorem lookup_swept (s : Store) (k : String) (hle : now ≤ later) :
    lookup (swept s now) k later = lookup s k later := by
  rw [lookup, get?_swept, ← lookup_later s k hle]

def liveEntries (s : Store) (now : Int) : List (String × Entry) :=
  s.entries.filter fun p => isLive now p.2

theorem mem_liveEntries : (k, e) ∈ liveEntries s now ↔ lookup s k now = some e := by
  rw [liveEntries, List.mem_filter, ← s.get?_eq_some_iff, lookup, Option.filter_eq_some_iff]

theorem nodup_liveEntries (s : Store) (now : Int) : (liveEntries s now).Nodup :=
  List.filter_sublist.nodup (List.Nodup.of_map Prod.fst s.nodup_names)

theorem liveKeys_eq_map (s : Store) (now : Int) :
    liveKeys s now = (liveEntries s now).map Prod.fst := rfl

theorem mem_liveKeys : k ∈ liveKeys s now ↔ ∃ e, lookup s k now = some e := by
  rw [liveKeys_eq_map, List.mem_map]
  constructor
  · rintro ⟨⟨k, e⟩, he, rfl⟩
    exact ⟨e, mem_liveEntries.1 he⟩
  · rintro ⟨e, he⟩
    exact ⟨(k, e), mem_liveEntries.2 he, rfl⟩

theorem holds_iff : holds s now k = true ↔ ∃ e, lookup s k now = some e :=
  Option.isSome_iff_exists

theorem liveKeys_eq_filter (s : Store) (now : Int) :
    liveKeys s now = s.keys.filter (holds s now) := by
  rw [liveKeys, Table.keys, List.filter_map]
  congr 1
  apply List.filter_congr
  rintro ⟨k, e⟩ hp
  have hk : s.get? k = some e := s.get?_eq_some_iff.2 hp
  show isLive now e = (lookup s k now).isSome
  rw [lookup, hk, Option.filter_some]
  cases isLive now e <;> rfl

theorem nodup_liveKeys (s : Store) (now : Int) : (liveKeys s now).Nodup := by
  rw [liveKeys_eq_filter]
  exact s.nodup_names.filter _

theorem liveKeys_sublist_keys (s : Store) (now : Int) : (liveKeys s now).Sublist s.keys := by
  rw [liveKeys_eq_filter]
  exact List.filter_sublist

theorem liveKeys_later (s : Store) (hle : now ≤ later) :
    liveKeys s later = (liveKeys s now).filter (holds s later) := by
  rw [liveKeys_eq_filter, liveKeys_eq_filter, List.filter_filter]
  apply List.filter_congr
  intro k _
  cases hlater : holds s later k with
  | false => rfl
  | true =>
    rw [Bool.true_and, eq_comm, holds, Option.isSome_iff_ne_none]
    intro hnow
    rw [holds, lookup_none_later hnow hle] at hlater
    cases hlater

theorem liveKeys_eraseAll_sublist (s : Store) (ks : List String) (now : Int) :
    (liveKeys (s.eraseAll ks) now).Sublist (liveKeys s now) :=
  (List.filter_sublist.filter _).map Prod.fst

theorem liveKeys_swept_sublist (s : Store) (sweepAt now : Int) :
    (liveKeys (swept s sweepAt) now).Sublist (liveKeys s now) := by
  rw [swept_eq_eraseAll]
  exact liveKeys_eraseAll_sublist s _ now

theorem holds_insert (s : Store) (he : isLive now e = true) (k' : String) :
    holds (s.insert k e) now k' = (decide (k' = k) || holds s now k') := by
  rw [holds, lookup_insert]
  by_cases hk : k' = k
  · simp [hk, he]
  · simp [hk, holds]

theorem liveKeys_insert_of_mem (hk : k ∈ liveKeys s now) (he : isLive now e = true) :
    liveKeys (s.insert k e) now = liveKeys s now := by
  rw [liveKeys_eq_filter, liveKeys_eq_filter s, Table.keys_insert,
    if_pos ((liveKeys_sublist_keys s now).subset hk)]
  apply List.filter_congr
  intro k' _
  rw [holds_insert s he]
  by_cases hkk : k' = k
  · rw [hkk, holds_iff.2 (mem_liveKeys.1 hk), Bool.or_true]
  · rw [decide_eq_false hkk, Bool.false_or]

theorem liveKeys_insert_of_not_mem (hk : k ∉ s.keys) (he : isLive now e = true) :
    liveKeys (s.insert k e) now = liveKeys s now ++ [k] := by
  rw [liveKeys_eq_filter, liveKeys_eq_filter s, Table.keys_insert, if_neg hk, List.filter_append]
  congr 1
  · apply List.filter_congr
    intro k' hk'
    have hne : k' ≠ k := fun hkk => hk (hkk ▸ hk')
    rw [holds_insert s he, decide_eq_false hne, Bool.false_or]
  · simp [holds_insert s he]

end Keyspace.Store
