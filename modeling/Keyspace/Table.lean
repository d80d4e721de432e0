namespace Keyspace

/-- In the order in which the names first came. -/
structure Table (α : Type) where
  entries : List (String × α)
  nodup_names : (entries.map Prod.fst).Nodup

namespace Table

variable {α : Type}

def empty : Table α := ⟨[], List.nodup_nil⟩

def keys (t : Table α) : List String := t.entries.map Prod.fst

def size (t : Table α) : Nat := t.entries.length

def isEmpty (t : Table α) : Bool := t.entries.isEmpty

def valueOf (k : String) : List (String × α) → Option α
  | [] => none
  | p :: ps => if p.1 = k then some p.2 else valueOf k ps

def get? (t : Table α) (k : String) : Option α := valueOf k t.entries

def contains (t : Table α) (k : String) : Bool := (t.get? k).isSome

theorem isSome_valueOf (k : String) (ps : List (String × α)) :
    (valueOf k ps).isSome = true ↔ k ∈ ps.map Prod.fst := by
  induction ps with
  | nil => simp [valueOf]
  | cons p ps ih =>
    by_cases h : p.1 = k
    · simp [valueOf, h]
    · simp only [valueOf, if_neg h, ih, List.map_cons, List.mem_cons]
      exact ⟨Or.inr, fun hm => hm.resolve_left fun e => h e.symm⟩

theorem contains_iff_mem_keys (t : Table α) (k : String) : t.contains k = true ↔ k ∈ t.keys :=
  isSome_valueOf k t.entries

theorem valueOf_eq_some_iff {ps : List (String × α)} (h : (ps.map Prod.fst).Nodup) {k : String}
    {v : α} : valueOf k ps = some v ↔ (k, v) ∈ ps := by
  induction ps with
  | nil => simp [valueOf]
  | cons p ps ih =>
    obtain ⟨hp, hps⟩ := List.nodup_cons.1 h
    by_cases hk : p.1 = k
    · subst hk
      have hv : (p.1, v) ∉ ps := fun hm => hp (List.mem_map.2 ⟨_, hm, rfl⟩)
      rw [valueOf, if_pos rfl, List.mem_cons, or_iff_left hv, Option.some.injEq, Prod.ext_iff]
      exact ⟨fun e => ⟨rfl, e.symm⟩, fun e => e.2.symm⟩
    · have hne : (k, v) ≠ p := fun e => hk (congrArg Prod.fst e).symm
      rw [valueOf, if_neg hk, ih hps, List.mem_cons, or_iff_right hne]

theorem get?_eq_some_iff (t : Table α) {k : String} {v : α} :
    t.get? k = some v ↔ (k, v) ∈ t.entries :=
  valueOf_eq_some_iff t.nodup_names

def assign (k : String) (v : α) : List (String × α) → List (String × α)
  | [] => [(k, v)]
  | p :: ps => if p.1 = k then (k, v) :: ps else p :: assign k v ps

theorem map_fst_assign (k : String) (v : α) (ps : List (String × α)) :
    (assign k v ps).map Prod.fst =
      if k ∈ ps.map Prod.fst then ps.map Prod.fst else ps.map Prod.fst ++ [k] := by
  induction ps with
  | nil => simp [assign]
  | cons p ps ih =>
    by_cases h : p.1 = k
    · simp [assign, h]
    · have h' : k ≠ p.1 := fun e => h e.symm
      by_cases hm : k ∈ ps.map Prod.fst
      · rw [if_pos hm] at ih
        simp only [assign, if_neg h, List.map_cons, ih]
        rw [if_pos (List.mem_cons_of_mem _ hm)]
      · rw [if_neg hm] at ih
        simp only [assign, if_neg h, List.map_cons, ih]
        rw [if_neg (by simpa [h'] using hm)]
        rfl

theorem nodup_assign {ps : List (String × α)} (h : (ps.map Prod.fst).Nodup) (k : String) (v : α) :
    ((assign k v ps).map Prod.fst).Nodup := by
  rw [map_fst_assign]
  split
  · exact h
  · next hk => exact List.nodup_append.2 ⟨h, by simp, fun a ha b hb e => hk (by simp_all)⟩

def insert (t : Table α) (k : String) (v : α) : Table α :=
  ⟨assign k v t.entries, nodup_assign t.nodup_names k v⟩

theorem valueOf_assign (k k' : String) (v : α) (ps : List (String × α)) :
    valueOf k' (assign k v ps) = if k' = k then some v else valueOf k' ps := by
  induction ps with
  | nil => by_cases h : k = k' <;> simp [assign, valueOf, h, eq_comm]
  | cons p ps ih =>
    by_cases h : p.1 = k
    · by_cases h' : k = k'
      · simp [assign, valueOf, h, h']
      · simp [assign, valueOf, h, h', Ne.symm h']
    · by_cases h' : p.1 = k'
      · subst h'
        simp [assign, valueOf, h]
      · simp [assign, valueOf, h, h', ih]

theorem get?_insert (t : Table α) (k k' : String) (v : α) :
    (t.insert k v).get? k' = if k' = k then some v else t.get? k' :=
  valueOf_assign k k' v t.entries

theorem keys_insert (t : Table α) (k : String) (v : α) :
    (t.insert k v).keys = if k ∈ t.keys then t.keys else t.keys ++ [k] :=
  map_fst_assign k v t.entries

/-- A name that is given twice keeps its first place and its last value. -/
def ofList (ps : List (String × α)) : Table α := ps.foldl (fun t p => t.insert p.1 p.2) empty

def filter (t : Table α) (keep : String → α → Bool) : Table α :=
  ⟨t.entries.filter fun p => keep p.1 p.2, (List.filter_sublist.map Prod.fst).nodup t.nodup_names⟩

def eraseAll (t : Table α) (ks : List String) : Table α := t.filter fun k _ => !ks.contains k

def erase (t : Table α) (k : String) : Table α := t.eraseAll [k]

theorem entries_eraseAll (t : Table α) (ks : List String) :
    (t.eraseAll ks).entries = t.entries.filter fun p => !ks.contains p.1 := rfl

theorem valueOf_filter_keys (keep : String → Bool) (k : String) (ps : List (String × α)) :
    valueOf k (ps.filter fun p => keep p.1) = if keep k = true then valueOf k ps else none := by
  induction ps with
  | nil => simp [valueOf]
  | cons p ps ih =>
    by_cases hk : p.1 = k
    · subst hk
      cases h : keep p.1
      · simpa [List.filter_cons, h] using ih
      · simp [h, valueOf]
    · cases h : keep p.1
      · simpa [List.filter_cons, h, valueOf, hk] using ih
      · simpa [List.filter_cons, h, valueOf, hk] using ih

theorem get?_eraseAll (t : Table α) (ks : List String) (k : String) :
    (t.eraseAll ks).get? k = if k ∈ ks then none else t.get? k := by
  rw [get?, entries_eraseAll, valueOf_filter_keys fun k => !ks.contains k]
  by_cases hk : k ∈ ks <;> simp [hk, get?]

theorem keys_eraseAll (t : Table α) (ks : List String) :
    (t.eraseAll ks).keys = t.keys.filter fun k => !ks.contains k := by
  simp only [keys, entries_eraseAll, List.filter_map]
  rfl

theorem ext_entries {s t : Table α} (h : s.entries = t.entries) : s = t := by
  cases s
  cases t
  cases h
  rfl

@[simp] theorem eraseAll_nil (t : Table α) : t.eraseAll [] = t :=
  ext_entries (by simp [entries_eraseAll])

theorem eraseAll_eraseAll (t : Table α) (ks ls : List String) :
    (t.eraseAll ks).eraseAll ls = t.eraseAll (ks ++ ls) := by
  apply ext_entries
  simp [entries_eraseAll, List.filter_filter, List.contains_eq_mem, Bool.and_comm]

/-- Names that are not there make no difference. -/
theorem eraseAll_filter_contains (t : Table α) (ks : List String) :
    t.eraseAll (ks.filter t.contains) = t.eraseAll ks := by
  apply ext_entries
  rw [entries_eraseAll, entries_eraseAll]
  apply List.filter_congr
  intro p hp
  have hk : t.contains p.1 = true :=
    (contains_iff_mem_keys t p.1).2 (List.mem_map_of_mem hp)
  simp [hk]

theorem contains_erase_of_ne (t : Table α) {k l : String} (h : l ≠ k) :
    (t.erase k).contains l = t.contains l := by
  simp [contains, erase, get?_eraseAll, h]

/-- A name that is to be taken out once more. -/
structure TakenTwice where
  name : String
  deriving DecidableEq

/-- Takes the names out one after another; each has to be there at its turn. -/
def takeOut (t : Table α) : List String → Except TakenTwice (Table α)
  | [] => .ok t
  | k :: ks => if t.contains k then takeOut (t.erase k) ks else .error ⟨k⟩

theorem takeOut_eq_ok {ks : List String} (t : Table α) (distinct : ks.Nodup)
    (present : ∀ k ∈ ks, t.contains k = true) : t.takeOut ks = .ok (t.eraseAll ks) := by
  induction ks generalizing t with
  | nil => simp [takeOut]
  | cons k ks ih =>
    have ⟨hk, hks⟩ := List.nodup_cons.1 distinct
    have rest : ∀ l ∈ ks, (t.erase k).contains l = true := fun l hl => by
      have hne : l ≠ k := fun e => hk (e ▸ hl)
      rw [contains_erase_of_ne t hne]
      exact present l (List.mem_cons_of_mem k hl)
    rw [takeOut, if_pos (present k List.mem_cons_self), ih (t.erase k) hks rest, erase,
      eraseAll_eraseAll, List.singleton_append]

/-- Passes over names that are not there; a name that is there may be given once only. -/
def remove (t : Table α) (ks : List String) : Except TakenTwice (Table α) :=
  t.takeOut (ks.filter t.contains)

theorem remove_eq_ok {ks : List String} (t : Table α) (distinct : ks.Nodup) :
    t.remove ks = .ok (t.eraseAll ks) := by
  rw [remove, takeOut_eq_ok t (List.filter_sublist.nodup distinct) (by simp),
    eraseAll_filter_contains]

theorem remove_singleton (t : Table α) (k : String) : t.remove [k] = .ok (t.erase k) :=
  t.remove_eq_ok (List.pairwise_singleton _ k)

def containsAny (t : Table α) (ks : List String) : Bool := ks.any t.contains

/-- The same names with values that agree, whatever the order. -/
def agrees (eq : α → α → Bool) (a b : Table α) : Bool :=
  a.size == b.size && a.entries.all fun p =>
    match b.get? p.1 with
    | some v => eq p.2 v
    | none => false

end Table

end Keyspace
