import Mathlib.Algebra.Ring.Nat
import Mathlib.Data.List.Induction
import Keyspace.Proofs.Arguments
import Keyspace.Proofs.Instant

namespace Keyspace

open Store

section Distinct

variable {α : Type} [DecidableEq α] {x : α} {xs : List α}

theorem distinct_of_nodup (h : xs.Nodup) : distinct xs = xs := by
  induction xs with
  | nil => rfl
  | cons x xs ih =>
    obtain ⟨hx, hxs⟩ := List.nodup_cons.1 h
    rw [distinct, ih hxs, List.filter_eq_self.2]
    intro y hy
    exact decide_eq_true fun hyx => hx (hyx ▸ hy)

/-- One more element comes last, unless it was there before. -/
theorem distinct_append_singleton (xs : List α) (x : α) :
    distinct (xs ++ [x]) = if x ∈ xs then distinct xs else distinct xs ++ [x] := by
  induction xs with
  | nil => rfl
  | cons y ys ih =>
    rw [List.cons_append, distinct, ih, distinct]
    by_cases hxy : x = y
    · by_cases hmem : x ∈ ys <;> simp [hxy, hxy ▸ hmem]
    · by_cases hmem : x ∈ ys <;> simp [hxy, hmem]

end Distinct

theorem Table.size_insert {α : Type} (t : Table α) (k : String) (v : α) :
    (t.insert k v).size = if t.contains k then t.size else t.size + 1 := by
  have hlength (t : Table α) : t.size = t.keys.length := (List.length_map Prod.fst).symm
  rw [hlength, hlength, keys_insert]
  by_cases hk : k ∈ t.keys
  · rw [if_pos hk, if_pos ((t.contains_iff_mem_keys k).2 hk)]
  · rw [if_neg hk, if_neg (mt (t.contains_iff_mem_keys k).1 hk), List.length_append]
    rfl

/-- The value that a name is given last. -/
def lastValue? (fields : List (String × String)) (name : String) : Option String :=
  fields.reverse.lookup name

section Fields

variable {t : Table String} {fields : List (String × String)}

theorem writeFields_snd_append (t : Table String) (fields : List (String × String))
    (p : String × String) :
    (writeFields t (fields ++ [p])).2 = (writeFields t fields).2.insert p.1 p.2 := by
  rw [writeFields_snd, writeFields_snd, List.foldl_append]
  rfl

theorem writeFields_cons_fst (t : Table String) (p : String × String)
    (fields : List (String × String)) :
    (writeFields t (p :: fields)).1 =
      (writeFields t [p]).1 + (writeFields (writeFields t [p]).2 fields).1 := by
  simp only [writeFields]
  split <;> omega

theorem keys_writeFields (t : Table String) (fields : List (String × String)) :
    (writeFields t fields).2.keys = distinct (t.keys ++ fields.map Prod.fst) := by
  -- from behind: whether the last name is new depends on all that come before it
  induction fields using List.reverseRecOn with
  | nil =>
    rw [List.map_nil, List.append_nil]
    exact (distinct_of_nodup t.nodup_names).symm
  | append_singleton fields p ih =>
    rw [writeFields_snd_append, Table.keys_insert, ih, List.map_append, ← List.append_assoc,
      List.map_singleton, distinct_append_singleton]
    simp only [mem_distinct]

/-- A field has the value that it is given last, or else the one that it had. -/
theorem get?_writeFields (t : Table String) (fields : List (String × String)) (f : String) :
    (writeFields t fields).2.get? f = (lastValue? fields f).or (t.get? f) := by
  induction fields using List.reverseRecOn with
  | nil => rfl
  | append_singleton fields p ih =>
    rw [writeFields_snd_append, Table.get?_insert, ih, lastValue?, lastValue?, List.reverse_append,
      List.reverse_singleton, List.singleton_append, List.lookup_cons]
    by_cases hf : f = p.1
    · rw [if_pos hf, beq_iff_eq.2 hf]
      rfl
    · rw [if_neg hf, beq_false_of_ne hf]

theorem size_writeFields (t : Table String) (fields : List (String × String)) :
    (writeFields t fields).2.size = t.size + (writeFields t fields).1 := by
  induction fields generalizing t with
  | nil => rfl
  | cons p fields ih =>
    have hsize := t.size_insert p.1 p.2
    rw [writeFields]
    dsimp only
    rw [ih]
    split
    · next hold =>
      rw [if_pos hold] at hsize
      omega
    · next hnew =>
      rw [if_neg hnew] at hsize
      omega

end Fields

/-- The key stands for these fields. -/
abbrev Store.HashAt (s : Store) (k : String) (now : Int) (t : Table String) : Prop :=
  ContentAt Payload.hash? Table.empty s k now t

/-- A value, or nothing. -/
def Reply.optional : Option String → Reply
  | some v => .bulk v
  | none => .nil

/-- `HGET` answers with the value of a field, and `HGETALL` lists each name in this order, with its
value behind it. -/
structure Store.ShowsFields (s : Store) (k : String) (now : Int) (names : List String)
    (value : String → Option String) : Prop where
  asked : ∀ f, (Command.hget k f).outcome s now = .unchanged (.optional (value f))
  listed : ∃ shown : List (String × String),
    (Command.hgetall k).outcome s now = .unchanged (.array (shown.flatMap fun p => [p.1, p.2])) ∧
      shown.map Prod.fst = names ∧ ∀ p ∈ shown, value p.1 = some p.2

section Command

variable {s : Store} {k : String} {now : Int} {t : Table String} {x : Option Int}
  {fields : List (String × String)}

theorem outcome_hset (hx : heldHash s k now = .ok ⟨t, x⟩) (fields : List (String × String)) :
    (Command.hset k fields).outcome s now = .changed (.integer (writeFields t fields).1)
      (s.insert k ⟨.hash (writeFields t fields).2, x⟩) := by
  rw [Command.outcome, Command.run, setFields, hx]
  rfl

theorem heldHash_written (hx : heldHash s k now = .ok ⟨t, x⟩) (fields : List (String × String)) :
    heldHash (s.insert k ⟨.hash (writeFields t fields).2, x⟩) k now =
      .ok ⟨(writeFields t fields).2, x⟩ :=
  held_insert hx rfl

theorem outcome_hget (hx : heldHash s k now = .ok ⟨t, x⟩) (f : String) :
    (Command.hget k f).outcome s now = .unchanged (.optional (t.get? f)) := by
  rw [Command.outcome, Command.run, getField, hx, Except.map]
  dsimp only
  cases t.get? f <;> rfl

theorem outcome_hgetall (hx : heldHash s k now = .ok ⟨t, x⟩) :
    (Command.hgetall k).outcome s now =
      .unchanged (.array (t.entries.flatMap fun p => [p.1, p.2])) := by
  rw [Command.outcome, Command.run, allFields, hx]
  rfl

theorem Store.HashAt.shows (hs : s.HashAt k now t) : s.ShowsFields k now t.keys t.get? := by
  obtain ⟨x, hx⟩ := contentAt_iff.1 hs
  exact ⟨outcome_hget hx, t.entries, outcome_hgetall hx, rfl, fun p hp => t.get?_eq_some_iff.2 hp⟩

/-- The induction is on the fields behind the first, each of which is written over what the ones
before it left. -/
theorem afterAll_singles (hx : heldHash s k now = .ok ⟨t, x⟩) (p : String × String)
    (fields : List (String × String)) :
    s.afterAll now ((p :: fields).map fun p => .hset k [p]) =
      s.insert k ⟨.hash (writeFields t (p :: fields)).2, x⟩ := by
  induction fields generalizing s t p with
  | nil =>
    rw [List.map_singleton, afterAll, outcome_hset hx]
    rfl
  | cons q fields ih =>
    rw [List.map_cons, afterAll, outcome_hset hx]
    -- only what the last command writes under the key stays
    exact (ih (heldHash_written hx [p]) q).trans (s.insert_insert k _ _)

theorem replies_singles (hx : heldHash s k now = .ok ⟨t, x⟩) (fields : List (String × String)) :
    ∃ counts : List Nat,
      s.replies now (fields.map fun p => .hset k [p]) = counts.map (fun n => .integer n) ∧
        counts.sum = (writeFields t fields).1 := by
  induction fields generalizing s t with
  | nil => exact ⟨[], rfl, rfl⟩
  | cons p fields ih =>
    obtain ⟨counts, hreplies, hsum⟩ := ih (heldHash_written hx [p])
    refine ⟨(writeFields t [p]).1 :: counts, ?_, ?_⟩
    · rw [List.map_cons, replies, outcome_hset hx, List.map_cons]
      exact congrArg (Reply.integer (writeFields t [p]).1 :: ·) hreplies
    · rw [List.sum_cons, hsum, ← writeFields_cons_fst]

theorem Store.HashAt.hset (hs : s.HashAt k now t) (fields : List (String × String)) :
    ∃ (n : Nat) (s' : Store) (t' : Table String),
      (Command.hset k fields).outcome s now = .changed (.integer n) s' ∧ s'.HashAt k now t' ∧
      t'.size = t.size + n ∧ t'.keys = distinct (t.keys ++ fields.map Prod.fst) ∧
      t'.get? = fun f => (lastValue? fields f).or (t.get? f) := by
  obtain ⟨x, hx⟩ := contentAt_iff.1 hs
  refine ⟨(writeFields t fields).1, _, (writeFields t fields).2, outcome_hset hx fields, ?_⟩
  exact ⟨contentAt_iff.2 ⟨x, heldHash_written hx fields⟩, size_writeFields t fields,
    keys_writeFields t fields, funext (get?_writeFields t fields)⟩

/-- One command for all fields is what one for each of them comes to. -/
theorem Store.HashAt.hset_singles (hs : s.HashAt k now t) (hne : fields ≠ []) {n : Nat}
    {s' : Store} (h : (Command.hset k fields).outcome s now = .changed (.integer n) s') :
    s.afterAll now (fields.map fun p => .hset k [p]) = s' ∧
      ∃ counts : List Nat,
        s.replies now (fields.map fun p => .hset k [p]) = counts.map (fun m => .integer m) ∧
        counts.sum = n := by
  obtain ⟨x, hx⟩ := contentAt_iff.1 hs
  rw [outcome_hset hx] at h
  obtain ⟨p, fields, rfl⟩ := List.exists_cons_of_ne_nil hne
  cases h
  exact ⟨afterAll_singles hx p fields, replies_singles hx (p :: fields)⟩

end Command

section Lines

variable {limits : Limits} {line k : String} {lines rest : List String}
  {fields : List (String × String)}

theorem ofArguments_hset (k : String) (fields : List (String × String)) :
    Command.ofArguments .hset (k :: fields.flatMap fun p => [p.1, p.2]) =
      .ok (.hset k fields) := by
  rw [Command.ofArguments, Command.pairs?_flatMap]

/-- A field without a value fails the line, whatever else is wrong with it. -/
theorem ofLine_of_odd (limits : Limits) (hv : (Request.ofLine line).verb = some .hset)
    (hargs : (Request.ofLine line).arguments = k :: rest) (hodd : rest.length % 2 = 1) :
    ∃ why, Command.ofLine limits line = .error (.failed why) ∧
      (limits.allow (k :: rest) = true → ∃ name, why = .wrongArity name) := by
  have hnone : Command.pairs? rest = none := (Command.pairs?_eq_none_iff rest).2 hodd
  rw [← hargs]
  apply Command.failed_of_wrongArity hv
  rw [hargs, Command.ofArguments, hnone]

theorem forall₂_singles (h : List.Forall₂ (fun (p : String × String) line =>
    LineOf limits .hset [k, p.1, p.2] line) fields lines) :
    List.Forall₂ (fun line c => Command.ofLine limits line = .ok c) lines
      (fields.map fun p => .hset k [p]) := by
  induction h with
  | nil => exact .nil
  | cons hline _ ih => exact .cons (hline.ofLine_eq rfl) ih

end Lines

/-- `HSET` comes to one `HSET` for each of its fields in turn: a field has the value that it was
given last, and the place at which it first came. -/
theorem hset_writes_in_turn {s : Store} {k : String} {now : Int} {t : Table String}
    (hs : s.HashAt k now t) :
    s.ShowsFields k now t.keys t.get? ∧
    (∀ fields : List (String × String), fields ≠ [] →
      let singles := fields.map fun p => Command.hset k [p]
      ∃ (n : Nat) (s' : Store),
        (Command.hset k fields).outcome s now = .changed (.integer n) s' ∧
        (∃ t', s'.HashAt k now t' ∧ t'.size = t.size + n) ∧
        s'.ShowsFields k now (distinct (t.keys ++ fields.map Prod.fst))
          (fun f => (lastValue? fields f).or (t.get? f)) ∧
        s.afterAll now singles = s' ∧
        ∃ counts : List Nat,
          s.replies now singles = counts.map (fun m => .integer m) ∧ counts.sum = n) ∧
    ∀ (limits : Limits) (line : String) (s : Store) (now : Int),
      (∀ fields : List (String × String),
        LineOf limits .hset (k :: fields.flatMap fun p => [p.1, p.2]) line →
          execute limits line s now = .ok ((Command.hset k fields).outcome s now)) ∧
      (∀ f, LineOf limits .hget [k, f] line →
        execute limits line s now = .ok ((Command.hget k f).outcome s now)) ∧
      (LineOf limits .hgetall [k] line →
        execute limits line s now = .ok ((Command.hgetall k).outcome s now)) ∧
      (∀ (fields : List (String × String)) (lines : List String),
        List.Forall₂ (fun p line => LineOf limits .hset [k, p.1, p.2] line) fields lines →
          s.afterLines limits now lines =
            s.afterAll now (fields.map fun p => Command.hset k [p])) ∧
      ∀ rest : List String, (Request.ofLine line).verb = some .hset →
        (Request.ofLine line).arguments = k :: rest → rest.length % 2 = 1 →
          ∃ why, execute limits line s now = .ok (.ofFailure why) ∧
            s.afterLine limits line now = s ∧
            (limits.allow (k :: rest) = true → ∃ name, why = .wrongArity name) := by
  refine ⟨hs.shows, ?_, ?_⟩
  · intro fields hne singles
    obtain ⟨n, s', t', houtcome, ht', hsize, hkeys, hget⟩ := hs.hset fields
    obtain ⟨hstore, hreplies⟩ := hs.hset_singles hne houtcome
    refine ⟨n, s', houtcome, ⟨t', ht', hsize⟩, ?_, hstore, hreplies⟩
    rw [← hkeys, ← hget]
    exact ht'.shows
  · intro limits line s now
    refine ⟨?_, fun f h => h.execute_eq rfl s now, fun h => h.execute_eq rfl s now, ?_, ?_⟩
    · exact fun fields h => h.execute_eq (ofArguments_hset k fields) s now
    · exact fun fields lines h => afterLines_eq_afterAll (forall₂_singles h) s
    · intro rest hv hargs hodd
      obtain ⟨why, hline, hwhy⟩ := ofLine_of_odd limits hv hargs hodd
      have hexecute : execute limits line s now = .ok (.ofFailure why) := by rw [execute, hline]
      exact ⟨why, hexecute, afterLine_of_execute hexecute, hwhy⟩

def twoFields : Table String := ⟨[("a", "1"), ("b", "2")], by decide⟩

/-- A hash of two fields, live until 10. -/
def briefHash : Store := ⟨[("k", ⟨.hash twoFields, some 10⟩)], by decide⟩

/-- A field that is there and a new one that comes twice, as commands and as lines. -/
theorem hset_writes_in_turn_repeated :
    (∃ (n : Nat) (s' : Store),
      (Command.hset "k" [("b", "3"), ("c", "4"), ("c", "5")]).outcome briefHash 5 =
        .changed (.integer n) s' ∧
      briefHash.afterAll 5 [.hset "k" [("b", "3")], .hset "k" [("c", "4")],
        .hset "k" [("c", "5")]] = s') ∧
    briefHash.afterLines {} 5 ["HSET k b 3", "hset k c 4", "HSET k 'c' 5"] =
      briefHash.afterAll 5 [.hset "k" [("b", "3")], .hset "k" [("c", "4")],
        .hset "k" [("c", "5")]] ∧
    execute {} "HSET k b 3 c 4 c 5" briefHash 5 =
      .ok ((Command.hset "k" [("b", "3"), ("c", "4"), ("c", "5")]).outcome briefHash 5) ∧
    ∃ why, execute {} "HSET k b 3 c" briefHash 5 = .ok (.ofFailure why) := by
  have hs : briefHash.HashAt "k" 5 twoFields := .live rfl rfl
  obtain ⟨-, hwrites, hlines⟩ := hset_writes_in_turn hs
  refine ⟨?_, ?_, ?_, ?_⟩
  · obtain ⟨n, s', houtcome, -, -, hstore, -⟩ :=
      hwrites [("b", "3"), ("c", "4"), ("c", "5")] nofun
    exact ⟨n, s', houtcome, hstore⟩
  · refine (hlines {} "" briefHash 5).2.2.2.1 [("b", "3"), ("c", "4"), ("c", "5")] _ ?_
    have hfirst : LineOf {} .hset ["k", "b", "3"] "HSET k b 3" := ⟨⟨rfl, rfl, rfl⟩, rfl⟩
    have hsecond : LineOf {} .hset ["k", "c", "4"] "hset k c 4" := ⟨⟨rfl, rfl, rfl⟩, rfl⟩
    have hthird : LineOf {} .hset ["k", "c", "5"] "HSET k 'c' 5" := ⟨⟨rfl, rfl, rfl⟩, rfl⟩
    exact .cons hfirst (.cons hsecond (.cons hthird .nil))
  · exact (hlines {} _ briefHash 5).1 _ ⟨⟨rfl, rfl, rfl⟩, rfl⟩
  · obtain ⟨why, hwhy, -⟩ :=
      (hlines {} "HSET k b 3 c" briefHash 5).2.2.2.2 ["b", "3", "c"] rfl rfl rfl
    exact ⟨why, hwhy⟩

end Keyspace
