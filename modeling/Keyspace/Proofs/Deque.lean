import Mathlib.Data.List.Forall2
import Keyspace.Proofs.Commuting
import Keyspace.Proofs.Frame
import Keyspace.Proofs.Instant
import Keyspace.Proofs.Slices

namespace Keyspace

open Store

inductive ListEnd where
  | front
  | back

namespace ListEnd

def verb : ListEnd → Verb
  | front => .lpush
  | back => .rpush

def push (side : ListEnd) (key : String) (values : List String) : Command :=
  match side with
  | front => .lpush key values
  | back => .rpush key values

/-- One more value at an end of a sequence. -/
def put (side : ListEnd) (q : List String) (v : String) : List String :=
  match side with
  | front => v :: q
  | back => q ++ [v]

/-- Values are put in one by one. -/
def putAll (side : ListEnd) (values q : List String) : List String := values.foldl side.put q

variable {side : ListEnd}

theorem putAll_front (values q : List String) : front.putAll values q = values.reverse ++ q :=
  List.foldl_flip_cons_eq_append'

theorem putAll_back (values q : List String) : back.putAll values q = q ++ values :=
  calc back.putAll values q
    _ = q ++ values.flatMap fun v => [v] := List.foldl_append_eq_append
    _ = q ++ values := by rw [List.flatMap_singleton']

theorem length_putAll (values q : List String) :
    (side.putAll values q).length = q.length + values.length := by
  cases side with
  | front => rw [putAll_front, List.length_append, List.length_reverse, Nat.add_comm]
  | back => rw [putAll_back, List.length_append]

theorem putAll_ne_nil {values : List String} (h : values ≠ []) (q : List String) :
    side.putAll values q ≠ [] := by
  have hpos := List.length_pos_iff.2 h
  rw [← List.length_pos_iff, length_putAll]
  omega

end ListEnd

/-- What is done to a sequence at its ends. -/
inductive DequeOp where
  | push (side : ListEnd) (values : List String)
  | pop

namespace DequeOp

def after : DequeOp → List String → List String
  | push side values, q => side.putAll values q
  | pop, q => q.tail

def reply : DequeOp → List String → Reply
  | push side values, q => .integer (side.putAll values q).length
  | pop, [] => .nil
  | pop, v :: _ => .bulk v

def IsPush : DequeOp → Prop
  | push _ _ => True
  | pop => False

end DequeOp

/-- What a line is for the list under a key: a push or a pop there, or a line that is on other keys
or on none. -/
inductive Turn (limits : Limits) (k : String) : String → Option DequeOp → Prop where
  | push {line : String} {side : ListEnd} {values : List String} :
      (Request.ofLine line).Passes limits side.verb →
      (Request.ofLine line).arguments = k :: values → Turn limits k line (some (.push side values))
  | pop {line : String} :
      (Request.ofLine line).Passes limits .lpop → (Request.ofLine line).arguments = [k] →
      Turn limits k line (some .pop)
  | elsewhere {line : String} :
      (Request.ofLine line).verb ≠ some .flushall →
      (Request.ofLine line).IsGeneral ∨ k ∉ (Request.ofLine line).named → Turn limits k line none

/-- The sequence after a turn. -/
def afterTurn (q : List String) (turn : Option DequeOp) : List String :=
  turn.elim q fun op => op.after q

/-- The sequence that a key stands for: that of a live list, or the empty one where nothing is
live. -/
inductive Store.ListAt (s : Store) (k : String) (now : Int) : List String → Prop where
  | absent : lookup s k now = none → ListAt s k now []
  | held {q : List String} {x : Option Int} :
      lookup s k now = some ⟨.list q, x⟩ → ListAt s k now q

/-- A live list without items is under the key. -/
def Store.HoldsEmpty (s : Store) (k : String) (now : Int) : Prop :=
  ∃ x, lookup s k now = some ⟨.list [], x⟩

section Store

variable {s : Store} {k : String} {now : Int} {q : List String} {x : Option Int}

theorem listAt_iff : s.ListAt k now q ↔ ∃ x, heldList s k now = .ok ⟨q, x⟩ := by
  rw [heldList, ← contentAt_iff]
  constructor
  · rintro (hnone | hsome)
    · exact .absent hnone
    · exact .live hsome rfl
  · rintro (hnone | @⟨⟨p, x⟩, _, hlive, hview⟩)
    · exact .absent hnone
    · cases list?_eq_some hview
      exact .held hlive

theorem Store.ListAt.eq_nil_iff (h : s.ListAt k now q) :
    q = [] ↔ lookup s k now = none ∨ s.HoldsEmpty k now := by
  cases h with
  | absent hnone => simp [hnone]
  | held hsome => simp [HoldsEmpty, hsome]

theorem Store.ListAt.not_holdsEmpty (h : s.ListAt k now q) (hq : q ≠ []) :
    ¬ s.HoldsEmpty k now := fun hempty => hq (h.eq_nil_iff.2 (Or.inr hempty))

theorem outcome_push (hx : heldList s k now = .ok ⟨q, x⟩) (side : ListEnd)
    (values : List String) :
    (side.push k values).outcome s now =
      .changed (.integer (side.putAll values q).length)
        (s.insert k ⟨.list (side.putAll values q), x⟩) := by
  cases side with
  | front =>
    rw [ListEnd.putAll_front, Command.outcome]
    simp only [ListEnd.push, Command.run, Store.pushFront, hx]
    rfl
  | back =>
    rw [ListEnd.putAll_back, Command.outcome]
    simp only [ListEnd.push, Command.run, Store.pushBack, hx]
    rfl

theorem outcome_pop (hx : heldList s k now = .ok ⟨q, x⟩) :
    (Command.lpop k).outcome s now =
      match q with
      | [] => .unchanged .nil
      | [v] => .changed (.bulk v) (s.erase k)
      | v :: rest => .changed (.bulk v) (s.insert k ⟨.list rest, x⟩) := by
  rw [Command.outcome]
  simp only [Command.run, Store.popFront, hx]
  cases q with
  | nil => rfl
  | cons v rest => cases rest <;> rfl

end Store

section Turn

variable {limits : Limits} {line : String} {s : Store} {k : String} {now : Int}
  {q values : List String} {x : Option Int} {side : ListEnd} {turn : Option DequeOp} {op : DequeOp}
  {o : Outcome}

theorem execute_of_push (hpasses : (Request.ofLine line).Passes limits side.verb)
    (hargs : (Request.ofLine line).arguments = k :: values) (s : Store) (now : Int) :
    execute limits line s now = .ok ((side.push k values).outcome s now) := by
  apply LineOf.execute_eq ⟨hpasses, hargs⟩
  cases side <;> rfl

theorem execute_of_pop (hpasses : (Request.ofLine line).Passes limits .lpop)
    (hargs : (Request.ofLine line).arguments = [k]) (s : Store) (now : Int) :
    execute limits line s now = .ok ((Command.lpop k).outcome s now) :=
  LineOf.execute_eq ⟨hpasses, hargs⟩ rfl s now

theorem values_ne_nil (h : Turn limits k line (some (.push side values))) : values ≠ [] := by
  cases h with
  | push hpasses hargs =>
    have hleast := Arity.least_le_of_admits hpasses.arity
    have htwo : side.verb.arity.least = 2 := by cases side <;> rfl
    rintro rfl
    rw [hargs, htwo] at hleast
    exact absurd hleast (by decide : ¬ 2 ≤ 1)

/-- A line elsewhere leaves what is found under the key, also where it has no outcome. -/
theorem lookup_after_elsewhere (h : Turn limits k line none) (s : Store) (now : Int) :
    lookup (s.afterLine limits line now) k now = lookup s k now := by
  have hget : (s.afterLine limits line now).get? k = s.get? k := by
    cases h with
    | elsewhere hflush hnamed =>
      cases ho : execute limits line s now with
      | error e => rw [afterLine, ho]
      | ok o =>
        rw [afterLine_of_execute ho]
        by_cases hg : (Request.ofLine line).IsGeneral
        · rcases change_of_execute ho with hsame | ⟨c, ch, hc, hch, -⟩
          · rw [hsame]
          · -- the one command on the whole store that changes anything is `FLUSHALL`
            obtain ⟨v, hv, hverb⟩ := hg
            have hchanging : ∀ v ∈ Verb.general, v ∉ Verb.asking → v = .flushall := by decide
            rw [Command.verb_of_ofLine hc] at hverb hflush
            obtain rfl := Option.some.inj hverb
            exact absurd (congrArg some (hchanging _ hv hch.verb_not_asking)) hflush
        · exact get?_after_execute ho hg (hnamed.resolve_left hg)
  rw [lookup, lookup, hget]

theorem afterLine_push (h : Turn limits k line (some (.push side values)))
    (hx : heldList s k now = .ok ⟨q, x⟩) :
    s.afterLine limits line now = s.insert k ⟨.list (side.putAll values q), x⟩ := by
  cases h with
  | push hpasses hargs =>
    rw [afterLine_of_execute (execute_of_push hpasses hargs s now), outcome_push hx]
    rfl

theorem afterLine_pop (h : Turn limits k line (some .pop)) (hx : heldList s k now = .ok ⟨q, x⟩) :
    s.afterLine limits line now =
      match q with
      | [] => s
      | [_] => s.erase k
      | _ :: rest => s.insert k ⟨.list rest, x⟩ := by
  cases h with
  | pop hpasses hargs =>
    rw [afterLine_of_execute (execute_of_pop hpasses hargs s now), outcome_pop hx]
    match q with
    | [] => rfl
    | [v] => rfl
    | v :: w :: rest => rfl

/-- A turn does to the list what it does to the sequence. -/
theorem Turn.listAt (h : Turn limits k line turn) (hs : s.ListAt k now q) :
    (s.afterLine limits line now).ListAt k now (afterTurn q turn) := by
  obtain ⟨x, hx⟩ := listAt_iff.1 hs
  match turn with
  | none =>
    rw [listAt_iff, heldList, held_congr (lookup_after_elsewhere h s now)]
    exact ⟨x, hx⟩
  | some (.push side values) =>
    rw [afterLine_push h hx]
    exact .held (lookup_insert_of_held hx _)
  | some .pop =>
    rw [afterLine_pop h hx]
    match q with
    | [] => exact hs
    | [v] =>
      apply ListAt.absent
      rw [lookup_erase, if_pos rfl]
    | v :: w :: rest => exact .held (lookup_insert_of_held hx _)

/-- An empty list is there after a turn only if it was there before and nothing was pushed. -/
theorem Turn.holdsEmpty_iff (h : Turn limits k line turn) (hs : s.ListAt k now q) :
    (s.afterLine limits line now).HoldsEmpty k now ↔
      s.HoldsEmpty k now ∧ ∀ op, turn = some op → ¬ op.IsPush := by
  obtain ⟨x, hx⟩ := listAt_iff.1 hs
  match turn with
  | none => simp [HoldsEmpty, lookup_after_elsewhere h s now]
  | some (.push side values) =>
    have hne : side.putAll values q ≠ [] := ListEnd.putAll_ne_nil (values_ne_nil h) q
    exact iff_of_false ((h.listAt hs).not_holdsEmpty hne) fun hpush => hpush.2 _ rfl trivial
  | some .pop =>
    match q with
    | [] =>
      rw [afterLine_pop h hx]
      simp [DequeOp.IsPush]
    | [v] =>
      -- the key goes with the last item, so no empty list is left behind
      have hfull : ¬ s.HoldsEmpty k now := hs.not_holdsEmpty (List.cons_ne_nil v [])
      have hgone : lookup (s.erase k) k now = none := by rw [lookup_erase, if_pos rfl]
      have hafter : ¬ HoldsEmpty (s.erase k) k now := by simp [HoldsEmpty, hgone]
      rw [afterLine_pop h hx]
      exact iff_of_false hafter fun hpop => hfull hpop.1
    | v :: w :: rest =>
      have hfull : ¬ s.HoldsEmpty k now := hs.not_holdsEmpty (List.cons_ne_nil v (w :: rest))
      have hafter := (h.listAt hs).not_holdsEmpty (List.cons_ne_nil w rest)
      exact iff_of_false hafter fun hpop => hfull hpop.1

theorem Turn.reply (h : Turn limits k line (some op)) (hs : s.ListAt k now q) :
    ∃ o, execute limits line s now = .ok o ∧ o.reply = op.reply q := by
  obtain ⟨x, hx⟩ := listAt_iff.1 hs
  cases h with
  | push hpasses hargs =>
    refine ⟨_, execute_of_push hpasses hargs s now, ?_⟩
    rw [outcome_push hx]
    rfl
  | pop hpasses hargs =>
    refine ⟨_, execute_of_pop hpasses hargs s now, ?_⟩
    rw [outcome_pop hx]
    match q with
    | [] => rfl
    | [v] => rfl
    | v :: w :: rest => rfl

theorem outcome_lrange_whole (hs : s.ListAt k now q) :
    (Command.lrange k 0 (-1)).outcome s now = .unchanged (.array q) := by
  obtain ⟨x, hx⟩ := listAt_iff.1 hs
  rw [Command.outcome, Command.run, Store.range, hx]
  show Outcome.unchanged (.array (slice q 0 (-1))) = _
  rw [slice_whole]

end Turn

section Run

variable {limits : Limits} {lines : List String} {line : String}
  {turns : List (Option DequeOp)} {s : Store} {k : String} {now : Int} {q values : List String}
  {x : Option Int} {side : ListEnd}

theorem listAt_afterLines (h : List.Forall₂ (Turn limits k) lines turns)
    (hs : s.ListAt k now q) :
    (s.afterLines limits now lines).ListAt k now (turns.foldl afterTurn q) := by
  induction h generalizing s q with
  | nil => exact hs
  | cons hturn _ ih =>
    rw [afterLines, List.foldl_cons]
    exact ih (hturn.listAt hs)

theorem holdsEmpty_afterLines (h : List.Forall₂ (Turn limits k) lines turns)
    (hs : s.ListAt k now q) :
    (s.afterLines limits now lines).HoldsEmpty k now ↔
      s.HoldsEmpty k now ∧ ∀ op, some op ∈ turns → ¬ op.IsPush := by
  induction h generalizing s q with
  | nil => simp [afterLines]
  | cons hturn _ ih =>
    rw [afterLines, ih (hturn.listAt hs), hturn.holdsEmpty_iff hs, and_assoc]
    simp only [List.mem_cons, or_imp, forall_and, eq_comm]

/-- Each line pushes one of the values. -/
def SinglePushes (limits : Limits) (k : String) (side : ListEnd) :
    List String → List String → Prop :=
  List.Forall₂ fun line v => Turn limits k line (some (.push side [v]))

/-- Single pushes leave a longer list, and what else they leave is as it was. -/
theorem pushes_one_by_one (h : SinglePushes limits k side lines values)
    (hx : heldList s k now = .ok ⟨q, x⟩) :
    heldList (s.afterLines limits now lines) k now = .ok ⟨side.putAll values q, x⟩ ∧
      ∀ e, Table.insert (s.afterLines limits now lines) k e = s.insert k e := by
  induction h generalizing s q with
  | nil => exact ⟨hx, fun e => rfl⟩
  | @cons line v lines values hturn _ ih =>
    have hnext : heldList (s.insert k ⟨.list (side.put q v), x⟩) k now = .ok ⟨side.put q v, x⟩ :=
      held_insert hx rfl
    obtain ⟨hheld, hinsert⟩ := ih hnext
    rw [afterLines, afterLine_push hturn hx]
    refine ⟨hheld, ?_⟩
    intro e
    exact (hinsert e).trans (s.insert_insert k _ e)

/-- Pushing values one by one ends in the store and with the reply of pushing them all. -/
theorem push_of_single_pushes {last : String} {v : String}
    (h : SinglePushes limits k side lines values)
    (hlast : Turn limits k last (some (.push side [v])))
    (hall : Turn limits k line (some (.push side (values ++ [v])))) (hs : s.ListAt k now q) :
    (s.afterLines limits now lines).afterLine limits last now = s.afterLine limits line now ∧
      ∃ o o', execute limits last (s.afterLines limits now lines) now = .ok o ∧
        execute limits line s now = .ok o' ∧ o.reply = o'.reply := by
  obtain ⟨x, hx⟩ := listAt_iff.1 hs
  obtain ⟨hheld, hinsert⟩ := pushes_one_by_one h hx
  have hput : side.putAll [v] (side.putAll values q) = side.putAll (values ++ [v]) q :=
    List.foldl_append.symm
  constructor
  · rw [afterLine_push hlast hheld, afterLine_push hall hx, hinsert, hput]
  · obtain ⟨o, ho, hreply⟩ := hlast.reply (listAt_iff.2 ⟨x, hheld⟩)
    obtain ⟨o', ho', hreply'⟩ := hall.reply hs
    refine ⟨o, o', ho, ho', ?_⟩
    rw [hreply, hreply', DequeOp.reply, hput, DequeOp.reply]

end Run

/-- Pushes and pops at one instant do to a list what is done to a sequence at its two ends, whatever
lines on other keys come in between. Only an empty list that was there to begin with stays. -/
theorem list_is_deque {limits : Limits} {s : Store} {k : String} {now : Int} {q : List String}
    (hs : s.ListAt k now q) :
    (∀ lines turns, List.Forall₂ (Turn limits k) lines turns →
      let s' := s.afterLines limits now lines
      let q' := turns.foldl afterTurn q
      (∀ line op, Turn limits k line (some op) →
        ∃ o, execute limits line s' now = .ok o ∧ o.reply = op.reply q') ∧
      (Command.lrange k 0 (-1)).outcome s' now = .unchanged (.array q') ∧
      (∀ line, (Request.ofLine line).Passes limits .lrange →
        (Request.ofLine line).arguments = [k, "0", "-1"] →
        execute limits line s' now = .ok (.unchanged (.array q'))) ∧
      (q' = [] ↔ lookup s' k now = none ∨ s'.HoldsEmpty k now) ∧
      (s'.HoldsEmpty k now ↔ s.HoldsEmpty k now ∧ ∀ op, some op ∈ turns → ¬ op.IsPush)) ∧
    ∀ side values v lines last line, SinglePushes limits k side lines values →
      Turn limits k last (some (.push side [v])) →
      Turn limits k line (some (.push side (values ++ [v]))) →
      (s.afterLines limits now lines).afterLine limits last now = s.afterLine limits line now ∧
        ∃ o o', execute limits last (s.afterLines limits now lines) now = .ok o ∧
          execute limits line s now = .ok o' ∧ o.reply = o'.reply := by
  constructor
  · intro lines turns hturns s' q'
    have hs' : s'.ListAt k now q' := listAt_afterLines hturns hs
    refine ⟨fun line op hop => hop.reply hs', outcome_lrange_whole hs', ?_, hs'.eq_nil_iff,
      holdsEmpty_afterLines hturns hs⟩
    intro line hpasses hargs
    have hzero : Numeral.read "0" = .value 0 := by decide +kernel
    have hminus : Numeral.read "-1" = .value (-1) := by decide +kernel
    rw [execute_of_lrange hpasses hargs hzero hminus, outcome_lrange_whole hs']
  · intro side values v lines last line hsingle hlast hall
    exact push_of_single_pushes hsingle hlast hall hs

/-- A text that has expired under the key of a list to be. -/
def staleQueue : Store := ⟨[("q", ⟨.string "old", some 3⟩)], by decide⟩

/-- What was pushed last at the front is popped first, and nothing is left of the text. -/
theorem list_is_deque_stale :
    ∃ o, execute {} "LPOP q"
      (staleQueue.afterLines {} 5 ["RPUSH q a b", "SET x 1", "LPUSH q c d"]) 5 = .ok o ∧
        o.reply = .bulk "d" := by
  have hback : Turn {} "q" "RPUSH q a b" (some (.push .back ["a", "b"])) :=
    .push ⟨rfl, rfl, rfl⟩ rfl
  have helsewhere : Turn {} "q" "SET x 1" none :=
    .elsewhere (by decide +kernel) (Or.inr (by decide +kernel))
  have hfront : Turn {} "q" "LPUSH q c d" (some (.push .front ["c", "d"])) :=
    .push ⟨rfl, rfl, rfl⟩ rfl
  have hpop : Turn {} "q" "LPOP q" (some .pop) := .pop ⟨rfl, rfl, rfl⟩ rfl
  have hrun := (list_is_deque (.absent rfl : staleQueue.ListAt "q" 5 [])).1 _ _
    (.cons hback (.cons helsewhere (.cons hfront .nil)))
  exact hrun.1 "LPOP q" .pop hpop

/-- A list without items, as no command leaves it. -/
def emptyQueue : Store := ⟨[("q", ⟨.list [], none⟩)], by decide⟩

/-- A pop finds nothing in the empty list and leaves it, so the key is not absent. -/
theorem empty_list_stays :
    execute {} "LPOP q" emptyQueue 0 = .ok (.unchanged .nil) ∧
      execute {} "EXISTS q" emptyQueue 0 = .ok (.unchanged (.integer 1)) ∧
      ¬ ∀ (s : Store) (k : String) (now : Int) (q : List String), s.ListAt k now q →
        (lookup s k now = none ↔ q = []) := by
  refine ⟨rfl, rfl, ?_⟩
  intro h
  have hlist : emptyQueue.ListAt "q" 0 [] := .held (x := none) rfl
  cases (h emptyQueue "q" 0 [] hlist).2 rfl

end Keyspace
