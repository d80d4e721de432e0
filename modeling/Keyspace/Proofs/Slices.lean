import Keyspace.Command.Execute
import Keyspace.Proofs.Reading

namespace Keyspace

open Store

/-- The items at the positions from `lo` to `hi`, both included, in their order. -/
def itemsBetween (items : List String) (lo hi : Int) : List String :=
  (items.zipIdx.filter fun p => lo ≤ p.2 ∧ p.2 ≤ hi).map Prod.fst

section Positions

variable {items : List String} {lo hi : Int}

/-- The induction is on the items, whose positions start at any number. -/
theorem map_filter_zipIdx (items : List String) (lo hi : Int) (n : Nat) :
    ((items.zipIdx n).filter fun p => lo ≤ p.2 ∧ p.2 ≤ hi).map Prod.fst =
      (items.take (hi + 1 - n).toNat).drop (lo - n).toNat := by
  induction items generalizing n with
  | nil => simp
  | cons x items ih =>
    have hrest := ih (n + 1)
    rw [List.zipIdx_cons]
    by_cases hhi : n ≤ hi
    · have hlast : (hi + 1 - n).toNat = (hi + 1 - (n + 1 : Nat)).toNat + 1 := by omega
      rw [hlast, List.take_succ_cons]
      by_cases hlo : lo ≤ n
      · -- the first item is between the two
        have hfirst : (lo - n).toNat = 0 := by omega
        have hfirst' : (lo - (n + 1 : Nat)).toNat = 0 := by omega
        rw [List.filter_cons_of_pos (by simp [hlo, hhi]), List.map_cons, hrest, hfirst, hfirst',
          List.drop_zero, List.drop_zero]
      · have hfirst : (lo - n).toNat = (lo - (n + 1 : Nat)).toNat + 1 := by omega
        rw [List.filter_cons_of_neg (by simp [hlo]), hrest, hfirst, List.drop_succ_cons]
    · -- all positions lie behind the second
      have hlast : (hi + 1 - n).toNat = 0 := by omega
      have hlast' : (hi + 1 - (n + 1 : Nat)).toNat = 0 := by omega
      rw [List.filter_cons_of_neg (by simp [hhi]), hrest, hlast, hlast', List.take_zero,
        List.take_zero, List.drop_nil, List.drop_nil]

theorem itemsBetween_eq (items : List String) (lo hi : Int) :
    itemsBetween items lo hi = (items.take (hi + 1).toNat).drop lo.toNat := by
  rw [itemsBetween, map_filter_zipIdx, Int.natCast_zero, Int.sub_zero, Int.sub_zero]

theorem itemsBetween_eq_nil_iff :
    itemsBetween items lo hi = [] ↔ ¬ ∃ i : Nat, i < items.length ∧ lo ≤ i ∧ i ≤ hi := by
  rw [itemsBetween_eq, List.drop_eq_nil_iff, List.length_take]
  constructor
  · rintro h ⟨i, hi⟩
    omega
  · intro h
    apply Nat.le_of_not_lt
    intro hlt
    exact h ⟨lo.toNat, by omega⟩

/-- What is shown up to a position and what is shown from the next one on make up the whole. -/
theorem itemsBetween_append (items : List String) (m : Nat) :
    itemsBetween items 0 m ++ itemsBetween items (m + 1) (items.length - 1) = items := by
  have hall : ((items.length : Int) - 1 + 1).toNat = items.length := by omega
  rw [itemsBetween_eq, itemsBetween_eq, hall, List.take_length, Int.toNat_zero, List.drop_zero]
  exact List.take_append_drop (m + 1) items

/-- Clipping the indices to the list changes nothing that is shown. -/
theorem slice_eq_itemsBetween (items : List String) (start stop : Int) :
    slice items start stop =
      itemsBetween items (position items.length start) (position items.length stop) := by
  unfold slice
  generalize position items.length start = lo
  generalize position items.length stop = hi
  rw [itemsBetween_eq]
  have hfirst : (max lo 0).toNat = lo.toNat := by omega
  have hlast : (min hi ((items.length : Int) - 1) + 1).toNat =
      min (hi + 1).toNat items.length := by omega
  have htake : items.take (min (hi + 1).toNat items.length) = items.take (hi + 1).toNat :=
    List.take_eq_take_min.symm
  dsimp only
  rw [hfirst, hlast, htake]
  split
  · rfl
  · next hempty =>
    rw [eq_comm, List.drop_eq_nil_iff, List.length_take]
    omega

theorem position_neg_one (length : Nat) : position length (-1) = length - 1 := by
  rw [position, if_pos (by decide)]
  omega

theorem slice_whole (items : List String) : slice items 0 (-1) = items := by
  have hall : ((items.length : Int) - 1 + 1).toNat = items.length := by omega
  rw [slice_eq_itemsBetween, position_neg_one, itemsBetween_eq, hall, List.take_length]
  rfl

end Positions

section Lines

variable {limits : Limits} {line : String} {s : Store} {k first last : String}
  {now start stop : Int} {items : List String} {x : Option Int}

theorem outcome_lrange (h : lookup s k now = some ⟨.list items, x⟩) (start stop : Int) :
    (Command.lrange k start stop).outcome s now =
      .unchanged (.array (slice items start stop)) := by
  have hheld : heldList s k now = .ok ⟨items, x⟩ := held_of_live h rfl
  rw [Command.outcome, Command.run, Store.range, hheld]
  rfl

theorem execute_of_lrange (h : (Request.ofLine line).Passes limits .lrange)
    (hargs : (Request.ofLine line).arguments = [k, first, last])
    (hfirst : Numeral.read first = .value start) (hlast : Numeral.read last = .value stop) :
    execute limits line s now = .ok ((Command.lrange k start stop).outcome s now) := by
  apply execute_of_ofLine
  rw [Command.ofLine_of_passes h, hargs, Command.ofArguments, Command.integer_eq_ok hfirst,
    Command.integer_eq_ok hlast]
  rfl

end Lines

/-- The items between the two positions, both included, where a negative one counts from behind the
end; what is shown up to a position and from the next one on is the whole list. -/
theorem lrange_shows_positions {s : Store} {k : String} {now : Int} {items : List String}
    {x : Option Int} (h : lookup s k now = some ⟨.list items, x⟩) :
    (∀ start stop : Int,
      let lo := if start < 0 then start + items.length else start
      let hi := if stop < 0 then stop + items.length else stop
      ∃ shown, (Command.lrange k start stop).outcome s now = .unchanged (.array shown) ∧
        shown = itemsBetween items lo hi ∧
        (shown = [] ↔ ¬ ∃ i : Nat, i < items.length ∧ lo ≤ i ∧ i ≤ hi) ∧
        ∀ limits line first last, (Request.ofLine line).Passes limits .lrange →
          (Request.ofLine line).arguments = [k, first, last] →
          Numeral.read first = .value start → Numeral.read last = .value stop →
          execute limits line s now = .ok (.unchanged (.array shown))) ∧
    ∀ m : Nat, m < items.length → ∃ front back,
      (Command.lrange k 0 m).outcome s now = .unchanged (.array front) ∧
      (Command.lrange k (m + 1) (-1)).outcome s now = .unchanged (.array back) ∧
      front ++ back = items := by
  constructor
  · intro start stop lo hi
    have hslice : slice items start stop = itemsBetween items lo hi :=
      slice_eq_itemsBetween items start stop
    refine ⟨slice items start stop, outcome_lrange h start stop, hslice, ?_, ?_⟩
    · rw [hslice, itemsBetween_eq_nil_iff]
    · intro limits line first last hpasses hargs hfirst hlast
      rw [execute_of_lrange hpasses hargs hfirst hlast, outcome_lrange h]
  · intro m _
    refine ⟨_, _, outcome_lrange h 0 m, outcome_lrange h (m + 1) (-1), ?_⟩
    have hm : position items.length m = m := if_neg (by omega)
    have hnext : position items.length (m + 1) = m + 1 := if_neg (by omega)
    have hzero : position items.length 0 = 0 := rfl
    rw [slice_eq_itemsBetween, slice_eq_itemsBetween, hm, hnext, position_neg_one, hzero,
      itemsBetween_append]

/-- A list of three items, live until 10. -/
def threeItems : Store := ⟨[("q", ⟨.list ["a", "b", "c"], some 10⟩)], by decide⟩

/-- The first index lies before the start of the list. -/
theorem lrange_shows_positions_clipped :
    execute {} "LRANGE q -5 -2" threeItems 9 = .ok (.unchanged (.array ["a", "b"])) := by
  have hlive : lookup threeItems "q" 9 = some ⟨.list ["a", "b", "c"], some 10⟩ := rfl
  obtain ⟨shown, -, rfl, -, hlines⟩ := (lrange_shows_positions hlive).1 (-5) (-2)
  exact hlines {} "LRANGE q -5 -2" "-5" "-2" ⟨rfl, rfl, rfl⟩ rfl rfl rfl

end Keyspace
