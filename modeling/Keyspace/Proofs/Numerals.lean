import Keyspace.Command.Basic

namespace Keyspace.Numeral

open Text

variable {s : String} {ds : List Char} {n : Nat}

/-- The text is these digits, one at least, behind a single sign or none. -/
structure Spells (s : String) (ds : List Char) : Prop where
  ne_nil : ds ≠ []
  digits : ∀ c ∈ ds, isDigit c = true
  text : s.toList = ds ∨ s.toList = '+' :: ds ∨ s.toList = '-' :: ds

/-- A numeral that is too long to be read, with so many digits. -/
def Overlong (s : String) (n : Nat) : Prop := ∃ ds, Spells s ds ∧ ds.length = n ∧ digitLimit < n

/-- A numeral that is short enough to be read. -/
def Readable (s : String) : Prop := ∃ ds, Spells s ds ∧ ds.length ≤ digitLimit

theorem not_isDigit_sign : isDigit '+' = false ∧ isDigit '-' = false := by decide

theorem isSome_digits?_iff {cs : List Char} :
    (digits? cs).isSome = true ↔ ∀ c ∈ cs, isDigit c = true := by
  induction cs with
  | nil => simp [digits?]
  | cons c cs ih =>
    rw [List.forall_mem_cons, ← ih, digits?, isDigit]
    cases digit? c <;> cases digits? cs <;> simp

theorem splitSign_of_isDigit {c : Char} (h : isDigit c = true) (cs : List Char) :
    splitSign (c :: cs) = (false, c :: cs) := by
  unfold splitSign
  -- neither sign is a digit
  split
  · next heq =>
    cases heq
    rw [not_isDigit_sign.2] at h
    cases h
  · next heq =>
    cases heq
    rw [not_isDigit_sign.1] at h
    cases h
  · rfl

/-- The digits are what stands behind the sign. -/
theorem spells_iff :
    Spells s ds ↔ (splitSign s.toList).2 = ds ∧ ds ≠ [] ∧ ∀ c ∈ ds, isDigit c = true := by
  constructor
  · intro h
    refine ⟨?_, h.ne_nil, h.digits⟩
    rcases h.text with htext | htext | htext
    · obtain ⟨c, cs, rfl⟩ := List.exists_cons_of_ne_nil h.ne_nil
      rw [htext, splitSign_of_isDigit (h.digits c List.mem_cons_self)]
    · rw [htext, splitSign]
    · rw [htext, splitSign]
  · rintro ⟨rfl, hne, hdigits⟩
    refine ⟨hne, hdigits, ?_⟩
    unfold splitSign
    split
    · next heq => exact Or.inr (Or.inr heq)
    · next heq => exact Or.inr (Or.inl heq)
    · exact Or.inl rfl

theorem Spells.length_le (h : Spells s ds) : ds.length ≤ s.length := by
  rw [← String.length_toList]
  rcases h.text with htext | htext | htext <;> simp [htext]

theorem not_overlong_of_length_le (h : s.length ≤ digitLimit) (n : Nat) : ¬ Overlong s n := by
  rintro ⟨ds, hds, rfl, hmany⟩
  have hdigits := hds.length_le
  omega

theorem Spells.readable (h : Spells s ds) (hshort : ∀ n, ¬ Overlong s n) : Readable s :=
  ⟨ds, h, Nat.le_of_not_lt fun hlong => hshort ds.length ⟨ds, h, rfl, hlong⟩⟩

theorem read_of_spells (h : Spells s ds) :
    ∃ vs, digits? ds = some vs ∧ read s = evaluate (splitSign s.toList).1 vs := by
  obtain ⟨hsplit, hne, hdigits⟩ := spells_iff.1 h
  obtain ⟨vs, hvs⟩ := Option.isSome_iff_exists.1 (isSome_digits?_iff.2 hdigits)
  refine ⟨vs, hvs, ?_⟩
  have hlength := length_of_digits? hvs
  cases vs with
  | nil => exact absurd (List.length_eq_zero_iff.1 hlength.symm) hne
  | cons v vs => rw [read, readChars, hsplit, hvs]

theorem read_of_overlong (h : Spells s ds) (hlong : digitLimit < ds.length) :
    read s = .tooLong ds.length := by
  obtain ⟨vs, hvs, hread⟩ := read_of_spells h
  have hlength := length_of_digits? hvs
  rw [hread, evaluate, if_pos (by omega), hlength]

theorem read_of_readable (h : Readable s) : ∃ v, read s = .value v := by
  obtain ⟨ds, hds, hshort⟩ := h
  obtain ⟨vs, hvs, hread⟩ := read_of_spells hds
  have hlength := length_of_digits? hvs
  exact ⟨_, by rw [hread, evaluate, if_neg (by omega)]⟩

theorem read_of_not_spells (h : ∀ ds, ¬ Spells s ds) : read s = .malformed := by
  unfold read readChars
  split
  · next v vs hvs =>
    refine absurd (spells_iff.2 ⟨rfl, ?_, isSome_digits?_iff.1 (by rw [hvs]; rfl)⟩) (h _)
    intro hnil
    rw [hnil] at hvs
    cases hvs
  · rfl

theorem read_cases (s : String) :
    (∃ n, Overlong s n ∧ read s = .tooLong n) ∨ (∃ v, Readable s ∧ read s = .value v) ∨
      (∀ ds, ¬ Spells s ds) ∧ read s = .malformed := by
  by_cases hs : ∃ ds, Spells s ds
  · obtain ⟨ds, hds⟩ := hs
    by_cases hlong : digitLimit < ds.length
    · exact Or.inl ⟨ds.length, ⟨ds, hds, rfl, hlong⟩, read_of_overlong hds hlong⟩
    · have hshort : Readable s := ⟨ds, hds, by omega⟩
      obtain ⟨v, hv⟩ := read_of_readable hshort
      exact Or.inr (Or.inl ⟨v, hshort, hv⟩)
  · have hnone : ∀ ds, ¬ Spells s ds := fun ds hds => hs ⟨ds, hds⟩
    exact Or.inr (Or.inr ⟨hnone, read_of_not_spells hnone⟩)

theorem read_eq_tooLong_iff : read s = .tooLong n ↔ Overlong s n := by
  constructor
  · intro h
    rcases read_cases s with ⟨m, hm, hread⟩ | ⟨v, -, hread⟩ | ⟨-, hread⟩
    · cases hread.symm.trans h
      exact hm
    · cases hread.symm.trans h
    · cases hread.symm.trans h
  · rintro ⟨ds, hds, rfl, hlong⟩
    exact read_of_overlong hds hlong

theorem exists_read_eq_value_iff : (∃ v, read s = .value v) ↔ Readable s := by
  refine ⟨?_, read_of_readable⟩
  rintro ⟨v, h⟩
  rcases read_cases s with ⟨m, -, hread⟩ | ⟨v, hv, -⟩ | ⟨-, hread⟩
  · cases hread.symm.trans h
  · exact hv
  · cases hread.symm.trans h

theorem read_eq_malformed_iff : read s = .malformed ↔ ∀ ds, ¬ Spells s ds := by
  refine ⟨?_, read_of_not_spells⟩
  intro h
  rcases read_cases s with ⟨m, -, hread⟩ | ⟨v, -, hread⟩ | ⟨hnone, -⟩
  · cases hread.symm.trans h
  · cases hread.symm.trans h
  · exact hnone

end Keyspace.Numeral

namespace Keyspace.Command

open Numeral

variable {word : String} {n : Nat}

theorem integer_eq_tooLong_iff : integer word = .error (.numeralTooLong n) ↔ Overlong word n := by
  rw [← read_eq_tooLong_iff, integer]
  cases Numeral.read word <;> simp

theorem exists_integer_eq_ok_iff : (∃ i, integer word = .ok i) ↔ Readable word := by
  rw [← exists_read_eq_value_iff, integer]
  cases Numeral.read word <;> simp

theorem integer_eq_failed_iff {why : Failure} :
    integer word = .error (.failed why) ↔ why = .notInteger ∧ ∀ ds, ¬ Spells word ds := by
  rw [← read_eq_malformed_iff, integer]
  cases Numeral.read word <;> simp [eq_comm]

end Keyspace.Command
