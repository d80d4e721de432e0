import Mathlib.Data.List.Forall2
import Mathlib.Data.List.Induction
import Mathlib.Data.Nat.Digits.Defs
import Keyspace.Proofs.Numerals

namespace Keyspace

open Text Numeral

/-- The digits of a script follow its zero. -/
def Text.StandsFor (c : Char) (d : Nat) : Prop := d < 10 ∧ ∃ start ∈ zeros, c.toNat = start + d

/-- The same digit, in one script or in two. -/
def Text.SameDigit (c c' : Char) : Prop := ∃ d, StandsFor c d ∧ StandsFor c' d

/-- No two scripts share a digit. -/
theorem Text.zeros_apart :
    ∀ start ∈ zeros, ∀ other ∈ zeros, start ≠ other → start + 10 ≤ other ∨ other + 10 ≤ start := by
  decide +kernel

theorem Text.digit?_eq_some_iff {c : Char} {d : Nat} : digit? c = some d ↔ StandsFor c d := by
  constructor
  · intro h
    refine ⟨digit?_lt h, ?_⟩
    obtain ⟨start, hstart, hfrom⟩ := List.exists_of_findSome?_eq_some h
    rw [digitFrom, Option.ite_none_right_eq_some, Option.some.injEq] at hfrom
    exact ⟨start, hstart, by omega⟩
  · rintro ⟨hd, start, hstart, hc⟩
    have hsome : (digit? c).isSome = true := by
      rw [digit?, List.findSome?_isSome_iff]
      exact ⟨start, hstart, by rw [digitFrom, if_pos (by omega)]; rfl⟩
    obtain ⟨d', hd'⟩ := Option.isSome_iff_exists.1 hsome
    obtain ⟨other, hother, hfrom⟩ := List.exists_of_findSome?_eq_some hd'
    rw [digitFrom, Option.ite_none_right_eq_some, Option.some.injEq] at hfrom
    -- the digits of two scripts do not overlap, so it is the same script
    have hscript : start = other := by
      by_contra hne
      have := zeros_apart start hstart other hother hne
      omega
    rw [hd', Option.some.injEq]
    omega

theorem Text.standsFor_of_isDigit {c : Char} (h : c.isDigit = true) :
    StandsFor c (c.toNat - 48) := by
  have hrange : 48 ≤ c.toNat ∧ c.toNat ≤ 57 := Char.isDigit_iff_toNat.1 h
  exact ⟨by omega, 48, by decide, by omega⟩

namespace Numeral

variable {cs : List Char} {vs : List Nat}

theorem digits?_eq_some_iff : digits? cs = some vs ↔ List.Forall₂ StandsFor cs vs := by
  induction cs generalizing vs with
  | nil => simp [digits?, eq_comm]
  | cons c cs ih =>
    cases vs with
    | nil =>
      rw [digits?]
      cases digit? c <;> cases digits? cs <;> simp
    | cons v vs =>
      rw [List.forall₂_cons, ← ih, ← digit?_eq_some_iff, digits?]
      cases digit? c <;> cases digits? cs <;> simp

theorem ofDigits_eq (vs : List Nat) : ofDigits vs = Nat.ofDigits 10 vs.reverse := by
  induction vs using List.reverseRecOn with
  | nil => rfl
  | append_singleton vs v ih =>
    rw [ofDigits_append_singleton, ih, List.reverse_append, List.reverse_singleton,
      List.singleton_append, Nat.ofDigits_cons, Nat.add_comm]

theorem ofDigits_zeros_append (count : Nat) (vs : List Nat) :
    ofDigits (List.replicate count 0 ++ vs) = ofDigits vs := by
  rw [ofDigits_eq, ofDigits_eq, List.reverse_append, List.reverse_replicate,
    Nat.ofDigits_append_replicate_zero]

/-- The digits that a number is shown with stand for it. -/
theorem exists_values_toDigits (n : Nat) :
    ∃ vs, List.Forall₂ StandsFor (Nat.toDigits 10 n) vs ∧ ofDigits vs = n := by
  refine ⟨(Nat.toDigits 10 n).map fun c => c.toNat - 48, ?_, ?_⟩
  · rw [List.forall₂_map_right_iff, List.forall₂_same]
    intro c hc
    exact standsFor_of_isDigit (Nat.isDigit_of_mem_toDigits (by decide) (by decide) hc)
  · calc
      ofDigits ((Nat.toDigits 10 n).map fun c => c.toNat - 48)
        = Nat.ofDigitChars 10 (Nat.toDigits 10 n) 0 := List.foldl_map
      _ = n := Nat.ofDigitChars_ten_toDigits

end Numeral

namespace Command

variable {word : String} {ds : List Char} {vs : List Nat}

theorem splitSign_of_spells (h : Spells word ds) :
    (splitSign word.toList).1 = true ↔ word.toList = '-' :: ds := by
  rcases h.text with htext | htext | htext
  · obtain ⟨c, cs, rfl⟩ := List.exists_cons_of_ne_nil h.ne_nil
    rw [htext, splitSign_of_isDigit (h.digits c List.mem_cons_self)]
    exact iff_of_false nofun (List.cons_ne_self _ _).symm
  · rw [htext]
    exact iff_of_false nofun (by simp)
  · rw [htext]
    exact iff_of_true rfl rfl

/-- A numeral that is short enough is read as what its digits stand for, by their places. -/
theorem integer_of_values (h : Spells word ds) (hvs : List.Forall₂ StandsFor ds vs)
    (hshort : ds.length ≤ digitLimit) :
    integer word = .ok (if word.toList = '-' :: ds then -(ofDigits vs : Int) else ofDigits vs) := by
  obtain ⟨vs', hvs', hread⟩ := read_of_spells h
  cases (digits?_eq_some_iff.2 hvs).symm.trans hvs'
  have hlength := hvs.length_eq
  rw [evaluate, if_neg (by omega)] at hread
  rw [integer, hread]
  simp only [signed, splitSign_of_spells h]

end Command

inductive Numeral.Sign where
  | none
  | plus
  | minus
  deriving DecidableEq

def Numeral.Sign.chars : Sign → List Char
  | none => []
  | plus => ['+']
  | minus => ['-']

/-- An integer written out: a minus sign in front if it is negative, a plus sign or none if it is
not, and then its decimal digits behind any number of zeros, each of them in any script. -/
structure Numeral.Writing (n : Int) where
  sign : Sign
  zeros : Nat
  digits : List Char
  minus_iff : sign = .minus ↔ n < 0
  same : List.Forall₂ SameDigit (List.replicate zeros '0' ++ (toString n.natAbs).toList) digits

namespace Numeral.Writing

variable {n : Int} (w : Writing n)

def text : String := String.ofList (w.sign.chars ++ w.digits)

theorem toList_text : w.text.toList = w.sign.chars ++ w.digits := String.toList_ofList

/-- As integers are shown. -/
def plain (n : Int) : Writing n where
  sign := if n < 0 then .minus else .none
  zeros := 0
  digits := (toString n.natAbs).toList
  minus_iff := by split <;> simp_all
  same := by
    rw [List.replicate_zero, List.nil_append, List.forall₂_same]
    intro c hc
    have hdigit := Nat.isDigit_of_mem_toDigits (by decide) (by decide) (Nat.toList_repr ▸ hc)
    exact ⟨_, standsFor_of_isDigit hdigit, standsFor_of_isDigit hdigit⟩

theorem text_plain (n : Int) : (plain n).text = toString n := by
  apply String.toList_injective
  rw [toList_text]
  cases n with
  | ofNat m => rfl
  | negSucc m =>
    have hminus : (plain (Int.negSucc m)).sign = .minus := if_pos (Int.negSucc_lt_zero m)
    rw [hminus]
    show ['-'] ++ (m + 1).repr.toList = ("-" ++ (m + 1).repr).toList
    rw [String.toList_append]
    rfl

theorem standsFor_of_same {cs cs' : List Char} {vs : List Nat} (h : List.Forall₂ SameDigit cs cs')
    (hvs : List.Forall₂ StandsFor cs vs) : List.Forall₂ StandsFor cs' vs := by
  induction h generalizing vs with
  | nil => exact hvs
  | @cons c c' cs cs' hc _ ih =>
    cases hvs with
    | cons hv hvs =>
      obtain ⟨d, hd, hd'⟩ := hc
      -- a character stands for one number at most
      rw [← digit?_eq_some_iff] at hd hv
      cases hd.symm.trans hv
      exact .cons hd' (ih hvs)

/-- Zeros in front and other scripts leave the value as it is. -/
theorem exists_values : ∃ vs, List.Forall₂ StandsFor w.digits vs ∧ ofDigits vs = n.natAbs := by
  obtain ⟨vs, hvs, hvalue⟩ := exists_values_toDigits n.natAbs
  have hzero : StandsFor '0' 0 := standsFor_of_isDigit rfl
  have hzeros : List.Forall₂ StandsFor (List.replicate w.zeros '0') (List.replicate w.zeros 0) := by
    induction w.zeros with
    | zero => exact .nil
    | succ count ih => exact .cons hzero ih
  have hall := List.rel_append hzeros hvs
  rw [← Nat.toList_repr] at hall
  exact ⟨_, standsFor_of_same w.same hall, by rw [ofDigits_zeros_append, hvalue]⟩

theorem spells : Spells w.text w.digits := by
  obtain ⟨vs, hvs, -⟩ := w.exists_values
  refine ⟨?_, ?_, ?_⟩
  · intro hnil
    have hlength := w.same.length_eq
    rw [hnil, List.length_append] at hlength
    have hpos : 0 < (toString n.natAbs).toList.length := by
      simpa using Nat.length_toDigits_pos
    simp only [List.length_nil] at hlength
    omega
  · exact isSome_digits?_iff.1 (by rw [digits?_eq_some_iff.2 hvs]; rfl)
  · rw [toList_text]
    cases w.sign with
    | none => exact Or.inl rfl
    | plus => exact Or.inr (Or.inl rfl)
    | minus => exact Or.inr (Or.inr rfl)

theorem toList_text_eq_minus_iff : w.text.toList = '-' :: w.digits ↔ n < 0 := by
  rw [toList_text, ← w.minus_iff]
  cases w.sign with
  | none => exact iff_of_false (List.cons_ne_self _ _).symm nofun
  | plus => exact iff_of_false (by simp [Sign.chars]) nofun
  | minus => exact iff_of_true rfl rfl

/-- Every way of writing an integer is read as that integer. -/
theorem integer_text (hshort : w.digits.length ≤ digitLimit) : Command.integer w.text = .ok n := by
  obtain ⟨vs, hvs, hvalue⟩ := w.exists_values
  rw [Command.integer_of_values w.spells hvs hshort, hvalue]
  simp only [w.toList_text_eq_minus_iff]
  split <;> congr 1 <;> omega

end Numeral.Writing

/-- Digits of any scripts behind a sign or none are read as what they stand for by their places, and
nothing else is; so every way of writing an integer is read as that integer. -/
theorem integers_are_read_exactly :
    (∀ word, Command.integer word = .error (.failed .notInteger) ↔ ∀ ds, ¬ Spells word ds) ∧
    (∀ word ds, Spells word ds → ds.length ≤ digitLimit →
      ∃ vs, List.Forall₂ StandsFor ds vs ∧
        Command.integer word = .ok (if word.toList = '-' :: ds then
          -(Nat.ofDigits 10 vs.reverse : Nat) else (Nat.ofDigits 10 vs.reverse : Nat))) ∧
    (∀ (n : Int) (w : Writing n), w.digits.length ≤ digitLimit →
      Command.integer w.text = .ok n) ∧
    ∀ n : Int, (toString n.natAbs).length ≤ digitLimit →
      Command.integer (toString n) = .ok n := by
  refine ⟨?_, ?_, fun n w hshort => w.integer_text hshort, ?_⟩
  · intro word
    rw [Command.integer_eq_failed_iff]
    exact and_iff_right rfl
  · intro word ds hds hshort
    obtain ⟨vs, hvs, -⟩ := read_of_spells hds
    have hvalues := digits?_eq_some_iff.1 hvs
    refine ⟨vs, hvalues, ?_⟩
    rw [Command.integer_of_values hds hvalues hshort, ofDigits_eq]
  · intro n hshort
    rw [← Writing.text_plain]
    exact (Writing.plain n).integer_text hshort

/-- The integer 42 with a plus sign, a zero in front, and its digits in two scripts. -/
def mixedScripts : Writing 42 where
  sign := .plus
  zeros := 1
  digits := ['0', '४', '٢']
  minus_iff := by decide
  same := by
    have hfour : SameDigit '4' '४' := ⟨4, ⟨by decide, 0x30, by decide⟩, by decide, 0x966, by decide⟩
    have htwo : SameDigit '2' '٢' := ⟨2, ⟨by decide, 0x30, by decide⟩, by decide, 0x660, by decide⟩
    have hzero : SameDigit '0' '0' := ⟨0, ⟨by decide, 0x30, by decide⟩, by decide, 0x30, by decide⟩
    exact .cons hzero (.cons hfour (.cons htwo .nil))

/-- Mixed scripts, zeros in front and both signs are read; a point or a blank is not. -/
theorem integers_are_read_exactly_mixed :
    mixedScripts.text = "+0४٢" ∧ Command.integer "+0४٢" = .ok 42 ∧
    Command.integer "-007" = .ok (-7) ∧ Command.integer (toString (-305 : Int)) = .ok (-305) ∧
    Command.integer "1.5" = .error (.failed .notInteger) := by
  have htext : mixedScripts.text = "+0४٢" := by decide
  refine ⟨htext, ?_, ?_, ?_, ?_⟩
  · rw [← htext]
    exact integers_are_read_exactly.2.2.1 42 mixedScripts (by decide)
  · have hvalues : digits? ['0', '0', '7'] = some [0, 0, 7] := by rfl
    have hspells : Spells "-007" ['0', '0', '7'] :=
      ⟨by decide, isSome_digits?_iff.1 (by rw [hvalues]; rfl), Or.inr (Or.inr (by decide))⟩
    obtain ⟨vs, hvs, hread⟩ := integers_are_read_exactly.2.1 _ _ hspells (by decide)
    cases hvalues.symm.trans (digits?_eq_some_iff.2 hvs)
    rw [hread, if_pos (by decide)]
    decide
  · exact integers_are_read_exactly.2.2.2 (-305) (by decide)
  · rw [integers_are_read_exactly.1, ← read_eq_malformed_iff]
    decide

end Keyspace
