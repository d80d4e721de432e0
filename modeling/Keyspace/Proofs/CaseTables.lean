import Mathlib
import Keyspace.Proofs.Arguments

namespace Keyspace.Text

/-- The number that has a bit at each of the places. -/
def bits (ns : List Nat) : Nat := ns.foldr (fun n b => 2 ^ n ||| b) 0

theorem testBit_bits (ns : List Nat) (n : Nat) : (bits ns).testBit n = decide (n ∈ ns) := by
  induction ns with
  | nil => simp [bits]
  | cons m ns ih =>
    have hstep : bits (m :: ns) = 2 ^ m ||| bits ns := rfl
    rw [hstep, Nat.testBit_or, ih, Nat.testBit_two_pow, Bool.eq_iff_iff, Bool.or_eq_true,
      decide_eq_true_eq, decide_eq_true_eq, decide_eq_true_eq, List.mem_cons]
    exact or_congr_left eq_comm

theorem not_mem_of_bits {ms ns : List Nat} (h : bits ms &&& bits ns = 0) {n : Nat} (hm : n ∈ ms) :
    n ∉ ns := by
  intro hn
  have hbit : (bits ms &&& bits ns).testBit n = true := by
    rw [Nat.testBit_and, testBit_bits, testBit_bits, decide_eq_true hm, decide_eq_true hn]
    rfl
  rw [h, Nat.zero_testBit] at hbit
  cases hbit

/-- The code points of the blanks. -/
def blankPoints : List Nat :=
  blankRanges.flatMap fun b => List.range' b.first (b.last + 1 - b.first)

theorem mem_blankPoints {c : Char} (h : isBlank c = true) : c.toNat ∈ blankPoints := by
  obtain ⟨b, hb, hfirst, hlast⟩ := (Ranges.cover_iff blankRanges c).1 h
  rw [blankPoints, List.mem_flatMap]
  exact ⟨b, hb, List.mem_range'_1.2 ⟨hfirst, by omega⟩⟩

namespace Case

/-- The code points that a row covers. -/
def Row.letters (r : Row) : List Nat :=
  (List.range ((r.last - r.first) / r.stride + 1)).map fun i => r.first + r.stride * i

/-- The code points that are written under a row. -/
def Row.written (r : Row) : List Nat :=
  r.letters.map (fun n => r.target + (n - r.first)) ++ r.tail

theorem Row.mem_letters {r : Row} {n : Nat} (h : r.covers n = true) : n ∈ r.letters := by
  simp only [covers, Bool.and_eq_true, decide_eq_true_eq, beq_iff_eq] at h
  obtain ⟨⟨hfirst, hlast⟩, hstride⟩ := h
  refine List.mem_map.2 ⟨(n - r.first) / r.stride, ?_, ?_⟩
  · rw [List.mem_range, Nat.lt_add_one_iff]
    exact Nat.div_le_div_right (by omega)
  · rw [Nat.mul_div_cancel' (Nat.dvd_of_mod_eq_zero hstride)]
    omega

/-- A code point that stands for no character is written as the first of all. -/
theorem Row.toNat_of_mem_image {r : Row} {n : Nat} {d : Char} (hn : r.covers n = true)
    (hd : d ∈ r.image n) : d.toNat = 0 ∨ d.toNat ∈ r.written := by
  have himage : r.image n = ((r.target + (n - r.first)) :: r.tail).map Char.ofNat := rfl
  rw [himage] at hd
  obtain ⟨m, hm, rfl⟩ := List.mem_map.1 hd
  rw [Char.toNat_ofNat]
  split
  · right
    rw [written, List.mem_append]
    rcases List.mem_cons.1 hm with rfl | hm
    · exact Or.inl (List.mem_map_of_mem (mem_letters hn))
    · exact Or.inr hm
  · exact Or.inl rfl

variable {rows : List Row} {c d : Char}

theorem mapChar_cases (hd : d ∈ mapChar rows c) :
    (d = c ∧ ∀ r ∈ rows, r.covers c.toNat = false) ∨
      d.toNat = 0 ∨ d.toNat ∈ rows.flatMap Row.written := by
  unfold mapChar at hd
  split at hd
  · next r hr =>
    have hmem := List.mem_of_find?_eq_some hr
    have hcovers : r.covers c.toNat = true := by simpa using List.find?_some hr
    refine Or.inr ((Row.toNat_of_mem_image hcovers hd).imp_right fun hwritten => ?_)
    exact List.mem_flatMap.2 ⟨r, hmem, hwritten⟩
  · next hnone => exact Or.inl ⟨List.mem_singleton.1 hd, by simpa using hnone⟩

/-- No row of the upper case table covers the code point. -/
def Raised (n : Nat) : Prop := ∀ r ∈ upperRows, r.covers n = false

theorem raised_of_not_mem {n : Nat} (h : n ∉ upperRows.flatMap Row.letters) : Raised n := by
  intro r hr
  rw [Bool.eq_false_iff]
  exact fun hn => h (List.mem_flatMap.2 ⟨r, hr, Row.mem_letters hn⟩)

theorem upperRows_apart :
    bits (upperRows.flatMap Row.written) &&& bits (upperRows.flatMap Row.letters) = 0 := by
  decide +kernel

theorem raised_of_mem_mapChar (hd : d ∈ mapChar upperRows c) : Raised d.toNat := by
  rcases mapChar_cases hd with ⟨rfl, hkept⟩ | hzero | hwritten
  · exact hkept
  · rw [hzero]
    unfold Raised
    decide +kernel
  · exact raised_of_not_mem (not_mem_of_bits upperRows_apart hwritten)

/-- The first row moves the small letters of ASCII. -/
theorem toUpper_of_raised (h : Raised c.toNat) : c.toUpper = c := by
  apply Char.toUpper_eq_of_not_isLower
  intro hlower
  have hrow := h ⟨0x61, 0x7A, 1, 0x41, []⟩ List.mem_cons_self
  simp only [Char.isLower, Bool.and_eq_true, decide_eq_true_eq, UInt32.le_iff_toNat_le] at hlower
  obtain ⟨hfirst, hlast⟩ := hlower
  change 0x61 ≤ c.toNat at hfirst
  change c.toNat ≤ 0x7A at hlast
  simp [Row.covers, hfirst, hlast, Nat.mod_one] at hrow

end Case

open Case

variable {c d : Char} {s : String}

theorem toNat_toUpper_lt (h : c.toNat < 0x80) : c.toUpper.toNat < 0x80 := by
  have hall : ∀ n < 0x80, (Char.ofNat n).toUpper.toNat < 0x80 := by decide
  simpa using hall c.toNat h

theorem upperChar_of_mem (hd : d ∈ upperChar c) : upperChar d = [d] := by
  unfold upperChar at hd
  split at hd
  · next hascii =>
    rw [List.mem_singleton.1 hd, upperChar, if_pos (toNat_toUpper_lt hascii),
      Char.toUpper_toUpper_eq_toUpper]
  · have hraised : Raised d.toNat := raised_of_mem_mapChar hd
    rw [upperChar, toUpper_of_raised hraised, mapChar_of_uncovered hraised, ite_self]

theorem upper_upper (s : String) : upper (upper s) = upper s := by
  apply String.toList_injective
  rw [toList_upper, toList_upper, List.flatMap_assoc]
  apply List.flatMap_congr
  intro c _
  have hsame : (upperChar c).flatMap upperChar = (upperChar c).flatMap fun d => [d] :=
    List.flatMap_congr fun d hd => upperChar_of_mem hd
  rw [hsame, List.flatMap_singleton']

theorem upperRows_no_blank : bits (upperRows.flatMap Row.written) &&& bits blankPoints = 0 := by
  decide +kernel

theorem lowerRows_no_blank : bits (lowerRows.flatMap Row.written) &&& bits blankPoints = 0 := by
  decide +kernel

/-- A letter that is not blank is written without blanks. -/
theorem isBlank_of_mem_mapChar {rows : List Row}
    (h : bits (rows.flatMap Row.written) &&& bits blankPoints = 0) (hc : isBlank c = false)
    (hd : d ∈ mapChar rows c) : isBlank d = false := by
  rcases mapChar_cases hd with ⟨rfl, -⟩ | hzero | hwritten
  · exact hc
  · rw [← Char.ofNat_toNat d, hzero]
    decide
  · rw [Bool.eq_false_iff]
    exact fun hblank => not_mem_of_bits h hwritten (mem_blankPoints hblank)

theorem isBlank_toUpper (hascii : c.toNat < 0x80) (h : isBlank c = false) :
    isBlank c.toUpper = false := by
  have hall : ∀ n < 0x80, isBlank (Char.ofNat n) = false →
      isBlank (Char.ofNat n).toUpper = false := by decide +kernel
  simpa using hall c.toNat hascii (by simpa using h)

theorem isBlank_toLower (hascii : c.toNat < 0x80) (h : isBlank c = false) :
    isBlank c.toLower = false := by
  have hall : ∀ n < 0x80, isBlank (Char.ofNat n) = false →
      isBlank (Char.ofNat n).toLower = false := by decide +kernel
  simpa using hall c.toNat hascii (by simpa using h)

theorem solid_upper (h : Solid s) : Solid (upper s) := by
  intro d hd
  rw [toList_upper, List.mem_flatMap] at hd
  obtain ⟨c, hc, hd⟩ := hd
  unfold upperChar at hd
  split at hd
  · next hascii =>
    rw [List.mem_singleton.1 hd]
    exact isBlank_toUpper hascii (h c hc)
  · exact isBlank_of_mem_mapChar upperRows_no_blank (h c hc) hd

theorem isBlank_of_mem_lowerChar {before after : List Char} (h : isBlank c = false)
    (hd : d ∈ lowerChar before c after) : isBlank d = false := by
  unfold lowerChar at hd
  split at hd
  · next hascii =>
    rw [List.mem_singleton.1 hd]
    exact isBlank_toLower hascii h
  · split at hd
    · rw [List.mem_singleton.1 hd, lowerSigma]
      split <;> decide
    · exact isBlank_of_mem_mapChar lowerRows_no_blank h hd

theorem isBlank_of_mem_lowerFrom {before cs : List Char} (h : ∀ c ∈ cs, isBlank c = false)
    (hd : d ∈ lowerFrom before cs) : isBlank d = false := by
  induction cs generalizing before with
  | nil => cases hd
  | cons c cs ih =>
    rw [lowerFrom, List.mem_append] at hd
    rcases hd with hd | hd
    · exact isBlank_of_mem_lowerChar (h c List.mem_cons_self) hd
    · exact ih (fun x hx => h x (List.mem_cons_of_mem c hx)) hd

theorem solid_lower (h : Solid s) : Solid (lower s) := by
  intro d hd
  rw [toList_lower] at hd
  exact isBlank_of_mem_lowerFrom h hd

end Keyspace.Text
