import Mathlib.Data.List.DropRight
import Mathlib.Data.List.TakeWhile
import Keyspace.Text.Blank

namespace Keyspace.Text

variable {b : Char} {cs gap lead trail : List Char}

theorem extend_append {ws : List (List Char)} (h : ws ≠ []) (c : Char) (vs : List (List Char)) :
    extend c (ws ++ vs) = extend c ws ++ vs := by
  obtain ⟨w, ws, rfl⟩ := List.exists_cons_of_ne_nil h
  rfl

theorem pieces_append_blank (hb : isBlank b = true) (xs ys : List Char) :
    pieces (xs ++ b :: ys) = pieces xs ++ pieces ys := by
  induction xs with
  | nil => simp [pieces, hb]
  | cons c xs ih =>
    cases hc : isBlank c with
    | true => rw [List.cons_append, pieces_blank hc, pieces_blank hc, ih, List.cons_append]
    | false =>
      rw [List.cons_append, pieces_solid hc, pieces_solid hc, ih,
        extend_append (pieces_ne_nil xs)]

theorem wordsOf_append_blank (hb : isBlank b = true) (xs ys : List Char) :
    wordsOf (xs ++ b :: ys) = wordsOf xs ++ wordsOf ys := by
  rw [wordsOf, pieces_append_blank hb, List.filter_append, wordsOf, wordsOf]

@[simp] theorem wordsOf_nil : wordsOf [] = [] := rfl

theorem wordsOf_blanks_append (h : ∀ c ∈ gap, isBlank c = true) (ys : List Char) :
    wordsOf (gap ++ ys) = wordsOf ys := by
  induction gap with
  | nil => rfl
  | cons c gap ih =>
    rw [List.cons_append, wordsOf_blank (h c List.mem_cons_self)]
    exact ih fun d hd => h d (List.mem_cons_of_mem c hd)

/-- Blanks keep words apart, however many there are. -/
theorem wordsOf_append_gap (hgap : gap ≠ []) (h : ∀ c ∈ gap, isBlank c = true)
    (xs ys : List Char) : wordsOf (xs ++ (gap ++ ys)) = wordsOf xs ++ wordsOf ys := by
  obtain ⟨b, gap, rfl⟩ := List.exists_cons_of_ne_nil hgap
  rw [List.cons_append, wordsOf_append_blank (h b List.mem_cons_self),
    wordsOf_blanks_append fun c hc => h c (List.mem_cons_of_mem b hc)]

theorem pieces_of_solid (h : ∀ c ∈ cs, isBlank c = false) : pieces cs = [cs] := by
  induction cs with
  | nil => rfl
  | cons c cs ih =>
    rw [pieces_solid (h c List.mem_cons_self), ih fun d hd => h d (List.mem_cons_of_mem c hd)]
    rfl

theorem wordsOf_of_solid (hne : cs ≠ []) (h : ∀ c ∈ cs, isBlank c = false) :
    wordsOf cs = [cs] := by
  rw [wordsOf, pieces_of_solid h]
  simp [hne]

theorem wordsOf_eq_nil_iff : wordsOf cs = [] ↔ ∀ c ∈ cs, isBlank c = true := by
  constructor
  · intro h
    induction cs with
    | nil => simp
    | cons c cs ih =>
      cases hc : isBlank c with
      | true =>
        rw [wordsOf_blank hc] at h
        simpa [hc] using ih h
      | false =>
        -- the first piece begins with this character
        obtain ⟨w, ws, hw⟩ := List.exists_cons_of_ne_nil (pieces_ne_nil cs)
        simp [wordsOf, pieces_solid hc, hw, extend] at h
  · intro h
    simpa using wordsOf_blanks_append h []

theorem trimEnd_eq_rdropWhile (cs : List Char) : trimEnd cs = cs.rdropWhile isBlank := rfl

theorem wordsOf_trimStart (cs : List Char) : wordsOf (trimStart cs) = wordsOf cs := by
  induction cs with
  | nil => rfl
  | cons c cs ih =>
    cases hc : isBlank c with
    | true => rw [wordsOf_blank hc, ← ih, trimStart, List.dropWhile_cons_of_pos hc, trimStart]
    | false => rw [trimStart, List.dropWhile_cons_of_neg (by simp [hc])]

theorem wordsOf_trimEnd (cs : List Char) : wordsOf (trimEnd cs) = wordsOf cs := by
  rw [trimEnd_eq_rdropWhile]
  induction cs using List.reverseRecOn with
  | nil => rfl
  | append_singleton cs c ih =>
    cases hc : isBlank c with
    | true =>
      rw [List.rdropWhile_concat_pos isBlank cs c hc, ih, wordsOf_append_blank hc, wordsOf_nil,
        List.append_nil]
    | false => rw [List.rdropWhile_concat_neg isBlank cs c (by simp [hc])]

theorem words_trim (s : String) : words (trim s) = words s := by
  rw [words, trim, String.toList_ofList, trimChars, wordsOf_trimEnd, wordsOf_trimStart, words]

/-- No blank at either end. -/
structure Tight (cs : List Char) : Prop where
  first : ∀ c, cs.head? = some c → isBlank c = false
  last : ∀ c, cs.getLast? = some c → isBlank c = false

theorem tight_trimChars (cs : List Char) : Tight (trimChars cs) := by
  rw [trimChars, trimEnd_eq_rdropWhile]
  constructor
  · intro c hc
    -- what is left at the front stood at the front before the end was trimmed
    obtain ⟨front, hfront⟩ := List.head?_eq_some_iff.1 hc
    obtain ⟨rest, hrest⟩ := List.rdropWhile_prefix isBlank (trimStart cs)
    have hhead : (cs.dropWhile isBlank).head? = some c := by
      change (trimStart cs).head? = some c
      rw [← hrest, hfront, List.cons_append, List.head?_cons]
    simpa [hhead] using List.head?_dropWhile_not isBlank cs
  · intro c hc
    have hne : (trimStart cs).rdropWhile isBlank ≠ [] := fun hnil => by simp [hnil] at hc
    rw [← (List.getLast_eq_iff_getLast?_eq_some hne).2 hc]
    exact Bool.eq_false_iff.2 (List.rdropWhile_last_not isBlank (trimStart cs) hne)

theorem trimStart_of_first (h : ∀ c, cs.head? = some c → isBlank c = false) :
    trimStart cs = cs := by
  cases cs with
  | nil => rfl
  | cons c cs => exact List.dropWhile_cons_of_neg (by simp [h c rfl])

theorem trimEnd_of_last (h : ∀ c, cs.getLast? = some c → isBlank c = false) :
    trimEnd cs = cs := by
  rw [trimEnd, trimStart_of_first, List.reverse_reverse]
  rwa [List.head?_reverse]

theorem trimChars_of_tight (h : Tight cs) : trimChars cs = cs := by
  rw [trimChars, trimStart_of_first h.first, trimEnd_of_last h.last]

theorem trim_trim (s : String) : trim (trim s) = trim s := by
  rw [trim, trim, String.toList_ofList, trimChars_of_tight (tight_trimChars s.toList)]

theorem trimChars_between (hlead : ∀ c ∈ lead, isBlank c = true)
    (htrail : ∀ c ∈ trail, isBlank c = true) (hne : cs ≠ []) (h : Tight cs) :
    trimChars (lead ++ (cs ++ trail)) = cs := by
  obtain ⟨c, rest, rfl⟩ := List.exists_cons_of_ne_nil hne
  have hstart : trimStart (lead ++ (c :: rest ++ trail)) = c :: rest ++ trail := by
    rw [trimStart, List.dropWhile_append_of_pos hlead]
    exact trimStart_of_first fun d hd => h.first d (by simpa using hd)
  have hend : trimStart (c :: rest ++ trail).reverse = trimStart (c :: rest).reverse := by
    rw [trimStart, List.reverse_append, List.dropWhile_append_of_pos (by simpa using htrail),
      trimStart]
  rw [trimChars, hstart, trimEnd, hend]
  exact trimEnd_of_last h.last

end Keyspace.Text
