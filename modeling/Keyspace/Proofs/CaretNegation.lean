import Keyspace.Proofs.KeysMatching

namespace Keyspace.Glob

/-- The characters that negate a class. -/
def IsMark (c : Char) : Prop := c = '!' ∨ c = '^'

instance (c : Char) : Decidable (IsMark c) := inferInstanceAs (Decidable (c = '!' ∨ c = '^'))

theorem head?_ne_of_not_mark {c m : Char} (hc : ¬ IsMark c) (hm : IsMark m) (cs : List Char) :
    (c :: cs).head? ≠ some m := by
  intro h
  exact hc (Option.some.inj h ▸ hm)

/-- What may stand between the brackets of a class: a mark or none, then one character, whichever it
is, then any that are no closing brackets. -/
inductive CaretText : List Char → Prop where
  | plain {c : Char} {cs : List Char} : ¬ IsMark c → ']' ∉ cs → CaretText (c :: cs)
  | marked {m c : Char} {cs : List Char} : IsMark m → ']' ∉ cs → CaretText (m :: c :: cs)

/-- The class with this text stands for the character: one that it lists or, behind a mark, one that
it does not list. -/
inductive CaretClass (x : Char) : List Char → Prop where
  | oneOf {c : Char} {cs : List Char} {ms : List Member} :
      ¬ IsMark c → Lists (c :: cs) ms → (∃ m ∈ ms, m.Has x) → CaretClass x (c :: cs)
  | noneOf {mark : Char} {cs : List Char} {ms : List Member} :
      IsMark mark → Lists cs ms → (∀ m ∈ ms, ¬ m.Has x) → CaretClass x (mark :: cs)

/-- Behind an opening bracket: the text of a class, and the bracket that closes it. -/
def OpensClass (p : List Char) : Prop := ∃ text rest, CaretText text ∧ p = text ++ ']' :: rest

/-- The text matches the pattern as a whole. -/
inductive CaretGlobs : List Char → List Char → Prop where
  | done : CaretGlobs [] []
  | star {p t : List Char} (piece : List Char) : CaretGlobs p t → CaretGlobs ('*' :: p) (piece ++ t)
  | question {p t : List Char} {x : Char} : CaretGlobs p t → CaretGlobs ('?' :: p) (x :: t)
  | bracket {text p t : List Char} {x : Char} :
      CaretText text → CaretClass x text → CaretGlobs p t →
        CaretGlobs ('[' :: (text ++ ']' :: p)) (x :: t)
  | unclosed {p t : List Char} :
      ¬ OpensClass p → CaretGlobs p t → CaretGlobs ('[' :: p) ('[' :: t)
  | literal {c : Char} {p t : List Char} :
      c ∉ ['*', '?', '['] → CaretGlobs p t → CaretGlobs (c :: p) (c :: t)

theorem closing_unique {cs cs' rest rest' : List Char} (h : ']' ∉ cs) (h' : ']' ∉ cs')
    (heq : cs ++ ']' :: rest = cs' ++ ']' :: rest') : cs = cs' ∧ rest = rest' := by
  have hcs : untilBracket (cs ++ ']' :: rest) = some (cs, rest) :=
    untilBracket_eq_some_iff.2 ⟨h, rfl⟩
  rw [heq, untilBracket_eq_some_iff.2 ⟨h', rfl⟩, Option.some.injEq, Prod.mk.injEq] at hcs
  exact ⟨hcs.1.symm, hcs.2.symm⟩

theorem CaretText.unique {text text' rest rest' : List Char} (h : CaretText text)
    (h' : CaretText text') (heq : text ++ ']' :: rest = text' ++ ']' :: rest') :
    text = text' ∧ rest = rest' := by
  cases h with
  | plain hc hcs =>
    cases h' with
    | plain hc' hcs' =>
      obtain ⟨rfl, htail⟩ := List.cons_eq_cons.1 heq
      obtain ⟨rfl, rfl⟩ := closing_unique hcs hcs' htail
      exact ⟨rfl, rfl⟩
    | marked hm' _ =>
      obtain ⟨rfl, -⟩ := List.cons_eq_cons.1 heq
      exact absurd hm' hc
  | marked hm hcs =>
    cases h' with
    | plain hc' _ =>
      obtain ⟨rfl, -⟩ := List.cons_eq_cons.1 heq
      exact absurd hm hc'
    | marked hm' hcs' =>
      simp only [List.cons_append, List.cons.injEq] at heq
      obtain ⟨rfl, rfl, htail⟩ := heq
      obtain ⟨rfl, rfl⟩ := closing_unique hcs hcs' htail
      exact ⟨rfl, rfl⟩

section Inversion

variable {p t text : List Char} {c : Char}

theorem caretGlobs_nil_iff : CaretGlobs [] t ↔ t = [] := by
  constructor
  · intro h
    cases h
    rfl
  · rintro rfl
    exact .done

theorem caretGlobs_star_iff :
    CaretGlobs ('*' :: p) t ↔ ∃ piece rest, t = piece ++ rest ∧ CaretGlobs p rest := by
  constructor
  · intro h
    cases h with
    | star piece h => exact ⟨piece, _, rfl, h⟩
    | literal hc _ => exact absurd hc (by decide)
  · rintro ⟨piece, rest, rfl, h⟩
    exact .star piece h

theorem caretGlobs_question_iff :
    CaretGlobs ('?' :: p) t ↔ ∃ x rest, t = x :: rest ∧ CaretGlobs p rest := by
  constructor
  · intro h
    cases h with
    | question h => exact ⟨_, _, rfl, h⟩
    | literal hc _ => exact absurd hc (by decide)
  · rintro ⟨x, rest, rfl, h⟩
    exact .question h

theorem caretGlobs_bracket_iff (htext : CaretText text) :
    CaretGlobs ('[' :: (text ++ ']' :: p)) t ↔
      ∃ x rest, t = x :: rest ∧ CaretClass x text ∧ CaretGlobs p rest := by
  constructor
  · intro h
    generalize hp : '[' :: (text ++ ']' :: p) = pattern at h
    cases h with
    | done => cases hp
    | star => cases hp
    | question => cases hp
    | bracket htext' hclass h =>
      obtain ⟨rfl, rfl⟩ := htext.unique htext' (List.cons.inj hp).2
      exact ⟨_, _, rfl, hclass, h⟩
    | unclosed hopen _ =>
      obtain rfl := (List.cons.inj hp).2
      exact absurd ⟨_, _, htext, rfl⟩ hopen
    | literal hc _ =>
      obtain ⟨rfl, -⟩ := List.cons.inj hp
      -- a bracket is no plain character
      exact absurd hc (by decide)
  · rintro ⟨x, rest, rfl, hclass, h⟩
    exact .bracket htext hclass h

theorem caretGlobs_class_iff (htext : CaretText text) (x : Char) :
    CaretGlobs ('[' :: (text ++ [']'])) [x] ↔ CaretClass x text := by
  rw [caretGlobs_bracket_iff htext]
  constructor
  · rintro ⟨y, rest, heq, hclass, -⟩
    obtain ⟨rfl, -⟩ := List.cons.inj heq
    exact hclass
  · exact fun hclass => ⟨x, [], rfl, hclass, .done⟩

theorem caretGlobs_unclosed_iff (hopen : ¬ OpensClass p) :
    CaretGlobs ('[' :: p) t ↔ ∃ rest, t = '[' :: rest ∧ CaretGlobs p rest := by
  constructor
  · intro h
    cases h with
    | bracket htext _ _ => exact absurd ⟨_, _, htext, rfl⟩ hopen
    | unclosed _ h => exact ⟨_, rfl, h⟩
    | literal hc _ => exact absurd hc (by decide)
  · rintro ⟨rest, rfl, h⟩
    exact .unclosed hopen h

theorem caretGlobs_literal_iff (hc : c ∉ ['*', '?', '[']) :
    CaretGlobs (c :: p) t ↔ ∃ rest, t = c :: rest ∧ CaretGlobs p rest := by
  constructor
  · intro h
    cases h with
    | literal _ h => exact ⟨_, rfl, h⟩
    | star | question | bracket | unclosed => exact absurd hc (by decide)
  · rintro ⟨rest, rfl, h⟩
    exact .literal hc h

end Inversion

/-- What stands behind a bracket once the bracket and what follows are written plainly. -/
def behindBracket : List Char → List Char
  | '^' :: cs => '!' :: plainNegation cs
  | cs => plainNegation cs

section Plain

variable {c : Char} {p cs text rest : List Char}

theorem plainNegation_bracket (p : List Char) :
    plainNegation ('[' :: p) = '[' :: behindBracket p := by
  unfold behindBracket
  split
  · rfl
  · next hcaret =>
    apply plainNegation_of_not_prefix
    rintro ⟨more, heq⟩
    exact hcaret more (List.cons.inj heq).2.symm

theorem plainNegation_of_ne (hc : c ≠ '[') (cs : List Char) :
    plainNegation (c :: cs) = c :: plainNegation cs := by
  apply plainNegation_of_not_prefix
  rintro ⟨more, heq⟩
  exact hc (List.cons.inj heq).1.symm

theorem behindBracket_of_head_ne (h : p.head? ≠ some '^') : behindBracket p = plainNegation p := by
  unfold behindBracket
  split
  · exact absurd rfl h
  · rfl

theorem head?_plainNegation (cs : List Char) : (plainNegation cs).head? = cs.head? := by
  fun_cases plainNegation cs <;> rfl

theorem plainNegation_append (cs rest : List Char) :
    plainNegation (cs ++ ']' :: rest) = plainNegation cs ++ ']' :: plainNegation rest := by
  fun_induction plainNegation cs with
  | case1 cs ih =>
    have hcaret : ∀ more, plainNegation ('[' :: '^' :: more) = '[' :: '!' :: plainNegation more :=
      fun _ => rfl
    simp only [List.cons_append, hcaret, ih]
  | case2 c cs hcaret ih =>
    rw [List.cons_append, List.cons_append, ← ih]
    apply plainNegation_of_not_prefix
    rintro ⟨more, heq⟩
    obtain ⟨rfl, htail⟩ := List.cons.inj heq
    cases cs with
    | nil => cases htail
    | cons c cs =>
      obtain ⟨rfl, -⟩ := List.cons.inj htail
      exact hcaret cs rfl rfl
  | case3 => exact plainNegation_of_ne (by decide) rest

theorem plainNegation_eq_self_iff : plainNegation cs = cs ↔ ¬ ['[', '^'] <:+: cs := by
  fun_induction plainNegation cs with
  | case1 cs ih =>
    constructor
    · intro h
      cases h
    · exact fun h => absurd (List.prefix_append ['[', '^'] cs).isInfix h
  | case2 c cs hcaret ih =>
    have hnot : ¬ ['[', '^'] <+: c :: cs := by
      rintro ⟨more, heq⟩
      obtain ⟨rfl, rfl⟩ := List.cons.inj heq
      exact hcaret more rfl rfl
    rw [List.infix_cons_iff, or_iff_right hnot, ← ih, List.cons_inj_right]
  | case3 => simp

theorem bracket_mem_drop_iff (cs : List Char) (n : Nat) :
    ']' ∈ (plainNegation cs).drop n ↔ ']' ∈ cs.drop n := by
  fun_induction plainNegation cs generalizing n with
  | case1 cs ih =>
    rcases n with _ | _ | n
    · simpa using ih 0
    · simpa using ih 0
    · simpa using ih n
  | case2 c cs _ ih =>
    cases n with
    | zero => simpa using or_congr_right (ih 0)
    | succ n => simpa using ih n
  | case3 => simp

theorem bracket_mem_drop_behindBracket_iff (p : List Char) (n : Nat) :
    ']' ∈ (behindBracket p).drop n ↔ ']' ∈ p.drop n := by
  have h := bracket_mem_drop_iff ('[' :: p) (n + 1)
  rwa [plainNegation_bracket, List.drop_succ_cons, List.drop_succ_cons] at h

theorem behindBracket_mark {m : Char} (hm : IsMark m) (cs : List Char) :
    behindBracket (m :: cs) = '!' :: plainNegation cs := by
  rcases hm with rfl | rfl
  · exact plainNegation_of_ne (by decide) cs
  · rfl

theorem head?_behindBracket_of_not_mark (hc : ¬ IsMark c) (cs : List Char) :
    (behindBracket (c :: cs)).head? = some c := by
  rw [behindBracket_of_head_ne (head?_ne_of_not_mark hc (Or.inr rfl) cs), head?_plainNegation,
    List.head?_cons]

theorem head?_behindBracket_ne (p : List Char) : (behindBracket p).head? ≠ some '^' := by
  cases p with
  | nil => exact Option.some_ne_none '^' ∘ Eq.symm
  | cons c cs =>
    by_cases hc : IsMark c
    · rw [behindBracket_mark hc, List.head?_cons]
      decide
    · rw [head?_behindBracket_of_not_mark hc]
      exact head?_ne_of_not_mark hc (Or.inr rfl) cs

theorem behindBracket_append {text : List Char} (htext : CaretText text) (rest : List Char) :
    behindBracket (text ++ ']' :: rest) = behindBracket text ++ ']' :: plainNegation rest := by
  cases htext with
  | @plain c cs hc _ =>
    have hhead : ∀ more : List Char, (c :: more).head? ≠ some '^' :=
      head?_ne_of_not_mark hc (Or.inr rfl)
    rw [behindBracket_of_head_ne (hhead cs), ← plainNegation_append]
    exact behindBracket_of_head_ne (hhead _)
  | @marked m c cs hm _ =>
    calc
      behindBracket (m :: (c :: cs ++ ']' :: rest))
      _ = '!' :: plainNegation (c :: cs ++ ']' :: rest) := behindBracket_mark hm _
      _ = '!' :: (plainNegation (c :: cs) ++ ']' :: plainNegation rest) := by
        rw [plainNegation_append]
      _ = behindBracket (m :: c :: cs) ++ ']' :: plainNegation rest := by
        rw [behindBracket_mark hm, List.cons_append]

end Plain

section Opening

variable {c : Char} {p cs text rest : List Char}

theorem opensClass_mark_iff (hc : IsMark c) : OpensClass (c :: cs) ↔ ']' ∈ cs.drop 1 := by
  constructor
  · rintro ⟨text, rest, htext, heq⟩
    cases htext with
    | plain hc' _ =>
      obtain ⟨rfl, -⟩ := List.cons_eq_cons.1 heq
      exact absurd hc hc'
    | marked _ _ =>
      obtain ⟨-, rfl⟩ := List.cons_eq_cons.1 heq
      simp
  · intro h
    cases cs with
    | nil => cases h
    | cons c' cs =>
      obtain ⟨front, rest, rfl, hfront⟩ := List.eq_append_cons_of_mem h
      exact ⟨c :: c' :: front, rest, .marked hc hfront, rfl⟩

theorem opensClass_iff_of_not_mark (hc : ¬ IsMark c) : OpensClass (c :: cs) ↔ ']' ∈ cs := by
  constructor
  · rintro ⟨text, rest, htext, heq⟩
    cases htext with
    | plain _ _ =>
      obtain ⟨-, rfl⟩ := List.cons_eq_cons.1 heq
      simp
    | marked hm _ =>
      obtain ⟨rfl, -⟩ := List.cons_eq_cons.1 heq
      exact absurd hm hc
  · intro h
    obtain ⟨front, rest, rfl, hfront⟩ := List.eq_append_cons_of_mem h
    exact ⟨c :: front, rest, .plain hc hfront, rfl⟩

/-- Writing the pattern plainly opens no class and closes none. -/
theorem opensClass_behindBracket_iff (p : List Char) :
    OpensClass (behindBracket p) ↔ OpensClass p := by
  cases p with
  | nil => exact Iff.rfl
  | cons c cs =>
    by_cases hc : IsMark c
    · have hdrop := bracket_mem_drop_behindBracket_iff (c :: cs) 2
      rw [behindBracket_mark hc] at hdrop ⊢
      rw [opensClass_mark_iff (Or.inl rfl), opensClass_mark_iff hc]
      exact hdrop
    · have hdrop := bracket_mem_drop_behindBracket_iff (c :: cs) 1
      obtain ⟨ds, hds⟩ := List.head?_eq_some_iff.1 (head?_behindBracket_of_not_mark hc cs)
      rw [hds] at hdrop ⊢
      rw [opensClass_iff_of_not_mark hc, opensClass_iff_of_not_mark hc]
      exact hdrop

theorem ClassText.caretText (htext : ClassText text) (h : text.head? ≠ some '^') :
    CaretText text := by
  cases htext with
  | plain hc hcs =>
    refine .plain ?_ hcs
    rintro (rfl | rfl)
    · exact hc rfl
    · exact h rfl
  | marked hcs => exact .marked (Or.inl rfl) hcs

theorem classText_behindBracket (htext : CaretText text) : ClassText (behindBracket text) := by
  cases htext with
  | @plain c cs hc hcs =>
    have hdrop := bracket_mem_drop_behindBracket_iff (c :: cs) 1
    obtain ⟨ds, hds⟩ := List.head?_eq_some_iff.1 (head?_behindBracket_of_not_mark hc cs)
    rw [hds] at hdrop ⊢
    exact .plain (fun he => hc (Or.inl he)) (mt hdrop.1 hcs)
  | @marked m c cs hm hcs =>
    have hdrop := bracket_mem_drop_iff (c :: cs) 1
    obtain ⟨ds, hds⟩ := List.head?_eq_some_iff.1 (head?_plainNegation (c :: cs))
    rw [behindBracket_mark hm]
    rw [hds] at hdrop ⊢
    exact .marked (mt hdrop.1 hcs)

/-- A class ends where it ended before the pattern was written plainly. -/
theorem splitClass_behindBracket (htext : CaretText text) (rest : List Char) :
    splitClass (behindBracket (text ++ ']' :: rest)) =
      some (behindBracket text, plainNegation rest) :=
  splitClass_eq_some_iff.2 ⟨classText_behindBracket htext, behindBracket_append htext rest⟩

theorem splitClass_behindBracket_eq_none (hopen : ¬ OpensClass p) :
    splitClass (behindBracket p) = none := by
  rw [splitClass_eq_none_iff]
  intro text rest htext heq
  apply hopen
  have hhead : text.head? ≠ some '^' := by
    intro hcaret
    apply head?_behindBracket_ne p
    rw [heq, List.head?_append, hcaret]
    rfl
  rw [← opensClass_behindBracket_iff]
  exact ⟨text, rest, htext.caretText hhead, heq⟩

end Opening

/-- The text of a class in which nothing counts as a mark but one that comes first: no caret stands
behind an opening bracket, and no exclamation mark comes late. -/
inductive OrderlyText : List Char → Prop where
  | plain {c : Char} {cs : List Char} :
      ¬ IsMark c → ']' ∉ cs → ¬ ['[', '^'] <:+: c :: cs →
        (∀ out, ¬ LateMark (membersOf (c :: cs)) out) → OrderlyText (c :: cs)
  | marked {m c : Char} {cs : List Char} :
      IsMark m → ']' ∉ cs → ¬ ['[', '^'] <:+: c :: cs → OrderlyText (m :: c :: cs)

/-- No caret comes right behind a bracket that opens no class, and every class has an orderly
text. -/
inductive Orderly : List Char → Prop where
  | nil : Orderly []
  | bracket {text p : List Char} :
      OrderlyText text → Orderly p → Orderly ('[' :: (text ++ ']' :: p))
  | unclosed {p : List Char} :
      ¬ OpensClass p → p.head? ≠ some '^' → Orderly p → Orderly ('[' :: p)
  | other {c : Char} {p : List Char} : c ≠ '[' → Orderly p → Orderly (c :: p)

theorem OrderlyText.caretText {text : List Char} (h : OrderlyText text) : CaretText text := by
  cases h with
  | plain hc hcs _ _ => exact .plain hc hcs
  | marked hm hcs _ => exact .marked hm hcs

theorem caretClass_mark_iff {m x : Char} (hm : IsMark m) (cs : List Char) :
    CaretClass x (m :: cs) ↔ ∀ member ∈ membersOf cs, ¬ member.Has x := by
  constructor
  · intro h
    cases h with
    | oneOf hnot _ _ => exact absurd hm hnot
    | noneOf _ hlists hx =>
      rw [hlists.eq_membersOf] at hx
      exact hx
  · exact fun hx => .noneOf hm (lists_membersOf cs) hx

theorem caretClass_iff_of_not_mark {c x : Char} (hc : ¬ IsMark c) (cs : List Char) :
    CaretClass x (c :: cs) ↔ ∃ member ∈ membersOf (c :: cs), member.Has x := by
  constructor
  · intro h
    cases h with
    | oneOf _ hlists hx =>
      rw [hlists.eq_membersOf] at hx
      exact hx
    | noneOf hm _ _ => exact absurd hm hc
  · exact fun hx => .oneOf hc (lists_membersOf (c :: cs)) hx

/-- The token for a class with an orderly text stands for the characters that the class stands for
where the caret negates. -/
theorem accepts_classOf_behindBracket_iff {text : List Char} (h : OrderlyText text) (x : Char) :
    (classOf (behindBracket text)).accepts x = true ↔ CaretClass x text := by
  cases h with
  | @plain c cs hc _ hcaret hlate =>
    have hhead : ∀ m : Char, IsMark m → (c :: cs).head? ≠ some m :=
      fun m hm => head?_ne_of_not_mark hc hm cs
    rw [behindBracket_of_head_ne (hhead '^' (Or.inr rfl)), plainNegation_eq_self_iff.2 hcaret,
      classOf_of_not_lateMark (hhead '!' (Or.inl rfl)) hlate, accepts_oneOf_iff,
      caretClass_iff_of_not_mark hc]
  | @marked m c cs hm _ hcaret =>
    rw [behindBracket_mark hm, plainNegation_eq_self_iff.2 hcaret, caretClass_mark_iff hm]
    exact accepts_noneOf_iff _ x

section Matching

variable {t : Token} {ts : Glob} {cs : List Char}

theorem matches_nil_iff : Matches [] cs ↔ cs = [] := by
  constructor
  · intro h
    cases h
    rfl
  · rintro rfl
    exact .done

theorem matches_anyText_iff :
    Matches (.anyText :: ts) cs ↔ ∃ piece rest, cs = piece ++ rest ∧ Matches ts rest := by
  constructor
  · exact Matches.anyText_inv
  · rintro ⟨piece, rest, rfl, h⟩
    exact .text piece h

theorem matches_char_iff (ht : t ≠ .anyText) :
    Matches (t :: ts) cs ↔ ∃ x rest, cs = x :: rest ∧ t.accepts x = true ∧ Matches ts rest := by
  constructor
  · exact Matches.char_inv ht
  · rintro ⟨x, rest, rfl, hx, h⟩
    exact .char hx h

theorem matches_literal_iff {c : Char} :
    Matches (.literal c :: ts) cs ↔ ∃ rest, cs = c :: rest ∧ Matches ts rest := by
  constructor
  · exact Matches.literal_inv
  · rintro ⟨rest, rfl, h⟩
    exact .char (beq_self_eq_true c) h

end Matching

/-- An orderly pattern, written plainly, is matched by just the texts that match it where the caret
negates. -/
theorem matches_plainNegation_iff {p : List Char} (h : Orderly p) (t : List Char) :
    Matches (ofChars (plainNegation p)) t ↔ CaretGlobs p t := by
  induction h generalizing t with
  | nil => rw [plainNegation, ofChars_nil, matches_nil_iff, caretGlobs_nil_iff]
  | @bracket text p htext _ ih =>
    rw [plainNegation_bracket, ofChars_bracket (splitClass_behindBracket htext.caretText p),
      matches_char_iff (classOf_ne_anyText _), caretGlobs_bracket_iff htext.caretText]
    simp only [accepts_classOf_behindBracket_iff htext, ih]
  | @unclosed p hopen hcaret _ ih =>
    -- without a caret behind it the bracket is written as it was
    rw [plainNegation_bracket, ofChars_unclosed (splitClass_behindBracket_eq_none hopen),
      behindBracket_of_head_ne hcaret, matches_literal_iff, caretGlobs_unclosed_iff hopen]
    simp only [ih]
  | @other c p hc _ ih =>
    rw [plainNegation_of_ne hc]
    by_cases hstar : c = '*'
    · subst hstar
      rw [ofChars_star, matches_anyText_iff, caretGlobs_star_iff]
      simp only [ih]
    by_cases hquestion : c = '?'
    · subst hquestion
      rw [ofChars_question, matches_char_iff (by simp), caretGlobs_question_iff]
      simp only [Token.accepts, true_and, ih]
    · have hliteral : c ∉ ['*', '?', '['] := by simp [hstar, hquestion, hc]
      rw [ofChars_literal hliteral, matches_literal_iff, caretGlobs_literal_iff hliteral]
      simp only [ih]

/-- A key with no star, no question mark and no class in it. -/
structure Wildless (k : List Char) : Prop where
  star : '*' ∉ k
  question : '?' ∉ k
  bracket : ∀ front p, k = front ++ '[' :: p → ¬ OpensClass p

section Wildless

variable {c : Char} {k : List Char}

theorem Wildless.tail (h : Wildless (c :: k)) : Wildless k where
  star hmem := h.star (List.mem_cons_of_mem c hmem)
  question hmem := h.question (List.mem_cons_of_mem c hmem)
  bracket front p hk := h.bracket (c :: front) p (by rw [hk, List.cons_append])

theorem Wildless.not_opensClass (h : Wildless ('[' :: k)) : ¬ OpensClass k := h.bracket [] k rfl

theorem Wildless.literal (h : Wildless (c :: k)) (hc : c ≠ '[') : c ∉ ['*', '?', '['] := by
  have hstar : '*' ≠ c := fun he => h.star (he ▸ List.mem_cons_self)
  have hquestion : '?' ≠ c := fun he => h.question (he ▸ List.mem_cons_self)
  simp [hc, hstar.symm, hquestion.symm]

theorem wildless_of_not_mem (hstar : '*' ∉ k) (hquestion : '?' ∉ k) (hbracket : ']' ∉ k) :
    Wildless k := by
  refine ⟨hstar, hquestion, ?_⟩
  rintro front p rfl ⟨text, rest, -, rfl⟩
  exact hbracket (by simp)

/-- Every character of such a key stands for itself, once the key is written plainly. -/
theorem Wildless.ofChars_plainNegation (h : Wildless k) :
    ofChars (plainNegation k) = (plainNegation k).map .literal := by
  fun_induction plainNegation k with
  | case1 k ih =>
    -- the mark that is put in opens no class, as the caret opened none
    have hsplit : splitClass ('!' :: plainNegation k) = none :=
      splitClass_behindBracket_eq_none h.not_opensClass
    rw [ofChars_unclosed hsplit, ofChars_literal (by decide), ih h.tail.tail]
    rfl
  | case2 c k hcaret ih =>
    by_cases hc : c = '['
    · subst hc
      have hhead : k.head? ≠ some '^' := by
        intro he
        obtain ⟨more, rfl⟩ := List.head?_eq_some_iff.1 he
        exact hcaret more rfl rfl
      have hsplit : splitClass (plainNegation k) = none := by
        rw [← behindBracket_of_head_ne hhead]
        exact splitClass_behindBracket_eq_none h.not_opensClass
      rw [ofChars_unclosed hsplit, ih h.tail]
      rfl
    · rw [ofChars_literal (h.literal hc), ih h.tail]
      rfl
  | case3 => exact ofChars_nil

end Wildless

theorem matches_literals_iff (k t : List Char) : Matches (k.map .literal) t ↔ t = k := by
  induction k generalizing t with
  | nil => exact matches_nil_iff
  | cons c k ih =>
    rw [List.map_cons, matches_literal_iff]
    simp only [ih, exists_eq_right]

end Keyspace.Glob

namespace Keyspace

open Store

theorem Glob.accepts_iff_caretGlobs {p : String} (h : Glob.Orderly p.toList) (k : String) :
    (ofKeyPattern p).accepts k = true ↔ Glob.CaretGlobs p.toList k.toList := by
  rw [accepts, matchesChars_iff]
  exact matches_plainNegation_iff h k.toList

/-- Such a key finds itself where no caret comes right behind a bracket. -/
theorem Glob.Wildless.accepts_self_iff {k : String} (h : Glob.Wildless k.toList) :
    (ofKeyPattern k).accepts k = true ↔ ¬ ['[', '^'] <:+: k.toList := by
  rw [accepts, matchesChars_iff, ofKeyPattern, h.ofChars_plainNegation, matches_literals_iff,
    eq_comm, plainNegation_eq_self_iff]

/-- In an orderly pattern a caret negates where it comes first in a class, and nowhere else. A key
without wildcards finds itself unless a caret comes right behind a bracket in it. -/
theorem caret_negates_at_front (s : Store) (now : Int) :
    (∀ p : String, Glob.Orderly p.toList →
      ∃ items, (Command.keys p).outcome s now = .unchanged (.array items) ∧
        (∀ k, k ∈ items ↔
          (∃ e, lookup s k now = some e) ∧ Glob.CaretGlobs p.toList k.toList) ∧
        ∀ limits line, (Request.ofLine line).Passes limits .keys → (Request.ofLine line).key = p →
          execute limits line s now = .ok (.unchanged (.array items))) ∧
    ∀ k e, lookup s k now = some e → Glob.Wildless k.toList →
      ∃ items, (Command.keys k).outcome s now = .unchanged (.array items) ∧
        (k ∈ items ↔ ¬ ['[', '^'] <:+: k.toList) ∧
        ∀ limits line, (Request.ofLine line).Passes limits .keys → (Request.ofLine line).key = k →
          execute limits line s now = .ok (.unchanged (.array items)) := by
  have hlines : ∀ p limits line, (Request.ofLine line).Passes limits .keys →
      (Request.ofLine line).key = p →
        execute limits line s now = .ok (.unchanged (.array
          ((liveKeys s now).filter (Glob.ofKeyPattern p).accepts))) := by
    rintro p limits line hpasses rfl
    exact execute_of_keys hpasses s now
  constructor
  · intro p horderly
    refine ⟨_, Command.outcome_keys p s now, ?_, hlines p⟩
    intro k
    rw [List.mem_filter, mem_liveKeys, Glob.accepts_iff_caretGlobs horderly]
  · intro k e he hwildless
    refine ⟨_, Command.outcome_keys k s now, ?_, hlines k⟩
    rw [List.mem_filter, mem_liveKeys, hwildless.accepts_self_iff]
    exact and_iff_right ⟨e, he⟩

def caretKeys : Store :=
  ⟨[("[^", ⟨.string "1", none⟩), ("^", ⟨.string "2", none⟩), ("!", ⟨.string "3", none⟩)],
    by decide⟩

/-- Of the two carets in the pattern the first negates, and the second is what the class
excludes. -/
theorem caret_negates_at_front_twice :
    (∃ items, execute {} "KEYS [^]^]" caretKeys 0 = .ok (.unchanged (.array items)) ∧
      "!" ∈ items ∧ "^" ∉ items) ∧
    ∃ items, execute {} "KEYS ^" caretKeys 0 = .ok (.unchanged (.array items)) ∧ "^" ∈ items := by
  constructor
  · have htext : Glob.OrderlyText "^]^".toList :=
      .marked (Or.inr rfl) (by decide) (by decide)
    obtain ⟨items, -, hmem, hlines⟩ :=
      (caret_negates_at_front caretKeys 0).1 "[^]^]" (.bracket htext .nil)
    have hglobs : ∀ x, Glob.CaretGlobs "[^]^]".toList [x] ↔
        ∀ m ∈ Glob.membersOf "]^".toList, ¬ m.Has x := fun x =>
      (Glob.caretGlobs_class_iff htext.caretText x).trans
        (Glob.caretClass_mark_iff (Or.inr rfl) "]^".toList)
    refine ⟨items, hlines {} "KEYS [^]^]" ⟨rfl, rfl, rfl⟩ rfl, ?_, ?_⟩
    · exact (hmem "!").2 ⟨⟨_, rfl⟩, (hglobs '!').2 (by decide)⟩
    · intro h
      exact absurd ((hglobs '^').1 ((hmem "^").1 h).2) (by decide)
  · have hwildless : Glob.Wildless "^".toList :=
      Glob.wildless_of_not_mem (by decide) (by decide) (by decide)
    obtain ⟨items, -, hself, hlines⟩ :=
      (caret_negates_at_front caretKeys 0).2 "^" ⟨.string "2", none⟩ rfl hwildless
    exact ⟨items, hlines {} "KEYS ^" ⟨rfl, rfl, rfl⟩ rfl, hself.2 (by decide)⟩

/-- A caret behind a bracket that is itself in a class is taken for an exclamation mark, and so is
one behind a bracket that opens no class; of the keys, the second pattern is one itself. -/
theorem keys_stray_caret :
    (execute {} "KEYS [[^a]" caretKeys 0 = .ok (.unchanged (.array ["!"])) ∧
      Glob.CaretGlobs "[[^a]".toList "^".toList ∧ ¬ Glob.CaretGlobs "[[^a]".toList "!".toList) ∧
    execute {} "KEYS [^" caretKeys 0 = .ok (.unchanged (.array [])) ∧
      (∃ e, lookup caretKeys "[^" 0 = some e) ∧ Glob.Wildless "[^".toList := by
  have hwildless : Glob.Wildless "[^".toList :=
    Glob.wildless_of_not_mem (by decide) (by decide) (by decide)
  have htext : Glob.CaretText "[^a".toList := .plain (by decide) (by decide)
  have hglobs : ∀ x, Glob.CaretGlobs "[[^a]".toList [x] ↔
      ∃ m ∈ Glob.membersOf "[^a".toList, m.Has x := fun x =>
    (Glob.caretGlobs_class_iff htext x).trans
      (Glob.caretClass_iff_of_not_mark (by decide) "^a".toList)
  have hcaret : Glob.CaretGlobs "[[^a]".toList "^".toList := (hglobs '^').2 (by decide)
  have hmark : ¬ Glob.CaretGlobs "[[^a]".toList "!".toList := mt (hglobs '!').1 (by decide)
  refine ⟨⟨?_, hcaret, hmark⟩, ?_, ⟨_, rfl⟩, hwildless⟩
  · have hpasses : (Request.ofLine "KEYS [[^a]").Passes {} .keys := ⟨rfl, rfl, rfl⟩
    have hkey : (Request.ofLine "KEYS [[^a]").key = "[[^a]" := rfl
    have htokens : Glob.ofKeyPattern "[[^a]" =
        [.oneOf [.single '[', .single '!', .single 'a']] := by
      have hsplit : Glob.splitClass "[!a]".toList = some ("[!a".toList, []) := rfl
      have hclass : Glob.ofChars "[[!a]".toList = Glob.classOf "[!a".toList :: Glob.ofChars [] :=
        Glob.ofChars_bracket hsplit
      show Glob.ofChars "[[!a]".toList = _
      rw [hclass, Glob.ofChars_nil]
      rfl
    rw [execute_of_keys hpasses, hkey, Command.outcome_keys, htokens]
    rfl
  · have hpasses : (Request.ofLine "KEYS [^").Passes {} .keys := ⟨rfl, rfl, rfl⟩
    have hkey : (Request.ofLine "KEYS [^").key = "[^" := rfl
    have htokens : Glob.ofKeyPattern "[^" = [.literal '[', .literal '!'] :=
      hwildless.ofChars_plainNegation
    rw [execute_of_keys hpasses, hkey, Command.outcome_keys, htokens]
    rfl

end Keyspace
