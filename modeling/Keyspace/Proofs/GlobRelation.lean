import Keyspace.Glob.Match

namespace Keyspace.Glob

/-- A character has itself, and a range all that lies from its first character to its last. -/
def Member.Has : Member → Char → Prop
  | single c, x => x = c
  | range first last, x => first ≤ x ∧ x ≤ last

instance (m : Member) (x : Char) : Decidable (m.Has x) :=
  match m with
  | .single c => inferInstanceAs (Decidable (x = c))
  | .range first last => inferInstanceAs (Decidable (first ≤ x ∧ x ≤ last))

theorem Member.accepts_eq_true_iff (m : Member) (x : Char) : m.accepts x = true ↔ m.Has x := by
  cases m <;> simp [accepts, Has]

theorem Member.isProper_of_has {m : Member} {x : Char} (h : m.Has x) : m.isProper = true := by
  cases m with
  | single c => rfl
  | range first last => exact decide_eq_true (Char.le_trans h.1 h.2)

/-- What the text of a class lists; a hyphen with a character on either side makes a range. -/
inductive Lists : List Char → List Member → Prop where
  | nil : Lists [] []
  | range {a b : Char} {cs : List Char} {ms : List Member} :
      Lists cs ms → Lists (a :: '-' :: b :: cs) (.range a b :: ms)
  | single {c : Char} {cs : List Char} {ms : List Member} :
      (∀ b rest, cs ≠ '-' :: b :: rest) → Lists cs ms → Lists (c :: cs) (.single c :: ms)

theorem lists_membersOf (cs : List Char) : Lists cs (membersOf cs) := by
  fun_induction membersOf cs with
  | case1 a b cs ih => exact .range ih
  | case2 c cs hrange ih => exact .single hrange ih
  | case3 => exact .nil

theorem Lists.eq_membersOf {cs : List Char} {ms : List Member} (h : Lists cs ms) :
    ms = membersOf cs := by
  induction h with
  | nil => rfl
  | range _ ih => rw [membersOf, ih]
  | single hrange _ ih =>
    rw [membersOf, ih]
    exact hrange

/-- Ranges that run backwards make no difference. -/
theorem any_proper_iff (ms : List Member) (x : Char) :
    (ms.filter Member.isProper).any (fun m => m.accepts x) = true ↔ ∃ m ∈ ms, m.Has x := by
  rw [List.any_eq_true]
  constructor
  · rintro ⟨m, hm, hx⟩
    exact ⟨m, (List.mem_filter.1 hm).1, (m.accepts_eq_true_iff x).1 hx⟩
  · rintro ⟨m, hm, hx⟩
    exact ⟨m, List.mem_filter.2 ⟨hm, Member.isProper_of_has hx⟩, (m.accepts_eq_true_iff x).2 hx⟩

/-- What may stand between the brackets of a class: an exclamation mark or none, then one character,
whichever it is, then any that are no closing brackets. -/
inductive ClassText : List Char → Prop where
  | plain {c : Char} {cs : List Char} : c ≠ '!' → ']' ∉ cs → ClassText (c :: cs)
  | marked {c : Char} {cs : List Char} : ']' ∉ cs → ClassText ('!' :: c :: cs)

/-- The class with this text stands for the character: one that it lists or, behind an exclamation
mark, one that it does not list. -/
inductive PlainClass (x : Char) : List Char → Prop where
  | oneOf {cs : List Char} {ms : List Member} :
      cs.head? ≠ some '!' → Lists cs ms → (∃ m ∈ ms, m.Has x) → PlainClass x cs
  | noneOf {cs : List Char} {ms : List Member} :
      Lists cs ms → (∀ m ∈ ms, ¬ m.Has x) → PlainClass x ('!' :: cs)

/-- Behind nothing but backward ranges an exclamation mark comes late, and what follows it is
excluded; a range that begins with it comes apart. -/
inductive LateMark : List Member → List Member → Prop where
  | mark {ms : List Member} : LateMark (.single '!' :: ms) ms
  | range {last : Char} {ms : List Member} :
      '!' ≤ last → LateMark (.range '!' last :: ms) (.single '-' :: .single last :: ms)
  | backward {a b : Char} {ms out : List Member} :
      b < a → LateMark ms out → LateMark (.range a b :: ms) out

/-- The same, where an exclamation mark that comes late negates the class as well. -/
inductive LateClass (x : Char) : List Char → Prop where
  | oneOf {cs : List Char} {ms : List Member} :
      cs.head? ≠ some '!' → Lists cs ms → (∀ out, ¬ LateMark ms out) → (∃ m ∈ ms, m.Has x) →
        LateClass x cs
  | noneOf {cs : List Char} {ms : List Member} :
      Lists cs ms → (∀ m ∈ ms, ¬ m.Has x) → LateClass x ('!' :: cs)
  | late {cs : List Char} {ms out : List Member} :
      cs.head? ≠ some '!' → Lists cs ms → LateMark ms out → (∀ m ∈ out, ¬ m.Has x) →
        LateClass x cs

/-- The rules part only over a class in which an exclamation mark comes late. -/
theorem lateClass_iff_plainClass {cs : List Char} {ms : List Member} (hlists : Lists cs ms)
    (h : cs.head? = some '!' ∨ ∀ out, ¬ LateMark ms out) (x : Char) :
    LateClass x cs ↔ PlainClass x cs := by
  constructor
  · intro hlate
    cases hlate with
    | oneOf hhead hlists' _ hx => exact .oneOf hhead hlists' hx
    | noneOf hlists' hx => exact .noneOf hlists' hx
    | @late _ ms' out hhead hlists' hout _ =>
      have hms : ms' = ms := hlists'.eq_membersOf.trans hlists.eq_membersOf.symm
      exact absurd (hms ▸ hout) (h.resolve_left hhead out)
  · intro hplain
    cases hplain with
    | @oneOf _ ms' hhead hlists' hx =>
      have hms : ms' = ms := hlists'.eq_membersOf.trans hlists.eq_membersOf.symm
      exact .oneOf hhead hlists (h.resolve_left hhead) (hms ▸ hx)
    | noneOf hlists' hx => exact .noneOf hlists' hx

/-- What is left of the members once the backward ranges are left out begins with the mark. -/
theorem LateMark.filter_cases {ms out : List Member} (h : LateMark ms out) :
    ms.filter Member.isProper = .single '!' :: out.filter Member.isProper ∨
      ∃ last rest, ms.filter Member.isProper = .range '!' last :: rest ∧
        out.filter Member.isProper = .single '-' :: .single last :: rest := by
  induction h with
  | mark => exact Or.inl rfl
  | @range last ms hle =>
    have hproper : (Member.range '!' last).isProper = true := decide_eq_true hle
    exact Or.inr ⟨last, ms.filter Member.isProper, List.filter_cons_of_pos hproper, rfl⟩
  | @backward a b ms out hlt _ ih =>
    have himproper : ¬ (Member.range a b).isProper = true := by
      simpa [Member.isProper] using hlt
    rwa [List.filter_cons_of_neg himproper]

theorem exists_lateMark {ms : List Member} {m : Member} {rest : List Member}
    (h : ms.filter Member.isProper = m :: rest)
    (hm : m = .single '!' ∨ ∃ last, m = .range '!' last) : ∃ out, LateMark ms out := by
  induction ms with
  | nil => cases h
  | cons m' ms ih =>
    by_cases hproper : m'.isProper = true
    · rw [List.filter_cons_of_pos hproper] at h
      obtain ⟨rfl, -⟩ := List.cons.inj h
      rcases hm with rfl | ⟨last, rfl⟩
      · exact ⟨ms, .mark⟩
      · exact ⟨_, .range (of_decide_eq_true hproper)⟩
    · rw [List.filter_cons_of_neg hproper] at h
      obtain ⟨out, hout⟩ := ih h
      cases m' with
      | single c => exact absurd rfl hproper
      | range a b =>
        have hlt : b < a := by simpa [Member.isProper] using hproper
        exact ⟨out, .backward hlt hout⟩

theorem classOf_ne_anyText (cs : List Char) : classOf cs ≠ .anyText := by
  unfold classOf
  split
  · simp
  · split <;> simp

section ClassOf

variable {cs : List Char} {out : List Member}

theorem classOf_of_lateMark (hhead : cs.head? ≠ some '!') (h : LateMark (membersOf cs) out) :
    classOf cs = .noneOf (out.filter Member.isProper) := by
  unfold classOf
  split
  · exact absurd rfl hhead
  · rcases h.filter_cases with hfilter | ⟨last, rest, hfilter, hout⟩
    · simp only [hfilter]
    · simp only [hfilter, hout]

theorem classOf_of_not_lateMark (hhead : cs.head? ≠ some '!')
    (h : ∀ out, ¬ LateMark (membersOf cs) out) :
    classOf cs = .oneOf ((membersOf cs).filter Member.isProper) := by
  unfold classOf
  split
  · exact absurd rfl hhead
  · split
    · next rest hfilter =>
      obtain ⟨out, hout⟩ := exists_lateMark hfilter (Or.inl rfl)
      exact absurd hout (h out)
    · next last rest hfilter =>
      obtain ⟨out, hout⟩ := exists_lateMark hfilter (Or.inr ⟨last, rfl⟩)
      exact absurd hout (h out)
    · rfl

theorem accepts_oneOf_iff (ms : List Member) (x : Char) :
    (Token.oneOf (ms.filter Member.isProper)).accepts x = true ↔ ∃ m ∈ ms, m.Has x :=
  any_proper_iff ms x

theorem accepts_noneOf_iff (ms : List Member) (x : Char) :
    (Token.noneOf (ms.filter Member.isProper)).accepts x = true ↔ ∀ m ∈ ms, ¬ m.Has x := by
  rw [Token.accepts, Bool.not_eq_true', ← Bool.not_eq_true, any_proper_iff]
  simp only [not_exists, not_and]

/-- The token for the text of a class stands for the characters that the class stands for. -/
theorem accepts_classOf_iff (cs : List Char) (x : Char) :
    (classOf cs).accepts x = true ↔ LateClass x cs := by
  constructor
  · intro h
    by_cases hhead : cs.head? = some '!'
    · obtain ⟨rest, rfl⟩ : ∃ rest, cs = '!' :: rest := List.head?_eq_some_iff.1 hhead
      exact .noneOf (lists_membersOf rest) ((accepts_noneOf_iff _ x).1 h)
    · by_cases hlate : ∃ out, LateMark (membersOf cs) out
      · obtain ⟨out, hout⟩ := hlate
        rw [classOf_of_lateMark hhead hout, accepts_noneOf_iff] at h
        exact .late hhead (lists_membersOf cs) hout h
      · have hnot : ∀ out, ¬ LateMark (membersOf cs) out := not_exists.1 hlate
        rw [classOf_of_not_lateMark hhead hnot, accepts_oneOf_iff] at h
        exact .oneOf hhead (lists_membersOf cs) hnot h
  · intro h
    cases h with
    | oneOf hhead hlists hnot hx =>
      rw [hlists.eq_membersOf] at hnot hx
      rw [classOf_of_not_lateMark hhead hnot]
      exact (accepts_oneOf_iff _ x).2 hx
    | noneOf hlists hx =>
      rw [hlists.eq_membersOf] at hx
      exact (accepts_noneOf_iff _ x).2 hx
    | late hhead hlists hout hx =>
      rw [hlists.eq_membersOf] at hout
      rw [classOf_of_lateMark hhead hout]
      exact (accepts_noneOf_iff _ x).2 hx

end ClassOf

section Closing

variable {cs text rest : List Char}

theorem untilBracket_eq_some_iff :
    untilBracket cs = some (text, rest) ↔ ']' ∉ text ∧ cs = text ++ ']' :: rest := by
  induction cs generalizing text with
  | nil => simp [untilBracket]
  | cons c cs ih =>
    by_cases hc : c = ']'
    · subst hc
      rw [untilBracket, Option.some.injEq, Prod.mk.injEq]
      constructor
      · rintro ⟨rfl, rfl⟩
        exact ⟨List.not_mem_nil, rfl⟩
      · rintro ⟨hnot, heq⟩
        cases text with
        | nil =>
          cases heq
          exact ⟨rfl, rfl⟩
        | cons c' text =>
          -- the bracket at the front would be part of the text
          cases heq
          exact absurd List.mem_cons_self hnot
    · rw [untilBracket, Option.map_eq_some_iff]
      · constructor
        · rintro ⟨⟨text', rest'⟩, h, heq⟩
          obtain ⟨rfl, rfl⟩ := Prod.mk.inj heq
          obtain ⟨hnot, rfl⟩ := ih.1 h
          have hnot' : ']' ∉ c :: text' := by
            rw [List.mem_cons, not_or]
            exact ⟨Ne.symm hc, hnot⟩
          exact ⟨hnot', rfl⟩
        · rintro ⟨hnot, heq⟩
          cases text with
          | nil =>
            cases heq
            exact absurd rfl hc
          | cons c' text =>
            obtain ⟨rfl, rfl⟩ := List.cons.inj heq
            exact ⟨(text, rest), ih.2 ⟨fun h => hnot (List.mem_cons_of_mem _ h), rfl⟩, rfl⟩
      · exact hc

theorem map_untilBracket_eq_some_iff (f : List Char → List Char) :
    (untilBracket cs).map (fun p => (f p.1, p.2)) = some (text, rest) ↔
      ∃ more, ']' ∉ more ∧ cs = more ++ ']' :: rest ∧ f more = text := by
  rw [Option.map_eq_some_iff]
  constructor
  · rintro ⟨⟨more, rest'⟩, h, heq⟩
    obtain ⟨hf, rfl⟩ := Prod.mk.inj heq
    obtain ⟨hmore, hcs⟩ := untilBracket_eq_some_iff.1 h
    exact ⟨more, hmore, hcs, hf⟩
  · rintro ⟨more, hmore, hcs, hf⟩
    exact ⟨(more, rest), untilBracket_eq_some_iff.2 ⟨hmore, hcs⟩, by rw [hf]⟩

/-- Where no closing bracket comes first, nor right behind a mark, the first one ends a class. -/
theorem not_mem_iff_classText (hmarked : ∀ more, text ++ ']' :: rest ≠ '!' :: ']' :: more)
    (hplain : ∀ more, text ++ ']' :: rest ≠ ']' :: more) : ']' ∉ text ↔ ClassText text := by
  constructor
  · intro hnot
    cases text with
    | nil => exact absurd rfl (hplain rest)
    | cons c more =>
      by_cases hc : c = '!'
      · subst hc
        cases more with
        | nil => exact absurd rfl (hmarked rest)
        | cons c more => exact .marked fun h => hnot (by simp [h])
      · exact .plain hc fun h => hnot (List.mem_cons_of_mem c h)
  · intro htext
    cases htext with
    | @plain c more _ hmore =>
      have hc : ']' ≠ c := by
        rintro rfl
        exact hplain _ rfl
      rw [List.mem_cons, not_or]
      exact ⟨hc, hmore⟩
    | @marked c more hmore =>
      have hc : ']' ≠ c := by
        rintro rfl
        exact hmarked _ rfl
      rw [List.mem_cons, List.mem_cons, not_or, not_or]
      exact ⟨by decide, hc, hmore⟩

/-- The first closing bracket behind the first character of a class ends it. -/
theorem splitClass_eq_some_iff :
    splitClass cs = some (text, rest) ↔ ClassText text ∧ cs = text ++ ']' :: rest := by
  -- the three ways in which a class may begin: a marked bracket, a bracket, anything else
  unfold splitClass
  split
  · rw [map_untilBracket_eq_some_iff fun more => '!' :: ']' :: more]
    constructor
    · rintro ⟨more, hmore, rfl, rfl⟩
      exact ⟨.marked hmore, rfl⟩
    · rintro ⟨htext, heq⟩
      cases htext with
      | plain hc _ => exact absurd (List.cons.inj heq).1.symm hc
      | @marked c more hmore =>
        cases heq
        exact ⟨more, hmore, rfl, rfl⟩
  · rw [map_untilBracket_eq_some_iff fun more => ']' :: more]
    constructor
    · rintro ⟨more, hmore, rfl, rfl⟩
      exact ⟨.plain (by decide) hmore, rfl⟩
    · rintro ⟨htext, heq⟩
      cases htext with
      | @plain c more _ hmore =>
        cases heq
        exact ⟨more, hmore, rfl, rfl⟩
      | marked _ => cases heq
  · next hmarked hplain =>
    rw [untilBracket_eq_some_iff]
    apply and_congr_left
    rintro rfl
    exact not_mem_iff_classText hmarked hplain

theorem splitClass_eq_none_iff :
    splitClass cs = none ↔ ∀ text rest, ClassText text → cs ≠ text ++ ']' :: rest := by
  rw [Option.eq_none_iff_forall_ne_some]
  constructor
  · intro h text rest htext heq
    exact h (text, rest) (splitClass_eq_some_iff.2 ⟨htext, heq⟩)
  · rintro h ⟨text, rest⟩ hsplit
    obtain ⟨htext, heq⟩ := splitClass_eq_some_iff.1 hsplit
    exact h text rest htext heq

end Closing

/-- The text matches the pattern as a whole, with this rule for what a class in brackets stands
for. -/
inductive Globs (Class : Char → List Char → Prop) : List Char → List Char → Prop where
  | done : Globs Class [] []
  | star {p t : List Char} (piece : List Char) :
      Globs Class p t → Globs Class ('*' :: p) (piece ++ t)
  | question {p t : List Char} {x : Char} : Globs Class p t → Globs Class ('?' :: p) (x :: t)
  | bracket {text p t : List Char} {x : Char} :
      ClassText text → Class x text → Globs Class p t →
        Globs Class ('[' :: (text ++ ']' :: p)) (x :: t)
  | unclosed {p t : List Char} :
      (∀ text rest, ClassText text → p ≠ text ++ ']' :: rest) → Globs Class p t →
        Globs Class ('[' :: p) ('[' :: t)
  | literal {c : Char} {p t : List Char} :
      c ∉ ['*', '?', '['] → Globs Class p t → Globs Class (c :: p) (c :: t)

section Reading

variable {c : Char} {cs text rest : List Char}

theorem ofChars_nil : ofChars [] = [] := by rw [ofChars]

theorem ofChars_star (cs : List Char) : ofChars ('*' :: cs) = .anyText :: ofChars cs := by
  rw [ofChars, if_pos rfl]

theorem ofChars_question (cs : List Char) : ofChars ('?' :: cs) = .anyChar :: ofChars cs := by
  rw [ofChars, if_neg (by decide), if_pos rfl]

theorem ofChars_bracket (h : splitClass cs = some (text, rest)) :
    ofChars ('[' :: cs) = classOf text :: ofChars rest := by
  rw [ofChars, if_neg (by decide), if_neg (by decide), if_pos rfl]
  split
  · next text' rest' h' =>
    obtain ⟨rfl, rfl⟩ : text' = text ∧ rest' = rest := by simpa [h] using h'.symm
    rfl
  · next h' => simp [h] at h'

theorem ofChars_unclosed (h : splitClass cs = none) :
    ofChars ('[' :: cs) = .literal '[' :: ofChars cs := by
  rw [ofChars, if_neg (by decide), if_neg (by decide), if_pos rfl]
  split
  · next h' => simp [h] at h'
  · rfl

theorem ofChars_literal (h : c ∉ ['*', '?', '[']) :
    ofChars (c :: cs) = .literal c :: ofChars cs := by
  simp only [List.mem_cons, List.not_mem_nil, or_false, not_or] at h
  rw [ofChars, if_neg h.1, if_neg h.2.1, if_neg h.2.2]

end Reading

section Inversion

variable {t : Token} {ts : Glob} {cs : List Char}

theorem Matches.anyText_inv (h : Matches (.anyText :: ts) cs) :
    ∃ piece rest, cs = piece ++ rest ∧ Matches ts rest := by
  cases h with
  | char hc _ => cases hc
  | @text _ rest piece hrest => exact ⟨piece, rest, rfl, hrest⟩

theorem Matches.char_inv (ht : t ≠ .anyText) (h : Matches (t :: ts) cs) :
    ∃ x rest, cs = x :: rest ∧ t.accepts x = true ∧ Matches ts rest := by
  cases h with
  | @char _ _ x rest hx hrest => exact ⟨x, rest, rfl, hx, hrest⟩
  | text piece _ => exact absurd rfl ht

theorem Matches.literal_inv {c : Char} (h : Matches (.literal c :: ts) cs) :
    ∃ rest, cs = c :: rest ∧ Matches ts rest := by
  obtain ⟨x, rest, rfl, hx, hrest⟩ := h.char_inv (by simp)
  obtain rfl : x = c := by simpa [Token.accepts] using hx
  exact ⟨rest, rfl, hrest⟩

end Inversion

theorem matches_of_globs {p t : List Char} (h : Globs LateClass p t) : Matches (ofChars p) t := by
  induction h with
  | done =>
    rw [ofChars_nil]
    exact .done
  | star piece _ ih =>
    rw [ofChars_star]
    exact .text piece ih
  | question _ ih =>
    rw [ofChars_question]
    exact .char rfl ih
  | @bracket text p t x htext hclass _ ih =>
    rw [ofChars_bracket (splitClass_eq_some_iff.2 ⟨htext, rfl⟩)]
    exact .char ((accepts_classOf_iff text x).2 hclass) ih
  | unclosed hopen _ ih =>
    rw [ofChars_unclosed (splitClass_eq_none_iff.2 hopen)]
    exact .char (beq_self_eq_true '[') ih
  | @literal c p t hc _ ih =>
    rw [ofChars_literal hc]
    exact .char (beq_self_eq_true c) ih

/-- The induction is on the length of the pattern, since the rest behind a class is no tail of what
stands before it. -/
theorem globs_of_matches {p t : List Char} (h : Matches (ofChars p) t) : Globs LateClass p t := by
  match p with
  | [] =>
    rw [ofChars_nil] at h
    cases h
    exact .done
  | c :: cs =>
    by_cases hstar : c = '*'
    · subst hstar
      rw [ofChars_star] at h
      obtain ⟨piece, rest, rfl, hrest⟩ := h.anyText_inv
      exact .star piece (globs_of_matches hrest)
    by_cases hquestion : c = '?'
    · subst hquestion
      rw [ofChars_question] at h
      obtain ⟨x, rest, rfl, -, hrest⟩ := h.char_inv (by simp)
      exact .question (globs_of_matches hrest)
    by_cases hbracket : c = '['
    · subst hbracket
      cases hsplit : splitClass cs with
      | some split =>
        obtain ⟨text, behind⟩ := split
        rw [ofChars_bracket hsplit] at h
        obtain ⟨x, rest, rfl, hx, hrest⟩ := h.char_inv (classOf_ne_anyText text)
        obtain ⟨htext, hcs⟩ := splitClass_eq_some_iff.1 hsplit
        have hclass : LateClass x text := (accepts_classOf_iff text x).1 hx
        have hlength : cs.length = text.length + 1 + behind.length := length_of_splitClass hsplit
        rw [hcs]
        exact .bracket htext hclass (globs_of_matches hrest)
      | none =>
        rw [ofChars_unclosed hsplit] at h
        obtain ⟨rest, rfl, hrest⟩ := h.literal_inv
        exact .unclosed (splitClass_eq_none_iff.1 hsplit) (globs_of_matches hrest)
    · have hliteral : c ∉ ['*', '?', '['] := by simp [hstar, hquestion, hbracket]
      rw [ofChars_literal hliteral] at h
      obtain ⟨rest, rfl, hrest⟩ := h.literal_inv
      exact .literal hliteral (globs_of_matches hrest)
  termination_by p.length
  decreasing_by all_goals simp only [List.length_cons]; omega

/-- The tokens of a pattern match the texts that match the pattern. -/
theorem matches_ofChars_iff (p t : List Char) : Matches (ofChars p) t ↔ Globs LateClass p t :=
  ⟨globs_of_matches, matches_of_globs⟩

/-- The second text is the first with every `old` in it replaced by `new`, from the left on. -/
inductive Replaced (old new : List Char) : List Char → List Char → Prop where
  | nil : Replaced old new [] []
  | found {cs ds : List Char} : Replaced old new cs ds → Replaced old new (old ++ cs) (new ++ ds)
  | other {c : Char} {cs ds : List Char} :
      ¬ old <+: c :: cs → Replaced old new cs ds → Replaced old new (c :: cs) (c :: ds)

theorem plainNegation_of_not_prefix {c : Char} {cs : List Char} (h : ¬ ['[', '^'] <+: c :: cs) :
    plainNegation (c :: cs) = c :: plainNegation cs := by
  rw [plainNegation]
  rintro rest rfl rfl
  exact h ⟨rest, rfl⟩

theorem replaced_iff {cs ds : List Char} :
    Replaced ['[', '^'] ['[', '!'] cs ds ↔ ds = plainNegation cs := by
  constructor
  · intro h
    induction h with
    | nil => rfl
    | found _ ih =>
      rw [ih]
      rfl
    | other hnot _ ih => rw [ih, plainNegation_of_not_prefix hnot]
  · rintro rfl
    fun_induction plainNegation cs with
    | case1 cs ih => exact .found ih
    | case2 c cs hcaret ih =>
      refine .other ?_ ih
      rintro ⟨rest, heq⟩
      obtain ⟨rfl, rfl⟩ := List.cons.inj heq
      exact hcaret rest rfl rfl
    | case3 => exact .nil

end Keyspace.Glob
