import Keyspace.Proofs.Reading

namespace Keyspace

namespace Text

/-- No character of the text is blank. -/
def Solid (s : String) : Prop := ∀ c ∈ s.toList, isBlank c = false

theorem solid_of_mem_pieces {cs w : List Char} (h : w ∈ pieces cs) :
    ∀ c ∈ w, isBlank c = false := by
  induction cs generalizing w with
  | nil =>
    have hw : w = [] := List.mem_singleton.1 h
    simp [hw]
  | cons c cs ih =>
    cases hc : isBlank c with
    | true =>
      rw [pieces_blank hc] at h
      rcases List.mem_cons.1 h with rfl | h
      · simp
      · exact ih h
    | false =>
      -- the character goes in front of the first piece of the rest
      obtain ⟨v, vs, hv⟩ := List.exists_cons_of_ne_nil (pieces_ne_nil cs)
      rw [hv] at ih
      rw [pieces_solid hc, hv, extend] at h
      rcases List.mem_cons.1 h with rfl | h
      · intro d hd
        rcases List.mem_cons.1 hd with rfl | hd
        · exact hc
        · exact ih List.mem_cons_self d hd
      · exact ih (List.mem_cons_of_mem v h)

theorem solid_of_mem_words {s w : String} (h : w ∈ words s) : Solid w := by
  obtain ⟨cs, hcs, rfl⟩ := List.mem_map.1 h
  intro c hc
  rw [String.toList_ofList] at hc
  exact solid_of_mem_pieces (List.mem_filter.1 hcs).1 c hc

end Text

open Text

namespace Request

theorem sublist_unquoteChars (cs : List Char) : (unquoteChars cs).Sublist cs := by
  cases cs with
  | nil => exact List.Sublist.refl []
  | cons q cs =>
    rw [unquoteChars]
    split
    · exact (List.dropLast_sublist cs).cons q
    · exact List.Sublist.refl (q :: cs)

theorem solid_unquote {w : String} (h : Solid w) : Solid (unquote w) := by
  intro c hc
  rw [unquote, String.toList_ofList] at hc
  exact h c ((sublist_unquoteChars w.toList).subset hc)

theorem solid_of_mem_arguments {line a : String} (h : a ∈ (ofLine line).arguments) : Solid a := by
  have hwords : ∀ w ∈ words (trim line), Solid w := fun w hw => solid_of_mem_words hw
  unfold ofLine at h
  generalize words (trim line) = ws at h hwords
  cases ws with
  | nil => cases h
  | cons name ws =>
    obtain ⟨w, hw, rfl⟩ := List.mem_map.1 h
    exact solid_unquote (hwords w (List.mem_cons_of_mem name hw))

end Request

/-- A text that may be stored under a limit: short enough, and without blanks. -/
structure Fits (limit : Int) (s : String) : Prop where
  length_le : s.length ≤ limit
  solid : Solid s

theorem Limits.allow_cons {l : Limits} {key : String} {values : List String} :
    l.allow (key :: values) = true ↔ key.length ≤ l.key ∧ ∀ v ∈ values, v.length ≤ l.value := by
  simp [allow]

namespace Command

variable {limits : Limits} {line : String} {c : Command}

/-- The texts that a command is to write under its key. -/
def texts : Command → List String
  | set _ value _ => [value]
  | lpush _ values | rpush _ values | sadd _ values => values
  | hset _ fields => fields.flatMap fun p => [p.1, p.2]
  | _ => []

theorem isSome_pairs?_iff (ws : List String) : (pairs? ws).isSome = true ↔ ws.length % 2 = 0 := by
  fun_induction pairs? ws with
  | case1 => simp
  | case2 => simp
  | case3 field value rest ih =>
    rw [Option.isSome_map, ih, List.length_cons, List.length_cons]
    omega

theorem pairs?_eq_none_iff (ws : List String) : pairs? ws = none ↔ ws.length % 2 = 1 := by
  rw [← Option.not_isSome_iff_eq_none, isSome_pairs?_iff]
  omega

theorem flatMap_of_pairs? {ws : List String} {fields : List (String × String)}
    (h : pairs? ws = some fields) : (fields.flatMap fun p => [p.1, p.2]) = ws := by
  fun_induction pairs? ws generalizing fields with
  | case1 =>
    cases h
    rfl
  | case2 => cases h
  | case3 field value rest ih =>
    obtain ⟨tail, htail, rfl⟩ := Option.map_eq_some_iff.1 h
    rw [List.flatMap_cons, ih htail]
    rfl

theorem pairs?_flatMap (fields : List (String × String)) :
    pairs? (fields.flatMap fun p => [p.1, p.2]) = some fields := by
  induction fields with
  | nil => rfl
  | cons p fields ih =>
    show (pairs? (fields.flatMap fun p => [p.1, p.2])).map (p :: ·) = some (p :: fields)
    rw [ih, Option.map_some]

/-- All that stands behind the key is to be written, by the verbs that add to what is there. -/
theorem texts_eq_tail {ws : List String} (h : ofArguments c.verb ws = .ok c)
    (hv : c.verb ∈ [Verb.lpush, .rpush, .sadd, .hset]) : c.texts = ws.tail := by
  cases c with
  | lpush | rpush | sadd =>
    cases formed_of_ofArguments h
    rfl
  | hset =>
    cases formed_of_ofArguments h with
    | hset hfields => exact flatMap_of_pairs? hfields
  | _ => simp [verb] at hv

theorem texts_subset_tail {ws : List String} (h : ofArguments c.verb ws = .ok c) :
    c.texts ⊆ ws.tail := by
  cases c with
  | lpush | rpush | sadd | hset =>
    rw [texts_eq_tail h (by simp [verb])]
    exact List.Subset.refl _
  | set =>
    cases formed_of_ofArguments h with
    | set | setFor => simp [texts]
  | _ => exact List.nil_subset _

theorem fits_of_ofLine (h : ofLine limits line = .ok c) :
    (∀ k, c.key? = some k → Fits limits.key k) ∧ ∀ x ∈ c.texts, Fits limits.value x := by
  obtain ⟨⟨-, -, hallow⟩, hargs⟩ := ofLine_eq_ok h
  have hsolid : ∀ a ∈ (Request.ofLine line).arguments, Solid a :=
    fun a ha => Request.solid_of_mem_arguments ha
  generalize (Request.ofLine line).arguments = ws at hallow hargs hsolid
  constructor
  · intro k hk
    obtain ⟨rest, rfl⟩ := List.head?_eq_some_iff.1 (head?_of_ofArguments hargs hk)
    exact ⟨(Limits.allow_cons.1 hallow).1, hsolid k List.mem_cons_self⟩
  · intro x hx
    have hmem : x ∈ ws.tail := texts_subset_tail hargs hx
    cases ws with
    | nil => cases hmem
    | cons key values =>
      exact ⟨(Limits.allow_cons.1 hallow).2 x hmem, hsolid x (List.mem_cons_of_mem key hmem)⟩

theorem texts_ne_nil (h : ofLine limits line = .ok c)
    (hv : c.verb ∈ [Verb.set, .lpush, .rpush, .sadd, .hset]) : c.texts ≠ [] := by
  obtain ⟨⟨-, harity, -⟩, hargs⟩ := ofLine_eq_ok h
  rcases List.mem_cons.1 hv with hset | hadd
  · cases c <;> cases hset
    simp [texts]
  · have hleast : 2 ≤ c.verb.arity.least := by
      revert hadd
      cases c.verb <;> decide
    have hlength := Arity.least_le_of_admits harity
    rw [texts_eq_tail hargs hadd]
    intro htail
    have hnone := congrArg List.length htail
    rw [List.length_tail, List.length_nil] at hnone
    omega

end Command

end Keyspace
