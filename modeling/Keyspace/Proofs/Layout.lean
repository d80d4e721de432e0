import Keyspace.Proofs.Arguments
import Keyspace.Proofs.Words

namespace Keyspace

open Text

/-- Nothing but blanks. -/
def Text.AllBlank (s : String) : Prop := ∀ c ∈ s.toList, isBlank c = true

-- over the characters of the text, not over all characters
instance (s : String) : Decidable (AllBlank s) :=
  List.decidableBAll (fun c => isBlank c = true) s.toList

instance (s : String) : Decidable (Solid s) :=
  List.decidableBAll (fun c => isBlank c = false) s.toList

namespace Request

/-- At least two characters, of which the first and the last are the same quote. -/
def Enclosed (s : String) : Prop :=
  ∃ q inner, isQuote q = true ∧ s.toList = q :: (inner ++ [q])

theorem not_enclosed_of_short {s : String} (h : s.length < 2) : ¬ Enclosed s := by
  rintro ⟨q, inner, -, hs⟩
  have hlength := congrArg List.length hs
  rw [String.length_toList] at hlength
  simp only [List.length_cons, List.length_append, List.length_nil] at hlength
  omega

theorem unquoteChars_enclosed {q : Char} (hq : isQuote q = true) (cs : List Char) :
    unquoteChars (q :: (cs ++ [q])) = cs := by
  simp [unquoteChars, hq]

theorem unquote_of_not_enclosed {s : String} (h : ¬ Enclosed s) : unquote s = s := by
  have hchars : unquoteChars s.toList = s.toList := by
    cases hs : s.toList with
    | nil => rfl
    | cons q cs =>
      rw [unquoteChars, if_neg]
      intro hquotes
      rw [Bool.and_eq_true, beq_iff_eq] at hquotes
      obtain ⟨inner, rfl⟩ := List.getLast?_eq_some_iff.1 hquotes.2
      exact h ⟨q, inner, hquotes.1, hs⟩
  rw [unquote, hchars, String.ofList_toList]

inductive Quoting where
  | double
  | single
  | bare
  deriving DecidableEq

def Quoting.write : Quoting → String → String
  | double, s => "\"" ++ s ++ "\""
  | single, s => "'" ++ s ++ "'"
  | bare, s => s

/-- Exactly one pair of quotes is taken off, whatever stands between them. -/
theorem unquote_write {way : Quoting} {s : String} (h : way = .bare → ¬ Enclosed s) :
    unquote (way.write s) = s := by
  cases way with
  | double =>
    have hchars : (Quoting.double.write s).toList = '"' :: (s.toList ++ ['"']) := by
      simp [Quoting.write]
    rw [unquote, hchars, unquoteChars_enclosed rfl, String.ofList_toList]
  | single =>
    have hchars : (Quoting.single.write s).toList = '\'' :: (s.toList ++ ['\'']) := by
      simp [Quoting.write]
    rw [unquote, hchars, unquoteChars_enclosed rfl, String.ofList_toList]
  | bare => exact unquote_of_not_enclosed (h rfl)

theorem solid_write {s : String} (h : Solid s) (way : Quoting) : Solid (way.write s) := by
  intro c hc
  cases way with
  | bare => exact h c hc
  | double | single =>
    simp only [Quoting.write, String.toList_append, List.mem_append] at hc
    rcases hc with (hc | hc) | hc
    · cases List.mem_singleton.1 hc
      decide
    · exact h c hc
    · cases List.mem_singleton.1 hc
      decide

theorem write_ne_empty {way : Quoting} {s : String} (h : way = .bare → s ≠ "") :
    way.write s ≠ "" := by
  cases way with
  | bare => exact h rfl
  | double | single => simp [Quoting.write, ← String.toList_inj]

/-- An argument as it stands in a line, with the blanks in front of it. -/
structure Placed where
  gap : String
  way : Quoting
  argument : String
  gap_ne_empty : gap ≠ ""
  gap_blank : AllBlank gap
  solid : Solid argument
  bare : way = .bare → argument ≠ "" ∧ ¬ Enclosed argument

namespace Placed

def word (p : Placed) : String := p.way.write p.argument

def text (p : Placed) : String := p.gap ++ p.word

theorem solid_word (p : Placed) : Solid p.word := solid_write p.solid p.way

theorem word_ne_empty (p : Placed) : p.word ≠ "" := write_ne_empty fun h => (p.bare h).1

theorem unquote_word (p : Placed) : unquote p.word = p.argument :=
  unquote_write fun h => (p.bare h).2

end Placed

/-- A way of writing a name and arguments. -/
structure Layout where
  lead : String
  name : String
  placed : List Placed
  trail : String
  lead_blank : AllBlank lead
  trail_blank : AllBlank trail
  name_ne_empty : name ≠ ""
  name_solid : Solid name

namespace Layout

def arguments (l : Layout) : List String := l.placed.map Placed.argument

/-- The line less the blanks around it. -/
def body (l : Layout) : String := l.name ++ String.join (l.placed.map Placed.text)

def line (l : Layout) : String := l.lead ++ l.body ++ l.trail

end Layout

theorem toList_join_cons (p : Placed) (ps : List Placed) :
    (String.join ((p :: ps).map Placed.text)).toList =
      p.gap.toList ++ (p.word.toList ++ (String.join (ps.map Placed.text)).toList) := by
  simp [Placed.text]

/-- Each argument is a word of its own behind the word in front. -/
theorem wordsOf_append_placed {w : String} (hne : w ≠ "") (hw : Solid w) (ps : List Placed) :
    wordsOf (w.toList ++ (String.join (ps.map Placed.text)).toList) =
      w.toList :: ps.map fun p => p.word.toList := by
  have hchars : w.toList ≠ [] := mt String.toList_eq_nil_iff.1 hne
  induction ps generalizing w with
  | nil => simpa using wordsOf_of_solid hchars hw
  | cons p ps ih =>
    have hgap : p.gap.toList ≠ [] := mt String.toList_eq_nil_iff.1 p.gap_ne_empty
    have hword : p.word.toList ≠ [] := mt String.toList_eq_nil_iff.1 p.word_ne_empty
    rw [toList_join_cons, wordsOf_append_gap hgap p.gap_blank, wordsOf_of_solid hchars hw,
      ih p.word_ne_empty p.solid_word hword, List.map_cons, List.singleton_append]

theorem last_append_placed {w : String} (hne : w ≠ "") (hw : Solid w) (ps : List Placed) (c : Char)
    (hc : (w.toList ++ (String.join (ps.map Placed.text)).toList).getLast? = some c) :
    isBlank c = false := by
  induction ps generalizing w with
  | nil =>
    apply hw c
    simpa using List.mem_of_getLast? hc
  | cons p ps ih =>
    apply ih p.word_ne_empty p.solid_word
    have hword : p.word.toList ++ (String.join (ps.map Placed.text)).toList ≠ [] :=
      List.append_ne_nil_of_left_ne_nil
        (mt String.toList_eq_nil_iff.1 p.word_ne_empty) _
    rw [toList_join_cons, ← List.append_assoc, List.getLast?_append_of_ne_nil _ hword] at hc
    exact hc

namespace Layout

theorem tight_body (l : Layout) : Tight l.body.toList := by
  obtain ⟨c, rest, hname⟩ := List.exists_cons_of_ne_nil
    (mt String.toList_eq_nil_iff.1 l.name_ne_empty)
  rw [body, String.toList_append]
  refine ⟨?_, last_append_placed l.name_ne_empty l.name_solid l.placed⟩
  intro d hd
  rw [hname, List.cons_append, List.head?_cons] at hd
  apply l.name_solid d
  rw [hname, ← Option.some.inj hd]
  exact List.mem_cons_self

theorem trim_line (l : Layout) : trim l.line = l.body := by
  have hne : l.body.toList ≠ [] := by
    simp [body, String.toList_eq_nil_iff, l.name_ne_empty]
  rw [trim, line, String.toList_append, String.toList_append, List.append_assoc,
    trimChars_between l.lead_blank l.trail_blank hne l.tight_body, String.ofList_toList]

theorem words_body (l : Layout) : words l.body = l.name :: l.placed.map Placed.word := by
  rw [words, body, String.toList_append,
    wordsOf_append_placed l.name_ne_empty l.name_solid l.placed]
  simp [Function.comp_def]

theorem ofLine_line (l : Layout) :
    ofLine l.line = ⟨Verb.ofName? (upper l.name), upper l.name, l.arguments, l.body⟩ := by
  have harguments : (l.placed.map Placed.word).map unquote = l.arguments := by
    rw [List.map_map, arguments]
    exact List.map_congr_left fun p _ => p.unquote_word
  rw [ofLine, l.trim_line, l.words_body, ofWords, harguments]

end Layout

theorem raw_ofLine (line : String) : (ofLine line).raw = trim line := by
  rw [ofLine]
  cases words (trim line) <;> rfl

theorem ofLine_raw (line : String) : ofLine (ofLine line).raw = ofLine line := by
  rw [raw_ofLine, ofLine, trim_trim, ofLine]

theorem upperChar_ne_nil (c : Char) : upperChar c ≠ [] := by
  unfold upperChar Case.mapChar
  split
  · simp
  · split <;> simp [Case.Row.image]

theorem upper_ne_empty {s : String} (h : s ≠ "") : upper s ≠ "" := by
  obtain ⟨c, cs, hs⟩ := List.exists_cons_of_ne_nil (mt String.toList_eq_nil_iff.1 h)
  intro hupper
  have hnil : (upper s).toList = [] := by rw [hupper]; rfl
  rw [toList_upper, hs, List.flatMap_cons, List.append_eq_nil_iff] at hnil
  exact upperChar_ne_nil c hnil.1

theorem words_eq_nil_iff {s : String} : words s = [] ↔ AllBlank s := by
  rw [words, List.map_eq_nil_iff, wordsOf_eq_nil_iff, AllBlank]

theorem ne_empty_of_mem_words {s w : String} (h : w ∈ words s) : w ≠ "" := by
  obtain ⟨cs, hcs, rfl⟩ := List.mem_map.1 h
  have hne : cs ≠ [] := by simpa using (List.mem_filter.1 hcs).2
  simpa using hne

theorem name_eq_empty_iff {line : String} : (ofLine line).name = "" ↔ AllBlank line := by
  rw [← words_eq_nil_iff, ofLine, words_trim]
  cases hwords : words line with
  | nil => simp [ofWords]
  | cons w ws =>
    have hw : w ≠ "" := ne_empty_of_mem_words (hwords ▸ List.mem_cons_self)
    simp [ofWords, upper_ne_empty hw]

/-- Reading a line gives back the name and the arguments that it lays out, and every line that is
not blank is laid out in some way. -/
theorem layout_is_recovered :
    (∀ l : Layout,
      ofLine l.line = ⟨Verb.ofName? (upper l.name), upper l.name, l.arguments, l.body⟩) ∧
    ∀ line : String,
      (∀ a ∈ (ofLine line).arguments, Solid a) ∧
      ((ofLine line).name = "" ↔ AllBlank line) ∧
      ofLine (ofLine line).raw = ofLine line :=
  ⟨Layout.ofLine_line,
    fun line => ⟨fun _ ha => solid_of_mem_arguments ha, name_eq_empty_iff, ofLine_raw line⟩⟩

/-- Arguments that are quotes or nothing, with blanks of several kinds around them. -/
def quotesLayout : Layout where
  lead := "\u3000"
  name := "sAdd"
  placed := [
    { gap := "\t ", way := .double, argument := "\"", gap_ne_empty := by decide,
      gap_blank := by decide, solid := by decide, bare := nofun },
    { gap := "\u2028", way := .bare, argument := "'", gap_ne_empty := by decide,
      gap_blank := by decide, solid := by decide,
      bare := fun _ => ⟨by decide, not_enclosed_of_short (by decide)⟩ },
    { gap := "  ", way := .single, argument := "", gap_ne_empty := by decide,
      gap_blank := by decide, solid := by decide, bare := nofun }]
  trail := "\n"
  lead_blank := by decide
  trail_blank := by decide
  name_ne_empty := by decide
  name_solid := by decide

theorem layout_is_recovered_quotes :
    quotesLayout.line = "\u3000sAdd\t \"\"\"\u2028'  ''\n" ∧
      ofLine quotesLayout.line =
        ⟨some .sadd, "SADD", ["\"", "'", ""], "sAdd\t \"\"\"\u2028'  ''"⟩ := by
  constructor
  · decide +kernel
  · rw [layout_is_recovered.1 quotesLayout]
    decide +kernel

end Request

end Keyspace
