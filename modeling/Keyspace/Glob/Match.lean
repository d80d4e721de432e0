import Keyspace.Glob.Token

namespace Keyspace.Glob

def Member.accepts : Member → Char → Bool
  | single c, x => x == c
  | range first last, x => first ≤ x && x ≤ last

/-- Whether a token that stands for one character can stand for this one. -/
def Token.accepts : Token → Char → Bool
  | literal c, x => x == c
  | anyChar, _ => true
  | anyText, _ => false
  | oneOf members, x => members.any (·.accepts x)
  | noneOf members, x => !members.any (·.accepts x)

/-- The text is made up of one piece for each token. -/
inductive Matches : Glob → List Char → Prop where
  | done : Matches [] []
  | char {t : Token} {ts : Glob} {c : Char} {cs : List Char} :
      t.accepts c = true → Matches ts cs → Matches (t :: ts) (c :: cs)
  | text {ts : Glob} {cs : List Char} (piece : List Char) :
      Matches ts cs → Matches (.anyText :: ts) (piece ++ cs)

/-- Only the empty ending is matched by no tokens. -/
def emptyRow : List Char → List Bool
  | [] => [true]
  | _ :: cs => false :: emptyRow cs

/-- For a token that stands for one character. -/
def charRow (t : Token) : List Char → List Bool → List Bool
  | c :: cs, _ :: row => (t.accepts c && row.headD false) :: charRow t cs row
  | _, _ => [false]

/-- For a star: the tokens behind it match this ending or a later one. -/
def textRow : List Bool → List Bool
  | [] => []
  | b :: row =>
    let later := textRow row
    (b || later.headD false) :: later

def row : Glob → List Char → List Bool
  | [], cs => emptyRow cs
  | .anyText :: ts, cs => textRow (row ts cs)
  | t :: ts, cs => charRow t cs (row ts cs)

theorem row_empty (ts : Glob) : ∃ b, row ts [] = [b] := by
  induction ts with
  | nil => exact ⟨true, rfl⟩
  | cons t ts ih =>
    obtain ⟨b, hb⟩ := ih
    cases t <;> simp [row, charRow, textRow, hb]

/-- The row of an ending is the rest of the row of the text. -/
theorem row_cons (ts : Glob) (c : Char) (cs : List Char) :
    ∃ b, row ts (c :: cs) = b :: row ts cs := by
  induction ts with
  | nil => exact ⟨false, rfl⟩
  | cons t ts ih =>
    obtain ⟨b, hb⟩ := ih
    cases t <;> simp [row, charRow, textRow, hb]

def matchesChars (ts : Glob) (cs : List Char) : Bool := (row ts cs).headD false

theorem matchesChars_nil_cons (c : Char) (cs : List Char) : matchesChars [] (c :: cs) = false := rfl

theorem matchesChars_char_nil {t : Token} (h : t ≠ .anyText) (ts : Glob) :
    matchesChars (t :: ts) [] = false := by
  obtain ⟨b, hb⟩ := row_empty ts
  cases t <;> simp_all [matchesChars, row, charRow]

theorem matchesChars_char_cons {t : Token} (h : t ≠ .anyText) (ts : Glob) (c : Char)
    (cs : List Char) :
    matchesChars (t :: ts) (c :: cs) = (t.accepts c && matchesChars ts cs) := by
  obtain ⟨b, hb⟩ := row_cons ts c cs
  cases t <;> simp_all [matchesChars, row, charRow]

theorem matchesChars_text_nil (ts : Glob) :
    matchesChars (.anyText :: ts) [] = matchesChars ts [] := by
  obtain ⟨b, hb⟩ := row_empty ts
  simp [matchesChars, row, textRow, hb]

theorem matchesChars_text_cons (ts : Glob) (c : Char) (cs : List Char) :
    matchesChars (.anyText :: ts) (c :: cs) =
      (matchesChars ts (c :: cs) || matchesChars (.anyText :: ts) cs) := by
  obtain ⟨b, hb⟩ := row_cons ts c cs
  simp [matchesChars, row, textRow, hb]

theorem matches_text_cons {ts : Glob} {cs : List Char} (h : Matches (.anyText :: ts) cs)
    (c : Char) : Matches (.anyText :: ts) (c :: cs) := by
  cases h with
  | char h _ => simp [Token.accepts] at h
  | text piece h => exact .text (c :: piece) h

theorem matchesChars_of_matches {ts : Glob} {cs : List Char} (h : Matches ts cs) :
    matchesChars ts cs = true := by
  induction h with
  | done => rfl
  | @char t ts c cs hc _ ih =>
    have ht : t ≠ .anyText := fun e => by simp [e, Token.accepts] at hc
    simp [matchesChars_char_cons ht, hc, ih]
  | @text ts cs piece _ ih =>
    induction piece with
    | nil =>
      cases cs with
      | nil => simpa [matchesChars_text_nil] using ih
      | cons c cs => simp [matchesChars_text_cons, ih]
    | cons c piece ihp => simp [matchesChars_text_cons, ihp]

theorem matches_of_matchesChars {ts : Glob} {cs : List Char} (h : matchesChars ts cs = true) :
    Matches ts cs := by
  induction ts generalizing cs with
  | nil =>
    cases cs with
    | nil => exact .done
    | cons c cs => simp [matchesChars_nil_cons] at h
  | cons t ts ih =>
    by_cases ht : t = .anyText
    · subst ht
      induction cs with
      | nil => exact .text [] (ih (by simpa [matchesChars_text_nil] using h))
      | cons c cs ihc =>
        rw [matchesChars_text_cons, Bool.or_eq_true] at h
        rcases h with h | h
        · exact .text [] (ih h)
        · exact matches_text_cons (ihc h) c
    · cases cs with
      | nil => simp [matchesChars_char_nil ht] at h
      | cons c cs =>
        rw [matchesChars_char_cons ht, Bool.and_eq_true] at h
        exact .char h.1 (ih h.2)

theorem matchesChars_iff (ts : Glob) (cs : List Char) :
    matchesChars ts cs = true ↔ Matches ts cs :=
  ⟨matches_of_matchesChars, matchesChars_of_matches⟩

def accepts (g : Glob) (s : String) : Bool := matchesChars g s.toList

end Keyspace.Glob
