import Keyspace.Text.Ranges

namespace Keyspace.Text

def blankRanges : Ranges :=
  [⟨0x09, 0x0D⟩, ⟨0x1C, 0x20⟩, ⟨0x85, 0x85⟩, ⟨0xA0, 0xA0⟩, ⟨0x1680, 0x1680⟩, ⟨0x2000, 0x200A⟩,
    ⟨0x2028, 0x2029⟩, ⟨0x202F, 0x202F⟩, ⟨0x205F, 0x205F⟩, ⟨0x3000, 0x3000⟩]

/-- White space, the separators of ASCII (file, group, record, unit) included. -/
def isBlank (c : Char) : Bool := blankRanges.cover c

def trimStart (cs : List Char) : List Char := cs.dropWhile isBlank

def trimEnd (cs : List Char) : List Char := (trimStart cs.reverse).reverse

def trimChars (cs : List Char) : List Char := trimEnd (trimStart cs)

def trim (s : String) : String := String.ofList (trimChars s.toList)

/-- Puts a character in front of the first piece. -/
def extend (c : Char) : List (List Char) → List (List Char)
  | [] => [[c]]
  | w :: ws => (c :: w) :: ws

/-- What stands before, between and after the blanks, the empty pieces included. -/
def pieces : List Char → List (List Char)
  | [] => [[]]
  | c :: cs => if isBlank c then [] :: pieces cs else extend c (pieces cs)

theorem pieces_blank {c : Char} (h : isBlank c = true) (cs : List Char) :
    pieces (c :: cs) = [] :: pieces cs := by
  simp [pieces, h]

theorem pieces_solid {c : Char} (h : isBlank c = false) (cs : List Char) :
    pieces (c :: cs) = extend c (pieces cs) := by
  simp [pieces, h]

theorem pieces_ne_nil (cs : List Char) : pieces cs ≠ [] := by
  cases cs with
  | nil => simp [pieces]
  | cons c cs =>
    cases h : isBlank c
    · rw [pieces_solid h]
      cases pieces cs <;> simp [extend]
    · simp [pieces_blank h]

def wordsOf (cs : List Char) : List (List Char) := (pieces cs).filter (!·.isEmpty)

theorem wordsOf_blank {c : Char} (h : isBlank c = true) (cs : List Char) :
    wordsOf (c :: cs) = wordsOf cs := by
  simp [wordsOf, pieces_blank h]

def words (s : String) : List String := (wordsOf s.toList).map String.ofList

end Keyspace.Text
