namespace Keyspace

namespace Glob

inductive Member where
  | single (c : Char)
  | range (first last : Char)
  deriving DecidableEq

inductive Token where
  | literal (c : Char)
  | anyChar
  | anyText
  | oneOf (members : List Member)
  | noneOf (members : List Member)
  deriving DecidableEq

end Glob

abbrev Glob := List Glob.Token

namespace Glob

/-- A hyphen between two characters makes a range of them. -/
def membersOf : List Char → List Member
  | a :: '-' :: b :: cs => .range a b :: membersOf cs
  | c :: cs => .single c :: membersOf cs
  | [] => []

/-- Not a range that runs backwards; such a range holds nothing. -/
def Member.isProper : Member → Bool
  | single _ => true
  | range first last => first ≤ last

/-- An exclamation mark negates where it comes first, backward ranges left out; a range that begins
with one that comes late falls apart. -/
def classOf : List Char → Token
  | '!' :: cs => .noneOf ((membersOf cs).filter Member.isProper)
  | cs =>
    match (membersOf cs).filter Member.isProper with
    | .single '!' :: ms => .noneOf ms
    | .range '!' last :: ms => .noneOf (.single '-' :: .single last :: ms)
    | ms => .oneOf ms

/-- The characters up to the next closing bracket, and those behind it. -/
def untilBracket : List Char → Option (List Char × List Char)
  | [] => none
  | ']' :: cs => some ([], cs)
  | c :: cs => (untilBracket cs).map fun p => (c :: p.1, p.2)

/-- The same, where a closing bracket that comes first, or right after an exclamation mark,
does not close the class. -/
def splitClass : List Char → Option (List Char × List Char)
  | '!' :: ']' :: cs => (untilBracket cs).map fun p => ('!' :: ']' :: p.1, p.2)
  | ']' :: cs => (untilBracket cs).map fun p => (']' :: p.1, p.2)
  | cs => untilBracket cs

theorem length_of_untilBracket {cs body rest : List Char}
    (h : untilBracket cs = some (body, rest)) : cs.length = body.length + 1 + rest.length := by
  fun_induction untilBracket cs generalizing body rest with
  | case1 => simp at h
  | case2 cs => simp_all; omega
  | case3 c cs _ ih =>
    obtain ⟨p, hp, he⟩ := Option.map_eq_some_iff.1 h
    obtain ⟨rfl, rfl⟩ := Prod.mk.inj he
    have := ih hp
    simp only [List.length_cons]
    omega

theorem length_of_splitClass {cs body rest : List Char}
    (h : splitClass cs = some (body, rest)) : cs.length = body.length + 1 + rest.length := by
  unfold splitClass at h
  split at h
  · obtain ⟨p, hp, he⟩ := Option.map_eq_some_iff.1 h
    obtain ⟨rfl, rfl⟩ := Prod.mk.inj he
    have := length_of_untilBracket hp
    simp only [List.length_cons]
    omega
  · obtain ⟨p, hp, he⟩ := Option.map_eq_some_iff.1 h
    obtain ⟨rfl, rfl⟩ := Prod.mk.inj he
    have := length_of_untilBracket hp
    simp only [List.length_cons]
    omega
  · exact length_of_untilBracket h

def ofChars : List Char → Glob
  | [] => []
  | c :: cs =>
    if c = '*' then .anyText :: ofChars cs
    else if c = '?' then .anyChar :: ofChars cs
    else if c = '[' then
      match closing : splitClass cs with
      | some (body, rest) =>
        have : rest.length < cs.length := by have := length_of_splitClass closing; omega
        classOf body :: ofChars rest
      | none => .literal c :: ofChars cs
    else .literal c :: ofChars cs
  termination_by cs => cs.length

/-- Writes every negation that is spelled with a caret after an opening bracket with an
exclamation mark. -/
def plainNegation : List Char → List Char
  | '[' :: '^' :: cs => '[' :: '!' :: plainNegation cs
  | c :: cs => c :: plainNegation cs
  | [] => []

/-- The glob of a pattern in which a class may also be negated by a caret. -/
def ofKeyPattern (pattern : String) : Glob := ofChars (plainNegation pattern.toList)

end Glob

end Keyspace
