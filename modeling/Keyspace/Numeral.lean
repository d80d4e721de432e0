import Keyspace.Text.Blank
import Keyspace.Text.Digit

namespace Keyspace.Numeral

open Text

def digitLimit : Nat := 4300

inductive Reading where
  | value (n : Int)
  | tooLong (digits : Nat)
  | malformed
  deriving DecidableEq

def tooLongMessage (digits : Nat) : String :=
  "Exceeds the limit (" ++ toString digitLimit ++ " digits) for integer string conversion: value has "
    ++ toString digits ++ " digits; use sys.set_int_max_str_digits() to increase the limit"

def ofDigits (ds : List Nat) : Nat := ds.foldl (fun n d => 10 * n + d) 0

theorem ofDigits_append_singleton (ds : List Nat) (d : Nat) :
    ofDigits (ds ++ [d]) = 10 * ofDigits ds + d := by
  simp [ofDigits]

def signed (negative : Bool) (n : Nat) : Int := if negative then -n else n

/-- Whether a minus sign stands in front, and what follows the sign. -/
def splitSign : List Char → Bool × List Char
  | '-' :: cs => (true, cs)
  | '+' :: cs => (false, cs)
  | cs => (false, cs)

def evaluate (negative : Bool) (ds : List Nat) : Reading :=
  if digitLimit < ds.length then .tooLong ds.length else .value (signed negative (ofDigits ds))

/-- The digits of a text that holds nothing else. -/
def digits? : List Char → Option (List Nat)
  | [] => some []
  | c :: cs =>
    match digit? c, digits? cs with
    | some d, some ds => some (d :: ds)
    | _, _ => none

theorem length_of_digits? {cs : List Char} {ds : List Nat} (h : digits? cs = some ds) :
    ds.length = cs.length := by
  induction cs generalizing ds with
  | nil => simp_all [digits?]
  | cons c cs ih =>
    unfold digits? at h
    split at h
    · simp only [Option.some.injEq] at h
      subst h
      simp [ih (by assumption)]
    · simp at h

def readChars (cs : List Char) : Reading :=
  match digits? (splitSign cs).2 with
  | some (d :: ds) => evaluate (splitSign cs).1 (d :: ds)
  | _ => .malformed

def read (s : String) : Reading := readChars s.toList

/-- The blanks that may stand around a grouped numeral: all but the separators of ASCII. -/
def isMargin (c : Char) : Bool := isBlank c && !(0x1C ≤ c.toNat && c.toNat ≤ 0x1F)

def isGroupChar (c : Char) : Bool := isDigit c || c == '_'

/-- Every underscore stands between two digits, and there is a digit. -/
def wellGrouped (afterDigit : Bool) : List Char → Bool
  | [] => afterDigit
  | c :: cs => if c = '_' then afterDigit && wellGrouped false cs else wellGrouped true cs

/-- The length of the digits is looked at before what follows them. -/
def readGroups (negative : Bool) (cs : List Char) : Reading :=
  let run := cs.takeWhile isGroupChar
  if wellGrouped false run then
    match evaluate negative (run.filterMap digit?) with
    | .value n => if (cs.dropWhile isGroupChar).all isMargin then .value n else .malformed
    | other => other
  else .malformed

/-- Also with single underscores between the digits and blanks around them. -/
def readGrouped (s : String) : Reading :=
  let (negative, cs) := splitSign (s.toList.dropWhile isMargin)
  readGroups negative cs

end Keyspace.Numeral
