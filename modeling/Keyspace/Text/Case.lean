import Keyspace.Text.Case.Upper
import Keyspace.Text.Case.Lower
import Keyspace.Text.Case.Context

namespace Keyspace.Text

def upperChar (c : Char) : List Char :=
  if c.toNat < 0x80 then [c.toUpper] else Case.mapChar Case.upperRows c

def upper (s : String) : String := String.ofList (s.toList.flatMap upperChar)

theorem toList_upper (s : String) : (upper s).toList = s.toList.flatMap upperChar := by
  simp [upper]

/-- Whether the first character that is not passed over has case. -/
def meetsCased (cs : List Char) : Bool :=
  match cs.dropWhile Case.isIgnorable with
  | [] => false
  | c :: _ => Case.isCased c

/-- The characters before are given last one first. -/
def lowerSigma (before after : List Char) : Char :=
  if meetsCased before && !meetsCased after then 'ς' else 'σ'

def lowerChar (before : List Char) (c : Char) (after : List Char) : List Char :=
  if c.toNat < 0x80 then [c.toLower]
  else if c = 'Σ' then [lowerSigma before after]
  else Case.mapChar Case.lowerRows c

def lowerFrom (before : List Char) : List Char → List Char
  | [] => []
  | c :: after => lowerChar before c after ++ lowerFrom (c :: before) after

def lower (s : String) : String := String.ofList (lowerFrom [] s.toList)

theorem toList_lower (s : String) : (lower s).toList = lowerFrom [] s.toList := by
  simp [lower]

end Keyspace.Text
