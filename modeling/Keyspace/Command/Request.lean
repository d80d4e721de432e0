import Keyspace.Command.Verb
import Keyspace.Text.Blank

namespace Keyspace

/-- A line cut at its blanks, each word behind the first less one pair of quotes around it. -/
structure Request where
  verb : Option Verb
  name : String
  arguments : List String
  raw : String
  deriving DecidableEq

namespace Request

def isQuote (c : Char) : Bool := c == '"' || c == '\''

/-- The text between two equal quotes; any other text stays as it is. -/
def unquoteChars : List Char → List Char
  | [] => []
  | q :: cs => if isQuote q && cs.getLast? == some q then cs.dropLast else q :: cs

def unquote (word : String) : String := String.ofList (unquoteChars word.toList)

def ofWords (raw : String) : List String → Request
  | [] => ⟨none, "", [], raw⟩
  | word :: ws =>
    let name := Text.upper word
    ⟨Verb.ofName? name, name, ws.map unquote, raw⟩

def ofLine (line : String) : Request := ofWords (Text.trim line) (Text.words (Text.trim line))

/-- The first argument, or the empty text. -/
def key (r : Request) : String := r.arguments.headD ""

end Request

/-- The hint for the verb that a line begins with. -/
def usageHint? (line : String) : Option String :=
  (Text.words line).head?.bind fun word => (Verb.ofName? word).map Verb.usage

/-- The most characters that a key, and any other argument, may have. -/
structure Limits where
  key : Int := 256
  value : Int := 1024

def Limits.allow (l : Limits) : List String → Bool
  | [] => true
  | key :: values => key.length ≤ l.key && values.all fun v => v.length ≤ l.value

end Keyspace
