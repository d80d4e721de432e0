import Keyspace.Configuration
import Keyspace.Numeral
import Keyspace.Sweeper
import Keyspace.Text.Quoted

namespace Keyspace

structure Options where
  /-- None if two hyphens were given as the value, which leaves the interval open. -/
  sweepInterval : Option Int
  debug : Bool
  deriving DecidableEq

namespace Options

def configured (c : Configuration) : Options := ⟨some c.sweepInterval, c.debug⟩

/-- Why no sweeper runs with these options. -/
inductive BadInterval where
  | leftOpen
  | negative
  deriving DecidableEq

def BadInterval.message : BadInterval → String
  | leftOpen => "the sweep interval is open"
  | negative => Sweeper.negativeIntervalMessage

def sweeper (o : Options) : Except BadInterval Sweeper :=
  match o.sweepInterval with
  | none => .error .leftOpen
  | some n =>
    match Sweeper.ofInterval? n with
    | none => .error .negative
    | some w => .ok w

inductive Flag where
  | help
  | sweepInterval
  | debug
  deriving DecidableEq

def Flag.all : List Flag := [help, sweepInterval, debug]

def Flag.long : Flag → String
  | help => "--help"
  | sweepInterval => "--sweep-interval"
  | debug => "--debug"

/-- All spellings, as messages name the option. -/
def Flag.title : Flag → String
  | help => "-h/--help"
  | sweepInterval => "--sweep-interval"
  | debug => "--debug"

inductive Fault where
  | ambiguous (word : String) (candidates : List Flag)
  | ignoredValue (flag : Flag) (value : String)
  | missingValue (flag : Flag)
  | notInteger (flag : Flag) (value : String)
  | unrecognized (words : List String)
  deriving DecidableEq

def Fault.message : Fault → String
  | ambiguous word candidates =>
    "ambiguous option: " ++ word ++ " could match " ++
      String.intercalate ", " (candidates.map Flag.long)
  | ignoredValue flag value =>
    "argument " ++ flag.title ++ ": ignored explicit argument " ++ Text.quoted value
  | missingValue flag => "argument " ++ flag.title ++ ": expected one argument"
  | notInteger flag value =>
    "argument " ++ flag.title ++ ": invalid int value: " ++ Text.quoted value
  | unrecognized words => "unrecognized arguments: " ++ String.intercalate " " words

/-- Why the program ends before it starts. -/
inductive Stop where
  | helpShown
  | fault (why : Fault)
  deriving DecidableEq

/-- What a word is, seen by itself; `moreHelp` holds what is glued to the short option for help. -/
inductive Word where
  | operand (text : String)
  | divider
  | option (flag : Flag) (value : Option String)
  | moreHelp (letters : List Char)
  | unknown (text : String)
  deriving DecidableEq

/-- A hyphen and digits, with at most one point, behind which a digit has to come; one line
break may stand at the end. -/
def looksNegative (word : List Char) : Bool :=
  match word with
  | '-' :: cs =>
    let body := if cs.getLast? = some '\n' then cs.dropLast else cs
    let fraction := body.dropWhile Text.isDigit
    match fraction with
    | [] => !body.isEmpty
    | '.' :: ds => !ds.isEmpty && ds.all Text.isDigit
    | _ => false
  | _ => false

/-- What stands before the first equals sign and, if there is one, behind it. -/
def splitValue : List Char → List Char × Option (List Char)
  | [] => ([], none)
  | c :: cs =>
    if c = '=' then ([], some cs)
    else ((c :: (splitValue cs).1), (splitValue cs).2)

def exactFlag? (name : List Char) : Option Flag := Flag.all.find? fun f => f.long.toList == name

def startedBy (start : List Char) : List Flag :=
  Flag.all.filter fun f => start.isPrefixOf f.long.toList

/-- A word with two hyphens in front that is no option's full name. -/
def classifyLong (word : String) : Except Fault Word :=
  let (start, value) := splitValue word.toList
  match startedBy start with
  | [flag] => .ok (.option flag (value.map String.ofList))
  | [] => .ok (if word.toList.contains ' ' then .operand word else .unknown word)
  | flags => .error (.ambiguous word flags)

/-- What stands right behind the short option for help; one equals sign in front of it falls
away. -/
def classifyHelp : List Char → Word
  | [] => .option .help none
  | '=' :: letters => .moreHelp letters
  | letters => .moreHelp letters

def classify (word : String) : Except Fault Word :=
  match word.toList with
  | '-' :: 'h' :: letters => .ok (classifyHelp letters)
  | '-' :: '-' :: cs =>
    let (name, value) := splitValue ('-' :: '-' :: cs)
    match exactFlag? name with
    | some flag => .ok (.option flag (value.map String.ofList))
    | none => classifyLong word
  | '-' :: c :: cs =>
    .ok (if looksNegative ('-' :: c :: cs) || (c :: cs).contains ' ' then .operand word
      else .unknown word)
  | _ => .ok (.operand word)

/-- All words are classified before any is taken, so an ambiguous one is reported first. -/
def classifyAll : List String → Except Fault (List Word)
  | [] => .ok []
  | word :: words =>
    if word = "--" then .ok (.divider :: words.map .operand)
    else
      match classify word with
      | .error why => .error why
      | .ok w => (classifyAll words).map (w :: ·)

/-- Each letter `h` asks for help once more; whatever else stands there, nothing included, would
be a value, and help takes none. -/
def helpStop (letters : List Char) : Stop :=
  match letters, letters.dropWhile (· == 'h') with
  | _ :: _, [] => .helpShown
  | _, value => .fault (.ignoredValue .help (String.ofList value))

def withInterval (o : Options) (value : String) : Except Stop Options :=
  if value = "--" then .ok { o with sweepInterval := none }
  else
    match Numeral.readGrouped value with
    | .value n => .ok { o with sweepInterval := some n }
    | _ => .error (.fault (.notInteger .sweepInterval value))

/-- Takes the words from the left; those that no option takes are reported at the end. -/
def take (o : Options) (left : List String) : List Word → Except Stop Options
  | [] => if left = [] then .ok o else .error (.fault (.unrecognized left))
  | .operand text :: ws => take o (left ++ [text]) ws
  | .divider :: ws => take o (left ++ ["--"]) ws
  | .unknown text :: ws => take o (left ++ [text]) ws
  | .moreHelp letters :: _ => .error (helpStop letters)
  | .option .help none :: _ => .error .helpShown
  | .option .help (some value) :: _ => .error (.fault (.ignoredValue .help value))
  | .option .debug none :: ws => take { o with debug := true } left ws
  | .option .debug (some value) :: _ => .error (.fault (.ignoredValue .debug value))
  | .option .sweepInterval (some value) :: ws =>
    match withInterval o value with
    | .error stop => .error stop
    | .ok o' => take o' left ws
  | .option .sweepInterval none :: .operand value :: ws =>
    match withInterval o value with
    | .error stop => .error stop
    | .ok o' => take o' left ws
  | .option .sweepInterval none :: _ => .error (.fault (.missingValue .sweepInterval))

def ofWords (c : Configuration) (words : List String) : Except Stop Options :=
  match classifyAll words with
  | .error why => .error (.fault why)
  | .ok ws => take (configured c) [] ws

def program : String := "redis-playground"

def usage : String :=
  "usage: " ++ program ++ " [-h] [--sweep-interval SWEEP_INTERVAL] [--debug]\n"

def truth (b : Bool) : String := if b then "True" else "False"

def helpPage (c : Configuration) : String :=
  usage ++
    "\nRedis Playground: an interactive Redis command console\n\noptions:\n" ++
    "  -h, --help            show this help message and exit\n" ++
    "  --sweep-interval SWEEP_INTERVAL\n" ++
    "                        Milliseconds between expiration sweeps (default: " ++
    toString c.sweepInterval ++ ")\n" ++
    "  --debug               Enable debug logging (default: " ++ truth c.debug ++ ")\n"

def Stop.code : Stop → Nat
  | helpShown => 0
  | fault _ => 2

/-- What is written to standard output. -/
def Stop.output (c : Configuration) : Stop → String
  | helpShown => helpPage c
  | fault _ => ""

/-- What is written to standard error. -/
def Stop.complaint : Stop → String
  | helpShown => ""
  | fault why => usage ++ program ++ ": error: " ++ why.message ++ "\n"

end Options

end Keyspace
