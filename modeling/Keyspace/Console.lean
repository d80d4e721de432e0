import Keyspace.Session

namespace Keyspace

namespace Console

def banner : String :=
  "Welcome to Redis Playground v" ++ Release.version ++ "\nType 'help' for commands.\n\n"

def padRight (width : Nat) (s : String) : String :=
  s ++ String.ofList (List.replicate (width - s.length) ' ')

def helpLine (v : Verb) : String := "  " ++ padRight 10 v.spelling ++ " " ++ v.usage ++ "\n"

def helpPage : String :=
  "\nCommands:\n---------\n" ++ String.join (Verb.all.map helpLine) ++
    "\nConsole commands:\n-----------------\n" ++
    "  help       Show this help message\n" ++
    "  clear      Drop all keys and history\n" ++
    "  exit       Exit the console\n\n"

inductive Entered where
  | blank
  | help
  | clear
  | leave
  | command (line : String)
  deriving DecidableEq

/-- The console's own words are known in letters of either case. -/
def Entered.ofLine (typed : String) : Entered :=
  let line := Text.trim typed
  let word := Text.lower line
  if line = "" then .blank
  else if word = "help" then .help
  else if word = "exit" ∨ word = "quit" then .leave
  else if word = "clear" then .clear
  else .command line

def occursIn (piece : List Char) : List Char → Bool
  | [] => piece.isEmpty
  | c :: cs => piece.isPrefixOf (c :: cs) || occursIn piece cs

def complainsOfArity (output : String) : Bool :=
  occursIn "wrong number of arguments".toList output.toList

/-- The line on the usage of a command, for a failed one that had the wrong number of
arguments. -/
def usageLine (r : Record) : String :=
  if r.status = .error ∧ complainsOfArity r.output = true then
    match usageHint? r.command with
    | some hint =>
      let name := Text.upper ((Text.words r.command).headD "")
      String.ofList (Text.trimEnd ("Usage: " ++ name ++ " " ++ hint).toList) ++ "\n"
    | none => ""
  else ""

/-- What is shown for a line that does not end the console, and the session after it. -/
def respond (s : Session) (typed : Entered) (sweepAt now : Int) :
    Except NumeralTooLong (Session × String) :=
  match typed with
  | .blank => .ok (s, "")
  | .help => .ok (s, helpPage)
  | .clear => .ok (s.reset, "Store cleared.\n")
  | .leave => .ok (s, "")
  | .command line =>
    (s.submit line sweepAt now).map fun p => (p.1, p.2.output ++ "\n" ++ usageLine p.2)

inductive Ending where
  | endOfInput
  | interrupt
  deriving DecidableEq

def Ending.farewell : Ending → String
  | endOfInput => "\nGoodbye!\n"
  | interrupt => "\n\nInterrupted. Goodbye!\n"

def leaveFarewell : String := "Goodbye!\n"

/-- A line, with what the clock shows when it is read for the sweep and for the command. -/
structure Turn where
  line : String
  sweepAt : Int
  now : Int

/-- All that is shown after the banner, one prompt for each line that is read. -/
def dialogue (ending : Ending) (s : Session) : List Turn → Except NumeralTooLong String
  | [] => .ok (Release.prompt ++ ending.farewell)
  | turn :: turns =>
    match Entered.ofLine turn.line with
    | .leave => .ok (Release.prompt ++ leaveFarewell)
    | typed =>
      match respond s typed turn.sweepAt turn.now with
      | .error e => .error e
      | .ok (s', shown) =>
        (dialogue ending s' turns).map fun rest => Release.prompt ++ shown ++ rest

def transcript (ending : Ending) (s : Session) (turns : List Turn) :
    Except NumeralTooLong String :=
  (dialogue ending s turns).map (banner ++ ·)

end Console

end Keyspace
