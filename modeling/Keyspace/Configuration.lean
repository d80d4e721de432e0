import Keyspace.Command.Request
import Keyspace.Numeral
import Keyspace.Text.Quoted

namespace Keyspace

inductive BadNumber where
  | malformed (text : String)
  | tooLong (digits : Nat)
  deriving DecidableEq

/-- At most two hundred characters of the quoted text are shown. -/
def BadNumber.message : BadNumber → String
  | malformed text =>
    "invalid literal for int() with base 10: " ++
      String.ofList ((Text.quoted text).toList.take 200)
  | tooLong digits => Numeral.tooLongMessage digits

structure Configuration where
  sweepInterval : Int := 100
  limits : Limits := {}
  debug : Bool := false
  logLevel : String := "INFO"

namespace Configuration

/-- The names of the variables that are looked at. -/
def names : List String :=
  ["PLAYGROUND_SWEEP_INTERVAL_MS", "PLAYGROUND_MAX_KEY_LENGTH", "PLAYGROUND_MAX_VALUE_LENGTH",
    "PLAYGROUND_DEBUG", "PLAYGROUND_LOG_LEVEL"]

def numberOr (fallback : Int) : Option String → Except BadNumber Int
  | none => .ok fallback
  | some text =>
    match Numeral.readGrouped text with
    | .value n => .ok n
    | .tooLong digits => .error (.tooLong digits)
    | .malformed => .error (.malformed text)

/-- The first of the numbers that cannot be read is reported. -/
def ofEnvironment (env : String → Option String) : Except BadNumber Configuration := do
  let sweepInterval ← numberOr 100 (env "PLAYGROUND_SWEEP_INTERVAL_MS")
  let key ← numberOr 256 (env "PLAYGROUND_MAX_KEY_LENGTH")
  let value ← numberOr 1024 (env "PLAYGROUND_MAX_VALUE_LENGTH")
  let debug := (env "PLAYGROUND_DEBUG").map Text.lower
  return {
    sweepInterval := sweepInterval
    limits := { key := key, value := value }
    debug := debug == some "true"
    logLevel := (env "PLAYGROUND_LOG_LEVEL").getD "INFO" }

end Configuration

end Keyspace
