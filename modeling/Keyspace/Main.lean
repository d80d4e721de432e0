import Mathlib.Tactic.DeprecateTo
import Keyspace.Configuration
import Keyspace.Console
import Keyspace.Options

namespace Keyspace

/-- Milliseconds since the epoch by the clock on the wall, which may be set back. -/
def clock : IO Int := do
  -- the first import is there for this reading alone
  return (← Std.Time.Timestamp.now).toMillisecondsSinceUnixEpoch.val

partial def converse (input output : IO.FS.Stream) (s : Session) : IO UInt32 := do
  output.putStr Release.prompt
  output.flush
  let line ← input.getLine
  if line.isEmpty then
    output.putStr Console.Ending.endOfInput.farewell
    return 0
  match Console.Entered.ofLine line with
  | .leave =>
    output.putStr Console.leaveFarewell
    return 0
  | typed =>
    let sweepAt ← clock
    let now ← clock
    match Console.respond s typed sweepAt now with
    | .error e =>
      IO.eprintln e.message
      return 1
    | .ok (s', shown) =>
      output.putStr shown
      converse input output s'

def environment (name : String) : IO (String × Option String) := do
  return (name, ← IO.getEnv name)

def readConfiguration : IO (Except BadNumber Configuration) := do
  let pairs ← Configuration.names.mapM environment
  return Configuration.ofEnvironment fun name => (pairs.lookup name).join

end Keyspace

open Keyspace in
def main (words : List String) : IO UInt32 := do
  match ← readConfiguration with
  | .error e =>
    IO.eprintln e.message
    return 1
  | .ok c =>
    match Options.ofWords c words with
    | .error stop =>
      IO.print (stop.output c)
      IO.eprint stop.complaint
      return stop.code.toUInt32
    | .ok options =>
      match options.sweeper with
      | .error e =>
        IO.eprintln e.message
        return 1
      | .ok sweeper =>
        IO.print Console.banner
        let session : Session := { limits := c.limits, sweeper := sweeper }
        converse (← IO.getStdin) (← IO.getStdout) session
