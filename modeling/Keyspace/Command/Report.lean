import Keyspace.Command.Outcome
import Keyspace.Release

namespace Keyspace.Store

def serverReport : List String :=
  ["# Server", "redis_version:" ++ Release.version, "redis_mode:" ++ Release.mode, "tcp_port:6379"]

def keyspaceReport (c : Census) : List String :=
  if c.active = 0 then ["# Keyspace"]
  else ["# Keyspace", "db0:keys=" ++ toString c.active ++ ",expires=" ++ toString c.volatile]

/-- The reports on a topic; none on a topic that is not known. -/
def reportsOn (topic : Option String) (c : Census) : List (List String) :=
  match topic.map Text.lower with
  | none => [serverReport, keyspaceReport c]
  | some t =>
    if t = "default" ∨ t = "all" ∨ t = "everything" then [serverReport, keyspaceReport c]
    else if t = "server" then [serverReport]
    else if t = "keyspace" then [keyspaceReport c]
    else []

def info (s : Store) (topic : Option String) (now : Int) : Outcome :=
  .unchanged (.text (String.intercalate "\n\n"
    ((reportsOn topic (census s now)).map (String.intercalate "\n"))))

end Keyspace.Store
