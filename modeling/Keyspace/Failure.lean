import Keyspace.Reply
import Keyspace.Text.Case

namespace Keyspace

inductive Failure where
  | emptyLine
  | unknownCommand (name : String)
  | wrongArity (name : String)
  | argumentTooLong
  | malformed
  | wrongKind
  | notInteger
  | invalidLifetime
  deriving DecidableEq

namespace Failure

def kind : Failure → FailureKind
  | emptyLine => .malformed
  | unknownCommand _ => .malformed
  | wrongArity _ => .malformed
  | argumentTooLong => .outOfRange
  | malformed => .malformed
  | wrongKind => .wrongKind
  | notInteger => .outOfRange
  | invalidLifetime => .outOfRange

def message : Failure → String
  | emptyLine => "ERR empty command"
  | unknownCommand name => "ERR unknown command '" ++ Text.lower name ++ "'"
  | wrongArity name => "ERR wrong number of arguments for '" ++ Text.lower name ++ "' command"
  | argumentTooLong => "ERR argument exceeds the maximum length"
  | malformed => "ERR syntax error"
  | wrongKind => "WRONGTYPE Operation against a key holding the wrong kind of value"
  | notInteger => "ERR value is not an integer or out of range"
  | invalidLifetime => "ERR invalid expire time in 'set' command"

def reply (f : Failure) : Reply := .error f.kind f.message

end Failure

end Keyspace
