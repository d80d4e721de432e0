import Keyspace.Command.Execute
import Keyspace.Sweeper

namespace Keyspace

inductive Status where
  | success
  | error
  deriving DecidableEq

/-- The status that a shown reply stands for. -/
def Status.ofText (output : String) : Status :=
  if Reply.isErrorText output then .error else .success

structure Record where
  command : String
  output : String
  status : Status
  deriving DecidableEq

structure Session where
  limits : Limits := {}
  sweeper : Sweeper
  store : Store := Table.empty
  history : List Record := []

namespace Session

/-- The session after a sweep, if one is due, and whether anything was taken out. -/
def tick (s : Session) (now : Int) : Session × Bool :=
  match s.sweeper.tick s.store now with
  | (w, some swept) => ({ s with sweeper := w, store := swept }, true)
  | (w, none) => ({ s with sweeper := w }, false)

@[simp] theorem limits_tick (s : Session) (now : Int) : (s.tick now).1.limits = s.limits := by
  unfold tick
  split <;> rfl

@[simp] theorem history_tick (s : Session) (now : Int) : (s.tick now).1.history = s.history := by
  unfold tick
  split <;> rfl

def record (s : Session) (line : String) (o : Outcome) : Session × Record :=
  let output := o.reply.render
  let r : Record := ⟨line, output, Status.ofText output⟩
  ({ s with store := o.after s.store, history := s.history ++ [r] }, r)

/-- The clock is read twice for a line: for the sweep, then for the command. -/
def submit (s : Session) (line : String) (sweepAt now : Int) :
    Except NumeralTooLong (Session × Record) :=
  let ticked := (s.tick sweepAt).1
  (execute ticked.limits line ticked.store now).map (ticked.record line)

/-- Drops all keys and the history, and lets the next tick run. -/
def reset (s : Session) : Session :=
  { s with store := Table.empty, history := [], sweeper := s.sweeper.reset }

end Session

end Keyspace
