import Keyspace.Command.Execute
import Keyspace.Proofs.Reading
import Keyspace.Sweeper

namespace Keyspace

inductive Action where
  | command (line : String)
  | sweep
  | tick

structure Event where
  action : Action
  instant : Int

def Event.isCommand (e : Event) : Bool :=
  match e.action with
  | .command _ => true
  | _ => false

theorem Event.exists_line {e : Event} (h : e.isCommand = true) :
    ∃ line, e.action = .command line := by
  unfold isCommand at h
  split at h
  · next line hline => exact ⟨line, hline⟩
  · cases h

structure Host where
  limits : Limits := {}
  sweeper : Sweeper
  store : Store := Table.empty

/-- A command line with what it is answered. -/
structure Exchange where
  line : String
  answer : Except NumeralTooLong Reply

def Store.afterLine (s : Store) (limits : Limits) (line : String) (now : Int) : Store :=
  match execute limits line s now with
  | .ok o => o.after s
  | .error _ => s

def Store.exchange (s : Store) (limits : Limits) (line : String) (now : Int) : Exchange :=
  ⟨line, (execute limits line s now).map Outcome.reply⟩

namespace Host

def perform (h : Host) (e : Event) : Host :=
  match e.action with
  | .command line => { h with store := h.store.afterLine h.limits line e.instant }
  | .sweep => { h with store := Store.swept h.store e.instant }
  | .tick =>
    let r := h.sweeper.tick h.store e.instant
    { h with sweeper := r.1, store := r.2.getD h.store }

def after (h : Host) (es : List Event) : Host := es.foldl perform h

@[simp] theorem after_nil (h : Host) : h.after [] = h := rfl

@[simp] theorem after_cons (h : Host) (e : Event) (es : List Event) :
    h.after (e :: es) = (h.perform e).after es := rfl

theorem after_append (h : Host) (es es' : List Event) :
    h.after (es ++ es') = (h.after es).after es' :=
  List.foldl_append

@[simp] theorem limits_perform (h : Host) (e : Event) : (h.perform e).limits = h.limits := by
  unfold perform
  split <;> rfl

theorem store_perform_command {e : Event} {line : String} (he : e.action = .command line)
    (h : Host) : (h.perform e).store = h.store.afterLine h.limits line e.instant := by
  simp only [perform, he]

theorem store_perform_of_not_command {e : Event} (he : e.isCommand = false) (h : Host) :
    (h.perform e).store = h.store ∨ (h.perform e).store = Store.swept h.store e.instant := by
  obtain ⟨action, t⟩ := e
  cases action with
  | command line => cases he
  | sweep => exact Or.inr rfl
  | tick =>
    have hs : (h.perform ⟨.tick, t⟩).store = (h.sweeper.tick h.store t).2.getD h.store := rfl
    rw [hs]
    unfold Sweeper.tick
    split
    · exact Or.inr rfl
    · exact Or.inl rfl

end Host

/-- An event of a timeline with the host that it happens to. -/
structure Step where
  host : Host
  event : Event

namespace Step

def before (p : Step) : Store := p.host.store

def next (p : Step) : Host := p.host.perform p.event

def after (p : Step) : Store := p.next.store

def instant (p : Step) : Int := p.event.instant

/-- The event is a command line that is read as this command. -/
def Runs (p : Step) (c : Command) : Prop :=
  ∃ line, p.event.action = .command line ∧ Command.ofLine p.host.limits line = .ok c

/-- The event is this command line, and it is answered without a failure. -/
def Answers (p : Step) (line : String) : Prop :=
  p.event.action = .command line ∧
    ∃ o, execute p.host.limits line p.before p.instant = .ok o ∧ o.reply.isError = false

/-- A command line of this verb for this key is answered without a failure. -/
def Succeeds (p : Step) (v : Verb) (k : String) : Prop :=
  ∃ line, p.Answers line ∧ (Request.ofLine line).Names v k

theorem Answers.exists_runs {p : Step} {line : String} (h : p.Answers line) :
    ∃ c, p.Runs c ∧ Command.ofLine p.host.limits line = .ok c := by
  obtain ⟨hline, o, ho, hr⟩ := h
  rcases outcome_cases ho with ⟨why, -, rfl⟩ | ⟨c, hc, -⟩
  · cases hr
  · exact ⟨c, ⟨line, hline, hc⟩, hc⟩

theorem Runs.after_eq {p : Step} {c : Command} (h : p.Runs c) :
    p.after = (c.outcome p.before p.instant).after p.before := by
  obtain ⟨line, hline, hc⟩ := h
  have hafter : p.after = p.before.afterLine p.host.limits line p.instant :=
    Host.store_perform_command hline p.host
  rw [hafter, Store.afterLine, execute, hc]

theorem Runs.succeeds {p : Step} {c : Command} {k : String} (h : p.Runs c) (hk : c.key? = some k)
    (hr : (c.outcome p.before p.instant).reply.isError = false) : p.Succeeds c.verb k := by
  obtain ⟨line, hline, hc⟩ := h
  refine ⟨line, ⟨hline, c.outcome p.before p.instant, ?_, hr⟩, Command.names_of_ofLine hc hk⟩
  exact execute_of_ofLine hc

end Step

namespace Host

def steps : Host → List Event → List Step
  | _, [] => []
  | h, e :: es => ⟨h, e⟩ :: (h.perform e).steps es

theorem steps_append (h : Host) (es es' : List Event) :
    h.steps (es ++ es') = h.steps es ++ (h.after es).steps es' := by
  induction es generalizing h with
  | nil => rfl
  | cons e es ih =>
    rw [List.cons_append, steps, steps, ih, after_cons, List.cons_append]

theorem event_mem_of_mem_steps {h : Host} {es : List Event} {p : Step} (hp : p ∈ h.steps es) :
    p.event ∈ es := by
  induction es generalizing h with
  | nil => cases hp
  | cons e es ih =>
    rcases List.mem_cons.1 hp with rfl | hp
    · exact List.mem_cons_self
    · exact List.mem_cons_of_mem e (ih hp)

/-- The command lines of a timeline, each with what it is answered. -/
def exchanges : Host → List Event → List Exchange
  | _, [] => []
  | h, e :: es =>
    match e.action with
    | .command line => h.store.exchange h.limits line e.instant :: (h.perform e).exchanges es
    | _ => (h.perform e).exchanges es

theorem exchanges_command {e : Event} {line : String} (he : e.action = .command line) (h : Host)
    (es : List Event) :
    h.exchanges (e :: es) =
      h.store.exchange h.limits line e.instant :: (h.perform e).exchanges es := by
  simp only [exchanges, he]

theorem exchanges_of_not_command {e : Event} (he : e.isCommand = false) (h : Host)
    (es : List Event) : h.exchanges (e :: es) = (h.perform e).exchanges es := by
  obtain ⟨action, t⟩ := e
  cases action with
  | command line => cases he
  | sweep => rfl
  | tick => rfl

end Host

/-- No event comes before the one in front of it, and none before the start. -/
def Chronological : Int → List Event → Prop
  | _, [] => True
  | start, e :: es => start ≤ e.instant ∧ Chronological e.instant es

theorem Chronological.le_instant {start : Int} {es : List Event} (h : Chronological start es)
    {e : Event} (he : e ∈ es) : start ≤ e.instant := by
  induction es generalizing start with
  | nil => cases he
  | cons e' es ih =>
    rcases List.mem_cons.1 he with rfl | he
    · exact h.1
    · exact Int.le_trans h.1 (ih h.2 he)

/-- A timeline falls into the events before an instant and those from then on. -/
theorem Chronological.split {start : Int} {es : List Event} (h : Chronological start es)
    (t : Int) :
    ∃ past rest, es = past ++ rest ∧ (∀ e ∈ past, e.instant < t) ∧ Chronological t rest := by
  induction es generalizing start with
  | nil => exact ⟨[], [], rfl, by simp, trivial⟩
  | cons e es ih =>
    rcases Int.lt_or_le e.instant t with hlt | hle
    · obtain ⟨past, rest, rfl, hpast, hrest⟩ := ih h.2
      refine ⟨e :: past, rest, rfl, ?_, hrest⟩
      intro e' he'
      rcases List.mem_cons.1 he' with rfl | he'
      · exact hlt
      · exact hpast e' he'
    · exact ⟨[], e :: es, rfl, by simp, hle, h.2⟩

end Keyspace
