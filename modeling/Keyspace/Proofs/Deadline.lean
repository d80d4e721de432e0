import Keyspace.Proofs.Change
import Keyspace.Proofs.ErrorMarker
import Keyspace.Proofs.SweepsInvisible

namespace Keyspace

open Store

/-- The step gives a key a deadline: for so many seconds from now on, or milliseconds. -/
inductive Step.GivesDeadline (p : Step) (k : String) : Int → Prop where
  | expire {line amount : String} {n : Int} :
      p.Answers line → (Request.ofLine line).verb = some .expire →
      (Request.ofLine line).arguments = [k, amount] → Numeral.read amount = .value n → 1 ≤ n →
      lookup p.before k p.instant ≠ none → GivesDeadline p k (p.instant + 1000 * n)
  | setSeconds {line value option amount : String} {n : Int} :
      p.Answers line → (Request.ofLine line).verb = some .set →
      (Request.ofLine line).arguments = [k, value, option, amount] → Text.upper option = "EX" →
      Numeral.read amount = .value n → GivesDeadline p k (p.instant + 1000 * n)
  | setMilliseconds {line value option amount : String} {n : Int} :
      p.Answers line → (Request.ofLine line).verb = some .set →
      (Request.ofLine line).arguments = [k, value, option, amount] → Text.upper option = "PX" →
      Numeral.read amount = .value n → GivesDeadline p k (p.instant + n)

/-- The step moves the deadline of a key, or takes the key out before its deadline. -/
inductive Step.Overrides (p : Step) (k : String) : Prop where
  | set : p.Succeeds .set k → Overrides p k
  | expire : p.Succeeds .expire k → Overrides p k
  | persist : p.Succeeds .persist k → Overrides p k
  | del {names : List String} : p.Runs (.del names) → k ∈ names → Overrides p k
  | flushall : p.Runs .flushall → Overrides p k
  | lpopLast {head : String} {x : Option Int} :
      p.Runs (.lpop k) → lookup p.before k p.instant = some ⟨.list [head], x⟩ → Overrides p k

/-- Only these verbs override a deadline. -/
theorem Step.Overrides.exists_line {p : Step} {k : String} (h : p.Overrides k) :
    ∃ line v, p.event.action = .command line ∧ (Request.ofLine line).verb = some v ∧
      v ∈ [Verb.set, .expire, .persist, .del, .flushall, .lpop] := by
  cases h with
  | set h | expire h | persist h =>
    obtain ⟨line, hans, hnames⟩ := h
    exact ⟨line, _, hans.1, hnames.1, by decide⟩
  | del h _ | flushall h | lpopLast h _ =>
    obtain ⟨line, hline, hc⟩ := h
    exact ⟨line, _, hline, Command.verb_of_ofLine hc, by simp [Command.verb]⟩

/-- The step is a line of one of the verbs that create a key. -/
def Step.Creates (p : Step) (k : String) : Prop :=
  ∃ v ∈ [Verb.set, .lpush, .rpush, .sadd, .hset], p.Succeeds v k

section Step

variable {p : Step} {k : String} {D : Int} {c : Command} {a e : Entry}

theorem Step.Runs.succeeds_of_makes (h : p.Runs c) {ch : Change}
    (hm : Makes p.before p.instant c ch) (hk : c.key? = some k) : p.Succeeds c.verb k := by
  obtain ⟨o, ho⟩ := hm.run_eq_ok
  apply h.succeeds hk
  have hout : c.outcome p.before p.instant = o := by rw [Command.outcome, ho]
  rw [hout]
  exact Reply.isError_of_isAnswer (isAnswer_of_run ho)

theorem outcome_expire {s : Store} {now n : Int} (ha : lookup s k now = some a) (hn : 1 ≤ n) :
    (Command.expire k n).outcome s now =
      .changed (.integer 1) (s.insert k (a.withExpiry (some (now + n * 1000)))) := by
  show Store.expire s k n now = _
  rw [Store.expire, ha]
  dsimp only
  rw [if_neg (by omega)]

theorem Step.Runs.get?_of_changed (h : p.Runs c) {r : Reply}
    (hout : c.outcome p.before p.instant = .changed r (p.before.insert k e)) :
    p.after.get? k = some e := by
  rw [h.after_eq, hout]
  show (p.before.insert k e).get? k = some e
  rw [Table.get?_insert, if_pos rfl]

theorem Step.Answers.runs_of_arguments {line : String} {v : Verb} {ws : List String}
    (h : p.Answers line) (hv : (Request.ofLine line).verb = some v)
    (hargs : (Request.ofLine line).arguments = ws) :
    ∃ c, p.Runs c ∧ Command.ofArguments v ws = .ok c := by
  obtain ⟨c, hruns, hc⟩ := h.exists_runs
  obtain ⟨⟨hverb, -, -⟩, ha⟩ := Command.ofLine_eq_ok hc
  have hvc : v = c.verb := Option.some.inj (hv.symm.trans hverb)
  rw [hvc, ← hargs]
  exact ⟨c, hruns, ha⟩

theorem Step.Answers.get?_after_set {line value option amount : String} {n : Int}
    {u : Command.Scale} (h : p.Answers line) (hv : (Request.ofLine line).verb = some .set)
    (hargs : (Request.ofLine line).arguments = [k, value, option, amount])
    (hn : Numeral.read amount = .value n) (hu : Command.scale? option = some u) :
    ∃ e, p.after.get? k = some e ∧ e.expiresAt = some (p.instant + n * u.factor) := by
  obtain ⟨c, hruns, hc⟩ := h.runs_of_arguments hv hargs
  obtain ⟨t, rfl, ht⟩ := Command.set_of_ofArguments hc hn hu
  refine ⟨_, hruns.get?_of_changed rfl, ?_⟩
  show some (p.instant + t.milliseconds) = _
  rw [ht]

/-- A key that is given a deadline has it. -/
theorem Step.GivesDeadline.get?_after (h : p.GivesDeadline k D) :
    ∃ e, p.after.get? k = some e ∧ e.expiresAt = some D := by
  cases h with
  | @expire line amount n hans hv hargs hn hpos hlive =>
    obtain ⟨c, hruns, hc⟩ := hans.runs_of_arguments hv hargs
    obtain rfl := Command.expire_of_ofArguments hc hn
    obtain ⟨a, hl⟩ := Option.ne_none_iff_exists'.1 hlive
    refine ⟨_, hruns.get?_of_changed (outcome_expire hl hpos), ?_⟩
    rw [Int.mul_comm 1000 n]
    rfl
  | @setSeconds line value option amount n hans hv hargs hu hn =>
    have hscale := Command.scale?_of_upper_eq_ex hu
    rw [Int.mul_comm 1000 n]
    exact hans.get?_after_set hv hargs hn hscale
  | @setMilliseconds line value option amount n hans hv hargs hu hn =>
    have hscale := Command.scale?_of_upper_eq_px hu
    rw [← Int.mul_one n]
    exact hans.get?_after_set hv hargs hn hscale

/-- A step that overrides nothing leaves a live key its deadline. -/
theorem Step.deadline_kept (ha : lookup p.before k p.instant = some a)
    (hD : a.expiresAt = some D) (hno : ¬ p.Overrides k) :
    ∃ b, p.after.get? k = some b ∧ b.expiresAt = some D := by
  have hleaves := p.leaves k
  generalize p.after.get? k = x at hleaves ⊢
  cases hleaves with
  | same => exact ⟨a, (lookup_eq_some_iff.1 ha).1, hD⟩
  | swept => exact ⟨a, ha, hD⟩
  | written hc hw =>
    rcases hw.write_live ha with ⟨value, lifetime, rfl⟩ | ⟨-, ht | ⟨n, rfl⟩ | rfl⟩
    · exact absurd (.set (hc.succeeds_of_makes hw rfl)) hno
    · exact ⟨_, rfl, ht.trans hD⟩
    · exact absurd (.expire (hc.succeeds_of_makes hw rfl)) hno
    · exact absurd (.persist (hc.succeeds_of_makes hw rfl)) hno
  | takenOut hc hw hk =>
    rcases hw.takeOut_cases hk with ⟨names, rfl, hn⟩ | ⟨n, rfl⟩ | ⟨rfl, head, x, hl⟩
    · exact absurd (.del hc hn) hno
    · exact absurd (.expire (hc.succeeds_of_makes hw rfl)) hno
    · exact absurd (.lpopLast hc hl) hno
  | cleared hc => exact absurd (.flushall hc) hno

theorem Command.of_fresh? {now : Int} (h : c.fresh? now = some (k, e)) :
    c.key? = some k ∧ c.verb ∈ [Verb.set, .lpush, .rpush, .sadd, .hset] ∧
      (e.expiresAt = none ∨ ∃ value lifetime, c = .set k value lifetime) := by
  cases c with
  | set key value lifetime =>
    cases h
    exact ⟨rfl, by simp [verb], Or.inr ⟨value, lifetime, rfl⟩⟩
  | lpush | rpush | sadd | hset =>
    cases h
    exact ⟨rfl, by simp [verb], Or.inl rfl⟩
  | _ => cases h

/-- Where a key is absent, what a step leaves under it is absent still, or is written by a command
that creates it. -/
theorem Step.absent_cases (p : Step) (hn : lookup p.before k p.instant = none) :
    lookup p.after k p.instant = none ∨
      ∃ c e, p.Runs c ∧ p.after.get? k = some e ∧ c.fresh? p.instant = some (k, e) ∧
        p.Creates k := by
  have hleaves := p.leaves k
  unfold lookup
  generalize p.after.get? k = x at hleaves ⊢
  cases hleaves with
  | same => exact Or.inl hn
  | swept => exact Or.inl (by rw [hn, Option.filter_none])
  | written hc hw =>
    have hf := hw.write_absent hn
    obtain ⟨hk, hv, -⟩ := Command.of_fresh? hf
    exact Or.inr ⟨_, _, hc, rfl, hf, _, hv, hc.succeeds_of_makes hw hk⟩
  | takenOut => exact Or.inl rfl
  | cleared => exact Or.inl rfl

/-- What a step leaves live under an absent key is what its command says. -/
theorem Step.created_anew (p : Step) (hn : lookup p.before k p.instant = none)
    (he : lookup p.after k p.instant = some e) :
    p.Creates k ∧ ∃ c, p.Runs c ∧ c.fresh? p.instant = some (k, e) ∧
      (e.expiresAt = none ∨ ∃ value lifetime, c = .set k value lifetime) := by
  rcases p.absent_cases hn with hgone | ⟨c, b, hruns, hb, hf, hcreates⟩
  · cases hgone.symm.trans he
  · have hx : p.after.get? k = some e := (lookup_eq_some_iff.1 he).1
    have hbe : b = e := Option.some.inj (hb.symm.trans hx)
    subst hbe
    obtain ⟨-, -, hexpiry⟩ := Command.of_fresh? hf
    exact ⟨hcreates, c, hruns, hf, hexpiry⟩

end Step

section Host

variable {h : Host} {es : List Event} {k : String} {D start : Int} {a : Entry}

/-- Up to the deadline the entry keeps it, whatever else is done. -/
theorem Host.deadline_kept (ha : h.store.get? k = some a) (hD : a.expiresAt = some D)
    (hes : ∀ e ∈ es, e.instant < D)
    (hno : ∀ q ∈ h.steps es, lookup q.before k q.instant ≠ none → ¬ q.Overrides k) :
    ∃ b, (h.after es).store.get? k = some b ∧ b.expiresAt = some D := by
  induction es generalizing h a with
  | nil => exact ⟨a, ha, hD⟩
  | cons e es ih =>
    -- the deadline lies ahead of this event, so the key is live at it
    have hl : lookup h.store k e.instant = some a := by
      rw [lookup_of_expiresAt ha hD, if_pos (hes e List.mem_cons_self)]
    have hstep : ¬ Step.Overrides ⟨h, e⟩ k := by
      apply hno ⟨h, e⟩ List.mem_cons_self
      show lookup h.store k e.instant ≠ none
      rw [hl]
      exact Option.some_ne_none a
    obtain ⟨b, hb, hbD⟩ := Step.deadline_kept (p := ⟨h, e⟩) hl hD hstep
    rw [after_cons]
    apply ih hb hbD
    · intro e' he'
      exact hes e' (List.mem_cons_of_mem e he')
    · intro q hq
      exact hno q (List.mem_cons_of_mem _ hq)

/-- An absent key stays absent until it is created. -/
theorem Host.absent_kept (hn : lookup h.store k start = none) (hes : Chronological start es)
    (hno : ∀ q ∈ h.steps es, ¬ q.Creates k) {t : Int} (hle : start ≤ t)
    (hall : ∀ e ∈ es, e.instant ≤ t) : lookup (h.after es).store k t = none := by
  induction es generalizing h start with
  | nil => exact lookup_none_later hn hle
  | cons e es ih =>
    have hl : lookup h.store k e.instant = none := lookup_none_later hn hes.1
    rw [after_cons]
    rcases Step.absent_cases ⟨h, e⟩ hl with hgone | ⟨c, b, -, -, -, hcreates⟩
    · apply ih hgone hes.2 _ (hall e List.mem_cons_self)
      · intro e' he'
        exact hall e' (List.mem_cons_of_mem e he')
      · intro q hq
        exact hno q (List.mem_cons_of_mem _ hq)
    · exact absurd hcreates (hno ⟨h, e⟩ List.mem_cons_self)

/-- From the deadline on a key is absent, until it is created. -/
theorem Host.absent_from_deadline (ha : h.store.get? k = some a) (hD : a.expiresAt = some D)
    (hes : Chronological start es)
    (hno : ∀ q ∈ h.steps es, q.instant < D → lookup q.before k q.instant ≠ none →
      ¬ q.Overrides k)
    (hnone : ∀ q ∈ h.steps es, D ≤ q.instant → ¬ q.Creates k) {t : Int} (hle : D ≤ t)
    (hall : ∀ e ∈ es, e.instant ≤ t) : lookup (h.after es).store k t = none := by
  -- up to the deadline the entry keeps it; what comes then finds the key absent
  obtain ⟨past, rest, rfl, hpast, hrest⟩ := hes.split D
  rw [steps_append] at hno hnone
  have hkept : ∃ b, (h.after past).store.get? k = some b ∧ b.expiresAt = some D := by
    apply deadline_kept ha hD hpast
    intro q hq
    exact hno q (List.mem_append_left _ hq) (hpast _ (event_mem_of_mem_steps hq))
  obtain ⟨b, hb, hbD⟩ := hkept
  have hgone : lookup (h.after past).store k D = none := by
    rw [lookup_of_expiresAt hb hbD, if_neg (by omega)]
  rw [after_append]
  apply absent_kept hgone hrest _ hle
  · intro e he
    exact hall e (List.mem_append_right past he)
  · intro q hq
    have hinstant : D ≤ q.instant := hrest.le_instant (event_mem_of_mem_steps hq)
    exact hnone q (List.mem_append_right _ hq) hinstant

end Host

/-- The key is not found, and lines are answered as if it were not held at all. -/
def Store.IsAbsent (s : Store) (k : String) (t : Int) : Prop :=
  lookup s k t = none ∧ ∀ (limits : Limits) (line : String),
    (s.exchange limits line t).Same (Store.exchange (s.erase k) limits line t)

theorem isAbsent_of_lookup {s : Store} {k : String} {t : Int} (hn : lookup s k t = none) :
    s.IsAbsent k t := by
  refine ⟨hn, ?_⟩
  intro limits line
  apply exchange_alike
  intro key
  rw [lookup_erase]
  split
  · next hk => rw [hk, hn]
  · rfl

/-- A key is live with its deadline until then, unless that is overridden, and absent from then on,
swept or not, until a command creates it anew. -/
theorem deadlines_are_kept {p : Step} {k : String} {D : Int} (hgives : p.GivesDeadline k D)
    {es : List Event} (hes : Chronological p.instant es)
    (hno : ∀ q ∈ p.next.steps es, q.instant < D → lookup q.before k q.instant ≠ none →
      ¬ q.Overrides k) :
    (∀ t, t < D → (∀ e ∈ es, e.instant ≤ t) →
      ∃ e, lookup (p.next.after es).store k t = some e ∧ e.expiresAt = some D) ∧
    (∀ t, D ≤ t → (∀ e ∈ es, e.instant ≤ t) →
      (p.next.after es).store.IsAbsent k t ∨
        ∃ q ∈ p.next.steps es, D ≤ q.instant ∧ q.Creates k) ∧
    ∀ q ∈ p.next.steps es, ∀ e, lookup q.before k q.instant = none →
      lookup q.after k q.instant = some e →
        q.Creates k ∧ ∃ c, q.Runs c ∧ c.fresh? q.instant = some (k, e) ∧
          (e.expiresAt = none ∨ ∃ value lifetime, c = .set k value lifetime) := by
  obtain ⟨a, ha, hD⟩ := hgives.get?_after
  refine ⟨?_, ?_, ?_⟩
  · intro t ht hall
    have hbefore : ∀ e ∈ es, e.instant < D := by
      intro e he
      have hle := hall e he
      omega
    have hkept : ∃ b, (p.next.after es).store.get? k = some b ∧ b.expiresAt = some D := by
      apply Host.deadline_kept ha hD hbefore
      intro q hq
      exact hno q hq (hbefore _ (Host.event_mem_of_mem_steps hq))
    obtain ⟨b, hb, hbD⟩ := hkept
    refine ⟨b, ?_, hbD⟩
    rw [lookup_of_expiresAt hb hbD, if_pos ht]
  · -- from the deadline on nothing is left to follow but creations
    intro t ht hall
    by_cases hcreated : ∃ q ∈ p.next.steps es, D ≤ q.instant ∧ q.Creates k
    · exact Or.inr hcreated
    · left
      apply isAbsent_of_lookup
      apply Host.absent_from_deadline ha hD hes hno _ ht hall
      intro q hq hle hcreates
      exact hcreated ⟨q, hq, hle, hcreates⟩
  · intro q _ e hn he
    exact q.created_anew hn he

/-- A text that is kept for 50 milliseconds from instant 100 on. -/
def briefStep : Step :=
  ⟨{ sweeper := { interval := 100 } }, ⟨.command "SET k v PX 50", 100⟩⟩

def briefEvents : List Event := [⟨.command "GET k", 120⟩, ⟨.sweep, 149⟩]

theorem briefStep_givesDeadline : briefStep.GivesDeadline "k" (100 + 50) := by
  have hans : briefStep.Answers "SET k v PX 50" :=
    ⟨rfl, (Command.set "k" "v" (some ⟨50, by decide⟩)).outcome briefStep.before 100, rfl, rfl⟩
  have hargs : (Request.ofLine "SET k v PX 50").arguments = ["k", "v", "PX", "50"] := rfl
  exact .setMilliseconds hans rfl hargs rfl rfl

theorem deadlines_are_kept_brief :
    (∃ e, lookup (briefStep.next.after briefEvents).store "k" 149 = some e ∧
      e.expiresAt = some 150) ∧
      lookup (briefStep.next.after briefEvents).store "k" 150 = none := by
  have hget : (Request.ofLine "GET k").verb = some .get := rfl
  have hes : Chronological briefStep.instant briefEvents := by
    simp [Chronological, briefEvents, briefStep, Step.instant]
  have hno : ∀ q ∈ briefStep.next.steps briefEvents, ¬ q.Overrides "k" := by
    intro q hq hov
    obtain ⟨line, v, hline, hv, hmem⟩ := hov.exists_line
    have hevent : q.event = ⟨.command "GET k", 120⟩ ∨ q.event = ⟨.sweep, 149⟩ := by
      simpa [briefEvents] using Host.event_mem_of_mem_steps hq
    rcases hevent with he | he
    · rw [he] at hline
      cases hline
      cases hget.symm.trans hv
      revert hmem
      decide
    · rw [he] at hline
      cases hline
  obtain ⟨hlive, hgone, -⟩ := deadlines_are_kept briefStep_givesDeadline hes
    fun q hq _ _ => hno q hq
  refine ⟨hlive 149 (by decide) (by simp [briefEvents]), ?_⟩
  rcases hgone 150 (by decide) (by simp [briefEvents]) with ⟨hn, -⟩ | ⟨q, hq, hle, -⟩
  · exact hn
  · have hall : ∀ e ∈ briefEvents, e.instant < 150 := by simp [briefEvents]
    have hlt : q.instant < 150 := hall _ (Host.event_mem_of_mem_steps hq)
    omega

end Keyspace
