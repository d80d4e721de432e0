import Keyspace.Proofs.Reading
import Keyspace.Session

namespace Keyspace

open Store

namespace Reply

/-- The kind of failure, where the reply is one. -/
def errorKind? : Reply → Option FailureKind
  | error kind _ => some kind
  | _ => none

theorem isSome_errorKind? (r : Reply) : r.errorKind?.isSome = r.isError := by
  cases r <;> rfl

/-- The replies of successful commands: no status but `OK`, and no text but a report, which is
empty or begins with a heading. -/
def IsAnswer : Reply → Prop
  | status message => message = "OK"
  | text message => message = "" ∨ message.toList.head? = some '#'
  | error _ _ => False
  | _ => True

theorem isError_of_isAnswer {r : Reply} (h : r.IsAnswer) : r.isError = false := by
  cases r with
  | error => exact h.elim
  | _ => rfl

theorem isErrorText_of_head? {s : String} (h : s.toList.head? ≠ some '(') :
    isErrorText s = false := by
  unfold isErrorText
  cases hs : s.toList with
  | nil => rfl
  | cons c cs =>
    have hc : '(' ≠ c := fun e => h (by rw [hs, e, List.head?_cons])
    show ('(' == c && _) = false
    rw [beq_eq_false_iff_ne.2 hc, Bool.false_and]

theorem head?_append {s : String} {c : Char} (h : s.toList.head? = some c) (t : String) :
    (s ++ t).toList.head? = some c := by
  rw [String.toList_append, List.head?_append, h, Option.some_or]

/-- Joined pieces begin as the first of them. -/
theorem head?_intercalate {s : String} {c : Char} (h : s.toList.head? = some c) (sep : String)
    (ss : List String) : (String.intercalate sep (s :: ss)).toList.head? = some c := by
  cases ss with
  | nil =>
    rw [String.intercalate_singleton]
    exact h
  | cons t ss =>
    rw [String.intercalate_cons_cons]
    exact head?_append (head?_append h sep) _

theorem isErrorText_render_integer (n : Int) : isErrorText (render (integer n)) = false := by
  -- both begin with a bracket; the letters behind it differ
  simp [isErrorText, errorMarker, render, List.isPrefixOf]

theorem isErrorText_render_bulk (s : String) : isErrorText (render (bulk s)) = false := by
  apply isErrorText_of_head?
  have hquote : (quotes s).toList.head? = some '"' := head?_append (head?_append rfl s) _
  rw [render, hquote]
  decide

theorem head?_render_array {items : List String} (h : items ≠ []) :
    (render (array items)).toList.head? = some '1' := by
  cases items with
  | nil => exact absurd rfl h
  | cons item items =>
    have hone : (toString 1 ++ ") " ++ quotes item).toList.head? = some '1' :=
      head?_append (head?_append rfl _) _
    exact head?_intercalate hone _ _

theorem isErrorText_render_array (items : List String) :
    isErrorText (render (array items)) = false := by
  cases items with
  | nil => decide
  | cons item items =>
    apply isErrorText_of_head?
    rw [head?_render_array (List.cons_ne_nil item items)]
    decide

/-- An answer is never shown with the marker, whatever text it carries. -/
theorem isErrorText_render_of_isAnswer {r : Reply} (h : r.IsAnswer) :
    isErrorText r.render = false := by
  cases r with
  | status message =>
    cases h
    decide
  | integer n => exact isErrorText_render_integer n
  | bulk s => exact isErrorText_render_bulk s
  | nil => decide
  | array items => exact isErrorText_render_array items
  | text message =>
    rcases h with rfl | hhead
    · decide
    · apply isErrorText_of_head?
      rw [render, hhead]
      decide
  | error => exact h.elim

end Reply

theorem head?_serverReport : (String.intercalate "\n" serverReport).toList.head? = some '#' :=
  Reply.head?_intercalate rfl _ _

theorem head?_keyspaceReport (c : Census) :
    (String.intercalate "\n" (keyspaceReport c)).toList.head? = some '#' := by
  unfold keyspaceReport
  split
  · exact Reply.head?_intercalate rfl _ _
  · exact Reply.head?_intercalate rfl _ _

/-- Whatever the topic, the reports that are shown are some of two. -/
theorem mem_reportsOn {topic : Option String} {c : Census} {report : List String}
    (h : report ∈ reportsOn topic c) : report = serverReport ∨ report = keyspaceReport c := by
  unfold reportsOn at h
  split at h
  · simpa using h
  · split at h
    · simpa using h
    · split at h
      · exact Or.inl (List.mem_singleton.1 h)
      · split at h
        · exact Or.inr (List.mem_singleton.1 h)
        · cases h

/-- Every report begins with its heading. -/
theorem head?_report {topic : Option String} {c : Census} {report : List String}
    (h : report ∈ reportsOn topic c) :
    (String.intercalate "\n" report).toList.head? = some '#' := by
  rcases mem_reportsOn h with rfl | rfl
  · exact head?_serverReport
  · exact head?_keyspaceReport c

theorem isAnswer_info (s : Store) (topic : Option String) (now : Int) :
    (Store.info s topic now).reply.IsAnswer := by
  show String.intercalate "\n\n" _ = "" ∨ (String.intercalate "\n\n" _).toList.head? = some '#'
  cases hr : reportsOn topic (census s now) with
  | nil => exact Or.inl rfl
  | cons report reports =>
    have hhead := head?_report (hr ▸ List.mem_cons_self : report ∈ reportsOn topic (census s now))
    exact Or.inr (Reply.head?_intercalate hhead _ _)

section Command

variable {limits : Limits} {line : String} {s : Store} {now : Int} {c : Command} {o : Outcome}

/-- A command that has an outcome gives an answer, over every store. -/
theorem isAnswer_of_run (h : c.run s now = .ok o) : o.reply.IsAnswer := by
  cases c with
  | set key value lifetime =>
    cases h
    rfl
  | flushall =>
    cases h
    unfold Store.flush
    split <;> rfl
  | info topic =>
    cases h
    exact isAnswer_info s topic now
  -- the others reply an integer, a text in quotes, a list of such texts or nil
  | existing | keys =>
    cases h
    trivial
  | del ks =>
    cases h
    unfold Store.del
    split <;> trivial
  | expire key seconds =>
    cases h
    unfold Store.expire
    split
    · trivial
    · split <;> trivial
  | ttl key =>
    cases h
    unfold Store.ttl
    split
    · trivial
    · split <;> trivial
  | persist key =>
    cases h
    unfold Store.persist
    split
    · trivial
    · split <;> trivial
  | lpush | rpush | lrange | smembers | sismember | hset | hgetall =>
    obtain ⟨x, -, rfl⟩ := exists_of_map_eq_ok h
    trivial
  | get | lpop | sadd | hget =>
    obtain ⟨x, -, rfl⟩ := exists_of_map_eq_ok h
    split <;> trivial

/-- A failure of a line: it is not read as a command, or its command fails over the store. -/
inductive Raises (limits : Limits) (line : String) (s : Store) (now : Int) : Failure → Prop where
  | reading {why : Failure} :
      Command.ofLine limits line = .error (.failed why) → Raises limits line s now why
  | running {c : Command} {why : Failure} :
      Command.ofLine limits line = .ok c → c.run s now = .error why → Raises limits line s now why

/-- The outcome of a line is that of a failure, or an answer that no failure stands behind. -/
theorem raises_or_answer (h : execute limits line s now = .ok o) :
    (∃ why, Raises limits line s now why ∧ o = .ofFailure why) ∨
      o.reply.IsAnswer ∧ ∀ why, ¬ Raises limits line s now why := by
  rcases outcome_cases h with ⟨why, hwhy, rfl⟩ | ⟨c, hc, rfl⟩
  · exact Or.inl ⟨why, .reading hwhy, rfl⟩
  · unfold Command.outcome
    cases hr : c.run s now with
    | error why => exact Or.inl ⟨why, .running hc hr, rfl⟩
    | ok o =>
      refine Or.inr ⟨isAnswer_of_run hr, ?_⟩
      intro why hraises
      cases hraises with
      | reading hc' => cases hc.symm.trans hc'
      | running hc' hr' =>
        cases hc.symm.trans hc'
        cases hr.symm.trans hr'

/-- A failure changes nothing; an outcome is a failure if and only if one stands behind it. -/
theorem isError_iff_raises (h : execute limits line s now = .ok o) :
    (o.reply.isError = true ↔ ∃ why, Raises limits line s now why) ∧
      (o.reply.isError = true → o.replacement = none) ∧
      Reply.isErrorText o.reply.render = o.reply.isError := by
  rcases raises_or_answer h with ⟨why, hraises, rfl⟩ | ⟨hanswer, hnone⟩
  · have hmarker := Reply.isErrorText_render_error why.kind why.message
    exact ⟨⟨fun _ => ⟨why, hraises⟩, fun _ => rfl⟩, fun _ => rfl, hmarker⟩
  · have hno : o.reply.isError = false := Reply.isError_of_isAnswer hanswer
    rw [hno]
    refine ⟨⟨?_, ?_⟩, ?_, Reply.isErrorText_render_of_isAnswer hanswer⟩
    · intro e
      cases e
    · rintro ⟨why, hraises⟩
      exact absurd hraises (hnone why)
    · intro e
      cases e

/-- A submitted line is recorded with the reply that is shown, and with the status of it. -/
theorem Session.submit_eq_ok {w : Session} {sweepAt : Int}
    (h : execute w.limits line (w.tick sweepAt).1.store now = .ok o) :
    w.submit line sweepAt now = .ok ((w.tick sweepAt).1.record line o) := by
  rw [← limits_tick w sweepAt] at h
  simp only [submit, h, Except.map]

theorem Status.ofText_eq_error_iff {output : String} :
    Status.ofText output = .error ↔ Reply.isErrorText output = true := by
  unfold ofText
  split
  · next h => simp [h]
  · next h => simp [h]

/-- The marker, the type of the reply, its kind of failure and the recorded status agree on whether
the line failed, and a failure leaves the store as it is. -/
theorem error_marker_exact (h : execute limits line s now = .ok o) :
    (Reply.isErrorText o.reply.render = true ↔ o.reply.isError = true) ∧
      (o.reply.isError = true ↔ o.reply.errorKind?.isSome = true) ∧
      (o.reply.isError = true ↔ ∃ why, Raises limits line s now why) ∧
      (o.reply.isError = true → o.replacement = none) ∧
      ∀ (w : Session) (sweepAt : Int), w.limits = limits → (w.tick sweepAt).1.store = s →
        ∃ w' r, w.submit line sweepAt now = .ok (w', r) ∧ w'.history = w.history ++ [r] ∧
          r.command = line ∧ r.output = o.reply.render ∧
          (r.status = .error ↔ ∃ why, Raises limits line s now why) := by
  obtain ⟨hraises, hatomic, hmarker⟩ := isError_iff_raises h
  refine ⟨by rw [hmarker], by rw [Reply.isSome_errorKind?], hraises, hatomic, ?_⟩
  rintro w sweepAt rfl rfl
  refine ⟨_, _, Session.submit_eq_ok h, ?_, rfl, rfl, ?_⟩
  · show (w.tick sweepAt).1.history ++ _ = _
    rw [Session.history_tick]
  · rw [← hraises, ← hmarker]
    exact Status.ofText_eq_error_iff

end Command

/-- A session that holds a text which looks like a failure. -/
def misleadingSession : Session where
  sweeper := { interval := 100 }
  store := ⟨[("k", ⟨.string "(error) not at all", none⟩)], by decide⟩

theorem error_marker_exact_misleading :
    Reply.isErrorText (Reply.bulk "(error) not at all").render = false ∧
      ∃ w r, misleadingSession.submit "GET k" 0 0 = .ok (w, r) ∧
        r.output = (Reply.bulk "(error) not at all").render ∧ r.status ≠ .error := by
  have h : execute {} "GET k" misleadingSession.store 0 =
      .ok (.unchanged (.bulk "(error) not at all")) := rfl
  obtain ⟨hmarker, -, hraises, -, hsession⟩ := error_marker_exact h
  have hno : ¬ ∃ why, Raises {} "GET k" misleadingSession.store 0 why :=
    fun hwhy => Bool.noConfusion (hraises.2 hwhy)
  obtain ⟨w, r, hsubmit, -, -, houtput, hstatus⟩ := hsession misleadingSession 0 rfl rfl
  refine ⟨?_, w, r, hsubmit, houtput, fun e => hno (hstatus.1 e)⟩
  exact Bool.eq_false_iff.2 fun e => Bool.noConfusion (hmarker.1 e)

end Keyspace
