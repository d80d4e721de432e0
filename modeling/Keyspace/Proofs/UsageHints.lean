import Keyspace.Console
import Keyspace.Proofs.CaseTables
import Keyspace.Proofs.ErrorMarker
import Keyspace.Proofs.WrongKind

namespace Keyspace

open Text

theorem Verb.ofName?_upper (name : String) : ofName? (upper name) = ofName? name := by
  rw [ofName?, ofName?, upper_upper]

namespace Request

variable {limits : Limits} {line : String} {v : Verb}

theorem name_ofLine (line : String) : (ofLine line).name = upper ((words line).headD "") := by
  rw [ofLine, words_trim]
  cases words line with
  | nil => rfl
  | cons word ws => rfl

theorem verb_of_words (line : String) :
    (ofLine line).verb = (words line).head?.bind Verb.ofName? := by
  rw [ofLine, words_trim]
  cases words line with
  | nil => rfl
  | cons word ws =>
    simp only [ofWords, List.head?_cons, Option.bind_some, Verb.ofName?_upper]

theorem spelling_of_verb (h : (ofLine line).verb = some v) : v.spelling = (ofLine line).name := by
  rw [verb_ofLine, name_ofLine, Verb.ofName?_upper] at h
  rw [Verb.spelling_of_ofName? h, name_ofLine]

theorem solid_name (line : String) : Solid (ofLine line).name := by
  rw [name_ofLine]
  apply solid_upper
  cases h : words line with
  | nil => exact fun c hc => by cases hc
  | cons word ws => exact solid_of_mem_words (h ▸ List.mem_cons_self)

theorem words_of_verb (h : (ofLine line).verb = some v) :
    ∃ word ws, words line = word :: ws ∧ upper word = v.spelling := by
  rw [spelling_of_verb h, name_ofLine]
  rw [verb_of_words] at h
  cases hw : words line with
  | nil =>
    rw [hw] at h
    cases h
  | cons word ws => exact ⟨word, ws, rfl, rfl⟩

end Request

theorem usageHint?_eq (line : String) :
    usageHint? line = (Request.ofLine line).verb.map Verb.usage := by
  rw [usageHint?, Request.verb_of_words]
  cases (words line).head? with
  | none => rfl
  | some word => rfl

/-- The number of arguments is wrong for the verb: there are more or fewer than it takes or, where
`HSET` passes all other checks, a field is without a value. -/
inductive Request.Miscounted (limits : Limits) (r : Request) : Verb → Prop where
  | number {v : Verb} :
      r.verb = some v → v.arity.admits r.arguments.length = false → Miscounted limits r v
  | unpaired :
      r.Passes limits .hset → r.arguments.tail.length % 2 = 1 → Miscounted limits r .hset

section Failures

variable {limits : Limits} {line name : String} {v : Verb} {s : Store} {now : Int}

theorem Request.Miscounted.verb_eq (h : (Request.ofLine line).Miscounted limits v) :
    (Request.ofLine line).verb = some v := by
  cases h with
  | number hverb _ => exact hverb
  | unpaired hpasses _ => exact hpasses.verb_eq

theorem ofLine_wrongArity_iff :
    Command.ofLine limits line = .error (.failed (.wrongArity name)) ↔
      ∃ v, (Request.ofLine line).Miscounted limits v ∧ v.spelling = name := by
  constructor
  · intro h
    rcases (Command.unread_of_ofLine h).wrongArity_cases with
      ⟨v, hverb, harity, hname⟩ | ⟨hpasses, hodd, hname⟩
    · exact ⟨v, .number hverb harity, (Request.spelling_of_verb hverb).trans hname⟩
    · exact ⟨.hset, .unpaired hpasses hodd, hname⟩
  · rintro ⟨v, hmiscounted, rfl⟩
    cases hmiscounted with
    | number hverb harity =>
      rw [Request.spelling_of_verb hverb]
      exact Command.ofLine_of_number hverb harity
    | unpaired hpasses hodd => exact Command.ofLine_of_unpaired hpasses hodd

/-- A failure for the number of arguments, over whatever store. -/
theorem raises_wrongArity_iff :
    Raises limits line s now (.wrongArity name) ↔
      ∃ v, (Request.ofLine line).Miscounted limits v ∧ v.spelling = name := by
  rw [← ofLine_wrongArity_iff]
  constructor
  · intro h
    cases h with
    | reading hfailed => exact hfailed
    | running _ hrun => cases (Command.run_eq_error_iff.1 hrun).1
  · exact .reading

/-- The name that is echoed for an unknown command has no blanks. -/
theorem solid_of_raises (h : Raises limits line s now (.unknownCommand name)) : Solid name := by
  cases h with
  | reading hfailed =>
    rw [← (Command.unread_of_ofLine hfailed).name_eq]
    exact Request.solid_name line
  | running _ hrun => cases (Command.run_eq_error_iff.1 hrun).1

end Failures

namespace Console

theorem occursIn_iff {piece cs : List Char} : occursIn piece cs = true ↔ piece <:+: cs := by
  induction cs with
  | nil => rw [occursIn, List.isEmpty_iff, List.infix_nil]
  | cons c cs ih =>
    rw [occursIn, Bool.or_eq_true, List.isPrefixOf_iff_prefix, ih, List.infix_cons_iff]

/-- A piece with a blank in it does not reach past that blank into a text without blanks. -/
theorem infix_front_of_blank {b : Char} {front back before behind : List Char}
    (hb : isBlank b = true) (hback : ∀ c ∈ back, isBlank c = false)
    (h : before ++ b :: behind <:+: front ++ back) : before ++ [b] <:+: front := by
  obtain ⟨lead, trail, heq⟩ := h
  have hsplit : (lead ++ (before ++ [b])) ++ (behind ++ trail) = front ++ back := by
    rw [← heq]
    simp
  rcases List.append_eq_append_iff.1 hsplit with ⟨rest, hfront, -⟩ | ⟨rest, hlead, hrest⟩
  · exact ⟨lead, rest, hfront.symm⟩
  · -- the blank would be the last of what reaches into the text without blanks
    rcases List.eq_nil_or_concat rest with rfl | ⟨rest, c, rfl⟩
    · exact ⟨lead, [], by simpa using hlead⟩
    · rw [List.concat_eq_append, ← List.append_assoc, ← List.append_assoc] at hlead
      have hlast : [b] = [c] := (List.append_inj' hlead rfl).2
      cases hlast
      have hsolid := hback b (by simp [hrest])
      rw [hb] at hsolid
      cases hsolid

theorem complainsOfArity_wrongArity (name : String) :
    complainsOfArity (Failure.wrongArity name).reply.render = true := by
  have hrender : (Failure.wrongArity name).reply.render =
      "(error)" ++ " " ++ ("ERR wrong number of arguments for '" ++ lower name ++ "' command") :=
    rfl
  rw [complainsOfArity, occursIn_iff, hrender]
  generalize lower name = word
  exact ⟨"(error) ERR ".toList, (" for '" ++ word ++ "' command").toList, by simp⟩

theorem complainsOfArity_unknownCommand {name : String} (h : Solid name) :
    complainsOfArity (Failure.unknownCommand name).reply.render = false := by
  have hphrase : "wrong number of arguments".toList =
      "wrong number of".toList ++ ' ' :: "arguments".toList := rfl
  have hrender : (Failure.unknownCommand name).reply.render =
      "(error)" ++ " " ++ ("ERR unknown command '" ++ lower name ++ "'") := rfl
  have hsolid : Solid (lower name) := solid_lower h
  rw [Bool.eq_false_iff, complainsOfArity, ne_eq, occursIn_iff, hrender, hphrase]
  -- the closing quote follows the name at once, so that all behind the last blank is solid
  generalize lower name = word at hsolid
  have htext : ("(error)" ++ " " ++ ("ERR unknown command '" ++ word ++ "'")).toList =
      "(error) ERR unknown command '".toList ++ (word.toList ++ ['\'']) := by simp
  have hback : ∀ c ∈ word.toList ++ ['\''], isBlank c = false := by
    intro c hc
    rcases List.mem_append.1 hc with hc | hc
    · exact hsolid c hc
    · rw [List.mem_singleton.1 hc]
      decide
  rw [htext]
  intro hinfix
  have hfront := infix_front_of_blank (by decide) hback hinfix
  rw [← occursIn_iff] at hfront
  exact absurd hfront (by decide)

/-- The phrase is in the reply to a failure for the number of arguments, and in no other. -/
theorem complainsOfArity_iff {why : Failure} (h : ∀ name, why = .unknownCommand name → Solid name) :
    complainsOfArity why.reply.render = true ↔ ∃ name, why = .wrongArity name := by
  cases why with
  | wrongArity name => exact iff_of_true (complainsOfArity_wrongArity name) ⟨name, rfl⟩
  | unknownCommand name =>
    rw [complainsOfArity_unknownCommand (h name rfl)]
    exact iff_of_false nofun nofun
  | emptyLine | argumentTooLong | malformed | wrongKind | notInteger | invalidLifetime =>
    exact iff_of_false (by decide +kernel) nofun

/-- What is shown on the usage of a verb; some take no arguments. -/
def usageText (v : Verb) : String :=
  if v.usage = "" then "Usage: " ++ v.spelling else "Usage: " ++ v.spelling ++ " " ++ v.usage

theorem trimEnd_usage (v : Verb) :
    String.ofList (trimEnd ("Usage: " ++ v.spelling ++ " " ++ v.usage).toList) = usageText v := by
  cases v <;> decide +kernel

section Lines

variable {limits : Limits} {line : String} {v : Verb} {s : Store} {now : Int} {o : Outcome}

theorem usageLine_of_verb {r : Record} (hverb : (Request.ofLine r.command).verb = some v)
    (hstatus : r.status = .error) (hphrase : complainsOfArity r.output = true) :
    usageLine r = usageText v ++ "\n" := by
  obtain ⟨word, ws, hwords, hword⟩ := Request.words_of_verb hverb
  rw [usageLine, if_pos ⟨hstatus, hphrase⟩, usageHint?_eq, hverb, Option.map_some]
  simp only [hwords, List.headD_cons, hword, trimEnd_usage]

/-- A line fails for the number of its arguments, and the usage of its verb is shown; or it does
not, and nothing is. -/
theorem usageLine_cases (h : execute limits line s now = .ok o) :
    (∃ v, (Request.ofLine line).Miscounted limits v ∧ o = .ofFailure (.wrongArity v.spelling) ∧
      usageLine ⟨line, o.reply.render, Status.ofText o.reply.render⟩ = usageText v ++ "\n") ∨
    (∀ v, ¬ (Request.ofLine line).Miscounted limits v) ∧
      (∀ name, o.reply ≠ (Failure.wrongArity name).reply) ∧
      usageLine ⟨line, o.reply.render, Status.ofText o.reply.render⟩ = "" := by
  rcases raises_or_answer h with ⟨why, hraises, rfl⟩ | ⟨hanswer, hnone⟩
  · -- among failures the phrase tells the arity, since an echoed name has no blanks
    have hphrase : complainsOfArity why.reply.render = true ↔ ∃ name, why = .wrongArity name :=
      complainsOfArity_iff fun name hname => solid_of_raises (hname ▸ hraises)
    by_cases hwhy : ∃ name, why = .wrongArity name
    · have hstatus : Status.ofText why.reply.render = .error :=
        Status.ofText_eq_error_iff.2 (Reply.isErrorText_render_error _ _)
      have hshown := hphrase.2 hwhy
      have husage : ∀ v, (Request.ofLine line).verb = some v →
          usageLine ⟨line, why.reply.render, Status.ofText why.reply.render⟩ =
            usageText v ++ "\n" := fun v hverb => usageLine_of_verb hverb hstatus hshown
      obtain ⟨name, rfl⟩ := hwhy
      obtain ⟨v, hv, rfl⟩ := raises_wrongArity_iff.1 hraises
      exact Or.inl ⟨v, hv, rfl, husage v hv.verb_eq⟩
    · refine Or.inr ⟨?_, ?_, ?_⟩
      · intro v hv
        have hline : Command.ofLine limits line = .error (.failed (.wrongArity v.spelling)) :=
          ofLine_wrongArity_iff.2 ⟨v, hv, rfl⟩
        cases hraises with
        | reading hfailed =>
          cases hline.symm.trans hfailed
          exact hwhy ⟨_, rfl⟩
        | running hc _ => cases hline.symm.trans hc
      · intro name hreply
        have hsame : why.reply = (Failure.wrongArity name).reply := hreply
        apply hwhy
        rw [← hphrase, hsame]
        exact complainsOfArity_wrongArity name
      · rw [usageLine, if_neg]
        exact fun hshown => hwhy (hphrase.1 hshown.2)
  · refine Or.inr ⟨?_, ?_, ?_⟩
    · exact fun v hv => hnone _ (raises_wrongArity_iff.2 ⟨v, hv, rfl⟩)
    · intro name hreply
      rw [hreply] at hanswer
      exact hanswer
    · -- an answer may well hold the phrase, but it has no marker
      rw [usageLine, if_neg]
      intro hshown
      have hmarker := Status.ofText_eq_error_iff.1 hshown.1
      rw [Reply.isErrorText_render_of_isAnswer hanswer] at hmarker
      cases hmarker

/-- Every line has an outcome where arguments are kept as short as numerals. -/
theorem exists_outcome (hlimit : limits.value ≤ Numeral.digitLimit) (line : String) (s : Store)
    (now : Int) : ∃ o, execute limits line s now = .ok o := by
  cases h : execute limits line s now with
  | ok o => exact ⟨o, rfl⟩
  | error e =>
    obtain ⟨v, hv, hends⟩ := Command.ofLine_eq_tooLong_iff.1 (execute_eq_error_iff.1 h)
    exact absurd hends (not_endsAt_of_passes hlimit hv)

theorem respond_command {w : Session} {sweepAt : Int}
    (h : execute w.limits line (w.tick sweepAt).1.store now = .ok o) :
    respond w (.command line) sweepAt now =
      .ok (((w.tick sweepAt).1.record line o).1, o.reply.render ++ "\n" ++
        usageLine ⟨line, o.reply.render, Status.ofText o.reply.render⟩) := by
  rw [respond, Session.submit_eq_ok h]
  rfl

/-- A line that does not end the console is shown what it comes to, and the session goes on. -/
theorem dialogue_respond {w w' : Session} {typed shown : String} {sweepAt : Int}
    (htyped : Entered.ofLine typed ≠ .leave)
    (h : respond w (Entered.ofLine typed) sweepAt now = .ok (w', shown)) (ending : Ending)
    (turns : List Turn) :
    dialogue ending w (⟨typed, sweepAt, now⟩ :: turns) =
      (dialogue ending w' turns).map (Release.prompt ++ shown ++ ·) := by
  rw [dialogue]
  split
  · next hleave => exact absurd hleave htyped
  · rw [h]

theorem dialogue_command {w w' : Session} {typed shown : String} {sweepAt : Int}
    (htyped : Entered.ofLine typed = .command line)
    (h : respond w (.command line) sweepAt now = .ok (w', shown)) (ending : Ending)
    (turns : List Turn) :
    dialogue ending w (⟨typed, sweepAt, now⟩ :: turns) =
      (dialogue ending w' turns).map (Release.prompt ++ shown ++ ·) := by
  apply dialogue_respond
  · rw [htyped]
    nofun
  · rw [htyped, h]

end Lines

/-- The console shows a line on the usage if and only if the arguments were wrong in number for the
verb, and then it is the usage of that verb. -/
theorem usage_hints_exact :
    (∀ line, (usageHint? line).isSome = true ↔ (Request.ofLine line).verb.isSome = true) ∧
    ∀ (w : Session) (typed line : String) (sweepAt now : Int),
      w.limits = {} → Entered.ofLine typed = .command line →
      ∃ (o : Outcome) (w' : Session) (usage : String),
        execute {} line (w.tick sweepAt).1.store now = .ok o ∧
        respond w (.command line) sweepAt now = .ok (w', o.reply.render ++ "\n" ++ usage) ∧
        (∀ ending turns, dialogue ending w (⟨typed, sweepAt, now⟩ :: turns) =
          (dialogue ending w' turns).map
            (Release.prompt ++ (o.reply.render ++ "\n" ++ usage) ++ ·)) ∧
        (usage ≠ "" ↔ ∃ v, (Request.ofLine line).Miscounted {} v) ∧
        (usage ≠ "" ↔ ∃ name, o.reply = (Failure.wrongArity name).reply) ∧
        ∀ v, (Request.ofLine line).Miscounted {} v →
          usage = usageText v ++ "\n" ∧ o = .ofFailure (.wrongArity v.spelling) ∧
          (Request.ofLine line).verb = some v ∧ usageHint? line = some v.usage ∧
          ∃ word ws, words line = word :: ws ∧ upper word = v.spelling := by
  constructor
  · intro line
    rw [usageHint?_eq, Option.isSome_map]
  · intro w typed line sweepAt now hlimits htyped
    have hlimit : ({} : Limits).value ≤ Numeral.digitLimit := by decide
    obtain ⟨o, ho⟩ := exists_outcome hlimit line (w.tick sweepAt).1.store now
    have hrespond := respond_command (hlimits ▸ ho)
    refine ⟨o, _, _, ho, hrespond, dialogue_command htyped hrespond, ?_⟩
    rcases usageLine_cases ho with ⟨v, hv, rfl, husage⟩ | ⟨hnone, hreply, husage⟩
    · have hshown : usageText v ++ "\n" ≠ "" := by
        intro hempty
        have hlength := congrArg String.length hempty
        simp at hlength
      rw [husage]
      refine ⟨iff_of_true hshown ⟨v, hv⟩, iff_of_true hshown ⟨_, rfl⟩, ?_⟩
      intro v' hv'
      cases hv.verb_eq.symm.trans hv'.verb_eq
      refine ⟨rfl, rfl, hv.verb_eq, ?_, Request.words_of_verb hv.verb_eq⟩
      rw [usageHint?_eq, hv.verb_eq, Option.map_some]
    · rw [husage]
      refine ⟨iff_of_false (fun h => h rfl) ?_, iff_of_false (fun h => h rfl) ?_, ?_⟩
      · rintro ⟨v, hv⟩
        exact hnone v hv
      · rintro ⟨name, hname⟩
        exact hreply name hname
      · exact fun v hv => absurd hv (hnone v)

/-- A session that holds the phrase as a text. -/
def phraseSession : Session where
  sweeper := { interval := 100 }
  store := ⟨[("k", ⟨.string "wrong number of arguments", none⟩)], by decide⟩

/-- A field without a value is shown the usage of `HSET`; a text that is the phrase is not. -/
theorem usage_hints_exact_unpaired :
    (∃ w, respond phraseSession (.command "hset h f 1 g") 0 0 =
      .ok (w, "(error) ERR wrong number of arguments for 'hset' command\n" ++
        "Usage: HSET key field value [field value ...]\n")) ∧
    ∃ w, respond phraseSession (.command "GET k") 0 0 =
      .ok (w, "\"wrong number of arguments\"\n") := by
  have hmiscounted : (Request.ofLine "hset h f 1 g").Miscounted {} .hset :=
    .unpaired ⟨by decide, by decide, by decide⟩ (by decide)
  have hget : execute {} "GET k" (phraseSession.tick 0).1.store 0 =
      .ok (.unchanged (.bulk "wrong number of arguments")) := rfl
  constructor
  · obtain ⟨o, w, usage, -, hrespond, -, -, -, husage⟩ :=
      usage_hints_exact.2 phraseSession " hset h f 1 g" "hset h f 1 g" 0 0 rfl (by decide)
    obtain ⟨rfl, rfl, -⟩ := husage .hset hmiscounted
    exact ⟨w, hrespond⟩
  · obtain ⟨o, w, usage, hexecute, hrespond, -, -, hreply, -⟩ :=
      usage_hints_exact.2 phraseSession "GET k" "GET k" 0 0 rfl (by decide)
    cases hget.symm.trans hexecute
    have hnone : usage = "" := by
      by_contra hshown
      obtain ⟨name, hname⟩ := hreply.1 hshown
      cases hname
    rw [hnone] at hrespond
    exact ⟨w, hrespond⟩

end Console

end Keyspace
