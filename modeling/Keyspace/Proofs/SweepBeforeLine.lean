import Keyspace.Proofs.KeysOrder
import Keyspace.Proofs.ReplyText
import Keyspace.Proofs.Staleness

namespace Keyspace

open Store

section Order

variable {s₁ s₂ : Store} {now : Int}

/-- Stores with the same live entries in the same order give a command the same reply. -/
theorem SameOrder.reply_outcome (h : SameOrder now s₁ s₂) (c : Command) :
    (c.outcome s₁ now).reply = (c.outcome s₂ now).reply := by
  by_cases hkeys : ∃ p, c = .keys p
  · obtain ⟨p, rfl⟩ := hkeys
    show (matchingKeys s₁ p now).reply = (matchingKeys s₂ p now).reply
    rw [matchingKeys, matchingKeys, h.keys]
  · exact (sameEffect_outcome h.alike fun p hp => hkeys ⟨p, hp⟩).reply

end Order

/-- What is shown for a line that is executed on a store. -/
def Store.answer (s : Store) (limits : Limits) (line : String) (now : Int) :
    Except NumeralTooLong String :=
  (execute limits line s now).map fun o => o.reply.render

theorem SameOrder.answer_eq {s₁ s₂ : Store} {now : Int} (h : SameOrder now s₁ s₂)
    (limits : Limits) (line : String) : s₁.answer limits line now = s₂.answer limits line now := by
  unfold Store.answer execute
  cases Command.ofLine limits line with
  | error refusal =>
    cases refusal with
    | failed why => rfl
    | numeralTooLong digits => rfl
  | ok c =>
    show Except.ok (c.outcome s₁ now).reply.render = Except.ok (c.outcome s₂ now).reply.render
    rw [h.reply_outcome c]

section Report

variable {c c' : Census}

theorem toList_liveReport (hc : c.active ≠ 0) :
    (String.intercalate "\n" (keyspaceReport c)).toList =
      "# Keyspace\ndb0:keys=".toList ++ (Nat.toDigits 10 c.active ++
        ',' :: ("expires=".toList ++ Nat.toDigits 10 c.volatile)) := by
  rw [keyspaceReport, if_neg hc, String.toList_intercalate]
  simp [List.intercalate]

theorem liveReport_ne_empty (hc : c.active = 0) (hc' : c'.active ≠ 0) :
    String.intercalate "\n" (keyspaceReport c) ≠ String.intercalate "\n" (keyspaceReport c') := by
  intro h
  have hlist := congrArg String.toList h
  rw [toList_liveReport hc', keyspaceReport, if_pos hc] at hlist
  have hlength := congrArg List.length hlist
  have hshort : (String.intercalate "\n" ["# Keyspace"]).toList.length = 10 := rfl
  have hlong : "# Keyspace\ndb0:keys=".toList.length = 20 := rfl
  rw [List.length_append] at hlength
  omega

/-- The report on the keys tells how many are live. -/
theorem active_eq_of_report
    (h : String.intercalate "\n" (keyspaceReport c) = String.intercalate "\n" (keyspaceReport c')) :
    c.active = c'.active := by
  by_cases hc : c.active = 0
  · by_cases hc' : c'.active = 0
    · rw [hc, hc']
    · exact absurd h (liveReport_ne_empty hc hc')
  · by_cases hc' : c'.active = 0
    · exact absurd h.symm (liveReport_ne_empty hc' hc)
    · have hlist := congrArg String.toList h
      rw [toList_liveReport hc, toList_liveReport hc'] at hlist
      have hcomma (n : Nat) : ',' ∉ Nat.toDigits 10 n := Reply.not_mem_toDigits rfl n
      have hrest : ',' ∉ "expires=".toList ++ Nat.toDigits 10 c.volatile := by
        rw [List.mem_append, not_or]
        exact ⟨by decide, hcomma c.volatile⟩
      obtain ⟨hdigits, -, -⟩ := (List.append_cons_inj_of_notMem (hcomma c.active) hrest).1
        (List.append_cancel_left hlist)
      rw [← Nat.toList_repr, ← Nat.toList_repr] at hdigits
      exact Nat.repr_inj.1 (String.toList_injective hdigits)

end Report

namespace Session

variable {s : Session} {line : String} {sweepAt now : Int}

def shown (s : Session) (line : String) (sweepAt now : Int) : Except NumeralTooLong String :=
  (s.submit line sweepAt now).map fun p => p.2.output

theorem shown_eq (s : Session) (line : String) (sweepAt now : Int) :
    s.shown line sweepAt now = (s.tick sweepAt).1.store.answer s.limits line now := by
  simp only [shown, submit, Store.answer, limits_tick]
  cases execute s.limits line (s.tick sweepAt).1.store now with
  | error e => rfl
  | ok o => rfl

/-- The sweep at the first reading is due, and takes out what is live at the second. -/
def TakesLive (s : Session) (sweepAt now : Int) : Prop :=
  s.sweeper.isDue sweepAt = true ∧
    ∃ k e, lookup s.store k now = some e ∧ e.isExpired sweepAt = true

theorem not_takesLive_of_le (hle : sweepAt ≤ now) : ¬ s.TakesLive sweepAt now := by
  rintro ⟨-, k, e, he, hexpired⟩
  have hlive : e.isExpired now = false := (lookup_eq_some_iff.1 he).2
  rw [Entry.isExpired_mono hexpired hle] at hlive
  cases hlive

theorem sameOrder_tick (h : ¬ s.TakesLive sweepAt now) :
    SameOrder now (s.tick sweepAt).1.store s.store := by
  cases hdue : s.sweeper.isDue sweepAt with
  | false =>
    rw [tick_of_not_due hdue]
    exact .refl now s.store
  | true =>
    rw [(tick_of_due hdue).1]
    apply SameOrder.swept_of_live
    intro k e he
    by_contra hlive
    have hexpired : e.isExpired sweepAt = true := by simpa [isLive] using hlive
    exact h ⟨hdue, k, e, he, hexpired⟩

theorem exists_lost (h : s.TakesLive sweepAt now) :
    ∃ k e, lookup s.store k now = some e ∧ lookup (s.tick sweepAt).1.store k now = none := by
  obtain ⟨hdue, k, e, he, hexpired⟩ := h
  refine ⟨k, e, he, ?_⟩
  have hnone : lookup s.store k sweepAt = none := by
    rw [lookup, (lookup_eq_some_iff.1 he).1]
    simp [isLive, hexpired]
  rw [(tick_of_due hdue).1, lookup, get?_swept, hnone]
  rfl

theorem answer_info (limits : Limits) (t : Store) (now : Int) :
    t.answer limits "INFO" now = .ok (String.intercalate "\n\n"
      [String.intercalate "\n" serverReport,
        String.intercalate "\n" (keyspaceReport (census t now))]) := rfl

/-- A line that asks for the reports shows that a live entry is lost. -/
theorem not_takesLive_of_info
    (h : s.shown "INFO" sweepAt now = s.store.answer s.limits "INFO" now) :
    ¬ s.TakesLive sweepAt now := by
  intro htakes
  obtain ⟨k, e, he, hlost⟩ := exists_lost htakes
  rw [shown_eq, answer_info, answer_info, Except.ok.injEq] at h
  have hactive : (census (s.tick sweepAt).1.store now).active = (census s.store now).active :=
    active_eq_of_report ((String.append_right_inj _).1 h)
  have hlength : (liveKeys (s.tick sweepAt).1.store now).length = (liveKeys s.store now).length := by
    rw [census_active, census_active] at hactive
    rw [liveKeys_eq_map, liveKeys_eq_map, List.length_map, List.length_map, hactive]
  -- as many keys are live as before, so they are the same keys
  have hsame : liveKeys (s.tick sweepAt).1.store now = liveKeys s.store now := by
    rw [(tick_of_due htakes.1).1] at hlength ⊢
    exact (liveKeys_swept_sublist s.store sweepAt now).eq_of_length hlength
  have hmem : k ∈ liveKeys (s.tick sweepAt).1.store now := hsame ▸ mem_liveKeys.2 ⟨e, he⟩
  obtain ⟨e', he'⟩ := mem_liveKeys.1 hmem
  cases hlost.symm.trans he'

/-- The sweep in front of a line changes no answer if and only if it takes out nothing that is live
at the instant of the line, as when the clock does not step back between its two readings. -/
theorem sweep_changes_no_answer_iff (s : Session) (sweepAt now : Int) :
    ((∀ line, s.shown line sweepAt now = s.store.answer s.limits line now) ↔
      ¬ s.TakesLive sweepAt now) ∧
    ((∀ k, lookup (s.tick sweepAt).1.store k now = lookup s.store k now) ↔
      ¬ s.TakesLive sweepAt now) ∧
    (sweepAt ≤ now ∨ s.sweeper.isDue sweepAt = false → ¬ s.TakesLive sweepAt now) := by
  refine ⟨⟨?_, ?_⟩, ⟨?_, ?_⟩, ?_⟩
  · intro h
    exact not_takesLive_of_info (h "INFO")
  · intro h line
    rw [shown_eq]
    exact (sameOrder_tick h).answer_eq s.limits line
  · intro h htakes
    obtain ⟨k, e, he, hlost⟩ := exists_lost htakes
    rw [h k, he] at hlost
    cases hlost
  · intro h
    exact (sameOrder_tick h).alike
  · rintro (hle | hdue) htakes
    · exact not_takesLive_of_le hle htakes
    · cases hdue.symm.trans htakes.1

/-- A key that expires at 1050, in a session that sweeps in front of every line. -/
def expiringSession : Session where
  sweeper := { interval := 0, lastRun := some 1000, totalSweeps := 1 }
  store := ⟨[("k", ⟨.string "v", some 1050⟩)], by decide⟩

/-- The clock runs on across the expiry: the sweep takes out what the line finds expired. -/
theorem sweep_changes_no_answer_running_on :
    expiringSession.shown "GET k" 1050 1060 = .ok "(nil)" ∧
      expiringSession.store.answer {} "GET k" 1060 = .ok "(nil)" := by
  obtain ⟨hanswers, -, hle⟩ := sweep_changes_no_answer_iff expiringSession 1050 1060
  have hanswer : expiringSession.store.answer {} "GET k" 1060 = .ok "(nil)" := rfl
  exact ⟨(hanswers.2 (hle (Or.inl (by decide))) "GET k").trans hanswer, hanswer⟩

/-- The clock steps back from 1060 to 1010: the sweep takes out a key that is live when the line
runs, and the line does not find it. -/
theorem stepping_back_loses_key :
    expiringSession.shown "GET k" 1060 1010 = .ok "(nil)" ∧
      expiringSession.store.answer {} "GET k" 1010 = .ok "\"v\"" :=
  ⟨rfl, rfl⟩

end Session

end Keyspace
