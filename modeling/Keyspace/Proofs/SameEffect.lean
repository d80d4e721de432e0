import Keyspace.Proofs.Alike
import Keyspace.Proofs.NamedKeys

namespace Keyspace

open Store

variable {now : Int} {s₁ s₂ : Store}

/-- The same reply, and stores that are alike afterwards. -/
structure SameEffect (now : Int) (s₁ s₂ : Store) (o₁ o₂ : Outcome) : Prop where
  reply : o₁.reply = o₂.reply
  alike : Alike now (o₁.after s₁) (o₂.after s₂)

namespace SameEffect

theorem unchanged (h : Alike now s₁ s₂) (r : Reply) :
    SameEffect now s₁ s₂ (.unchanged r) (.unchanged r) :=
  ⟨rfl, h⟩

/-- Stores that are alike stay so where the same is done to both. -/
theorem of_sameUpdate {named : List String} {o₁ o₂ : Outcome} (h : Alike now s₁ s₂)
    (hu : SameUpdate named s₁ s₂ o₁ o₂) : SameEffect now s₁ s₂ o₁ o₂ := by
  refine ⟨hu.reply_eq, ?_⟩
  cases hu with
  | unchanged r => exact h
  | @write k hk r e => exact h.insert k e
  | @takeOut ks hks r => exact h.eraseAll ks

end SameEffect

/-- Both fail for the same reason, or both have an outcome with the same effect. -/
inductive SameResult (now : Int) (s₁ s₂ : Store) :
    Except Failure Outcome → Except Failure Outcome → Prop where
  | ok {o₁ o₂ : Outcome} : SameEffect now s₁ s₂ o₁ o₂ → SameResult now s₁ s₂ (.ok o₁) (.ok o₂)
  | error (why : Failure) : SameResult now s₁ s₂ (.error why) (.error why)

theorem SameResult.of_sameRun {named : List String} {r₁ r₂ : Except Failure Outcome}
    (h : Alike now s₁ s₂) (hr : SameRun named s₁ s₂ r₁ r₂) : SameResult now s₁ s₂ r₁ r₂ := by
  cases hr with
  | ok hu => exact .ok (.of_sameUpdate h hu)
  | error why => exact .error why

/-- Emptying looks at what is held, expired or not; nothing is live afterwards either way. -/
theorem sameEffect_flush (now : Int) (s₁ s₂ : Store) :
    SameEffect now s₁ s₂ s₁.flush s₂.flush := by
  have hempty (s : Store) : s.flush.reply = .ok ∧ Alike now (s.flush.after s) Table.empty := by
    unfold flush
    split
    · next he =>
      have hs : s = Table.empty := Table.ext_entries (List.isEmpty_iff.1 he)
      exact ⟨rfl, hs ▸ Alike.refl now s⟩
    · exact ⟨rfl, Alike.refl now Table.empty⟩
  exact ⟨(hempty s₁).1.trans (hempty s₂).1.symm, (hempty s₁).2.trans (hempty s₂).2.symm⟩

theorem sameEffect_info (h : Alike now s₁ s₂) (topic : Option String) :
    SameEffect now s₁ s₂ (Store.info s₁ topic now) (Store.info s₂ topic now) := by
  unfold Store.info
  rw [reportsOn_congr h.keyspaceReport_eq]
  exact .unchanged h _

theorem perm_matchingKeys (h : Alike now s₁ s₂) (pattern : String) :
    ∃ xs ys, s₁.matchingKeys pattern now = .unchanged (.array xs) ∧
      s₂.matchingKeys pattern now = .unchanged (.array ys) ∧ xs.Perm ys :=
  ⟨_, _, rfl, rfl, h.perm_liveKeys.filter _⟩

theorem sameResult_run (h : Alike now s₁ s₂) {c : Command} (hc : ∀ p, c ≠ .keys p) :
    SameResult now s₁ s₂ (c.run s₁ now) (c.run s₂ now) := by
  by_cases hgeneral : c.verb ∈ Verb.general
  · cases c with
    | keys pattern => exact absurd rfl (hc pattern)
    | info topic => exact .ok (sameEffect_info h topic)
    | flushall => exact .ok (sameEffect_flush now s₁ s₂)
    | _ => simp [Command.verb, Verb.general] at hgeneral
  · exact .of_sameRun h (sameRun_run hgeneral fun k _ => h k)

theorem sameEffect_outcome (h : Alike now s₁ s₂) {c : Command} (hc : ∀ p, c ≠ .keys p) :
    SameEffect now s₁ s₂ (c.outcome s₁ now) (c.outcome s₂ now) := by
  have hr := sameResult_run h hc
  unfold Command.outcome
  generalize c.run s₁ now = r₁ at hr ⊢
  generalize c.run s₂ now = r₂ at hr ⊢
  cases hr with
  | ok ho => exact ho
  | error why => exact .unchanged h _

end Keyspace
