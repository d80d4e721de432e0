import Keyspace.Proofs.NamedKeys

namespace Keyspace

open Store

/-- The keys that a request names: all its arguments for `DEL` and `EXISTS`, the first one for any
other verb. -/
def Request.named (r : Request) : List String :=
  if r.verb = some .del ∨ r.verb = some .existing then r.arguments else r.arguments.head?.toList

/-- The request is for a command on the whole store. -/
def Request.IsGeneral (r : Request) : Prop := ∃ v ∈ Verb.general, r.verb = some v

instance (r : Request) : Decidable r.IsGeneral :=
  inferInstanceAs (Decidable (∃ v ∈ Verb.general, r.verb = some v))

section Line

variable {limits : Limits} {line : String} {s s₁ s₂ : Store} {now : Int} {c : Command}
  {o o₁ : Outcome} {k : String}

theorem verb_not_general (hc : Command.ofLine limits line = .ok c)
    (hg : ¬ (Request.ofLine line).IsGeneral) : c.verb ∉ Verb.general :=
  fun hv => hg ⟨c.verb, hv, Command.verb_of_ofLine hc⟩

theorem named_of_key (hc : Command.ofLine limits line = .ok c) (hk : c.key? = some k) :
    (Request.ofLine line).named = [k] := by
  obtain ⟨hverb, hhead⟩ := Command.names_of_ofLine hc hk
  have hone : ¬ ((Request.ofLine line).verb = some .del ∨
      (Request.ofLine line).verb = some .existing) := by
    rw [hverb, Option.some.injEq, Option.some.injEq]
    cases c <;> simp [Command.verb, Command.key?] at hk ⊢
  rw [Request.named, if_neg hone, hhead, Option.toList_some]

theorem named_eq (hc : Command.ofLine limits line = .ok c)
    (hg : ¬ (Request.ofLine line).IsGeneral) : (Request.ofLine line).named = c.named := by
  obtain ⟨hpasses, hargs⟩ := Command.ofLine_eq_ok hc
  have hverb : (Request.ofLine line).verb = some c.verb := hpasses.verb_eq
  cases c with
  | del ks =>
    exact (if_pos (Or.inl hverb)).trans (Command.arguments_of_several hargs (Or.inl rfl))
  | existing ks =>
    exact (if_pos (Or.inr hverb)).trans (Command.arguments_of_several hargs (Or.inr rfl))
  | keys | info | flushall =>
    have hgeneral := verb_not_general hc hg
    simp [Command.verb, Verb.general] at hgeneral
  | _ => exact named_of_key hc rfl

/-- On stores that agree about the keys that a line names, the line has the same reply and does
the same. -/
theorem sameUpdate_execute (h : execute limits line s₁ now = .ok o₁)
    (hg : ¬ (Request.ofLine line).IsGeneral)
    (hs : ∀ k ∈ (Request.ofLine line).named, s₁.get? k = s₂.get? k) :
    ∃ o₂, execute limits line s₂ now = .ok o₂ ∧
      SameUpdate (Request.ofLine line).named s₁ s₂ o₁ o₂ := by
  rcases outcome_cases h with ⟨why, hwhy, rfl⟩ | ⟨c, hc, rfl⟩
  · refine ⟨.ofFailure why, ?_, .unchanged _⟩
    rw [execute, hwhy]
  · refine ⟨c.outcome s₂ now, execute_of_ofLine hc, ?_⟩
    rw [named_eq hc hg] at hs ⊢
    apply sameUpdate_outcome (verb_not_general hc hg)
    intro k hk
    rw [lookup, lookup, hs k hk]

theorem get?_after_execute (h : execute limits line s now = .ok o)
    (hg : ¬ (Request.ofLine line).IsGeneral) (hk : k ∉ (Request.ofLine line).named) :
    (o.after s).get? k = s.get? k := by
  obtain ⟨o', ho', hu⟩ := sameUpdate_execute h hg fun _ _ => rfl
  cases h.symm.trans ho'
  exact hu.get?_of_not_mem hk

end Line

/-- In either order each line has the reply that it has on its own, and the stores that are left
hold the same entries. -/
theorem different_keys_commute {limits : Limits} {l₁ l₂ : String} {s : Store} {now : Int}
    {o₁ o₂ : Outcome} (h₁ : execute limits l₁ s now = .ok o₁)
    (h₂ : execute limits l₂ s now = .ok o₂) (hg₁ : ¬ (Request.ofLine l₁).IsGeneral)
    (hg₂ : ¬ (Request.ofLine l₂).IsGeneral)
    (hdisjoint : (Request.ofLine l₁).named.Disjoint (Request.ofLine l₂).named) :
    ∃ o₁' o₂', execute limits l₂ (o₁.after s) now = .ok o₂' ∧
      execute limits l₁ (o₂.after s) now = .ok o₁' ∧
      o₁'.reply = o₁.reply ∧ o₂'.reply = o₂.reply ∧
      ∀ k, (o₂'.after (o₁.after s)).get? k = (o₁'.after (o₂.after s)).get? k := by
  have hframe₁ : ∀ k ∉ (Request.ofLine l₁).named, (o₁.after s).get? k = s.get? k :=
    fun _ hk => get?_after_execute h₁ hg₁ hk
  have hframe₂ : ∀ k ∉ (Request.ofLine l₂).named, (o₂.after s).get? k = s.get? k :=
    fun _ hk => get?_after_execute h₂ hg₂ hk
  -- each line finds under its keys what it would find if it came first
  have hfinds₂ : ∀ k ∈ (Request.ofLine l₂).named, s.get? k = (o₁.after s).get? k :=
    fun k hk => (hframe₁ k fun hk₁ => hdisjoint hk₁ hk).symm
  have hfinds₁ : ∀ k ∈ (Request.ofLine l₁).named, s.get? k = (o₂.after s).get? k :=
    fun k hk => (hframe₂ k (hdisjoint hk)).symm
  obtain ⟨o₂', ho₂', hu₂⟩ := sameUpdate_execute h₂ hg₂ hfinds₂
  obtain ⟨o₁', ho₁', hu₁⟩ := sameUpdate_execute h₁ hg₁ hfinds₁
  refine ⟨o₁', o₂', ho₂', ho₁', hu₁.reply_eq.symm, hu₂.reply_eq.symm, ?_⟩
  intro k
  by_cases hk : k ∈ (Request.ofLine l₁).named
  · have hk₂ : k ∉ (Request.ofLine l₂).named := hdisjoint hk
    calc (o₂'.after (o₁.after s)).get? k
      _ = (o₁.after s).get? k := hu₂.get?_of_not_mem hk₂
      _ = (o₁'.after (o₂.after s)).get? k := hu₁.get?_congr (hframe₂ k hk₂).symm
  · calc (o₂'.after (o₁.after s)).get? k
      _ = (o₂.after s).get? k := (hu₂.get?_congr (hframe₁ k hk).symm).symm
      _ = (o₁'.after (o₂.after s)).get? k := (hu₁.get?_of_not_mem hk).symm

/-- A key that has expired, and a list behind it. -/
def staleAndList : Store :=
  ⟨[("a", ⟨.string "old", some 3⟩), ("b", ⟨.list ["x"], none⟩)], by decide⟩

/-- A list is taken out and a key that has expired is written anew; `DEL` also names a key that is
not there. -/
theorem different_keys_commute_stale :
    ∃ o₁ o₂ o₁' o₂', execute {} "DEL b c b" staleAndList 5 = .ok o₁ ∧
      execute {} "RPUSH a y" staleAndList 5 = .ok o₂ ∧
      execute {} "RPUSH a y" (o₁.after staleAndList) 5 = .ok o₂' ∧
      execute {} "DEL b c b" (o₂.after staleAndList) 5 = .ok o₁' ∧
      o₁'.reply = .integer 1 ∧ o₂'.reply = .integer 1 ∧
      ∀ k, (o₂'.after (o₁.after staleAndList)).get? k =
        (o₁'.after (o₂.after staleAndList)).get? k := by
  have hdel : execute {} "DEL b c b" staleAndList 5 =
      .ok (.changed (.integer 1) (staleAndList.eraseAll ["b"])) := rfl
  have hpush : execute {} "RPUSH a y" staleAndList 5 =
      .ok (.changed (.integer 1) (staleAndList.insert "a" ⟨.list ["y"], none⟩)) := rfl
  have hdisjoint : ∀ k ∈ (Request.ofLine "DEL b c b").named,
      k ∉ (Request.ofLine "RPUSH a y").named := by decide +kernel
  obtain ⟨o₁', o₂', ho₂', ho₁', hr₁, hr₂, hsame⟩ := different_keys_commute hdel hpush
    (by decide +kernel) (by decide +kernel) hdisjoint
  exact ⟨_, _, o₁', o₂', hdel, hpush, ho₂', ho₁', hr₁, hr₂, hsame⟩

end Keyspace
