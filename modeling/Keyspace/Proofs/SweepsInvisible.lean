import Mathlib.Data.List.Forall2
import Keyspace.Proofs.Reading
import Keyspace.Proofs.SameEffect
import Keyspace.Proofs.Timeline

namespace Keyspace

open Store

/-- The same reply; `KEYS` may list its items in another order. -/
inductive SameReply (line : String) : Reply → Reply → Prop where
  | equal (r : Reply) : SameReply line r r
  | keys {xs ys : List String} :
      (Request.ofLine line).verb = some .keys → xs.Perm ys → SameReply line (.array xs) (.array ys)

namespace SameReply

variable {line : String} {r₁ r₂ r₃ : Reply}

theorem symm (h : SameReply line r₁ r₂) : SameReply line r₂ r₁ := by
  cases h with
  | equal => exact .equal r₁
  | keys hv hp => exact .keys hv hp.symm

theorem trans (h : SameReply line r₁ r₂) (h' : SameReply line r₂ r₃) : SameReply line r₁ r₃ := by
  cases h with
  | equal => exact h'
  | keys hv hp =>
    cases h' with
    | equal => exact .keys hv hp
    | keys _ hp' => exact .keys hv (hp.trans hp')

end SameReply

/-- The same line with the same answer, or no answer to either. -/
inductive Exchange.Same : Exchange → Exchange → Prop where
  | ok {line : String} {r₁ r₂ : Reply} : SameReply line r₁ r₂ → Same ⟨line, .ok r₁⟩ ⟨line, .ok r₂⟩
  | error (line : String) (e : NumeralTooLong) : Same ⟨line, .error e⟩ ⟨line, .error e⟩

namespace Exchange.Same

variable {x y z : Exchange}

theorem symm (h : x.Same y) : y.Same x := by
  cases h with
  | ok h => exact .ok h.symm
  | error line e => exact .error line e

theorem trans (h : x.Same y) (h' : y.Same z) : x.Same z := by
  cases h with
  | ok h =>
    cases h' with
    | ok h' => exact .ok (h.trans h')
  | error line e => exact h'

end Exchange.Same

theorem sameExchanges_trans {xs ys zs : List Exchange} (h : List.Forall₂ Exchange.Same xs ys)
    (h' : List.Forall₂ Exchange.Same zs ys) : List.Forall₂ Exchange.Same xs zs := by
  induction h generalizing zs with
  | nil =>
    cases h'
    exact .nil
  | cons hx _ ih =>
    cases h' with
    | cons hz hzs => exact .cons (hx.trans hz.symm) (ih hzs)

section Line

variable {now : Int} {s₁ s₂ : Store} {limits : Limits} {line : String}

theorem sameReply_outcome (h : Alike now s₁ s₂) {c : Command}
    (hc : Command.ofLine limits line = .ok c) :
    SameReply line (c.outcome s₁ now).reply (c.outcome s₂ now).reply ∧
      Alike now ((c.outcome s₁ now).after s₁) ((c.outcome s₂ now).after s₂) := by
  by_cases hk : ∃ p, c = .keys p
  · obtain ⟨p, rfl⟩ := hk
    obtain ⟨xs, ys, hxs, hys, hp⟩ := perm_matchingKeys h p
    have h₁ : (Command.keys p).outcome s₁ now = .unchanged (.array xs) := hxs
    have h₂ : (Command.keys p).outcome s₂ now = .unchanged (.array ys) := hys
    rw [h₁, h₂]
    exact ⟨.keys (Command.verb_of_ofLine hc) hp, h⟩
  · have hs := sameEffect_outcome h (fun p hp => hk ⟨p, hp⟩)
    refine ⟨?_, hs.alike⟩
    rw [hs.reply]
    exact .equal _

/-- A line ends at the same numeral on both stores, or it has the same effect on both. -/
theorem execute_alike (h : Alike now s₁ s₂) (limits : Limits) (line : String) :
    (∃ e, execute limits line s₁ now = .error e ∧ execute limits line s₂ now = .error e) ∨
      ∃ o₁ o₂, execute limits line s₁ now = .ok o₁ ∧ execute limits line s₂ now = .ok o₂ ∧
        SameReply line o₁.reply o₂.reply ∧ Alike now (o₁.after s₁) (o₂.after s₂) := by
  unfold execute
  cases hc : Command.ofLine limits line with
  | error refusal =>
    cases refusal with
    | failed why => exact Or.inr ⟨_, _, rfl, rfl, .equal _, h⟩
    | numeralTooLong digits => exact Or.inl ⟨_, rfl, rfl⟩
  | ok c =>
    obtain ⟨hr, ha⟩ := sameReply_outcome h hc
    exact Or.inr ⟨_, _, rfl, rfl, hr, ha⟩

theorem exchange_alike (h : Alike now s₁ s₂) (limits : Limits) (line : String) :
    (s₁.exchange limits line now).Same (s₂.exchange limits line now) := by
  unfold Store.exchange
  rcases execute_alike h limits line with ⟨e, h₁, h₂⟩ | ⟨o₁, o₂, h₁, h₂, hr, -⟩
  · rw [h₁, h₂]
    exact .error line e
  · rw [h₁, h₂]
    exact .ok hr

theorem afterLine_alike (h : Alike now s₁ s₂) (limits : Limits) (line : String) :
    Alike now (s₁.afterLine limits line now) (s₂.afterLine limits line now) := by
  unfold Store.afterLine
  rcases execute_alike h limits line with ⟨e, h₁, h₂⟩ | ⟨o₁, o₂, h₁, h₂, -, ha⟩
  · rw [h₁, h₂]
    exact h
  · rw [h₁, h₂]
    exact ha

end Line

/-- A host with a timeline is matched by a host that sees its command lines alone. -/
theorem exchanges_commands {h₁ h₂ : Host} {es : List Event} {start : Int}
    (hlimits : h₁.limits = h₂.limits) (h : Alike start h₁.store h₂.store)
    (hes : Chronological start es) :
    List.Forall₂ Exchange.Same (h₁.exchanges es) (h₂.exchanges (es.filter Event.isCommand)) ∧
      ∀ now, start ≤ now → (∀ e ∈ es, e.instant ≤ now) →
        Alike now (h₁.after es).store (h₂.after (es.filter Event.isCommand)).store := by
  induction es generalizing h₁ h₂ start with
  | nil => exact ⟨.nil, fun now hle _ => h.mono hle⟩
  | cons e es ih =>
    obtain ⟨hstart, hrest⟩ := hes
    have hnow : Alike e.instant h₁.store h₂.store := h.mono hstart
    cases he : e.isCommand with
    | true =>
      obtain ⟨line, hline⟩ := Event.exists_line he
      have hafter : Alike e.instant (h₁.perform e).store (h₂.perform e).store := by
        rw [Host.store_perform_command hline, Host.store_perform_command hline, hlimits]
        exact afterLine_alike hnow h₂.limits line
      have hl : (h₁.perform e).limits = (h₂.perform e).limits := by
        rw [Host.limits_perform, Host.limits_perform, hlimits]
      obtain ⟨hx, hs⟩ := ih hl hafter hrest
      rw [List.filter_cons_of_pos he, Host.exchanges_command hline, Host.exchanges_command hline]
      refine ⟨.cons ?_ hx, ?_⟩
      · rw [hlimits]
        exact exchange_alike hnow h₂.limits line
      · intro now _ hall
        rw [Host.after_cons, Host.after_cons]
        exact hs now (hall e List.mem_cons_self) fun e' he' => hall e' (List.mem_cons_of_mem e he')
    | false =>
      -- a sweep, or a tick: what is live from this instant on stays as it was
      have hafter : Alike e.instant (h₁.perform e).store h₂.store := by
        rcases Host.store_perform_of_not_command he h₁ with hs | hs
        · rw [hs]
          exact hnow
        · rw [hs]
          exact (Alike.swept h₁.store (Int.le_refl _)).trans hnow
      have hl : (h₁.perform e).limits = h₂.limits := by
        rw [Host.limits_perform, hlimits]
      obtain ⟨hx, hs⟩ := ih hl hafter hrest
      rw [List.filter_cons_of_neg (by simp [he]), Host.exchanges_of_not_command he]
      refine ⟨hx, ?_⟩
      intro now _ hall
      rw [Host.after_cons]
      exact hs now (hall e List.mem_cons_self) fun e' he' => hall e' (List.mem_cons_of_mem e he')

/-- Two timelines with the same command lines, however they are swept, have the same answers and end
with the same live entries. -/
theorem sweeps_invisible {start : Int} {s₁ s₂ : Store} (h : Alike start s₁ s₂) :
    (∀ (limits : Limits) (line : String) (now : Int) (o₁ : Outcome), start ≤ now →
      execute limits line s₁ now = .ok o₁ →
        ∃ o₂, execute limits line s₂ now = .ok o₂ ∧ SameReply line o₁.reply o₂.reply ∧
          Alike now (o₁.after s₁) (o₂.after s₂)) ∧
    (∀ (s : Store) (now : Int), Alike now (Store.swept s now) s) ∧
    ∀ (h₁ h₂ : Host) (es₁ es₂ : List Event), h₁.store = s₁ → h₂.store = s₂ →
      h₁.limits = h₂.limits → Chronological start es₁ → Chronological start es₂ →
      es₁.filter Event.isCommand = es₂.filter Event.isCommand →
        List.Forall₂ Exchange.Same (h₁.exchanges es₁) (h₂.exchanges es₂) ∧
          ∀ now, start ≤ now → (∀ e ∈ es₁ ++ es₂, e.instant ≤ now) →
            Alike now (h₁.after es₁).store (h₂.after es₂).store := by
  refine ⟨?_, fun s now => Alike.swept s (Int.le_refl now), ?_⟩
  · intro limits line now o₁ hle ho₁
    rcases execute_alike (h.mono hle) limits line with ⟨e, h₁, -⟩ | ⟨o, o₂, h₁, h₂, hr, ha⟩
    · rw [ho₁] at h₁
      cases h₁
    · rw [ho₁] at h₁
      cases h₁
      exact ⟨o₂, h₂, hr, ha⟩
  · rintro h₁ h₂ es₁ es₂ rfl rfl hlimits hes₁ hes₂ hcommands
    -- both timelines are compared with the run of their command lines alone
    obtain ⟨hx₁, ha₁⟩ := exchanges_commands hlimits h hes₁
    have hlimits₂ : h₂.limits = h₂.limits := rfl
    obtain ⟨hx₂, ha₂⟩ := exchanges_commands hlimits₂ (Alike.refl start h₂.store) hes₂
    rw [hcommands] at hx₁ ha₁
    refine ⟨sameExchanges_trans hx₁ hx₂, ?_⟩
    intro now hle hall
    have h₁' := ha₁ now hle fun e he => hall e (List.mem_append_left es₂ he)
    have h₂' := ha₂ now hle fun e he => hall e (List.mem_append_right es₁ he)
    exact h₁'.trans h₂'.symm

/-- A host whose store still holds an entry that expired at 5, and one that was swept. -/
def staleHost : Host where
  sweeper := { interval := 100 }
  store := ⟨[("a", ⟨.string "old", some 5⟩), ("b", ⟨.list ["x"], some 40⟩),
    ("c", ⟨.string "y", none⟩)], by decide⟩

def tidyHost : Host where
  sweeper := { interval := 0 }
  store := ⟨[("c", ⟨.string "y", none⟩), ("b", ⟨.list ["x"], some 40⟩)], by decide⟩

def staleEvents : List Event :=
  [⟨.command "KEYS *", 10⟩, ⟨.tick, 12⟩, ⟨.command "LPUSH a x", 15⟩]

def tidyEvents : List Event :=
  [⟨.command "KEYS *", 10⟩, ⟨.command "LPUSH a x", 15⟩, ⟨.sweep, 50⟩]

theorem alike_staleHost_tidyHost : Alike 10 staleHost.store tidyHost.store := by
  intro k
  by_cases ha : "a" = k
  · subst ha
    rfl
  · by_cases hb : "b" = k
    · subst hb
      rfl
    · have hstale : staleHost.store.get? k = tidyHost.store.get? k := by
        simp [staleHost, tidyHost, Table.get?, Table.valueOf, ha, hb]
      rw [lookup, lookup, hstale]

theorem sweeps_invisible_stale_tidy :
    List.Forall₂ Exchange.Same (staleHost.exchanges staleEvents) (tidyHost.exchanges tidyEvents) ∧
      Alike 60 (staleHost.after staleEvents).store (tidyHost.after tidyEvents).store := by
  have hrun := (sweeps_invisible alike_staleHost_tidyHost).2.2 staleHost tidyHost staleEvents
    tidyEvents rfl rfl rfl (by simp [staleEvents, Chronological])
    (by simp [tidyEvents, Chronological]) rfl
  exact ⟨hrun.1, hrun.2 60 (by decide) (by simp [staleEvents, tidyEvents])⟩

end Keyspace
