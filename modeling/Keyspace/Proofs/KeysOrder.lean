import Keyspace.Proofs.Entering
import Keyspace.Proofs.SweepsInvisible

namespace Keyspace

open Store

/-- Every key that is stored, expired or not. -/
def storedKeys : Listing := fun s _ => s.keys

/-- The same live entries, with their keys in the same order. -/
structure SameOrder (now : Int) (s₁ s₂ : Store) : Prop where
  alike : Alike now s₁ s₂
  keys : liveKeys s₁ now = liveKeys s₂ now

namespace SameOrder

variable {now later : Int} {s₁ s₂ : Store}

theorem refl (now : Int) (s : Store) : SameOrder now s s := ⟨.refl now s, rfl⟩

theorem symm (h : SameOrder now s₁ s₂) : SameOrder now s₂ s₁ := ⟨h.alike.symm, h.keys.symm⟩

theorem trans {s₃ : Store} (h : SameOrder now s₁ s₂) (h' : SameOrder now s₂ s₃) :
    SameOrder now s₁ s₃ :=
  ⟨h.alike.trans h'.alike, h.keys.trans h'.keys⟩

theorem mono (h : SameOrder now s₁ s₂) (hle : now ≤ later) : SameOrder later s₁ s₂ := by
  refine ⟨h.alike.mono hle, ?_⟩
  rw [liveKeys_later s₁ hle, liveKeys_later s₂ hle, h.keys, (h.alike.mono hle).holds_eq]

theorem swept_of_live {s : Store} {sweepAt : Int}
    (h : ∀ k e, lookup s k now = some e → isLive sweepAt e = true) :
    SameOrder now (Store.swept s sweepAt) s := by
  have halike : Alike now (Store.swept s sweepAt) s := .swept_of_live h
  exact ⟨halike, (liveKeys_swept_sublist s sweepAt now).eq_of_length
    halike.perm_liveKeys.length_eq⟩

theorem swept (s : Store) (now : Int) : SameOrder now (Store.swept s now) s := by
  apply swept_of_live
  intro k e he
  exact isLive_eq_true_iff.2 (lookup_eq_some_iff.1 he).2

end SameOrder

namespace Step

variable {p : Step}

/-- No key comes to live where an entry of it that has expired is stored. -/
def Clean (p : Step) : Prop := ∀ k ∈ p.before.keys, ¬ p.Enters liveKeys k

instance (p : Step) : Decidable p.Clean :=
  inferInstanceAs (Decidable (∀ k ∈ p.before.keys, ¬ p.Enters liveKeys k))

theorem extends_storedKeys (p : Step) :
    Extends (storedKeys p.before p.instant) (storedKeys p.after p.instant) := by
  apply p.extends_of_write
  · rfl
  · intro ks
    show (p.before.eraseAll ks).keys.Sublist p.before.keys
    rw [Table.keys_eraseAll]
    exact List.filter_sublist
  · intro c k e _ hafter
    rw [hafter]
    show Extends p.before.keys (p.before.insert k e).keys
    rw [Table.keys_insert]
    split
    · exact .refl _
    · next hk => exact Or.inr ⟨k, hk, rfl⟩

theorem extends_liveKeys (hp : p.Clean) :
    Extends (liveKeys p.before p.instant) (liveKeys p.after p.instant) := by
  apply p.extends_of_write
  · rfl
  · exact fun ks => liveKeys_eraseAll_sublist p.before ks p.instant
  · intro c k e hwrite hafter
    have he : isLive p.instant e = true := hwrite.write_isLive
    by_cases hlive : k ∈ liveKeys p.before p.instant
    · rw [hafter, liveKeys_insert_of_mem hlive he]
      exact .refl _
    · have hstored : k ∉ p.before.keys := by
        intro hk
        apply hp k hk
        refine ⟨hlive, ?_⟩
        rw [hafter, mem_liveKeys]
        exact ⟨e, by rw [lookup_insert, if_pos rfl, Option.filter_some, if_pos he]⟩
      rw [hafter, liveKeys_insert_of_not_mem hstored he]
      exact Or.inr ⟨k, hlive, rfl⟩

/-- After a sweep every key that is stored is live. -/
theorem clean_of_swept {s : Store} (hp : p.before = swept s p.instant) : p.Clean := by
  intro k hk henters
  apply henters.1
  rw [mem_liveKeys]
  rw [hp, ← Table.contains_iff_mem_keys, Table.contains, get?_swept] at hk
  obtain ⟨e, he⟩ := Option.isSome_iff_exists.1 hk
  exact ⟨e, by rw [hp, lookup_swept s k (Int.le_refl _), he]⟩

end Step

/-- The command lines of a timeline, with a sweep right in front of each. -/
def tidied (es : List Event) : List Event :=
  (es.filter Event.isCommand).flatMap fun e => [⟨.sweep, e.instant⟩, e]

theorem tidied_of_not_command {e : Event} (he : e.isCommand = false) (es : List Event) :
    tidied (e :: es) = tidied es := by
  rw [tidied, List.filter_cons_of_neg (by simp [he]), tidied]

theorem tidied_command {e : Event} (he : e.isCommand = true) (es : List Event) :
    tidied (e :: es) = ⟨.sweep, e.instant⟩ :: e :: tidied es := by
  rw [tidied, List.filter_cons_of_pos he, List.flatMap_cons]
  rfl

section Tidied

variable {h₁ h₂ : Host} {e : Event} {es : List Event} {start t : Int}

theorem sameOrder_perform (he : e.isCommand = true) (hlimits : h₁.limits = h₂.limits)
    (hclean₁ : Step.Clean ⟨h₁, e⟩) (hclean₂ : Step.Clean ⟨h₂, e⟩)
    (h : SameOrder e.instant h₁.store h₂.store) :
    SameOrder e.instant (h₁.perform e).store (h₂.perform e).store := by
  obtain ⟨line, hline⟩ := Event.exists_line he
  have halike : Alike e.instant (h₁.perform e).store (h₂.perform e).store := by
    rw [Host.store_perform_command hline, Host.store_perform_command hline, hlimits]
    exact afterLine_alike h.alike h₂.limits line
  have hext₁ : Extends (liveKeys h₁.store e.instant) (liveKeys (h₁.perform e).store e.instant) :=
    Step.extends_liveKeys hclean₁
  have hext₂ : Extends (liveKeys h₂.store e.instant) (liveKeys (h₂.perform e).store e.instant) :=
    Step.extends_liveKeys hclean₂
  rw [← h.keys] at hext₂
  refine ⟨halike, hext₁.unique (nodup_liveKeys h₁.store e.instant) hext₂ ?_⟩
  intro k
  rw [mem_liveKeys, mem_liveKeys, halike k]

theorem sameOrder_perform_swept (he : e.isCommand = true) (hlimits : h₁.limits = h₂.limits)
    (hclean : Step.Clean ⟨h₁, e⟩) (h : SameOrder e.instant h₁.store h₂.store) :
    SameOrder e.instant (h₁.perform e).store
      ((h₂.perform ⟨.sweep, e.instant⟩).perform e).store := by
  have hlimits' : h₁.limits = (h₂.perform ⟨.sweep, e.instant⟩).limits := by
    rw [Host.limits_perform, hlimits]
  have hclean' : Step.Clean ⟨h₂.perform ⟨.sweep, e.instant⟩, e⟩ :=
    Step.clean_of_swept (s := h₂.store) rfl
  exact sameOrder_perform he hlimits' hclean hclean'
    (h.trans (SameOrder.swept h₂.store e.instant).symm)

theorem sameOrder_perform_left (he : e.isCommand = false)
    (h : SameOrder e.instant h₁.store h₂.store) :
    SameOrder e.instant (h₁.perform e).store h₂.store := by
  rcases Host.store_perform_of_not_command he h₁ with hs | hs
  · rw [hs]
    exact h
  · rw [hs]
    exact (SameOrder.swept h₁.store e.instant).trans h

/-- Where every step is clean, the live keys are those of the tidied timeline, in the same order. -/
theorem sameOrder_tidied (hlimits : h₁.limits = h₂.limits)
    (h : SameOrder start h₁.store h₂.store) (hes : Chronological start es) (hstart : start ≤ t)
    (hlast : ∀ e ∈ es, e.instant ≤ t) (hclean : ∀ p ∈ h₁.steps es, p.Clean) :
    SameOrder t (h₁.after es).store (h₂.after (tidied es)).store := by
  induction es generalizing h₁ h₂ start with
  | nil => exact h.mono hstart
  | cons e es ih =>
    obtain ⟨hle, hrest⟩ := hes
    have hnow : SameOrder e.instant h₁.store h₂.store := h.mono hle
    have hrestclean : ∀ p ∈ (h₁.perform e).steps es, p.Clean :=
      fun p hp => hclean p (List.mem_cons_of_mem _ hp)
    have hrestlast : ∀ e' ∈ es, e'.instant ≤ t :=
      fun e' he' => hlast e' (List.mem_cons_of_mem e he')
    have ht : e.instant ≤ t := hlast e List.mem_cons_self
    cases he : e.isCommand with
    | true =>
      -- the tidied timeline has a sweep in front of the line
      rw [tidied_command he, Host.after_cons, Host.after_cons, Host.after_cons]
      have hafter := sameOrder_perform_swept he hlimits (hclean ⟨h₁, e⟩ List.mem_cons_self) hnow
      apply ih _ hafter hrest ht hrestlast hrestclean
      simp only [Host.limits_perform, hlimits]
    | false =>
      rw [tidied_of_not_command he, Host.after_cons]
      apply ih _ (sameOrder_perform_left he hnow) hrest ht hrestlast hrestclean
      rw [Host.limits_perform, hlimits]

end Tidied

theorem Glob.accepts_star (s : String) : (Glob.ofKeyPattern "*").accepts s = true := by
  have hstar : Glob.ofKeyPattern "*" = [.anyText] := by
    simp [Glob.ofKeyPattern, Glob.plainNegation, Glob.ofChars]
  have hmatches : Glob.Matches [.anyText] (s.toList ++ []) := .text s.toList .done
  rw [List.append_nil] at hmatches
  rw [hstar, Glob.accepts, Glob.matchesChars_iff]
  exact hmatches

theorem outcome_keys_star (s : Store) (now : Int) :
    (Command.keys "*").outcome s now = .unchanged (.array (liveKeys s now)) := by
  have hall : (liveKeys s now).filter (Glob.ofKeyPattern "*").accepts = liveKeys s now :=
    List.filter_eq_self.2 fun k _ => Glob.accepts_star k
  show Store.matchingKeys s "*" now = _
  rw [Store.matchingKeys, hall]

theorem execute_keys {limits : Limits} {line : String} (s : Store) (now : Int)
    (h : Command.ofLine limits line = .ok (.keys "*")) :
    execute limits line s now = .ok (.unchanged (.array (liveKeys s now))) := by
  rw [execute_of_ofLine h, outcome_keys_star]

/-- In the order in which the keys last came to be stored; that is the order in which they last came
to live, and sweeps do not show, where no step writes over an expired entry. -/
theorem keys_in_order {h : Host} {es : List Event} {start t : Int} (hempty : h.store = Table.empty)
    (hes : Chronological start es) (hstart : start ≤ t) (hlast : ∀ e ∈ es, e.instant ≤ t) :
    (∀ line, Command.ofLine h.limits line = .ok (.keys "*") →
      execute h.limits line (h.after es).store t =
        .ok (.unchanged (.array (liveKeys (h.after es).store t)))) ∧
    (∀ k, k ∈ liveKeys (h.after es).store t ↔ ∃ e, lookup (h.after es).store k t = some e) ∧
    InOrder storedKeys (h.steps es) (liveKeys (h.after es).store t) ∧
    ((∀ p ∈ h.steps es, p.Clean) →
      InOrder liveKeys (h.steps es) (liveKeys (h.after es).store t) ∧
      ∀ (h' : Host) (es' : List Event), h'.store = Table.empty → h'.limits = h.limits →
        Chronological start es' → (∀ e ∈ es', e.instant ≤ t) →
        es'.filter Event.isCommand = es.filter Event.isCommand →
        (∀ p ∈ h'.steps es', p.Clean) →
          liveKeys (h'.after es').store t = liveKeys (h.after es).store t) := by
  have hstored : InOrder storedKeys (h.steps es) (storedKeys (h.after es).store t) := by
    apply inOrder_after _ (fun p _ => p.extends_storedKeys) hes hstart hlast
    · rw [hempty]
      rfl
    · exact fun s _ _ _ => List.Sublist.refl s.keys
  refine ⟨fun line hline => execute_keys _ t hline, fun k => mem_liveKeys, ?_, ?_⟩
  · exact hstored.sublist (liveKeys_sublist_keys _ t)
  · intro hclean
    constructor
    · apply inOrder_after _ (fun p hp => Step.extends_liveKeys (hclean p hp)) hes hstart hlast
      · rw [hempty]
        rfl
      · intro s now later hle
        rw [liveKeys_later s hle]
        exact List.filter_sublist
    · intro h' es' hempty' hlimits hes' hlast' hcommands hclean'
      have hstore : h'.store = h.store := hempty'.trans hempty.symm
      have htidied : tidied es' = tidied es := by rw [tidied, hcommands, tidied]
      -- both timelines are compared with the tidied one
      have hsame := sameOrder_tidied rfl (SameOrder.refl start h.store) hes hstart hlast hclean
      have hsame' := sameOrder_tidied hlimits (hstore ▸ SameOrder.refl start h'.store) hes' hstart
        hlast' hclean'
      rw [htidied] at hsame'
      exact hsame'.keys.trans hsame.keys.symm

/-- A key expires and is written again, without a sweep in between. -/
def rewriting : List Event :=
  [⟨.command "SET a 1 PX 10", 0⟩, ⟨.command "SET b 2", 0⟩, ⟨.command "SET a 3", 20⟩]

/-- The same command lines, with a sweep in between. -/
def sweptRewriting : List Event :=
  [⟨.command "SET a 1 PX 10", 0⟩, ⟨.command "SET b 2", 0⟩, ⟨.sweep, 20⟩,
    ⟨.command "SET a 3", 20⟩]

def freshHost : Host := { sweeper := { interval := 1000 } }

theorem keys_in_order_sweptRewriting :
    execute {} "KEYS *" (freshHost.after sweptRewriting).store 20 =
        .ok (.unchanged (.array ["b", "a"])) ∧
      InOrder liveKeys (freshHost.steps sweptRewriting) ["b", "a"] := by
  have hclean : ∀ p ∈ freshHost.steps sweptRewriting, p.Clean := by decide +kernel
  have hkeys : liveKeys (freshHost.after sweptRewriting).store 20 = ["b", "a"] := by rfl
  have hempty : freshHost.store = Table.empty := rfl
  have hes : Chronological 0 sweptRewriting := by simp [sweptRewriting, Chronological]
  have hlast : ∀ e ∈ sweptRewriting, e.instant ≤ 20 := by simp [sweptRewriting]
  have hall := keys_in_order hempty hes (by decide) hlast
  rw [hkeys] at hall
  obtain ⟨hreply, -, -, horder⟩ := hall
  exact ⟨hreply "KEYS *" rfl, (horder hclean).1⟩

/-- Without the sweep the key stands in its old place, in front of one that came to live before
it; so the order is not that of coming to live, and the sweep shows. -/
theorem keys_rewriting_old_place :
    execute {} "KEYS *" (freshHost.after rewriting).store 20 =
        .ok (.unchanged (.array ["a", "b"])) ∧
      ¬ InOrder liveKeys (freshHost.steps rewriting) ["a", "b"] ∧
      execute {} "KEYS *" (freshHost.after sweptRewriting).store 20 =
        .ok (.unchanged (.array ["b", "a"])) := by
  refine ⟨execute_keys _ 20 rfl, ?_, execute_keys _ 20 rfl⟩
  intro horder
  obtain ⟨m, n, ha, hb, hlt⟩ := (List.pairwise_cons.1 horder.pairwise).1 "b" (by simp)
  have hn : n < 3 := hb.lt_length
  have hlast : ∃ p, (freshHost.steps rewriting)[2]? = some p ∧ p.Enters liveKeys "a" :=
    ⟨_, rfl, by decide +kernel⟩
  obtain ⟨p, hp, henters⟩ := hlast
  exact ha.last 2 p (by omega) hp henters

end Keyspace
