import Keyspace.Proofs.Change

namespace Keyspace

open Store

variable {k : String} {a b : Entry}

/-- A step that finds a live entry and leaves one leaves the same kind, or it is a `SET`. -/
theorem Step.kind_kept {p : Step} (ha : lookup p.before k p.instant = some a)
    (hb : p.after.get? k = some b) : p.Succeeds .set k ∨ b.kind = a.kind := by
  have hleaves := p.leaves k
  rw [hb] at hleaves
  generalize hx : some b = x at hleaves
  cases hleaves with
  | same =>
    rw [(lookup_eq_some_iff.1 ha).1] at hx
    exact Or.inr (congrArg Entry.kind (Option.some.inj hx))
  | swept =>
    rw [ha] at hx
    exact Or.inr (congrArg Entry.kind (Option.some.inj hx))
  | written hc hw =>
    cases hx
    rcases hw.write_live ha with ⟨value, lifetime, rfl⟩ | ⟨hkind, -⟩
    · exact Or.inl (hc.succeeds rfl rfl)
    · exact Or.inr hkind
  | takenOut => cases hx
  | cleared => cases hx

theorem Host.kind_kept {h : Host} {es : List Event} (ha : h.store.get? k = some a)
    (hb : (h.after es).store.get? k = some b) (hne : a.kind ≠ b.kind) :
    ∃ p ∈ h.steps es, p.Succeeds .set k ∨ lookup p.before k p.instant = none ∨
      lookup p.after k p.instant = none := by
  induction es generalizing h a with
  | nil =>
    rw [Host.after_nil, ha] at hb
    exact absurd (congrArg Entry.kind (Option.some.inj hb)) hne
  | cons e es ih =>
    cases hl : lookup h.store k e.instant with
    | none => exact ⟨⟨h, e⟩, List.mem_cons_self, Or.inr (Or.inl hl)⟩
    | some a' =>
      -- what is live at the step is the entry that the timeline began with
      obtain rfl : a = a' := by
        have hx := (lookup_eq_some_iff.1 hl).1
        rw [ha] at hx
        exact Option.some.inj hx
      cases hc : (h.perform e).store.get? k with
      | none =>
        have hgone : lookup (h.perform e).store k e.instant = none := by
          rw [lookup, hc, Option.filter_none]
        exact ⟨⟨h, e⟩, List.mem_cons_self, Or.inr (Or.inr hgone)⟩
      | some c =>
        have hstep : Step.Succeeds ⟨h, e⟩ .set k ∨ c.kind = a.kind := Step.kind_kept hl hc
        rcases hstep with hset | hkind
        · exact ⟨⟨h, e⟩, List.mem_cons_self, Or.inl hset⟩
        · obtain ⟨p, hp, hcase⟩ := ih hc hb (hkind ▸ hne)
          exact ⟨p, List.mem_cons_of_mem _ hp, hcase⟩

/-- Between two points at which a key is live with different kinds it was set or gone, and the only
line that changes the kind of a live key is a `SET` for it. -/
theorem kind_changes_by_set (hne : a.kind ≠ b.kind) :
    (∀ (h : Host) (past between : List Event) (t t' : Int),
      lookup (h.after past).store k t = some a →
      lookup (h.after (past ++ between)).store k t' = some b →
        ∃ p ∈ (h.after past).steps between, p.Succeeds .set k ∨
          lookup p.before k p.instant = none ∨ lookup p.after k p.instant = none) ∧
    ∀ (limits : Limits) (line : String) (s : Store) (now t' : Int) (o : Outcome),
      execute limits line s now = .ok o → lookup s k now = some a →
      lookup (o.after s) k t' = some b →
        (Request.ofLine line).Names .set k ∧ o.reply.isError = false := by
  constructor
  · intro h past between t t' ha hb
    rw [Host.after_append] at hb
    exact Host.kind_kept (lookup_eq_some_iff.1 ha).1 (lookup_eq_some_iff.1 hb).1 hne
  · intro limits line s now t' o ho ha hb
    -- the line is a step of a host that holds the store
    let p : Step := ⟨{ limits := limits, sweeper := { interval := 0 }, store := s },
      ⟨.command line, now⟩⟩
    have hafter : p.after = o.after s := by
      have hp : p.after = s.afterLine limits line now := Host.store_perform_command rfl p.host
      rw [hp, afterLine, ho]
    have hb' : p.after.get? k = some b := by
      rw [hafter]
      exact (lookup_eq_some_iff.1 hb).1
    rcases Step.kind_kept (p := p) ha hb' with hset | hkind
    · obtain ⟨line', ⟨hline, o', ho', hr⟩, hnames⟩ := hset
      cases hline
      cases ho.symm.trans ho'
      exact ⟨hnames, hr⟩
    · exact absurd hkind.symm hne

/-- A host that holds a list under one key. -/
def listHost : Host where
  sweeper := { interval := 100 }
  store := ⟨[("k", ⟨.list ["x"], none⟩)], by decide⟩

theorem kind_changes_by_set_list_string :
    (∃ p ∈ (listHost.after [⟨.command "LPUSH k y", 1⟩]).steps
        [⟨.command "DEL k", 2⟩, ⟨.command "SET k v", 3⟩],
      p.Succeeds .set "k" ∨ lookup p.before "k" p.instant = none ∨
        lookup p.after "k" p.instant = none) ∧
      (Request.ofLine "SET k v").Names .set "k" := by
  constructor
  · exact (kind_changes_by_set (a := ⟨.list ["y", "x"], none⟩) (b := ⟨.string "v", none⟩)
      (by decide)).1 listHost _ _ 1 3 rfl rfl
  · have hset := (kind_changes_by_set (k := "k") (a := ⟨.list ["x"], none⟩)
      (b := ⟨.string "v", none⟩) (by decide)).2 {} "SET k v" listHost.store 3 3
      ((Command.set "k" "v" none).outcome listHost.store 3) rfl rfl rfl
    exact hset.1

end Keyspace
