import Keyspace.Proofs.Change

namespace Keyspace

open Store

/-- Some of the keys in the same order, or all of them with a new one behind. -/
def Extends (before after : List String) : Prop :=
  after.Sublist before ∨ ∃ k, k ∉ before ∧ after = before ++ [k]

theorem Extends.refl (ks : List String) : Extends ks ks := Or.inl (List.Sublist.refl ks)

theorem eq_filter_of_sublist {ks as : List String} (hks : ks.Nodup) (h : as.Sublist ks) :
    as = ks.filter fun k => decide (k ∈ as) := by
  have hself : (as.filter fun k => decide (k ∈ as)) = as :=
    List.filter_eq_self.2 fun k hk => decide_eq_true hk
  have hsub : as.Sublist (ks.filter fun k => decide (k ∈ as)) := by
    have hfilter := h.filter fun k => decide (k ∈ as)
    rwa [hself] at hfilter
  have hperm : as.Perm (ks.filter fun k => decide (k ∈ as)) := by
    apply (List.perm_ext_iff_of_nodup (h.nodup hks) (hks.filter _)).2
    intro k
    simpa using fun hk : k ∈ as => h.subset hk
  exact hsub.eq_of_length hperm.length_eq

/-- The keys that are there afterwards tell their order. -/
theorem Extends.unique {ks as bs : List String} (hks : ks.Nodup) (ha : Extends ks as)
    (hb : Extends ks bs) (hmem : ∀ k, k ∈ as ↔ k ∈ bs) : as = bs := by
  rcases ha with ha | ⟨k, hk, rfl⟩
  · rcases hb with hb | ⟨l, hl, rfl⟩
    · rw [eq_filter_of_sublist hks ha, eq_filter_of_sublist hks hb]
      simp only [hmem]
    · exact absurd (ha.subset ((hmem l).2 (by simp))) hl
  · rcases hb with hb | ⟨l, hl, rfl⟩
    · exact absurd (hb.subset ((hmem k).1 (by simp))) hk
    · have hkl : k ∈ ks ++ [l] := (hmem k).1 (by simp)
      simp only [List.mem_append, List.mem_singleton, hk, false_or] at hkl
      rw [hkl]

/-- What is listed of a store at an instant. -/
abbrev Listing := Store → Int → List String

section Listing

variable {listing : Listing} {ps : List Step} {p : Step} {k : String} {ks : List String} {n : Nat}

/-- The key is not listed before the step, and is listed after it. -/
def Step.Enters (p : Step) (listing : Listing) (k : String) : Prop :=
  k ∉ listing p.before p.instant ∧ k ∈ listing p.after p.instant

instance (p : Step) (listing : Listing) (k : String) : Decidable (p.Enters listing k) :=
  inferInstanceAs (Decidable (_ ∧ _))

/-- The key enters at the step of this number, and at none that follows. -/
structure LastEnters (listing : Listing) (ps : List Step) (k : String) (n : Nat) : Prop where
  enters : ∃ p, ps[n]? = some p ∧ p.Enters listing k
  last : ∀ m p, n < m → ps[m]? = some p → ¬ p.Enters listing k

/-- The keys stand in the order of the steps at which they last entered. -/
structure InOrder (listing : Listing) (ps : List Step) (ks : List String) : Prop where
  enters : ∀ k ∈ ks, ∃ n, LastEnters listing ps k n
  pairwise : ks.Pairwise fun j k =>
    ∃ m n, LastEnters listing ps j m ∧ LastEnters listing ps k n ∧ m < n

theorem LastEnters.snoc (h : LastEnters listing ps k n) (hp : ¬ p.Enters listing k) :
    LastEnters listing (ps ++ [p]) k n := by
  obtain ⟨q, hq, hk⟩ := h.enters
  have hn : n < ps.length := (List.getElem?_eq_some_iff.1 hq).1
  refine ⟨⟨q, by rw [List.getElem?_append_left hn, hq], hk⟩, ?_⟩
  intro m r hm hr
  rcases Nat.lt_or_ge m ps.length with hlt | hge
  · rw [List.getElem?_append_left hlt] at hr
    exact h.last m r hm hr
  · rw [List.getElem?_append_right hge] at hr
    rw [List.mem_singleton.1 (List.mem_of_getElem? hr)]
    exact hp

theorem LastEnters.lt_length (h : LastEnters listing ps k n) : n < ps.length := by
  obtain ⟨p, hp, -⟩ := h.enters
  exact (List.getElem?_eq_some_iff.1 hp).1

theorem lastEnters_snoc (ps : List Step) (hp : p.Enters listing k) :
    LastEnters listing (ps ++ [p]) k ps.length := by
  refine ⟨⟨p, List.getElem?_concat_length, hp⟩, ?_⟩
  intro m q hm hq
  have hlt := (List.getElem?_eq_some_iff.1 hq).1
  rw [List.length_append, List.length_singleton] at hlt
  omega

theorem InOrder.sublist (h : InOrder listing ps ks) {ks' : List String} (hsub : ks'.Sublist ks) :
    InOrder listing ps ks' :=
  ⟨fun k hk => h.enters k (hsub.subset hk), h.pairwise.sublist hsub⟩

theorem InOrder.snoc (h : InOrder listing ps ks) (hp : ∀ k ∈ ks, ¬ p.Enters listing k) :
    InOrder listing (ps ++ [p]) ks := by
  constructor
  · intro k hk
    obtain ⟨n, hn⟩ := h.enters k hk
    exact ⟨n, hn.snoc (hp k hk)⟩
  · apply h.pairwise.imp_of_mem
    rintro j k hj hk ⟨m, n, hm, hn, hlt⟩
    exact ⟨m, n, hm.snoc (hp j hj), hn.snoc (hp k hk), hlt⟩

/-- A key that enters comes behind all that are listed already. -/
theorem InOrder.snoc_enters (h : InOrder listing ps ks) (hp : ∀ k ∈ ks, ¬ p.Enters listing k)
    (hk : p.Enters listing k) : InOrder listing (ps ++ [p]) (ks ++ [k]) := by
  have hlast : LastEnters listing (ps ++ [p]) k ps.length := lastEnters_snoc ps hk
  constructor
  · intro j hj
    rcases List.mem_append.1 hj with hj | hj
    · exact (h.snoc hp).enters j hj
    · rw [List.mem_singleton.1 hj]
      exact ⟨ps.length, hlast⟩
  · refine List.pairwise_append.2 ⟨(h.snoc hp).pairwise, List.pairwise_singleton _ _, ?_⟩
    intro j hj k' hk'
    rw [List.mem_singleton.1 hk']
    obtain ⟨m, hm⟩ := h.enters j hj
    exact ⟨m, ps.length, hm.snoc (hp j hj), hlast, hm.lt_length⟩

theorem InOrder.step (h : InOrder listing ps (listing p.before p.instant))
    (hp : Extends (listing p.before p.instant) (listing p.after p.instant)) :
    InOrder listing (ps ++ [p]) (listing p.after p.instant) := by
  have hstay : ∀ k ∈ listing p.before p.instant, ¬ p.Enters listing k :=
    fun k hk henters => henters.1 hk
  rcases hp with hsub | ⟨k, hk, hafter⟩
  · exact (h.snoc hstay).sublist hsub
  · have henters : p.Enters listing k := ⟨hk, by simp [hafter]⟩
    rw [hafter]
    exact h.snoc_enters hstay henters

section Timeline

variable {h : Host} {es : List Event} {start t : Int}
  (hwait : ∀ s now later, now ≤ later → (listing s later).Sublist (listing s now))
  (hsteps : ∀ p ∈ h.steps es, Extends (listing p.before p.instant) (listing p.after p.instant))
  (hes : Chronological start es) (hstart : start ≤ t) (hlast : ∀ e ∈ es, e.instant ≤ t)

include hwait hsteps hes hstart hlast

theorem InOrder.append_steps (hps : InOrder listing ps (listing h.store start)) :
    InOrder listing (ps ++ h.steps es) (listing (h.after es).store t) := by
  induction es generalizing h start ps with
  | nil =>
    rw [Host.steps, List.append_nil]
    exact hps.sublist (hwait h.store start t hstart)
  | cons e es ih =>
    have hbefore : InOrder listing ps (listing h.store e.instant) :=
      hps.sublist (hwait h.store start e.instant hes.1)
    have hafter : InOrder listing (ps ++ [⟨h, e⟩]) (listing (h.perform e).store e.instant) :=
      InOrder.step hbefore (hsteps ⟨h, e⟩ List.mem_cons_self)
    have hrun := ih (fun p hp => hsteps p (List.mem_cons_of_mem _ hp)) hes.2
      (hlast e List.mem_cons_self) (fun e' he' => hlast e' (List.mem_cons_of_mem e he')) hafter
    rw [List.append_assoc] at hrun
    exact hrun

/-- What is listed is in order at the end of a timeline that begins with nothing listed, if no key
comes back by waiting and every step leaves out keys or adds one. -/
theorem inOrder_after (hnil : listing h.store start = []) :
    InOrder listing (h.steps es) (listing (h.after es).store t) := by
  have hps : InOrder listing [] (listing h.store start) := by
    rw [hnil]
    exact ⟨nofun, List.Pairwise.nil⟩
  exact hps.append_steps hwait hsteps hes hstart hlast

end Timeline

/-- A step extends what is listed, if every write does; taking out only leaves out keys. -/
theorem Step.extends_of_write (p : Step)
    (hempty : listing Table.empty p.instant = [])
    (herase : ∀ ks, (listing (p.before.eraseAll ks) p.instant).Sublist
      (listing p.before p.instant))
    (hwrite : ∀ c k e, Makes p.before p.instant c (.write k e) → p.after = p.before.insert k e →
      Extends (listing p.before p.instant) (listing p.after p.instant)) :
    Extends (listing p.before p.instant) (listing p.after p.instant) := by
  rcases p.after_cases with hafter | hafter | ⟨c, ch, -, hch, hafter⟩
  · rw [hafter]
    exact .refl _
  · rw [hafter, swept_eq_eraseAll]
    exact Or.inl (herase _)
  · cases ch with
    | write k e => exact hwrite c k e hch hafter
    | takeOut ks =>
      rw [hafter]
      exact Or.inl (herase ks)
    | clear =>
      rw [hafter]
      left
      rw [Change.apply, hempty]
      exact List.nil_sublist _

end Listing

end Keyspace
