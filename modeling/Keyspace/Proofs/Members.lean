import Mathlib.Algebra.Ring.Nat
import Mathlib.Data.Finset.Card
import Keyspace.Proofs.Instant

namespace Keyspace

open Store

namespace MemberSet

variable {u v : MemberSet} {ms : List String}

def toFinset (u : MemberSet) : Finset String := u.members.toFinset

@[simp] theorem mem_toFinset {m : String} : m ∈ u.toFinset ↔ m ∈ u.members := List.mem_toFinset

theorem eq_of_toFinset_eq (h : u.toFinset = v.toFinset) : u = v := by
  apply ext_mem
  intro m
  rw [← mem_toFinset, h, mem_toFinset]

/-- The members that the set lacks, each of them once. -/
def lacking (u : MemberSet) (ms : List String) : List String :=
  (distinct ms).filter fun m => !u.contains m

theorem mem_lacking {m : String} : m ∈ u.lacking ms ↔ m ∈ ms ∧ m ∉ u.toFinset := by
  simp [lacking, mem_distinct, contains]

theorem toFinset_insertAll_lacking (u : MemberSet) (ms : List String) :
    (u.insertAll (u.lacking ms)).toFinset = u.toFinset ∪ ms.toFinset := by
  ext m
  rw [mem_toFinset, mem_insertAll, mem_lacking, Finset.mem_union, List.mem_toFinset, ← mem_toFinset]
  tauto

/-- As many members are put in as are lacking. -/
theorem card_union (u : MemberSet) (ms : List String) :
    (u.toFinset ∪ ms.toFinset).card = u.toFinset.card + (u.lacking ms).length := by
  have hlacking : ms.toFinset \ u.toFinset = (u.lacking ms).toFinset := by
    ext m
    rw [Finset.mem_sdiff, List.mem_toFinset, List.mem_toFinset, mem_lacking]
  have hnodup : (u.lacking ms).Nodup := (nodup_distinct ms).filter _
  rw [← Finset.union_sdiff_self_eq_union, Finset.card_union_of_disjoint Finset.disjoint_sdiff,
    hlacking, List.toFinset_card_of_nodup hnodup]

end MemberSet

/-- The key stands for this set. -/
abbrev Store.SetAt (s : Store) (k : String) (now : Int) (u : MemberSet) : Prop :=
  ContentAt Payload.set? MemberSet.empty s k now u

/-- `SMEMBERS` lists the set in increasing order, and `SISMEMBER` tells what is in it. -/
structure Store.ShowsSet (s : Store) (k : String) (now : Int) (u : Finset String) : Prop where
  listed : ∃ ms, (Command.smembers k).outcome s now = .unchanged (.array ms) ∧
    ms.Pairwise (· < ·) ∧ ms.toFinset = u
  asked : ∀ m, (Command.sismember k m).outcome s now =
    .unchanged (.integer (if m ∈ u then 1 else 0))

section Command

variable {s : Store} {k : String} {now : Int} {u u' : MemberSet} {x : Option Int}

theorem outcome_sadd (hx : heldSet s k now = .ok ⟨u, x⟩) (ms : List String) :
    (Command.sadd k ms).outcome s now =
      if u.lacking ms = [] then .unchanged (.integer 0)
      else .changed (.integer (u.lacking ms).length)
        (s.insert k ⟨.set (u.insertAll (u.lacking ms)), x⟩) := by
  rw [Command.outcome, Command.run, addMembers, hx, Except.map]
  dsimp only
  rw [← MemberSet.lacking]
  cases u.lacking ms with
  | nil => rfl
  | cons m added => rfl

theorem outcome_smembers (hx : heldSet s k now = .ok ⟨u, x⟩) :
    (Command.smembers k).outcome s now = .unchanged (.array u.members) := by
  rw [Command.outcome, Command.run, listMembers, hx]
  rfl

theorem outcome_sismember (hx : heldSet s k now = .ok ⟨u, x⟩) (m : String) :
    (Command.sismember k m).outcome s now =
      .unchanged (.integer (if m ∈ u.toFinset then 1 else 0)) := by
  rw [Command.outcome, Command.run, hasMember, hx]
  simp [Except.map, MemberSet.contains]

theorem Store.SetAt.shows (hs : s.SetAt k now u) : s.ShowsSet k now u.toFinset := by
  obtain ⟨x, hx⟩ := contentAt_iff.1 hs
  exact ⟨⟨u.members, outcome_smembers hx, u.increasing, rfl⟩, outcome_sismember hx⟩

theorem Store.SetAt.sadd (hs : s.SetAt k now u) (ms : List String) :
    ∃ (n : Nat) (u' : MemberSet),
      ((Command.sadd k ms).outcome s now).reply = .integer n ∧
      (((Command.sadd k ms).outcome s now).replacement = none ↔ n = 0) ∧
      Store.SetAt (((Command.sadd k ms).outcome s now).after s) k now u' ∧
      u'.toFinset = u.toFinset ∪ ms.toFinset ∧
      (u.toFinset ∪ ms.toFinset).card = u.toFinset.card + n := by
  obtain ⟨x, hx⟩ := contentAt_iff.1 hs
  refine ⟨(u.lacking ms).length, u.insertAll (u.lacking ms), ?_⟩
  rw [outcome_sadd hx]
  have hunion := u.toFinset_insertAll_lacking ms
  have hcard := u.card_union ms
  split
  · next hnil =>
    rw [hnil] at hunion hcard ⊢
    exact ⟨rfl, iff_of_true rfl rfl, hs, hunion, hcard⟩
  · next hne =>
    refine ⟨rfl, iff_of_false nofun (mt List.length_eq_zero_iff.1 hne), ?_, hunion, hcard⟩
    exact contentAt_iff.2 ⟨x, held_insert hx rfl⟩

/-- In the end the set is larger by the sum of the replies. -/
theorem Store.SetAt.sadds (hs : s.SetAt k now u) (groups : List (List String)) :
    ∃ (counts : List Nat) (u' : MemberSet),
      s.replies now (groups.map (.sadd k)) = counts.map (fun n => .integer n) ∧
      (s.afterAll now (groups.map (.sadd k))).SetAt k now u' ∧
      u'.toFinset = u.toFinset ∪ groups.flatten.toFinset ∧
      u'.toFinset.card = u.toFinset.card + counts.sum := by
  induction groups generalizing s u with
  | nil => exact ⟨[], u, rfl, hs, by simp, rfl⟩
  | cons ms groups ih =>
    obtain ⟨n, v, hreply, -, hv, hunion, hcard⟩ := hs.sadd ms
    obtain ⟨counts, u', hreplies, hu', hunion', hcard'⟩ := ih hv
    refine ⟨n :: counts, u', ?_, hu', ?_, ?_⟩
    · rw [List.map_cons, replies, hreply, hreplies, List.map_cons]
    · rw [hunion', hunion, List.flatten_cons, List.toFinset_append, Finset.union_assoc]
    · rw [hcard', hunion, hcard, List.sum_cons, Nat.add_assoc]

end Command

/-- `SADD` leaves the union and is answered with its growth, so members may be put into commands in
any order and grouping, and as often as one likes. -/
theorem sets_hold_unions {s : Store} {k : String} {now : Int} {u : MemberSet}
    (hs : s.SetAt k now u) :
    s.ShowsSet k now u.toFinset ∧
    (∀ ms, ∃ n : Nat,
      let o := (Command.sadd k ms).outcome s now
      let union := u.toFinset ∪ ms.toFinset
      o.reply = .integer n ∧ union.card = u.toFinset.card + n ∧
      (o.replacement = none ↔ n = 0) ∧
      (∃ u', (o.after s).SetAt k now u' ∧ u'.toFinset = union) ∧
      (o.after s).ShowsSet k now union) ∧
    (∀ groups groups' : List (List String),
      groups.flatten.toFinset = groups'.flatten.toFinset →
      let cs := groups.map (Command.sadd k)
      let cs' := groups'.map (Command.sadd k)
      (Command.smembers k).outcome (s.afterAll now cs) now =
        (Command.smembers k).outcome (s.afterAll now cs') now ∧
      ∃ counts counts' : List Nat, s.replies now cs = counts.map (fun n => .integer n) ∧
        s.replies now cs' = counts'.map (fun n => .integer n) ∧ counts.sum = counts'.sum) ∧
    ∀ limits line s now,
      (∀ ms, LineOf limits .sadd (k :: ms) line →
        execute limits line s now = .ok ((Command.sadd k ms).outcome s now)) ∧
      (LineOf limits .smembers [k] line →
        execute limits line s now = .ok ((Command.smembers k).outcome s now)) ∧
      ∀ m, LineOf limits .sismember [k, m] line →
        execute limits line s now = .ok ((Command.sismember k m).outcome s now) := by
  refine ⟨hs.shows, ?_, ?_, ?_⟩
  · intro ms
    obtain ⟨n, u', hreply, hsame, hu', hunion, hcard⟩ := hs.sadd ms
    have hshows := hu'.shows
    rw [hunion] at hshows
    exact ⟨n, hreply, hcard, hsame, ⟨u', hu', hunion⟩, hshows⟩
  · intro groups groups' hcover cs cs'
    obtain ⟨counts, v, hreplies, hv, hunion, hcard⟩ := hs.sadds groups
    obtain ⟨counts', v', hreplies', hv', hunion', hcard'⟩ := hs.sadds groups'
    -- both runs end in the same set, which is as much larger as the replies add up to
    have hequal : v = v' := by
      apply MemberSet.eq_of_toFinset_eq
      rw [hunion, hunion', hcover]
    subst hequal
    obtain ⟨x, hx⟩ := contentAt_iff.1 hv
    obtain ⟨x', hx'⟩ := contentAt_iff.1 hv'
    refine ⟨?_, counts, counts', hreplies, hreplies', ?_⟩
    · rw [outcome_smembers hx, outcome_smembers hx']
    · exact Nat.add_left_cancel (hcard.symm.trans hcard')
  · intro limits line s now
    exact ⟨fun ms h => h.execute_eq rfl s now, fun h => h.execute_eq rfl s now,
      fun m h => h.execute_eq rfl s now⟩

/-- A set of two members, live until 10. -/
def twoMembers : Store := ⟨[("k", ⟨.set (.ofList ["b", "a"]), some 10⟩)], by decide⟩

/-- Two groupings of the same members, with some of them repeated or in the set already; and a line
that puts members in. -/
theorem sets_hold_unions_regrouped :
    (∃ counts counts' : List Nat,
      twoMembers.replies 5 [.sadd "k" ["c", "a", "c"], .sadd "k" ["d"]] =
        counts.map (fun n => .integer n) ∧
      twoMembers.replies 5 [.sadd "k" ["d", "c"], .sadd "k" ["a", "d"]] =
        counts'.map (fun n => .integer n) ∧ counts.sum = counts'.sum) ∧
    execute {} "SADD k c a c" twoMembers 5 =
      .ok ((Command.sadd "k" ["c", "a", "c"]).outcome twoMembers 5) := by
  have hs : twoMembers.SetAt "k" 5 (.ofList ["b", "a"]) := .live rfl rfl
  obtain ⟨-, -, hgroups, hlines⟩ := sets_hold_unions hs
  have hcover : [["c", "a", "c"], ["d"]].flatten.toFinset =
      [["d", "c"], ["a", "d"]].flatten.toFinset := by decide
  exact ⟨(hgroups _ _ hcover).2, (hlines {} _ twoMembers 5).1 _ ⟨⟨rfl, rfl, rfl⟩, rfl⟩⟩

end Keyspace
