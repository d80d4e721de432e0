namespace Keyspace

/-- Sets with the same members are the same value. -/
structure MemberSet where
  members : List String
  increasing : members.Pairwise (· < ·)
  deriving DecidableEq

namespace MemberSet

def empty : MemberSet := ⟨[], List.Pairwise.nil⟩

def contains (s : MemberSet) (m : String) : Bool := s.members.contains m

def place (m : String) : List String → List String
  | [] => [m]
  | x :: xs => if m < x then m :: x :: xs else if x < m then x :: place m xs else x :: xs

theorem mem_place {m y : String} {xs : List String} : y ∈ place m xs ↔ y = m ∨ y ∈ xs := by
  induction xs with
  | nil => simp [place]
  | cons x xs ih =>
    unfold place
    split
    · simp
    · split
      · simp only [List.mem_cons, ih]
        exact or_left_comm
      · next h h' =>
        have : m = x := String.le_antisymm (String.not_lt.1 h') (String.not_lt.1 h)
        simp [this]

theorem increasing_place (m : String) {xs : List String} (h : xs.Pairwise (· < ·)) :
    (place m xs).Pairwise (· < ·) := by
  induction xs with
  | nil => simp [place]
  | cons x xs ih =>
    obtain ⟨hx, hxs⟩ := List.pairwise_cons.1 h
    unfold place
    split
    · next hm =>
      refine List.pairwise_cons.2 ⟨fun y hy => ?_, h⟩
      rcases List.mem_cons.1 hy with rfl | hy
      · exact hm
      · exact String.lt_trans hm (hx y hy)
    · split
      · next hm =>
        refine List.pairwise_cons.2 ⟨fun y hy => ?_, ih hxs⟩
        rcases mem_place.1 hy with rfl | hy
        · exact hm
        · exact hx y hy
      · exact h

def insert (s : MemberSet) (m : String) : MemberSet :=
  ⟨place m s.members, increasing_place m s.increasing⟩

def insertAll (s : MemberSet) (ms : List String) : MemberSet := ms.foldl insert s

def ofList (ms : List String) : MemberSet := empty.insertAll ms

theorem nodup_members (s : MemberSet) : s.members.Nodup := by
  apply s.increasing.imp
  rintro x y h rfl
  exact String.lt_irrefl x h

theorem ext_mem {s t : MemberSet} (h : ∀ y, y ∈ s.members ↔ y ∈ t.members) : s = t := by
  have hp : s.members.Perm t.members :=
    (List.perm_ext_iff_of_nodup s.nodup_members t.nodup_members).2 h
  have hm : s.members = t.members :=
    hp.eq_of_pairwise (fun _ _ _ _ hab hba => absurd hba (String.lt_asymm hab)) s.increasing
      t.increasing
  cases s
  cases t
  cases hm
  rfl

theorem mem_insert {s : MemberSet} {m y : String} :
    y ∈ (s.insert m).members ↔ y = m ∨ y ∈ s.members := mem_place

theorem mem_insertAll {s : MemberSet} {ms : List String} {y : String} :
    y ∈ (s.insertAll ms).members ↔ y ∈ ms ∨ y ∈ s.members := by
  induction ms generalizing s with
  | nil => simp [insertAll]
  | cons m ms ih =>
    change y ∈ ((s.insert m).insertAll ms).members ↔ _
    rw [ih, mem_insert, List.mem_cons]
    constructor
    · rintro (h | h | h)
      · exact Or.inl (Or.inr h)
      · exact Or.inl (Or.inl h)
      · exact Or.inr h
    · rintro ((h | h) | h)
      · exact Or.inr (Or.inl h)
      · exact Or.inl h
      · exact Or.inr (Or.inr h)

theorem mem_ofList {ms : List String} {y : String} : y ∈ (ofList ms).members ↔ y ∈ ms := by
  simp [ofList, mem_insertAll, empty]

end MemberSet

end Keyspace
