import Keyspace.Proofs.Arguments
import Keyspace.Proofs.Change

namespace Keyspace

open Store

/-- The field names of a hash are among its texts. -/
def Payload.texts : Payload → List String
  | string text => [text]
  | list items => items
  | set members => members.members
  | hash fields => flatten fields

theorem mem_flatten {t : Table String} {x : String} :
    x ∈ flatten t ↔ ∃ p ∈ t.entries, x = p.1 ∨ x = p.2 := by
  simp [flatten, List.mem_flatMap]

theorem Table.mem_entries_insert {α : Type} {t : Table α} {k : String} {v : α} {p : String × α}
    (h : p ∈ (t.insert k v).entries) : p = (k, v) ∨ p ∈ t.entries := by
  rw [← get?_eq_some_iff, get?_insert] at h
  split at h
  · next hk =>
    cases h
    exact Or.inl (Prod.ext hk rfl)
  · exact Or.inr (t.get?_eq_some_iff.1 h)

theorem mem_flatten_writeFields {t : Table String} {fields : List (String × String)} {x : String}
    (h : x ∈ flatten (writeFields t fields).2) :
    x ∈ flatten t ∨ x ∈ fields.flatMap fun p => [p.1, p.2] := by
  induction fields generalizing t with
  | nil => exact Or.inl h
  | cons p fields ih =>
    rw [List.flatMap_cons, List.mem_append]
    rcases ih h with h | h
    · obtain ⟨q, hq, hx⟩ := mem_flatten.1 h
      rcases Table.mem_entries_insert hq with rfl | hq
      · exact Or.inr (Or.inl (by simpa using hx))
      · exact Or.inl (mem_flatten.2 ⟨q, hq, hx⟩)
    · exact Or.inr (Or.inr h)

section Makes

variable {α : Type} {view : Payload → Option α} {nothing : α} {s : Store} {now : Int}
  {c : Command} {k x : String} {e : Entry}

theorem texts_of_held {make : α → Payload} (hview : ∀ {p content}, view p = some content →
    p = make content) (hnothing : (make nothing).texts = []) {h : Held α}
    (hh : held view nothing s k now = .ok h) (hx : x ∈ (make h.content).texts) :
    ∃ a, lookup s k now = some a ∧ x ∈ a.payload.texts := by
  cases hl : lookup s k now with
  | none =>
    cases held_absent hh hl
    rw [hnothing] at hx
    cases hx
  | some a =>
    refine ⟨a, rfl, ?_⟩
    rw [held_live hview hh hl]
    exact hx

theorem Makes.write_texts (h : Makes s now c (.write k e)) :
    c.key? = some k ∧ ∀ x ∈ e.payload.texts,
      x ∈ c.texts ∨ ∃ a, lookup s k now = some a ∧ x ∈ a.payload.texts := by
  cases h with
  | set key value lifetime => exact ⟨rfl, fun x hx => Or.inl hx⟩
  | expire he _ => exact ⟨rfl, fun x hx => Or.inr ⟨_, he, hx⟩⟩
  | persist he _ => exact ⟨rfl, fun x hx => Or.inr ⟨_, he, hx⟩⟩
  | lpush hh =>
    refine ⟨rfl, fun x hx => ?_⟩
    rcases List.mem_append.1 hx with hx | hx
    · exact Or.inl (List.mem_reverse.1 hx)
    · exact Or.inr (texts_of_held list?_eq_some rfl hh hx)
  | rpush hh =>
    refine ⟨rfl, fun x hx => ?_⟩
    rcases List.mem_append.1 hx with hx | hx
    · exact Or.inr (texts_of_held list?_eq_some rfl hh hx)
    · exact Or.inl hx
  | lpop hh hc _ =>
    -- what is left of the list was behind its head
    refine ⟨rfl, fun x hx => Or.inr (texts_of_held list?_eq_some rfl hh ?_)⟩
    rw [hc]
    exact List.mem_cons_of_mem _ hx
  | sadd hh ha _ =>
    refine ⟨rfl, fun x hx => ?_⟩
    rcases MemberSet.mem_insertAll.1 hx with hx | hx
    · rw [← ha] at hx
      exact Or.inl (mem_distinct.1 (List.mem_filter.1 hx).1)
    · exact Or.inr (texts_of_held set?_eq_some rfl hh hx)
  | hset hh =>
    refine ⟨rfl, fun x hx => ?_⟩
    rcases mem_flatten_writeFields hx with hx | hx
    · exact Or.inr (texts_of_held hash?_eq_some rfl hh hx)
    · exact Or.inl hx

end Makes

end Keyspace
