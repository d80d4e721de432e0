import Keyspace.Proofs.Change

namespace Keyspace

open Store

/-- What a key stands for: the content of a live entry, or nothing where none is live. -/
inductive Store.ContentAt {α : Type} (view : Payload → Option α) (nothing : α) (s : Store)
    (k : String) (now : Int) : α → Prop where
  | absent : lookup s k now = none → ContentAt view nothing s k now nothing
  | live {e : Entry} {a : α} :
      lookup s k now = some e → view e.payload = some a → ContentAt view nothing s k now a

section Content

variable {α : Type} {view : Payload → Option α} {nothing a : α} {s : Store} {k : String}
  {now : Int} {h : Held α}

theorem contentAt_iff :
    ContentAt view nothing s k now a ↔ ∃ x, held view nothing s k now = .ok ⟨a, x⟩ := by
  constructor
  · rintro (hnone | ⟨hlive, hview⟩)
    · exact ⟨none, held_of_absent hnone⟩
    · exact ⟨_, held_of_live hlive hview⟩
  · rintro ⟨x, hx⟩
    cases hl : lookup s k now with
    | none =>
      cases held_absent hx hl
      exact .absent hl
    | some e =>
      cases hv : view e.payload with
      | none => simp [held, hl, hv] at hx
      | some b =>
        cases (held_of_live hl hv).symm.trans hx
        exact .live hl hv

theorem lookup_insert_of_held (hh : held view nothing s k now = .ok h) (p : Payload) :
    lookup (s.insert k ⟨p, h.expiresAt⟩) k now = some ⟨p, h.expiresAt⟩ := by
  rw [lookup_insert, if_pos rfl, Option.filter_some, if_pos (isLive_of_held hh p)]

theorem held_insert (hh : held view nothing s k now = .ok h) {p : Payload}
    (hp : view p = some a) :
    held view nothing (s.insert k ⟨p, h.expiresAt⟩) k now = .ok ⟨a, h.expiresAt⟩ :=
  held_of_live (lookup_insert_of_held hh p) hp

end Content

theorem Table.insert_insert {α : Type} (t : Table α) (k : String) (v w : α) :
    (t.insert k v).insert k w = t.insert k w := by
  apply ext_entries
  show assign k w (assign k v t.entries) = assign k w t.entries
  induction t.entries with
  | nil => simp [assign]
  | cons p ps ih =>
    by_cases h : p.1 = k
    · simp [assign, h]
    · simp only [assign, if_neg h, ih]

/-- The store that commands leave, all of them at one instant. -/
def Store.afterAll (now : Int) : Store → List Command → Store
  | s, [] => s
  | s, c :: cs => afterAll now ((c.outcome s now).after s) cs

/-- What the commands are replied, one after another. -/
def Store.replies (now : Int) : Store → List Command → List Reply
  | _, [] => []
  | s, c :: cs => (c.outcome s now).reply :: replies now ((c.outcome s now).after s) cs

/-- The store that command lines leave, all of them at one instant. -/
def Store.afterLines (limits : Limits) (now : Int) : Store → List String → Store
  | s, [] => s
  | s, line :: lines => afterLines limits now (s.afterLine limits line now) lines

/-- A line of this verb with these arguments, within the limits. -/
structure LineOf (limits : Limits) (v : Verb) (ws : List String) (line : String) : Prop where
  passes : (Request.ofLine line).Passes limits v
  arguments_eq : (Request.ofLine line).arguments = ws

section Lines

variable {limits : Limits} {line : String} {lines ws : List String} {v : Verb} {c : Command}
  {cs : List Command} {s : Store} {now : Int} {o : Outcome}

theorem LineOf.ofLine_eq (h : LineOf limits v ws line) (hc : Command.ofArguments v ws = .ok c) :
    Command.ofLine limits line = .ok c := by
  rw [Command.ofLine_of_passes h.passes, h.arguments_eq, hc]

theorem LineOf.execute_eq (h : LineOf limits v ws line) (hc : Command.ofArguments v ws = .ok c)
    (s : Store) (now : Int) : execute limits line s now = .ok (c.outcome s now) :=
  execute_of_ofLine (h.ofLine_eq hc)

theorem Store.afterLine_of_execute (h : execute limits line s now = .ok o) :
    s.afterLine limits line now = o.after s := by
  rw [afterLine, h]

/-- Lines do what the commands do that they are read as. -/
theorem afterLines_eq_afterAll
    (h : List.Forall₂ (fun line c => Command.ofLine limits line = .ok c) lines cs) (s : Store) :
    s.afterLines limits now lines = s.afterAll now cs := by
  induction h generalizing s with
  | nil => rfl
  | cons hline _ ih => rw [afterLines, afterAll, afterLine_of_execute (execute_of_ofLine hline), ih]

end Lines

end Keyspace
