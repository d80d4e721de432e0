import Keyspace.Proofs.AllEntries
import Keyspace.Proofs.StoredTexts

namespace Keyspace

open Store

namespace Payload

/-- Whether content of the kind is found in the payload. -/
def shows (p : Payload) : Kind → Bool
  | .string => p.string?.isSome
  | .list => p.list?.isSome
  | .set => p.set?.isSome
  | .hash => p.hash?.isSome

theorem shows_iff (p : Payload) (kind : Kind) : p.shows kind = true ↔ p.kind = kind := by
  cases p <;> cases kind <;> simp [shows, Payload.kind, string?, list?, set?, hash?]

/-- A list, a set or a hash with nothing in it. -/
def isEmpty : Payload → Bool
  | string _ => false
  | list items => items.isEmpty
  | set members => members.members.isEmpty
  | hash fields => fields.isEmpty

end Payload

structure Entry.WellFormed (limits : Limits) (e : Entry) : Prop where
  shape : ∀ kind, e.payload.shows kind = true ↔ e.kind = kind
  nonempty : e.payload.isEmpty = false
  texts : ∀ x ∈ e.payload.texts, Fits limits.value x
  distinct_fields : ∀ fields, e.payload = .hash fields → fields.keys.Nodup

structure Store.WellFormed (limits : Limits) (s : Store) : Prop where
  distinct_keys : s.keys.Nodup
  key : ∀ k e, (k, e) ∈ s.entries → Fits limits.key k
  entry : ∀ k e, (k, e) ∈ s.entries → e.WellFormed limits

theorem Table.isEmpty_insert {α : Type} (t : Table α) (k : String) (v : α) :
    (t.insert k v).isEmpty = false := by
  have hk : (t.insert k v).get? k = some v := by rw [get?_insert, if_pos rfl]
  exact List.isEmpty_eq_false_iff.2 (List.ne_nil_of_mem ((get?_eq_some_iff _).1 hk))

theorem isEmpty_writeFields {t : Table String} {fields : List (String × String)}
    (h : fields ≠ [] ∨ t.isEmpty = false) : (writeFields t fields).2.isEmpty = false := by
  induction fields generalizing t with
  | nil => exact h.resolve_left fun hne => hne rfl
  | cons p fields ih => exact ih (Or.inr (t.isEmpty_insert p.1 p.2))

theorem Makes.write_nonempty {s : Store} {now : Int} {c : Command} {k : String} {e : Entry}
    (h : Makes s now c (.write k e))
    (hnew : c.verb ∈ [Verb.set, .lpush, .rpush, .sadd, .hset] → c.texts ≠ [])
    (hold : ∀ a, lookup s k now = some a → a.payload.isEmpty = false) :
    e.payload.isEmpty = false := by
  cases h with
  | set => rfl
  | @expire _ _ a he _ => exact hold a he
  | @persist _ a he _ => exact hold a he
  | @lpush _ values =>
    have hvalues : values ≠ [] := hnew (by simp [Command.verb])
    simp [Payload.isEmpty, hvalues]
  | @rpush _ values =>
    have hvalues : values ≠ [] := hnew (by simp [Command.verb])
    simp [Payload.isEmpty, hvalues]
  -- a list that loses its last item is taken out instead
  | lpop _ _ hne => exact List.isEmpty_eq_false_iff.2 hne
  | sadd _ _ hne =>
    obtain ⟨m, hm⟩ := List.exists_mem_of_ne_nil _ hne
    exact List.isEmpty_eq_false_iff.2 (List.ne_nil_of_mem (MemberSet.mem_insertAll.2 (Or.inl hm)))
  | hset =>
    have hfields := hnew (by simp [Command.verb])
    apply isEmpty_writeFields
    left
    rintro rfl
    exact hfields rfl

theorem Makes.write_wellFormed {limits : Limits} {line : String} {s : Store} {now : Int}
    {c : Command} {k : String} {e : Entry} (h : Makes s now c (.write k e))
    (hs : s.All fun k e => Fits limits.key k ∧ e.WellFormed limits)
    (hc : Command.ofLine limits line = .ok c) : Fits limits.key k ∧ e.WellFormed limits := by
  obtain ⟨hkey, htexts⟩ := Command.fits_of_ofLine hc
  obtain ⟨hk, hwrite⟩ := h.write_texts
  have hlive : ∀ a, lookup s k now = some a → a.WellFormed limits :=
    fun a ha => (hs k a (lookup_eq_some_iff.1 ha).1).2
  refine ⟨hkey k hk, e.payload.shows_iff, ?_, ?_, fun fields _ => fields.nodup_names⟩
  · exact h.write_nonempty (Command.texts_ne_nil hc) fun a ha => (hlive a ha).nonempty
  · intro x hx
    rcases hwrite x hx with hx | ⟨a, ha, hx⟩
    · exact htexts x hx
    · exact (hlive a ha).texts x hx

/-- Every store that a timeline leads to from the empty store is well formed, for the limits of
its host. -/
theorem reachable_wellFormed (limits : Limits) (w : Sweeper) (es : List Event) :
    (Host.after { limits := limits, sweeper := w } es).store.WellFormed limits := by
  have hall : Store.All (fun k e => Fits limits.key k ∧ e.WellFormed limits)
      (Host.after { limits := limits, sweeper := w } es).store := by
    refine Host.all_after es Store.All.empty ?_
    intro s now line c k e hs hc hch
    exact hch.write_wellFormed hs hc
  refine ⟨Table.nodup_names _, ?_, ?_⟩
  · intro k e he
    exact (hall k e ((Table.get?_eq_some_iff _).2 he)).1
  · intro k e he
    exact (hall k e ((Table.get?_eq_some_iff _).2 he)).2

end Keyspace
