import Keyspace.Command.Execute
import Keyspace.Proofs.Live
import Keyspace.Proofs.Reading

namespace Keyspace

open Store

/-- The verbs that work on the whole store. -/
def Verb.general : List Verb := [keys, info, flushall]

/-- The keys that a command names. -/
def Command.named : Command → List String
  | del ks | existing ks => ks
  | c => c.key?.toList

/-- The same reply, and the same done to both stores under keys that are named. -/
inductive SameUpdate (named : List String) (s₁ s₂ : Store) : Outcome → Outcome → Prop where
  | unchanged (r : Reply) : SameUpdate named s₁ s₂ (.unchanged r) (.unchanged r)
  | write {k : String} (hk : k ∈ named) (r : Reply) (e : Entry) :
      SameUpdate named s₁ s₂ (.changed r (s₁.insert k e)) (.changed r (s₂.insert k e))
  | takeOut {ks : List String} (hks : ks ⊆ named) (r : Reply) :
      SameUpdate named s₁ s₂ (.changed r (s₁.eraseAll ks)) (.changed r (s₂.eraseAll ks))

/-- Both fail for the same reason, or both have an outcome and do the same. -/
inductive SameRun (named : List String) (s₁ s₂ : Store) :
    Except Failure Outcome → Except Failure Outcome → Prop where
  | ok {o₁ o₂ : Outcome} : SameUpdate named s₁ s₂ o₁ o₂ → SameRun named s₁ s₂ (.ok o₁) (.ok o₂)
  | error (why : Failure) : SameRun named s₁ s₂ (.error why) (.error why)

namespace SameUpdate

variable {named : List String} {s₁ s₂ : Store} {o₁ o₂ : Outcome} {k : String}

theorem reply_eq (h : SameUpdate named s₁ s₂ o₁ o₂) : o₁.reply = o₂.reply := by
  cases h <;> rfl

theorem erase (r : Reply) (hk : k ∈ named) :
    SameUpdate named s₁ s₂ (.changed r (s₁.erase k)) (.changed r (s₂.erase k)) := by
  apply takeOut
  intro j hj
  rwa [List.mem_singleton.1 hj]

theorem get?_of_not_mem (h : SameUpdate named s₁ s₂ o₁ o₂) (hk : k ∉ named) :
    (o₂.after s₂).get? k = s₂.get? k := by
  cases h with
  | unchanged r => rfl
  | @write j hj r e =>
    have hne : k ≠ j := fun heq => hk (heq ▸ hj)
    show (s₂.insert j e).get? k = s₂.get? k
    rw [Table.get?_insert, if_neg hne]
  | @takeOut ks hks r =>
    have hmem : k ∉ ks := fun hj => hk (hks hj)
    show (s₂.eraseAll ks).get? k = s₂.get? k
    rw [Table.get?_eraseAll, if_neg hmem]

theorem get?_congr (h : SameUpdate named s₁ s₂ o₁ o₂) (hk : s₁.get? k = s₂.get? k) :
    (o₁.after s₁).get? k = (o₂.after s₂).get? k := by
  cases h with
  | unchanged r => exact hk
  | @write j hj r e =>
    show (s₁.insert j e).get? k = (s₂.insert j e).get? k
    rw [Table.get?_insert, Table.get?_insert, hk]
  | @takeOut ks hks r =>
    show (s₁.eraseAll ks).get? k = (s₂.eraseAll ks).get? k
    rw [Table.get?_eraseAll, Table.get?_eraseAll, hk]

end SameUpdate

section Commands

variable {now : Int} {s₁ s₂ : Store} {key : String}

theorem held_congr {α : Type} (h : lookup s₁ key now = lookup s₂ key now)
    (view : Payload → Option α) (nothing : α) :
    held view nothing s₁ key now = held view nothing s₂ key now := by
  unfold held
  rw [h]

/-- A command that works on the content under one key sees the same content in both stores. -/
theorem sameRun_map {α : Type} (h : lookup s₁ key now = lookup s₂ key now)
    (view : Payload → Option α) (nothing : α) {f₁ f₂ : Held α → Outcome}
    (hf : ∀ c, SameUpdate [key] s₁ s₂ (f₁ c) (f₂ c)) :
    SameRun [key] s₁ s₂ ((held view nothing s₁ key now).map f₁)
      ((held view nothing s₂ key now).map f₂) := by
  rw [held_congr h]
  cases held view nothing s₂ key now with
  | error why => exact .error why
  | ok c => exact .ok (hf c)

theorem sameUpdate_putBack {α : Type} (r : Reply) (key : String) (c : Held α) (p : Payload) :
    SameUpdate [key] s₁ s₂ (.changed r (s₁.putBack key c p)) (.changed r (s₂.putBack key c p)) :=
  .write List.mem_cons_self r ⟨p, c.expiresAt⟩

theorem holds_congr (h : lookup s₁ key now = lookup s₂ key now) :
    holds s₁ now key = holds s₂ now key := by
  rw [holds, holds, h]

theorem sameUpdate_del {ks : List String} (h : ∀ k ∈ ks, lookup s₁ k now = lookup s₂ k now) :
    SameUpdate ks s₁ s₂ (Store.del s₁ ks now) (Store.del s₂ ks now) := by
  have hlive : (distinct ks).filter (holds s₁ now) = (distinct ks).filter (holds s₂ now) := by
    apply List.filter_congr
    intro k hk
    exact holds_congr (h k (mem_distinct.1 hk))
  have hsub : (distinct ks).filter (holds s₂ now) ⊆ ks :=
    fun k hk => mem_distinct.1 (List.mem_filter.1 hk).1
  unfold Store.del
  rw [hlive]
  split
  · exact .unchanged _
  · exact .takeOut hsub _

theorem sameUpdate_countLive {ks : List String}
    (h : ∀ k ∈ ks, lookup s₁ k now = lookup s₂ k now) :
    SameUpdate ks s₁ s₂ (s₁.countLive ks now) (s₂.countLive ks now) := by
  have hcount : ks.countP (holds s₁ now) = ks.countP (holds s₂ now) := by
    apply List.countP_congr
    intro k hk
    rw [holds_congr (h k hk)]
  unfold Store.countLive
  rw [hcount]
  exact .unchanged _

theorem sameUpdate_expire (h : lookup s₁ key now = lookup s₂ key now) (seconds : Int) :
    SameUpdate [key] s₁ s₂ (Store.expire s₁ key seconds now)
      (Store.expire s₂ key seconds now) := by
  unfold Store.expire
  rw [h]
  split
  · exact .unchanged _
  · split
    · exact .erase _ List.mem_cons_self
    · exact .write List.mem_cons_self _ _

theorem sameUpdate_ttl (h : lookup s₁ key now = lookup s₂ key now) :
    SameUpdate [key] s₁ s₂ (Store.ttl s₁ key now) (Store.ttl s₂ key now) := by
  unfold Store.ttl
  rw [h]
  split
  · exact .unchanged _
  · split
    · exact .unchanged _
    · exact .unchanged _

theorem sameUpdate_persist (h : lookup s₁ key now = lookup s₂ key now) :
    SameUpdate [key] s₁ s₂ (Store.persist s₁ key now) (Store.persist s₂ key now) := by
  unfold Store.persist
  rw [h]
  split
  · exact .unchanged _
  · split
    · exact .write List.mem_cons_self _ _
    · exact .unchanged _

theorem sameRun_getText (h : lookup s₁ key now = lookup s₂ key now) :
    SameRun [key] s₁ s₂ (s₁.getText key now) (s₂.getText key now) := by
  apply sameRun_map h
  intro c
  split
  · exact .unchanged _
  · exact .unchanged _

theorem sameRun_popFront (h : lookup s₁ key now = lookup s₂ key now) :
    SameRun [key] s₁ s₂ (s₁.popFront key now) (s₂.popFront key now) := by
  apply sameRun_map h
  intro c
  split
  · exact .unchanged _
  · exact .erase _ List.mem_cons_self
  · exact sameUpdate_putBack _ key c _

theorem sameRun_addMembers (h : lookup s₁ key now = lookup s₂ key now) (members : List String) :
    SameRun [key] s₁ s₂ (s₁.addMembers key members now) (s₂.addMembers key members now) := by
  apply sameRun_map h
  intro c
  split
  · exact .unchanged _
  · exact sameUpdate_putBack _ key c _

theorem sameRun_getField (h : lookup s₁ key now = lookup s₂ key now) (field : String) :
    SameRun [key] s₁ s₂ (s₁.getField key field now) (s₂.getField key field now) := by
  apply sameRun_map h
  intro c
  split
  · exact .unchanged _
  · exact .unchanged _

theorem sameRun_run {c : Command} (hc : c.verb ∉ Verb.general)
    (h : ∀ k ∈ c.named, lookup s₁ k now = lookup s₂ k now) :
    SameRun c.named s₁ s₂ (c.run s₁ now) (c.run s₂ now) := by
  cases c with
  | set key value lifetime => exact .ok (.write List.mem_cons_self _ _)
  | del ks => exact .ok (sameUpdate_del h)
  | existing ks => exact .ok (sameUpdate_countLive h)
  | expire key seconds => exact .ok (sameUpdate_expire (h key List.mem_cons_self) seconds)
  | ttl key => exact .ok (sameUpdate_ttl (h key List.mem_cons_self))
  | persist key => exact .ok (sameUpdate_persist (h key List.mem_cons_self))
  | get key => exact sameRun_getText (h key List.mem_cons_self)
  | lpop key => exact sameRun_popFront (h key List.mem_cons_self)
  | sadd key members => exact sameRun_addMembers (h key List.mem_cons_self) members
  | hget key field => exact sameRun_getField (h key List.mem_cons_self) field
  -- these write back what they found, with more put in
  | lpush key | rpush key | hset key =>
    exact sameRun_map (h key List.mem_cons_self) _ _ fun c => sameUpdate_putBack _ key c _
  -- and these only look at it
  | lrange key | smembers key | sismember key | hgetall key =>
    exact sameRun_map (h key List.mem_cons_self) _ _ fun c => .unchanged _
  | keys | info | flushall => simp [Command.verb, Verb.general] at hc

theorem sameUpdate_outcome {c : Command} (hc : c.verb ∉ Verb.general)
    (h : ∀ k ∈ c.named, lookup s₁ k now = lookup s₂ k now) :
    SameUpdate c.named s₁ s₂ (c.outcome s₁ now) (c.outcome s₂ now) := by
  have hr := sameRun_run hc h
  unfold Command.outcome
  generalize c.run s₁ now = r₁ at hr ⊢
  generalize c.run s₂ now = r₂ at hr ⊢
  cases hr with
  | ok ho => exact ho
  | error why => exact .unchanged _

end Commands

end Keyspace
