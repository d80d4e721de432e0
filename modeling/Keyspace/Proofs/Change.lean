import Keyspace.Proofs.Live
import Keyspace.Proofs.Reading
import Keyspace.Proofs.Timeline

namespace Keyspace

open Store

/-- How a replacement differs from the store that it replaces. -/
inductive Change where
  | write (key : String) (e : Entry)
  | takeOut (keys : List String)
  | clear

def Change.apply (s : Store) : Change → Store
  | write key e => s.insert key e
  | takeOut ks => s.eraseAll ks
  | clear => Table.empty

/-- The changes that commands make to a store at an instant. -/
inductive Makes (s : Store) (now : Int) : Command → Change → Prop where
  | set (key value : String) (lifetime : Option Lifetime) :
      Makes s now (.set key value lifetime)
        (.write key ⟨.string value, lifetime.map fun t => now + t.milliseconds⟩)
  | del (ks : List String) : Makes s now (.del ks) (.takeOut ((distinct ks).filter (holds s now)))
  | expire {key : String} {seconds : Int} {e : Entry} :
      lookup s key now = some e → 0 < seconds →
        Makes s now (.expire key seconds)
          (.write key (e.withExpiry (some (now + seconds * 1000))))
  | expireAtOnce {key : String} {seconds : Int} {e : Entry} :
      lookup s key now = some e → seconds ≤ 0 → Makes s now (.expire key seconds) (.takeOut [key])
  | persist {key : String} {e : Entry} :
      lookup s key now = some e → e.isVolatile = true →
        Makes s now (.persist key) (.write key (e.withExpiry none))
  | lpush {key : String} {values : List String} {h : Held (List String)} :
      heldList s key now = .ok h →
        Makes s now (.lpush key values)
          (.write key ⟨.list (values.reverse ++ h.content), h.expiresAt⟩)
  | rpush {key : String} {values : List String} {h : Held (List String)} :
      heldList s key now = .ok h →
        Makes s now (.rpush key values) (.write key ⟨.list (h.content ++ values), h.expiresAt⟩)
  | lpop {key head : String} {rest : List String} {h : Held (List String)} :
      heldList s key now = .ok h → h.content = head :: rest → rest ≠ [] →
        Makes s now (.lpop key) (.write key ⟨.list rest, h.expiresAt⟩)
  | lpopLast {key head : String} {h : Held (List String)} :
      heldList s key now = .ok h → h.content = [head] → Makes s now (.lpop key) (.takeOut [key])
  | sadd {key : String} {members added : List String} {h : Held MemberSet} :
      heldSet s key now = .ok h →
      (distinct members).filter (fun m => !h.content.contains m) = added → added ≠ [] →
        Makes s now (.sadd key members) (.write key ⟨.set (h.content.insertAll added), h.expiresAt⟩)
  | hset {key : String} {fields : List (String × String)} {h : Held (Table String)} :
      heldHash s key now = .ok h →
        Makes s now (.hset key fields)
          (.write key ⟨.hash (writeFields h.content fields).2, h.expiresAt⟩)
  | flushall : Makes s now .flushall .clear

section Command

variable {s s' : Store} {now : Int} {c : Command}

theorem run_of_replacement (h : (c.outcome s now).replacement = some s') :
    ∃ o, c.run s now = .ok o ∧ o.replacement = some s' := by
  unfold Command.outcome at h
  split at h
  · next o ho => exact ⟨o, ho, h⟩
  · cases h

/-- One of the listed changes of the command leads from the one store to the other. -/
def Leads (s : Store) (now : Int) (c : Command) (s' : Store) : Prop :=
  ∃ ch, Makes s now c ch ∧ ch.apply s = s'

theorem leads_del {ks : List String} (hs : (Store.del s ks now).replacement = some s') :
    Leads s now (.del ks) s' := by
  unfold Store.del at hs
  split at hs
  · cases hs
  · cases hs
    exact ⟨_, .del ks, rfl⟩

theorem leads_expire {key : String} {seconds : Int}
    (hs : (Store.expire s key seconds now).replacement = some s') :
    Leads s now (.expire key seconds) s' := by
  unfold Store.expire at hs
  split at hs
  · cases hs
  · next e he =>
    split at hs
    · next hle =>
      cases hs
      exact ⟨_, .expireAtOnce he hle, rfl⟩
    · next hlt =>
      cases hs
      exact ⟨_, .expire he (by omega), rfl⟩

theorem leads_persist {key : String} (hs : (Store.persist s key now).replacement = some s') :
    Leads s now (.persist key) s' := by
  unfold Store.persist at hs
  split at hs
  · cases hs
  · next e he =>
    split at hs
    · next hv =>
      cases hs
      exact ⟨_, .persist he hv, rfl⟩
    · cases hs

theorem leads_flush (hs : s.flush.replacement = some s') : Leads s now .flushall s' := by
  unfold Store.flush at hs
  split at hs
  · cases hs
  · cases hs
    exact ⟨_, .flushall, rfl⟩

theorem leads_popFront {key : String} {o : Outcome} (ho : s.popFront key now = .ok o)
    (hs : o.replacement = some s') : Leads s now (.lpop key) s' := by
  obtain ⟨x, hx, rfl⟩ := exists_of_map_eq_ok ho
  split at hs
  · cases hs
  · next head hc =>
    cases hs
    exact ⟨_, .lpopLast hx hc, rfl⟩
  · next head rest hne hc =>
    cases hs
    exact ⟨_, .lpop hx hc hne, rfl⟩

theorem leads_addMembers {key : String} {members : List String} {o : Outcome}
    (ho : s.addMembers key members now = .ok o) (hs : o.replacement = some s') :
    Leads s now (.sadd key members) s' := by
  obtain ⟨x, hx, rfl⟩ := exists_of_map_eq_ok ho
  split at hs
  · cases hs
  · next hne =>
    cases hs
    exact ⟨_, .sadd hx rfl hne, rfl⟩

theorem leads_of_replacement (h : (c.outcome s now).replacement = some s') :
    Leads s now c s' := by
  obtain ⟨o, ho, hs⟩ := run_of_replacement h
  cases c with
  | set key value lifetime =>
    cases ho
    cases hs
    exact ⟨_, .set key value lifetime, rfl⟩
  | del ks =>
    cases ho
    exact leads_del hs
  | expire key seconds =>
    cases ho
    exact leads_expire hs
  | persist key =>
    cases ho
    exact leads_persist hs
  | flushall =>
    cases ho
    exact leads_flush hs
  | lpush key values =>
    obtain ⟨x, hx, rfl⟩ := exists_of_map_eq_ok ho
    cases hs
    exact ⟨_, .lpush hx, rfl⟩
  | rpush key values =>
    obtain ⟨x, hx, rfl⟩ := exists_of_map_eq_ok ho
    cases hs
    exact ⟨_, .rpush hx, rfl⟩
  | lpop key => exact leads_popFront ho hs
  | sadd key members => exact leads_addMembers ho hs
  | hset key fields =>
    obtain ⟨x, hx, rfl⟩ := exists_of_map_eq_ok ho
    cases hs
    exact ⟨_, .hset hx, rfl⟩
  -- the others only read
  | get | hget =>
    obtain ⟨x, -, rfl⟩ := exists_of_map_eq_ok ho
    split at hs <;> cases hs
  | lrange | smembers | sismember | hgetall =>
    obtain ⟨x, -, rfl⟩ := exists_of_map_eq_ok ho
    cases hs
  | ttl key =>
    cases ho
    simp only [Store.ttl] at hs
    split at hs
    · cases hs
    · split at hs <;> cases hs
  | existing | keys | info =>
    cases ho
    cases hs

theorem leads_of_execute {limits : Limits} {line : String} {o : Outcome}
    (h : execute limits line s now = .ok o) (hs : o.replacement = some s') :
    ∃ c, Command.ofLine limits line = .ok c ∧ Leads s now c s' := by
  rcases outcome_cases h with ⟨why, -, rfl⟩ | ⟨c, hc, rfl⟩
  · cases hs
  · exact ⟨c, hc, leads_of_replacement hs⟩

theorem change_of_execute {limits : Limits} {line : String} {o : Outcome}
    (h : execute limits line s now = .ok o) :
    o.after s = s ∨
      ∃ c ch, Command.ofLine limits line = .ok c ∧ Makes s now c ch ∧ o.after s = ch.apply s := by
  rw [Outcome.after]
  cases hr : o.replacement with
  | none => exact Or.inl rfl
  | some s' =>
    obtain ⟨c, hc, ch, hch, rfl⟩ := leads_of_execute h hr
    exact Or.inr ⟨c, ch, hc, hch, rfl⟩

end Command

/-- The entry that a command writes where nothing is live. -/
def Command.fresh? (now : Int) : Command → Option (String × Entry)
  | set key value lifetime =>
    some (key, ⟨.string value, lifetime.map fun t => now + t.milliseconds⟩)
  | lpush key values => some (key, ⟨.list values.reverse, none⟩)
  | rpush key values => some (key, ⟨.list values, none⟩)
  | sadd key members => some (key, ⟨.set (MemberSet.ofList members), none⟩)
  | hset key fields => some (key, ⟨.hash (Table.ofList fields), none⟩)
  | _ => none

section Makes

variable {α : Type} {view : Payload → Option α} {nothing : α} {s : Store} {now : Int}
  {c : Command} {k : String} {e a : Entry}

theorem held_absent {h : Held α} (hh : held view nothing s k now = .ok h)
    (hn : lookup s k now = none) : h = ⟨nothing, none⟩ := by
  rw [held_of_absent hn] at hh
  exact (Except.ok.inj hh).symm

theorem list?_eq_some {p : Payload} {items : List String} (h : p.list? = some items) :
    p = .list items := by
  cases p <;> cases h
  rfl

theorem set?_eq_some {p : Payload} {members : MemberSet} (h : p.set? = some members) :
    p = .set members := by
  cases p <;> cases h
  rfl

theorem hash?_eq_some {p : Payload} {fields : Table String} (h : p.hash? = some fields) :
    p = .hash fields := by
  cases p <;> cases h
  rfl

theorem held_live {make : α → Payload} (hview : ∀ {p content}, view p = some content →
    p = make content) {h : Held α} (hh : held view nothing s k now = .ok h)
    (ha : lookup s k now = some a) : a = ⟨make h.content, h.expiresAt⟩ := by
  unfold held at hh
  rw [ha] at hh
  dsimp only at hh
  split at hh
  · next content hv =>
    cases hh
    obtain ⟨p, x⟩ := a
    have hp : p = make content := hview hv
    rw [hp]
  · cases hh

theorem isLive_of_held {h : Held α} (hh : held view nothing s k now = .ok h) (p : Payload) :
    isLive now ⟨p, h.expiresAt⟩ = true := by
  unfold held at hh
  split at hh
  · cases hh
    rfl
  · next a ha =>
    split at hh
    · cases hh
      exact isLive_eq_true_iff.2 (lookup_eq_some_iff.1 ha).2
    · cases hh

/-- Members that are left out because they are there, or named twice, make no difference. -/
theorem insertAll_filter_distinct (members : List String) :
    MemberSet.empty.insertAll ((distinct members).filter fun m => !MemberSet.empty.contains m) =
      MemberSet.ofList members := by
  apply MemberSet.ext_mem
  intro y
  rw [MemberSet.mem_ofList, MemberSet.mem_insertAll]
  simp [MemberSet.empty, MemberSet.contains, mem_distinct]

theorem Makes.run_eq_ok {ch : Change} (h : Makes s now c ch) : ∃ o, c.run s now = .ok o := by
  cases h with
  | lpush hx => exact ⟨_, congrArg (Except.map _) hx⟩
  | rpush hx => exact ⟨_, congrArg (Except.map _) hx⟩
  | lpop hx _ _ => exact ⟨_, congrArg (Except.map _) hx⟩
  | lpopLast hx _ => exact ⟨_, congrArg (Except.map _) hx⟩
  | sadd hx _ _ => exact ⟨_, congrArg (Except.map _) hx⟩
  | hset hx => exact ⟨_, congrArg (Except.map _) hx⟩
  | _ => exact ⟨_, rfl⟩

theorem Makes.write_isLive (h : Makes s now c (.write k e)) : isLive now e = true := by
  cases h with
  | set key value lifetime =>
    cases lifetime with
    | none => rfl
    | some t =>
      have hahead : now < now + t.milliseconds := Int.lt_add_of_pos_right now t.positive
      exact (isLive_of_expiresAt rfl).2 hahead
  | expire _ hpos => exact (isLive_of_expiresAt rfl).2 (by omega)
  | persist => rfl
  | lpush hh | rpush hh | lpop hh | sadd hh | hset hh => exact isLive_of_held hh _

/-- Where nothing is live, what is written comes from the command alone. -/
theorem Makes.write_absent (h : Makes s now c (.write k e)) (hn : lookup s k now = none) :
    c.fresh? now = some (k, e) := by
  cases h with
  | set key value lifetime => rfl
  | expire he _ => cases hn.symm.trans he
  | persist he _ => cases hn.symm.trans he
  | lpush hx =>
    cases held_absent hx hn
    simp [Command.fresh?]
  | rpush hx =>
    cases held_absent hx hn
    rfl
  | lpop hx hc _ =>
    -- nothing is popped where nothing is held
    cases held_absent hx hn
    cases hc
  | sadd hx ha _ =>
    cases held_absent hx hn
    rw [← ha, insertAll_filter_distinct]
    rfl
  | hset hx =>
    cases held_absent hx hn
    rw [writeFields_snd]
    rfl

/-- Where an entry is live, only `SET` writes one of another kind, and only `EXPIRE` and `PERSIST`
write one with another expiry. -/
theorem Makes.write_live (h : Makes s now c (.write k e)) (ha : lookup s k now = some a) :
    (∃ value lifetime, c = .set k value lifetime) ∨
      e.kind = a.kind ∧
        (e.expiresAt = a.expiresAt ∨ (∃ seconds, c = .expire k seconds) ∨ c = .persist k) := by
  cases h with
  | set key value lifetime => exact Or.inl ⟨value, lifetime, rfl⟩
  -- every verb but `SET` writes over the entry that it found, and that is the live one
  | expire he _ =>
    cases ha.symm.trans he
    exact Or.inr ⟨rfl, Or.inr (Or.inl ⟨_, rfl⟩)⟩
  | persist he _ =>
    cases ha.symm.trans he
    exact Or.inr ⟨rfl, Or.inr (Or.inr rfl)⟩
  | lpush hx =>
    cases held_live list?_eq_some hx ha
    exact Or.inr ⟨rfl, Or.inl rfl⟩
  | rpush hx =>
    cases held_live list?_eq_some hx ha
    exact Or.inr ⟨rfl, Or.inl rfl⟩
  | lpop hx _ _ =>
    cases held_live list?_eq_some hx ha
    exact Or.inr ⟨rfl, Or.inl rfl⟩
  | sadd hx _ _ =>
    cases held_live set?_eq_some hx ha
    exact Or.inr ⟨rfl, Or.inl rfl⟩
  | hset hx =>
    cases held_live hash?_eq_some hx ha
    exact Or.inr ⟨rfl, Or.inl rfl⟩

/-- A key is taken out by name, because it is to expire at once, or with its last item. -/
theorem Makes.takeOut_cases {ks : List String} (h : Makes s now c (.takeOut ks)) (hk : k ∈ ks) :
    (∃ names, c = .del names ∧ k ∈ names) ∨ (∃ seconds, c = .expire k seconds) ∨
      c = .lpop k ∧ ∃ head x, lookup s k now = some ⟨.list [head], x⟩ := by
  cases h with
  | del names =>
    exact Or.inl ⟨names, rfl, mem_distinct.1 (List.mem_filter.1 hk).1⟩
  | expireAtOnce he _ =>
    cases List.mem_singleton.1 hk
    exact Or.inr (Or.inl ⟨_, rfl⟩)
  | lpopLast hx hc =>
    cases List.mem_singleton.1 hk
    refine Or.inr (Or.inr ⟨rfl, ?_⟩)
    cases hl : lookup s k now with
    | none =>
      cases held_absent hx hl
      cases hc
    | some a =>
      have ha := held_live list?_eq_some hx hl
      rw [hc] at ha
      exact ⟨_, _, congrArg some ha⟩

end Makes

/-- What a step can leave under a key. -/
inductive Step.Leaves (p : Step) (k : String) : Option Entry → Prop where
  | same : Leaves p k (p.before.get? k)
  | swept : Leaves p k (lookup p.before k p.instant)
  | written {c : Command} {e : Entry} :
      p.Runs c → Makes p.before p.instant c (.write k e) → Leaves p k (some e)
  | takenOut {c : Command} {ks : List String} :
      p.Runs c → Makes p.before p.instant c (.takeOut ks) → k ∈ ks → Leaves p k none
  | cleared : p.Runs .flushall → Leaves p k none

namespace Step

variable {p : Step}

/-- A step leaves the store, sweeps it or makes the change of its command. -/
theorem after_cases (p : Step) :
    p.after = p.before ∨ p.after = swept p.before p.instant ∨
      ∃ c ch, p.Runs c ∧ Makes p.before p.instant c ch ∧ p.after = ch.apply p.before := by
  cases hcmd : p.event.isCommand with
  | false =>
    rcases Host.store_perform_of_not_command hcmd p.host with h | h
    · exact Or.inl h
    · exact Or.inr (Or.inl h)
  | true =>
    obtain ⟨line, hline⟩ := Event.exists_line hcmd
    have hafter : p.after = p.before.afterLine p.host.limits line p.instant :=
      Host.store_perform_command hline p.host
    rw [hafter, afterLine]
    cases ho : execute p.host.limits line p.before p.instant with
    | error _ => exact Or.inl rfl
    | ok o =>
      rcases change_of_execute ho with h | ⟨c, ch, hc, hch, h⟩
      · exact Or.inl h
      · exact Or.inr (Or.inr ⟨c, ch, ⟨line, hline, hc⟩, hch, h⟩)

theorem leaves (p : Step) (k : String) : p.Leaves k (p.after.get? k) := by
  rcases p.after_cases with h | h | ⟨c, ch, hc, hch, h⟩
  · rw [h]
    exact .same
  · rw [h, get?_swept]
    exact .swept
  · rw [h]
    cases ch with
    | write key e =>
      rw [Change.apply, Table.get?_insert]
      -- a write under another key leaves this one
      split
      · next hk => exact .written hc (hk ▸ hch)
      · exact .same
    | takeOut ks =>
      rw [Change.apply, Table.get?_eraseAll]
      split
      · next hk => exact .takenOut hc hch hk
      · exact .same
    | clear =>
      cases hch
      exact .cleared hc

end Step

end Keyspace
