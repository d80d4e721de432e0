import Keyspace.Proofs.ErrorMarker
import Keyspace.Proofs.Overlong
import Keyspace.Proofs.Refusals

namespace Keyspace

open Store

/-- The kind of content that a verb works on, if it works on one kind alone. -/
def Verb.family? : Verb → Option Kind
  | get => some .string
  | lpush | rpush | lpop | lrange => some .list
  | sadd | smembers | sismember => some .set
  | hset | hget | hgetall => some .hash
  | set | del | existing | expire | ttl | persist | keys | info | flushall => none

section Held

variable {α : Type} {view : Payload → Option α} {nothing : α} {kind : Kind} {s : Store}
  {key : String} {now : Int} {why : Failure} {f : Held α → Outcome}

theorem Payload.string?_eq_none_iff (p : Payload) : p.string? = none ↔ p.kind ≠ .string := by
  cases p <;> simp [string?, Payload.kind]

theorem Payload.list?_eq_none_iff (p : Payload) : p.list? = none ↔ p.kind ≠ .list := by
  cases p <;> simp [list?, Payload.kind]

theorem Payload.set?_eq_none_iff (p : Payload) : p.set? = none ↔ p.kind ≠ .set := by
  cases p <;> simp [set?, Payload.kind]

theorem Payload.hash?_eq_none_iff (p : Payload) : p.hash? = none ↔ p.kind ≠ .hash := by
  cases p <;> simp [hash?, Payload.kind]

/-- Looking for content of a kind fails exactly where a live entry is of another kind. -/
theorem held_eq_error_iff (hview : ∀ p, view p = none ↔ p.kind ≠ kind) :
    held view nothing s key now = .error why ↔
      why = .wrongKind ∧ ∃ e, lookup s key now = some e ∧ e.kind ≠ kind := by
  unfold held
  cases hl : lookup s key now with
  | none => simp
  | some e =>
    cases hv : view e.payload with
    | none =>
      have he : e.kind ≠ kind := (hview e.payload).1 hv
      simp only [hv, Except.error.injEq]
      exact ⟨fun h => ⟨h.symm, e, rfl, he⟩, fun h => h.1.symm⟩
    | some content =>
      have he : ¬ e.kind ≠ kind := by
        intro hne
        rw [(hview e.payload).2 hne] at hv
        cases hv
      simp [hv, he]

theorem map_held_eq_error_iff (hview : ∀ p, view p = none ↔ p.kind ≠ kind) :
    (held view nothing s key now).map f = .error why ↔
      why = .wrongKind ∧ ∃ e, lookup s key now = some e ∧ e.kind ≠ kind :=
  map_eq_error_iff.trans (held_eq_error_iff hview)

end Held

namespace Command

variable {c : Command} {v : Verb} {ws : List String} {kind : Kind} {s : Store} {now : Int}
  {why : Failure}

/-- A live entry of another kind than the command works on is under its key. -/
def Mismatch (c : Command) (s : Store) (now : Int) : Prop :=
  ∃ key kind e, c.key? = some key ∧ c.verb.family? = some kind ∧ lookup s key now = some e ∧
    e.kind ≠ kind

theorem mismatch_iff {key : String} (hkey : c.key? = some key)
    (hfamily : c.verb.family? = some kind) :
    c.Mismatch s now ↔ ∃ e, lookup s key now = some e ∧ e.kind ≠ kind := by
  constructor
  · rintro ⟨key', kind', e, hkey', hfamily', he⟩
    cases hkey.symm.trans hkey'
    cases hfamily.symm.trans hfamily'
    exact ⟨e, he⟩
  · rintro ⟨e, he⟩
    exact ⟨key, kind, e, hkey, hfamily, he⟩

theorem not_mismatch (hfamily : c.verb.family? = none) : ¬ c.Mismatch s now := by
  rintro ⟨key, kind, e, -, hfamily', -⟩
  cases hfamily.symm.trans hfamily'

/-- A command that has been read fails for a mismatch, and for nothing else. -/
theorem run_eq_error_iff : c.run s now = .error why ↔ why = .wrongKind ∧ c.Mismatch s now := by
  cases c with
  | get key =>
    have hview (p : Payload) : p.string?.map some = none ↔ p.kind ≠ .string := by
      rw [Option.map_eq_none_iff, Payload.string?_eq_none_iff]
    rw [mismatch_iff rfl rfl]
    exact map_held_eq_error_iff hview
  | lpush | rpush | lpop | lrange =>
    rw [mismatch_iff rfl rfl]
    exact map_held_eq_error_iff Payload.list?_eq_none_iff
  | sadd | smembers | sismember =>
    rw [mismatch_iff rfl rfl]
    exact map_held_eq_error_iff Payload.set?_eq_none_iff
  | hset | hget | hgetall =>
    rw [mismatch_iff rfl rfl]
    exact map_held_eq_error_iff Payload.hash?_eq_none_iff
  | set | del | existing | expire | ttl | persist | keys | info | flushall =>
    exact ⟨nofun, fun h => absurd h.2 (not_mismatch rfl)⟩

theorem exists_key_of_family (hfamily : c.verb.family? = some kind) : ∃ k, c.key? = some k := by
  cases c with
  | set | del | existing | expire | ttl | persist | keys | info | flushall => cases hfamily
  | _ => exact ⟨_, rfl⟩

end Command

/-- Both indices of a slice are integers, and every field to be written comes with its value. -/
structure Verb.Suits (v : Verb) (ws : List String) : Prop where
  indices : v = .lrange → ∀ w ∈ ws.tail, ∃ ds, Numeral.Spells w ds
  pairs : v = .hset → ws.tail.length % 2 = 0

namespace Command

variable {c : Command} {v : Verb} {ws : List String} {kind : Kind} {why : Failure}

theorem exists_lrange_iff {key start stop : String} :
    (∃ c, ofArguments .lrange [key, start, stop] = .ok c) ↔
      Numeral.Readable start ∧ Numeral.Readable stop := by
  rw [← exists_integer_eq_ok_iff, ← exists_integer_eq_ok_iff]
  simp only [ofArguments]
  cases integer start with
  | error refusal => simp
  | ok i => cases integer stop <;> simp [Except.map]

theorem exists_hset_iff {key : String} :
    (∃ c, ofArguments .hset (key :: ws) = .ok c) ↔ ws.length % 2 = 0 := by
  rw [← isSome_pairs?_iff]
  simp only [ofArguments]
  cases pairs? ws <;> simp [wrongArity]

theorem suits_of_ofArguments (h : ofArguments v ws = .ok c) : v.Suits ws := by
  constructor
  · rintro rfl w hw
    cases formed_of_ofArguments h with
    | lrange hstart hstop =>
      obtain ⟨ds, hds, -⟩ := exists_integer_eq_ok_iff.1 ⟨_, hstart⟩
      obtain ⟨ds', hds', -⟩ := exists_integer_eq_ok_iff.1 ⟨_, hstop⟩
      rcases List.mem_pair.1 hw with rfl | rfl
      · exact ⟨ds, hds⟩
      · exact ⟨ds', hds'⟩
  · rintro rfl
    cases formed_of_ofArguments h with
    | hset hfields => exact (isSome_pairs?_iff _).1 (Option.isSome_of_eq_some hfields)

/-- A verb that works on one kind of content gives a command, once the number of its arguments is
right, if they suit it and are short enough to be read. -/
theorem exists_ofArguments (hfamily : v.family? = some kind)
    (harity : v.arity.admits ws.length = true) (hsuits : v.Suits ws)
    (hends : ∀ n, ¬ EndsAt v ws n) : ∃ c, ofArguments v ws = .ok c := by
  have hleast := Arity.least_le_of_admits harity
  cases v with
  | get | lpop | smembers | hgetall =>
    obtain ⟨key, rfl⟩ := List.length_eq_one_iff.1 (Arity.eq_of_admits harity)
    exact ⟨_, rfl⟩
  | sismember | hget =>
    obtain ⟨key, x, rfl⟩ := List.length_eq_two.1 (Arity.eq_of_admits harity)
    exact ⟨_, rfl⟩
  | lpush | rpush | sadd =>
    cases ws with
    | nil => cases hleast
    | cons key rest => exact ⟨_, rfl⟩
  | lrange =>
    obtain ⟨key, start, stop, rfl⟩ := List.length_eq_three.1 (Arity.eq_of_admits harity)
    obtain ⟨ds, hds⟩ := hsuits.indices rfl start (by simp)
    obtain ⟨ds', hds'⟩ := hsuits.indices rfl stop (by simp)
    -- the second index is read only once the first has been
    have hstart := hds.readable fun n hlong => hends n (.start hlong)
    have hstop := hds'.readable fun n hlong => hends n (.stop hstart hlong)
    exact exists_lrange_iff.2 ⟨hstart, hstop⟩
  | hset =>
    cases ws with
    | nil => cases hleast
    | cons key rest => exact exists_hset_iff.2 (hsuits.pairs rfl)
  | set | del | existing | expire | ttl | persist | keys | info | flushall => cases hfamily

end Command

/-- A live entry is under the first argument of the request, and not of the kind that the verb
works on, though the arguments pass every check. -/
inductive Request.Clashes (limits : Limits) (r : Request) (s : Store) (now : Int) : Prop where
  | intro {v : Verb} {key : String} {kind : Kind} {e : Entry} :
      r.Passes limits v → v.family? = some kind → v.Suits r.arguments →
      r.arguments.head? = some key → lookup s key now = some e → e.kind ≠ kind →
        Clashes limits r s now

section Line

variable {limits : Limits} {line : String} {s : Store} {now : Int} {c : Command} {why : Failure}
  {o : Outcome}

theorem kind_of_ofLine_failed (h : Command.ofLine limits line = .error (.failed why)) :
    why.kind ≠ .wrongKind := by
  cases Command.unread_of_ofLine h with
  | empty | tooLong => decide
  | unknown | number | unpaired => exact nofun
  | malformed _ hwhy => rcases hwhy with rfl | rfl | rfl <;> decide

theorem clashes_of_mismatch (hc : Command.ofLine limits line = .ok c) (h : c.Mismatch s now) :
    (Request.ofLine line).Clashes limits s now := by
  obtain ⟨hpasses, hargs⟩ := Command.ofLine_eq_ok hc
  obtain ⟨key, kind, e, hkey, hfamily, he, hne⟩ := h
  exact .intro hpasses hfamily (Command.suits_of_ofArguments hargs)
    (Command.head?_of_ofArguments hargs hkey) he hne

theorem mismatch_of_ofLine {v : Verb} {key : String} {kind : Kind} {e : Entry}
    (hc : Command.ofLine limits line = .ok c) (hverb : (Request.ofLine line).verb = some v)
    (hfamily : v.family? = some kind) (hhead : (Request.ofLine line).arguments.head? = some key)
    (he : lookup s key now = some e) (hne : e.kind ≠ kind) : c.Mismatch s now := by
  rw [← Command.verb_eq_of_ofLine hc hverb] at hfamily
  obtain ⟨key', hkey⟩ := Command.exists_key_of_family hfamily
  cases hhead.symm.trans (Command.names_of_ofLine hc hkey).2
  exact ⟨key, kind, e, hkey, hfamily, he, hne⟩

/-- Where a line has an outcome, a clash means that it is read as a command that fails. -/
theorem mismatch_of_clashes (h : execute limits line s now = .ok o)
    (hclash : (Request.ofLine line).Clashes limits s now) :
    ∃ c, Command.ofLine limits line = .ok c ∧ c.Mismatch s now := by
  obtain @⟨v, key, kind, e, hpasses, hfamily, hsuits, hhead, he, hne⟩ := hclash
  have hends : ∀ n, ¬ Command.EndsAt v (Request.ofLine line).arguments n := by
    intro n hends
    have hnone : execute limits line s now = .error ⟨n⟩ :=
      execute_eq_error_iff.2 (Command.ofLine_eq_tooLong_iff.2 ⟨v, hpasses, hends⟩)
    cases hnone.symm.trans h
  obtain ⟨c, hargs⟩ := Command.exists_ofArguments hfamily hpasses.arity hsuits hends
  have hc : Command.ofLine limits line = .ok c := by rw [Command.ofLine_of_passes hpasses, hargs]
  exact ⟨c, hc, mismatch_of_ofLine hc hpasses.verb_eq hfamily hhead he hne⟩

theorem outcome_of_clashes (h : execute limits line s now = .ok o)
    (hclash : (Request.ofLine line).Clashes limits s now) : o = .ofFailure .wrongKind := by
  obtain ⟨c, hc, hmismatch⟩ := mismatch_of_clashes h hclash
  have hrun : c.run s now = .error .wrongKind := Command.run_eq_error_iff.2 ⟨rfl, hmismatch⟩
  cases h.symm.trans (execute_of_ofLine hc)
  rw [Command.outcome, hrun]

theorem clashes_of_errorKind? (h : execute limits line s now = .ok o)
    (hkind : o.reply.errorKind? = some .wrongKind) :
    (Request.ofLine line).Clashes limits s now := by
  rcases raises_or_answer h with ⟨why, hraises, rfl⟩ | ⟨hanswer, -⟩
  · have hwhy : why.kind = .wrongKind := Option.some.inj hkind
    cases hraises with
    | reading hfailed => exact absurd hwhy (kind_of_ofLine_failed hfailed)
    | running hc hrun => exact clashes_of_mismatch hc (Command.run_eq_error_iff.1 hrun).2
  · have hnone := Reply.isSome_errorKind? o.reply
    rw [hkind, Reply.isError_of_isAnswer hanswer] at hnone
    cases hnone

/-- A line for content of one kind fails, one way or another, over a live entry of another. -/
theorem raises_of_other_kind {v : Verb} {key : String} {kind : Kind} {e : Entry}
    (h : execute limits line s now = .ok o) (hverb : (Request.ofLine line).verb = some v)
    (hfamily : v.family? = some kind) (hhead : (Request.ofLine line).arguments.head? = some key)
    (he : lookup s key now = some e) (hne : e.kind ≠ kind) : ∃ why, Raises limits line s now why := by
  rcases outcome_cases h with ⟨why, hwhy, -⟩ | ⟨c, hc, -⟩
  · exact ⟨why, .reading hwhy⟩
  · have hmismatch := mismatch_of_ofLine hc hverb hfamily hhead he hne
    exact ⟨.wrongKind, .running hc (Command.run_eq_error_iff.2 ⟨rfl, hmismatch⟩)⟩

/-- The failure for a wrong kind is replied just where the line gets past every check in front of
the store and a live entry of another kind is under its key. -/
theorem wrong_kind_iff_clash (h : execute limits line s now = .ok o) :
    (o.reply = Failure.wrongKind.reply ↔ (Request.ofLine line).Clashes limits s now) ∧
    (o.reply.errorKind? = some .wrongKind ↔ (Request.ofLine line).Clashes limits s now) ∧
    (∀ key, (Request.ofLine line).arguments.head? = some key → lookup s key now = none →
      o.reply.errorKind? ≠ some .wrongKind) ∧
    (∀ v, (Request.ofLine line).verb = some v → v.family? = none →
      o.reply.errorKind? ≠ some .wrongKind) ∧
    ∀ v key kind e, (Request.ofLine line).verb = some v → v.family? = some kind →
      (Request.ofLine line).arguments.head? = some key → lookup s key now = some e →
      e.kind ≠ kind → o.reply.isError = true ∧ o.replacement = none := by
  have hreply : (Request.ofLine line).Clashes limits s now → o.reply = Failure.wrongKind.reply :=
    fun hclash => congrArg Outcome.reply (outcome_of_clashes h hclash)
  have hkind : o.reply = Failure.wrongKind.reply → o.reply.errorKind? = some .wrongKind :=
    fun hreply => congrArg Reply.errorKind? hreply
  have hclash := clashes_of_errorKind? h
  refine ⟨⟨hclash ∘ hkind, hreply⟩, ⟨hclash, hkind ∘ hreply⟩, ?_, ?_, ?_⟩
  · intro key hhead hnone hwrong
    obtain ⟨-, -, -, hhead', he, -⟩ := hclash hwrong
    cases hhead.symm.trans hhead'
    cases hnone.symm.trans he
  · intro v hverb hnone hwrong
    obtain ⟨hpasses, hfamily, -, -, -, -⟩ := hclash hwrong
    cases hverb.symm.trans hpasses.verb_eq
    cases hnone.symm.trans hfamily
  · intro v key kind e hverb hfamily hhead he hne
    obtain ⟨hraises, hatomic, -⟩ := isError_iff_raises h
    have herror := hraises.2 (raises_of_other_kind h hverb hfamily hhead he hne)
    exact ⟨herror, hatomic herror⟩

end Line

/-- A text, and a set that expires. -/
def textAndBriefSet : Store :=
  ⟨[("t", ⟨.string "v", none⟩), ("s", ⟨.set ⟨["m"], by decide⟩, some 3⟩)], by decide⟩

/-- A push fails on the text, and makes a list of the set once that has expired. -/
theorem wrong_kind_iff_clash_push :
    (∃ o, execute {} "LPUSH t x" textAndBriefSet 5 = .ok o ∧ o.reply = Failure.wrongKind.reply) ∧
    ∃ o, execute {} "LPUSH s x" textAndBriefSet 5 = .ok o ∧
      o.reply.errorKind? ≠ some .wrongKind := by
  have hline : Request.ofLine "LPUSH t x" = ⟨some .lpush, "LPUSH", ["t", "x"], "LPUSH t x"⟩ := by
    decide +kernel
  have hclash : (Request.ofLine "LPUSH t x").Clashes {} textAndBriefSet 5 := by
    rw [hline]
    exact .intro ⟨rfl, rfl, by decide⟩ rfl ⟨nofun, nofun⟩ rfl rfl (by decide)
  have hlive : execute {} "LPUSH t x" textAndBriefSet 5 = .ok (.ofFailure .wrongKind) := rfl
  have hexpired : execute {} "LPUSH s x" textAndBriefSet 5 =
      .ok (.changed (.integer 1) (textAndBriefSet.insert "s" ⟨.list ["x"], none⟩)) := rfl
  have hhead : (Request.ofLine "LPUSH s x").arguments.head? = some "s" := by decide +kernel
  exact ⟨⟨_, hlive, (wrong_kind_iff_clash hlive).1.2 hclash⟩,
    ⟨_, hexpired, (wrong_kind_iff_clash hexpired).2.2.1 "s" hhead rfl⟩⟩

end Keyspace
