import Keyspace.Command.Basic

namespace Keyspace

theorem exists_of_map_eq_ok {ε α β : Type} {f : α → β} {x : Except ε α} {b : β}
    (h : x.map f = .ok b) : ∃ a, x = .ok a ∧ f a = b := by
  cases x with
  | error e => cases h
  | ok a => exact ⟨a, rfl, Except.ok.inj h⟩

theorem map_eq_error_iff {ε α β : Type} {f : α → β} {x : Except ε α} {e : ε} :
    x.map f = .error e ↔ x = .error e := by
  cases x <;> simp [Except.map]

/-- A request of this verb whose first argument is this key. -/
def Request.Names (r : Request) (v : Verb) (k : String) : Prop :=
  r.verb = some v ∧ r.arguments.head? = some k

/-- The checks in front of the arguments: a known verb, as many arguments as it takes, and none
that is too long. -/
structure Request.Passes (limits : Limits) (r : Request) (v : Verb) : Prop where
  verb_eq : r.verb = some v
  arity : v.arity.admits r.arguments.length = true
  lengths : limits.allow r.arguments = true

/-- The failures of reading, each with the check that it comes from. -/
inductive Request.Unread (limits : Limits) (r : Request) : Failure → Prop where
  | empty : r.name = "" → Unread limits r .emptyLine
  | unknown : r.verb = none → Unread limits r (.unknownCommand r.name)
  | number {v : Verb} :
      r.verb = some v → v.arity.admits r.arguments.length = false →
        Unread limits r (.wrongArity r.name)
  | tooLong : limits.allow r.arguments = false → Unread limits r .argumentTooLong
  | unpaired :
      r.Passes limits .hset → r.arguments.tail.length % 2 = 1 →
        Unread limits r (.wrongArity Verb.hset.spelling)
  | malformed {v : Verb} {why : Failure} :
      r.Passes limits v → why = .notInteger ∨ why = .malformed ∨ why = .invalidLifetime →
        Unread limits r why

theorem Arity.least_le_of_admits {a : Arity} {count : Nat} (h : a.admits count = true) :
    a.least ≤ count := by
  rw [admits, Bool.and_eq_true, decide_eq_true_eq] at h
  omega

theorem Arity.le_most_of_admits {a : Arity} {count most : Nat} (hmost : a.most = some most)
    (h : a.admits count = true) : count ≤ most := by
  rw [admits, hmost, Option.all_some, Bool.and_eq_true, decide_eq_true_eq,
    decide_eq_true_eq] at h
  omega

theorem Arity.eq_of_admits {n count : Nat} (h : (Arity.mk n (some n)).admits count = true) :
    count = n := by
  simp only [admits, Bool.and_eq_true, decide_eq_true_eq, Option.all_some] at h
  omega

theorem Verb.ofName?_empty : ofName? "" = none := by decide

theorem Request.verb_ofLine (line : String) :
    (ofLine line).verb = Verb.ofName? (ofLine line).name := by
  unfold ofLine
  cases Text.words (Text.trim line) with
  | nil => exact Verb.ofName?_empty.symm
  | cons word ws => simp only [ofWords]

theorem Request.name_ne_empty {line : String} {v : Verb} (h : (ofLine line).verb = some v) :
    (ofLine line).name ≠ "" := by
  intro hname
  rw [verb_ofLine, hname, Verb.ofName?_empty] at h
  cases h

namespace Command

/-- The verb that a command is read from. -/
def verb : Command → Verb
  | set .. => .set
  | get .. => .get
  | del .. => .del
  | existing .. => .existing
  | expire .. => .expire
  | ttl .. => .ttl
  | persist .. => .persist
  | lpush .. => .lpush
  | rpush .. => .rpush
  | lpop .. => .lpop
  | lrange .. => .lrange
  | sadd .. => .sadd
  | smembers .. => .smembers
  | sismember .. => .sismember
  | hset .. => .hset
  | hget .. => .hget
  | hgetall .. => .hgetall
  | keys .. => .keys
  | info .. => .info
  | flushall => .flushall

/-- The key that a command works on, where it works on one alone. -/
def key? : Command → Option String
  | set key .. | get key | expire key .. | ttl key | persist key | lpush key .. | rpush key ..
  | lpop key | lrange key .. | sadd key .. | smembers key | sismember key .. | hset key ..
  | hget key .. | hgetall key => some key
  | del .. | existing .. | keys .. | info .. | flushall => none

variable {limits : Limits} {line : String} {c : Command}

/-- The ways in which the arguments of a verb form a command. -/
inductive Formed : Verb → List String → Command → Prop where
  | set {key value : String} : Formed .set [key, value] (set key value none)
  | setFor {key value option amount : String} {t : Lifetime} :
      lifetime option amount = .ok t →
        Formed .set [key, value, option, amount] (set key value (some t))
  | get {key : String} : Formed .get [key] (get key)
  | del {ks : List String} : Formed .del ks (del ks)
  | existing {ks : List String} : Formed .existing ks (existing ks)
  | expire {key amount : String} {n : Int} :
      integer amount = .ok n → Formed .expire [key, amount] (expire key n)
  | ttl {key : String} : Formed .ttl [key] (ttl key)
  | persist {key : String} : Formed .persist [key] (persist key)
  | lpush {key : String} {values : List String} :
      Formed .lpush (key :: values) (lpush key values)
  | rpush {key : String} {values : List String} :
      Formed .rpush (key :: values) (rpush key values)
  | lpop {key : String} : Formed .lpop [key] (lpop key)
  | lrange {key start stop : String} {i j : Int} :
      integer start = .ok i → integer stop = .ok j →
        Formed .lrange [key, start, stop] (lrange key i j)
  | sadd {key : String} {members : List String} :
      Formed .sadd (key :: members) (sadd key members)
  | smembers {key : String} : Formed .smembers [key] (smembers key)
  | sismember {key member : String} : Formed .sismember [key, member] (sismember key member)
  | hset {key : String} {rest : List String} {fields : List (String × String)} :
      pairs? rest = some fields → Formed .hset (key :: rest) (hset key fields)
  | hget {key field : String} : Formed .hget [key, field] (hget key field)
  | hgetall {key : String} : Formed .hgetall [key] (hgetall key)
  | keys {pattern : String} : Formed .keys [pattern] (keys pattern)
  | info : Formed .info [] (info none)
  | infoOn {topic : String} : Formed .info [topic] (info (some topic))
  | flushall : Formed .flushall [] flushall

/-- The reasons for which the arguments of a verb form none. -/
inductive Refused : Verb → List String → Refusal → Prop where
  | unpaired {key value option : String} :
      Refused .set [key, value, option] (.failed .malformed)
  | lifetime {key value option amount : String} {refusal : Refusal} :
      lifetime option amount = .error refusal → Refused .set [key, value, option, amount] refusal
  | seconds {key amount : String} {refusal : Refusal} :
      integer amount = .error refusal → Refused .expire [key, amount] refusal
  | start {key start stop : String} {refusal : Refusal} :
      integer start = .error refusal → Refused .lrange [key, start, stop] refusal
  | stop {key start stop : String} {i : Int} {refusal : Refusal} :
      integer start = .ok i → integer stop = .error refusal →
        Refused .lrange [key, start, stop] refusal
  | arity {v : Verb} {ws : List String} : Refused v ws (.failed (.wrongArity v.spelling))

variable {v : Verb} {ws : List String}

theorem formed_or_refused (v : Verb) (ws : List String) :
    (∃ c, ofArguments v ws = .ok c ∧ Formed v ws c) ∨
      ∃ refusal, ofArguments v ws = .error refusal ∧ Refused v ws refusal := by
  unfold ofArguments
  split
  case h_2 => exact Or.inr ⟨_, rfl, .unpaired⟩
  case h_3 key value option amount =>
    cases ht : lifetime option amount with
    | error refusal => exact Or.inr ⟨refusal, rfl, .lifetime ht⟩
    | ok t => exact Or.inl ⟨_, rfl, .setFor ht⟩
  case h_7 key amount =>
    cases hn : integer amount with
    | error refusal => exact Or.inr ⟨refusal, rfl, .seconds hn⟩
    | ok n => exact Or.inl ⟨_, rfl, .expire hn⟩
  case h_13 key start stop =>
    cases hi : integer start with
    | error refusal => exact Or.inr ⟨refusal, rfl, .start hi⟩
    | ok i =>
      cases hj : integer stop with
      | error refusal => exact Or.inr ⟨refusal, rfl, .stop hi hj⟩
      | ok j => exact Or.inl ⟨_, rfl, .lrange hi hj⟩
  case h_17 key rest =>
    cases hfields : pairs? rest with
    | none => exact Or.inr ⟨_, rfl, .arity⟩
    | some fields => exact Or.inl ⟨_, rfl, .hset hfields⟩
  case h_24 => exact Or.inr ⟨_, rfl, .arity⟩
  -- every other verb takes its arguments as they are
  all_goals exact Or.inl ⟨_, rfl, by constructor⟩

theorem formed_of_ofArguments (h : ofArguments v ws = .ok c) : Formed v ws c := by
  rcases formed_or_refused v ws with ⟨c', hc', hformed⟩ | ⟨refusal, hrefusal, -⟩
  · cases h.symm.trans hc'
    exact hformed
  · cases h.symm.trans hrefusal

theorem refused_of_ofArguments {refusal : Refusal} (h : ofArguments v ws = .error refusal) :
    Refused v ws refusal := by
  rcases formed_or_refused v ws with ⟨c, hc, -⟩ | ⟨refusal', hrefusal', hrefused⟩
  · cases h.symm.trans hc
  · cases h.symm.trans hrefusal'
    exact hrefused

theorem verb_of_ofArguments (h : ofArguments v ws = .ok c) : c.verb = v := by
  cases formed_of_ofArguments h <;> rfl

theorem head?_of_ofArguments (h : ofArguments v ws = .ok c) {k : String} (hk : c.key? = some k) :
    ws.head? = some k := by
  cases formed_of_ofArguments h with
  | del | existing | keys | info | infoOn | flushall => cases hk
  | _ => exact hk

theorem arguments_of_several {ks : List String} (h : ofArguments v ws = .ok c)
    (hc : c = .del ks ∨ c = .existing ks) : ws = ks := by
  rcases hc with rfl | rfl
  · cases formed_of_ofArguments h
    rfl
  · cases formed_of_ofArguments h
    rfl

theorem ofLine_of_passes (h : (Request.ofLine line).Passes limits v) :
    ofLine limits line = ofArguments v (Request.ofLine line).arguments := by
  rw [ofLine, ofRequest, if_neg (Request.name_ne_empty h.verb_eq), h.verb_eq]
  simp only [h.arity, h.lengths, Bool.true_eq_false, if_false]

/-- A line passes the checks in front of its arguments, or fails for one of them. -/
theorem passes_or_unread (limits : Limits) (line : String) :
    (∃ v, (Request.ofLine line).Passes limits v) ∨
      ∃ why, (Request.ofLine line).Unread limits why ∧
        ofLine limits line = .error (.failed why) := by
  by_cases h : ∃ v, (Request.ofLine line).Passes limits v
  · exact Or.inl h
  · right
    -- in the order in which the checks are made
    unfold ofLine ofRequest
    split
    · next hname => exact ⟨_, .empty hname, rfl⟩
    · split
      · next hverb => exact ⟨_, .unknown hverb, rfl⟩
      · next v hverb =>
        split
        · next harity => exact ⟨_, .number hverb harity, rfl⟩
        · next harity =>
          split
          · next hlong => exact ⟨_, .tooLong hlong, rfl⟩
          · next hshort =>
            have hv : (Request.ofLine line).Passes limits v :=
              ⟨hverb, Bool.of_not_eq_false harity, Bool.of_not_eq_false hshort⟩
            exact absurd ⟨v, hv⟩ h

/-- A line whose arguments are wrong in number for its verb fails, for that reason unless one of
them is too long. -/
theorem failed_of_wrongArity (hv : (Request.ofLine line).verb = some v)
    (h : ofArguments v (Request.ofLine line).arguments = wrongArity v) :
    ∃ why, ofLine limits line = .error (.failed why) ∧
      (limits.allow (Request.ofLine line).arguments = true → ∃ name, why = .wrongArity name) := by
  rw [ofLine, ofRequest, if_neg (Request.name_ne_empty hv), hv]
  dsimp only
  rw [h]
  split
  · exact ⟨_, rfl, fun _ => ⟨_, rfl⟩⟩
  · split
    · next hlong => exact ⟨_, rfl, fun hl => absurd (hl.symm.trans hlong) nofun⟩
    · exact ⟨_, rfl, fun _ => ⟨_, rfl⟩⟩

theorem ofLine_eq_ok (h : ofLine limits line = .ok c) :
    (Request.ofLine line).Passes limits c.verb ∧
      ofArguments c.verb (Request.ofLine line).arguments = .ok c := by
  rcases passes_or_unread limits line with ⟨v, hv⟩ | ⟨why, -, hfailed⟩
  · rw [ofLine_of_passes hv] at h
    have hc : c.verb = v := verb_of_ofArguments h
    rw [hc]
    exact ⟨hv, h⟩
  · rw [hfailed] at h
    cases h

theorem verb_of_ofLine (h : ofLine limits line = .ok c) :
    (Request.ofLine line).verb = some c.verb :=
  (ofLine_eq_ok h).1.verb_eq

theorem verb_eq_of_ofLine (h : ofLine limits line = .ok c)
    (hv : (Request.ofLine line).verb = some v) : c.verb = v :=
  Option.some.inj ((verb_of_ofLine h).symm.trans hv)

theorem names_of_ofLine (h : ofLine limits line = .ok c) {k : String} (hk : c.key? = some k) :
    (Request.ofLine line).Names c.verb k := by
  obtain ⟨hpasses, ha⟩ := ofLine_eq_ok h
  exact ⟨hpasses.verb_eq, head?_of_ofArguments ha hk⟩

theorem integer_eq_ok {word : String} {n : Int} (h : Numeral.read word = .value n) :
    integer word = .ok n := by
  rw [integer, h]

theorem scale?_of_upper_eq_ex {option : String} (h : Text.upper option = "EX") :
    scale? option = some .seconds := by
  rw [scale?, if_pos h]

theorem scale?_of_upper_eq_px {option : String} (h : Text.upper option = "PX") :
    scale? option = some .milliseconds := by
  rw [scale?, if_neg (by rw [h]; decide), if_pos h]

theorem set_of_ofArguments {key value option amount : String} {n : Int} {u : Scale}
    (h : ofArguments .set [key, value, option, amount] = .ok c)
    (hn : Numeral.read amount = .value n) (hu : scale? option = some u) :
    ∃ t, c = .set key value (some t) ∧ t.milliseconds = n * u.factor := by
  cases formed_of_ofArguments h with
  | setFor ht =>
    refine ⟨_, rfl, ?_⟩
    simp only [lifetime, integer_eq_ok hn, hu] at ht
    split at ht
    · cases ht
      rfl
    · cases ht

theorem expire_of_ofArguments {key amount : String} {n : Int}
    (h : ofArguments .expire [key, amount] = .ok c) (hn : Numeral.read amount = .value n) :
    c = .expire key n := by
  cases formed_of_ofArguments h with
  | expire hm =>
    rw [integer_eq_ok hn] at hm
    cases hm
    rfl

end Command

end Keyspace
