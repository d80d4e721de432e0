import Mathlib.Data.List.Basic
import Keyspace.Proofs.Arguments
import Keyspace.Proofs.Numerals

namespace Keyspace

namespace Command

variable {limits : Limits} {line : String} {v : Verb} {ws : List String} {why : Failure}

theorem failed_of_integer {word : String} (h : integer word = .error (.failed why)) :
    why = .notInteger :=
  (integer_eq_failed_iff.1 h).1

theorem failed_of_lifetime {option amount : String}
    (h : lifetime option amount = .error (.failed why)) :
    why = .notInteger ∨ why = .malformed ∨ why = .invalidLifetime := by
  unfold lifetime at h
  split at h
  · next hamount =>
    cases h
    exact Or.inl (failed_of_integer hamount)
  · split at h
    · cases h
      exact Or.inr (Or.inl rfl)
    · split at h
      · cases h
      · cases h
        exact Or.inr (Or.inr rfl)

/-- Arguments whose number is right are still wrong in number for `HSET`, if a field is without a
value, and for no other verb. -/
theorem unpaired_of_ofArguments (harity : v.arity.admits ws.length = true)
    (h : ofArguments v ws = wrongArity v) : v = .hset ∧ ws.tail.length % 2 = 1 := by
  have hleast := Arity.least_le_of_admits harity
  cases v with
  | hset =>
    cases ws with
    | nil => cases hleast
    | cons key rest =>
      simp only [ofArguments] at h
      split at h
      · cases h
      · next hnone => exact ⟨rfl, (pairs?_eq_none_iff rest).1 hnone⟩
  -- with the right number of words every other verb gives a command or fails for another reason
  | get | ttl | persist | lpop | smembers | hgetall | keys =>
    obtain ⟨key, rfl⟩ := List.length_eq_one_iff.1 (Arity.eq_of_admits harity)
    cases h
  | sismember | hget =>
    obtain ⟨key, x, rfl⟩ := List.length_eq_two.1 (Arity.eq_of_admits harity)
    cases h
  | expire =>
    obtain ⟨key, seconds, rfl⟩ := List.length_eq_two.1 (Arity.eq_of_admits harity)
    cases failed_of_integer (map_eq_error_iff.1 h)
  | lrange =>
    obtain ⟨key, start, stop, rfl⟩ := List.length_eq_three.1 (Arity.eq_of_admits harity)
    simp only [ofArguments] at h
    split at h
    · next hstart =>
      cases h
      cases failed_of_integer hstart
    · cases failed_of_integer (map_eq_error_iff.1 h)
  | lpush | rpush | sadd =>
    cases ws with
    | nil => cases hleast
    | cons key rest => cases h
  | del | existing => cases h
  | info =>
    have hmost : ws.length ≤ 1 := Arity.le_most_of_admits rfl harity
    match ws with
    | [] | [_] => cases h
    | _ :: _ :: _ =>
      rw [List.length_cons, List.length_cons] at hmost
      omega
  | flushall =>
    cases List.length_eq_zero_iff.1 (Arity.eq_of_admits harity)
    cases h
  | set =>
    have htwo : 2 ≤ ws.length := hleast
    have hmost : ws.length ≤ 4 := Arity.le_most_of_admits rfl harity
    match ws with
    | [] | [_] => simp at htwo
    | [_, _] | [_, _, _] => cases h
    | [_, _, _, _] =>
      rcases failed_of_lifetime (map_eq_error_iff.1 h) with hw | hw | hw <;> cases hw
    | _ :: _ :: _ :: _ :: _ :: _ =>
      simp only [List.length_cons] at hmost
      omega

end Command

namespace Request.Unread

variable {limits : Limits} {r : Request} {name : String}

theorem name_eq (h : r.Unread limits (.unknownCommand name)) : r.name = name := by
  cases h with
  | unknown => rfl
  | malformed _ hwhy => rcases hwhy with hwhy | hwhy | hwhy <;> cases hwhy

theorem wrongArity_cases (h : r.Unread limits (.wrongArity name)) :
    (∃ v, r.verb = some v ∧ v.arity.admits r.arguments.length = false ∧ r.name = name) ∨
      r.Passes limits .hset ∧ r.arguments.tail.length % 2 = 1 ∧ Verb.hset.spelling = name := by
  cases h with
  | number hverb harity => exact Or.inl ⟨_, hverb, harity, rfl⟩
  | unpaired hpasses hodd => exact Or.inr ⟨hpasses, hodd, rfl⟩
  | malformed _ hwhy => rcases hwhy with hwhy | hwhy | hwhy <;> cases hwhy

end Request.Unread

namespace Command

variable {limits : Limits} {line : String} {v : Verb} {why : Failure}

theorem unread_of_passes (hpasses : (Request.ofLine line).Passes limits v)
    (h : ofLine limits line = .error (.failed why)) :
    (Request.ofLine line).Unread limits why := by
  rw [ofLine_of_passes hpasses] at h
  have harity := hpasses.arity
  generalize hws : (Request.ofLine line).arguments = ws at h harity
  have hargs := h
  cases refused_of_ofArguments h with
  | unpaired => exact .malformed hpasses (Or.inr (Or.inl rfl))
  | lifetime ht => exact .malformed hpasses (failed_of_lifetime ht)
  | seconds hn | start hn | stop _ hn => exact .malformed hpasses (Or.inl (failed_of_integer hn))
  | arity =>
    obtain ⟨rfl, hodd⟩ := unpaired_of_ofArguments harity h
    exact .unpaired hpasses (hws ▸ hodd)

theorem unread_of_ofLine (h : ofLine limits line = .error (.failed why)) :
    (Request.ofLine line).Unread limits why := by
  rcases passes_or_unread limits line with ⟨v, hv⟩ | ⟨why', hunread, hfailed⟩
  · exact unread_of_passes hv h
  · cases h.symm.trans hfailed
    exact hunread

theorem ofLine_of_number (hverb : (Request.ofLine line).verb = some v)
    (harity : v.arity.admits (Request.ofLine line).arguments.length = false) :
    ofLine limits line = .error (.failed (.wrongArity (Request.ofLine line).name)) := by
  rw [ofLine, ofRequest, if_neg (Request.name_ne_empty hverb), hverb]
  dsimp only
  rw [if_pos harity]

theorem ofLine_of_unpaired (h : (Request.ofLine line).Passes limits .hset)
    (hodd : (Request.ofLine line).arguments.tail.length % 2 = 1) :
    ofLine limits line = .error (.failed (.wrongArity Verb.hset.spelling)) := by
  rw [ofLine_of_passes h]
  cases hws : (Request.ofLine line).arguments with
  | nil =>
    rw [hws] at hodd
    cases hodd
  | cons key rest =>
    rw [hws, List.tail_cons] at hodd
    have hnone : pairs? rest = none := (pairs?_eq_none_iff rest).2 hodd
    simp only [ofArguments, hnone]
    rfl

end Command

end Keyspace
