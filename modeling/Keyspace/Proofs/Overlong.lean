import Keyspace.Command.Execute
import Keyspace.Proofs.Layout
import Keyspace.Proofs.Numerals

namespace Keyspace

open Numeral

namespace Command

variable {limits : Limits} {line : String} {v : Verb} {ws : List String} {n : Nat}

theorem lifetime_eq_tooLong_iff {option amount : String} :
    lifetime option amount = .error (.numeralTooLong n) ↔ Overlong amount n := by
  rw [← integer_eq_tooLong_iff, lifetime]
  cases integer amount with
  | error refusal => simp
  | ok i =>
    -- once the amount is read, only failures are left
    constructor
    · intro h
      dsimp only at h
      split at h
      · cases h
      · split at h <;> cases h
    · intro h
      cases h

/-- Among the arguments of a verb, reading comes upon a numeral with so many digits that it is not
read: as the amount of a lifetime, or as one of the two indices of a slice. -/
inductive EndsAt : Verb → List String → Nat → Prop where
  | set {key value option amount : String} {n : Nat} :
      Overlong amount n → EndsAt .set [key, value, option, amount] n
  | expire {key seconds : String} {n : Nat} :
      Overlong seconds n → EndsAt .expire [key, seconds] n
  | start {key start stop : String} {n : Nat} :
      Overlong start n → EndsAt .lrange [key, start, stop] n
  | stop {key start stop : String} {n : Nat} :
      Readable start → Overlong stop n → EndsAt .lrange [key, start, stop] n

theorem ofArguments_eq_tooLong_iff :
    ofArguments v ws = .error (.numeralTooLong n) ↔ EndsAt v ws n := by
  constructor
  · intro h
    cases refused_of_ofArguments h with
    | lifetime ht => exact .set (lifetime_eq_tooLong_iff.1 ht)
    | seconds hseconds => exact .expire (integer_eq_tooLong_iff.1 hseconds)
    | start hstart => exact .start (integer_eq_tooLong_iff.1 hstart)
    | stop hstart hstop =>
      have hreadable := exists_integer_eq_ok_iff.1 ⟨_, hstart⟩
      exact .stop hreadable (integer_eq_tooLong_iff.1 hstop)
  · intro h
    cases h with
    | set hlong => exact map_eq_error_iff.2 (lifetime_eq_tooLong_iff.2 hlong)
    | expire hlong => exact map_eq_error_iff.2 (integer_eq_tooLong_iff.2 hlong)
    | start hlong => simp only [ofArguments, integer_eq_tooLong_iff.2 hlong]
    | stop hread hlong =>
      obtain ⟨i, hi⟩ := exists_integer_eq_ok_iff.2 hread
      simp only [ofArguments, hi]
      exact map_eq_error_iff.2 (integer_eq_tooLong_iff.2 hlong)

theorem EndsAt.exists_overlong (h : EndsAt v ws n) : ∃ w ∈ ws.tail, Overlong w n := by
  cases h with
  | set hlong | expire hlong | start hlong | stop _ hlong => exact ⟨_, by simp, hlong⟩

theorem ofLine_eq_tooLong_iff :
    ofLine limits line = .error (.numeralTooLong n) ↔
      ∃ v, (Request.ofLine line).Passes limits v ∧ EndsAt v (Request.ofLine line).arguments n := by
  constructor
  · intro h
    rcases passes_or_unread limits line with ⟨v, hv⟩ | ⟨why, -, hfailed⟩
    · rw [ofLine_of_passes hv] at h
      exact ⟨v, hv, ofArguments_eq_tooLong_iff.1 h⟩
    · cases hfailed.symm.trans h
  · rintro ⟨v, hv, hends⟩
    rw [ofLine_of_passes hv]
    exact ofArguments_eq_tooLong_iff.2 hends

end Command

open Command

variable {limits : Limits} {line : String} {n : Nat}

/-- Numerals that are too long do not pass a limit on lengths that is no higher. -/
theorem not_endsAt_of_passes {v : Verb} (hlimit : limits.value ≤ digitLimit)
    (hv : (Request.ofLine line).Passes limits v) :
    ¬ EndsAt v (Request.ofLine line).arguments n := by
  intro hends
  have hlengths := hv.lengths
  obtain ⟨w, hw, hlong⟩ := hends.exists_overlong
  cases hargs : (Request.ofLine line).arguments with
  | nil =>
    rw [hargs] at hw
    cases hw
  | cons key values =>
    rw [hargs] at hw hlengths
    have hshort : w.length ≤ limits.value := (Limits.allow_cons.1 hlengths).2 w hw
    exact not_overlong_of_length_le (by omega) n hlong

/-- A line has no outcome just where nothing fails in front of a numeral that is too long; this is
so on every store or on none, and never where arguments are as short as numerals. -/
theorem ends_at_overlong_numeral (limits : Limits) (line : String) :
    (∀ (s : Store) (now : Int) (n : Nat),
      execute limits line s now = .error ⟨n⟩ ↔
        ∃ v, (Request.ofLine line).Passes limits v ∧
          EndsAt v (Request.ofLine line).arguments n) ∧
    (∀ (s s' : Store) (now now' : Int) (e : NumeralTooLong),
      execute limits line s now = .error e ↔ execute limits line s' now' = .error e) ∧
    (limits.value ≤ digitLimit →
      ∀ (s : Store) (now : Int), ∃ o, execute limits line s now = .ok o) := by
  refine ⟨fun s now n => execute_eq_error_iff.trans ofLine_eq_tooLong_iff, ?_, ?_⟩
  · intro s s' now now' e
    exact execute_eq_error_iff.trans execute_eq_error_iff.symm
  · intro hlimit s now
    cases h : execute limits line s now with
    | ok o => exact ⟨o, rfl⟩
    | error e =>
      obtain ⟨v, hv, hends⟩ := ofLine_eq_tooLong_iff.1 (execute_eq_error_iff.1 h)
      exact absurd hends (not_endsAt_of_passes hlimit hv)

def noughts (n : Nat) : String := String.ofList (List.replicate n '0')

theorem length_noughts (n : Nat) : (noughts n).length = n := by
  rw [noughts, String.length_ofList, List.length_replicate]

theorem solid_noughts (n : Nat) : Text.Solid (noughts n) := by
  intro c hc
  rw [noughts, String.toList_ofList] at hc
  rw [List.eq_of_mem_replicate hc]
  decide

/-- Digits count even where they add nothing to the value. -/
theorem overlong_noughts (h : digitLimit < n) : Overlong (noughts n) n := by
  have hdigits : ∀ c ∈ List.replicate n '0', Text.isDigit c = true := by
    intro c hc
    rw [List.eq_of_mem_replicate hc]
    decide
  have hne : List.replicate n '0' ≠ [] := by
    rw [Ne, List.replicate_eq_nil_iff]
    omega
  exact ⟨_, ⟨hne, hdigits, Or.inl String.toList_ofList⟩, List.length_replicate, h⟩

/-- A line of `EXPIRE` for a key in single quotes, with zeros in double quotes. -/
def noughtsLayout (n : Nat) : Request.Layout where
  lead := ""
  name := "expire"
  placed := [
    { gap := " ", way := .single, argument := "k", gap_ne_empty := by decide,
      gap_blank := by decide, solid := by decide, bare := nofun },
    { gap := " ", way := .double, argument := noughts n, gap_ne_empty := by decide,
      gap_blank := by decide, solid := solid_noughts n, bare := nofun }]
  trail := ""
  lead_blank := by decide
  trail_blank := by decide
  name_ne_empty := by decide
  name_solid := by decide

/-- Too many zeros end a run where arguments may be long, and are refused where they may not. -/
theorem ends_at_overlong_numeral_noughts :
    execute { value := 5000 } (noughtsLayout 4301).line Table.empty 0 = .error ⟨4301⟩ ∧
      ∃ o, execute {} (noughtsLayout 4301).line Table.empty 0 = .ok o := by
  have hverb : Verb.ofName? (Text.upper "expire") = some .expire := by decide
  have hlengths : Limits.allow { value := 5000 } ["k", noughts 4301] = true := by
    rw [Limits.allow_cons, List.forall_mem_singleton, length_noughts]
    decide
  constructor
  · apply ((ends_at_overlong_numeral { value := 5000 } (noughtsLayout 4301).line).1 _ _ _).2
    rw [Request.Layout.ofLine_line]
    exact ⟨.expire, ⟨hverb, rfl, hlengths⟩, .expire (overlong_noughts (by decide))⟩
  · exact (ends_at_overlong_numeral {} (noughtsLayout 4301).line).2.2 (by decide) _ _

end Keyspace
