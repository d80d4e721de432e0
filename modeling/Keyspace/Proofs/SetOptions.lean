import Keyspace.Proofs.Decimals
import Keyspace.Proofs.TimeLeft

namespace Keyspace

open Store Numeral

/-- These arguments of the verb have this outcome on the store at the instant, and so has every line
with these words. -/
structure Store.Yields (s : Store) (now : Int) (v : Verb) (ws : List String) (o : Outcome) :
    Prop where
  arguments : (∃ c, Command.ofArguments v ws = .ok c ∧ c.outcome s now = o) ∨
    ∃ why, Command.ofArguments v ws = .error (.failed why) ∧ o = .ofFailure why
  line : ∀ limits line, LineOf limits v ws line → execute limits line s now = .ok o

/-- The text is written under the key with this expiry, and the other keys keep what they hold. -/
structure Outcome.Writes (o : Outcome) (s : Store) (key value : String) (expiresAt : Option Int) :
    Prop where
  reply : o.reply = .ok
  written : ∃ s', o.replacement = some s' ∧ s'.get? key = some ⟨.string value, expiresAt⟩ ∧
    ∀ k, k ≠ key → s'.get? k = s.get? k

section Yields

variable {s : Store} {now : Int} {v : Verb} {ws : List String}

theorem yields_of_command {c : Command} (h : Command.ofArguments v ws = .ok c) :
    s.Yields now v ws (c.outcome s now) where
  arguments := Or.inl ⟨c, h, rfl⟩
  line _ _ hline := hline.execute_eq h s now

theorem yields_of_failed {why : Failure} (h : Command.ofArguments v ws = .error (.failed why)) :
    s.Yields now v ws (.ofFailure why) where
  arguments := Or.inr ⟨why, h, rfl⟩
  line limits line hline := by
    rw [execute, Command.ofLine_of_passes hline.passes, hline.arguments_eq, h]

theorem writes_setText (s : Store) (key value : String) (t : Option Lifetime) (now : Int) :
    ((Command.set key value t).outcome s now).Writes s key value
      (t.map fun t => now + t.milliseconds) where
  reply := rfl
  written := by
    refine ⟨_, rfl, ?_, ?_⟩
    · rw [Table.get?_insert, if_pos rfl]
    · intro k hk
      rw [Table.get?_insert, if_neg hk]

end Yields

namespace Command

/-- The option of a lifetime in seconds or in milliseconds, in letters of either case. -/
def Timed (option : String) : Prop := Text.upper option = "EX" ∨ Text.upper option = "PX"

variable {option amount : String} {n : Int}

theorem exists_scale?_iff : (∃ u, scale? option = some u) ↔ Timed option := by
  unfold scale? Timed
  split
  · next hex => exact iff_of_true ⟨_, rfl⟩ (Or.inl hex)
  · next hex =>
    split
    · next hpx => exact iff_of_true ⟨_, rfl⟩ (Or.inr hpx)
    · next hpx => exact iff_of_false nofun (not_or.2 ⟨hex, hpx⟩)

theorem lifetime_of_not_spells (h : ∀ ds, ¬ Spells amount ds) :
    lifetime option amount = .error (.failed .notInteger) := by
  rw [lifetime, integer_eq_failed_iff.2 ⟨rfl, h⟩]

theorem lifetime_of_not_timed (hn : integer amount = .ok n) (h : ¬ Timed option) :
    lifetime option amount = .error (.failed .malformed) := by
  have hnone : scale? option = none :=
    Option.eq_none_iff_forall_ne_some.2 fun u hu => h (exists_scale?_iff.1 ⟨u, hu⟩)
  simp only [lifetime, hn, hnone]

theorem lifetime_of_nonpos (hn : integer amount = .ok n) (h : Timed option) (hle : n ≤ 0) :
    lifetime option amount = .error (.failed .invalidLifetime) := by
  obtain ⟨u, hu⟩ := exists_scale?_iff.2 h
  simp only [lifetime, hn, hu, dif_neg (show ¬ 0 < n by omega)]

end Command

open Command

section Options

variable {s : Store} {now : Int} {key value option amount : String}

/-- What a `SET` with an option and an amount comes to, one way for each check. -/
inductive SetOutcome (s : Store) (now : Int) (key value option amount : String) :
    Outcome → Prop where
  | notInteger : (∀ ds, ¬ Spells amount ds) →
      SetOutcome s now key value option amount (.ofFailure .notInteger)
  | otherOption {n : Int} : integer amount = .ok n → ¬ Timed option →
      SetOutcome s now key value option amount (.ofFailure .malformed)
  | notPositive {n : Int} : integer amount = .ok n → Timed option → n ≤ 0 →
      SetOutcome s now key value option amount (.ofFailure .invalidLifetime)
  | written {n : Int} {u : Scale} {o : Outcome} : integer amount = .ok n → scale? option = some u →
      0 < n → o.Writes s key value (some (now + n * u.factor)) →
      SetOutcome s now key value option amount o

/-- An amount that is not too long to be read leads to one of these. -/
theorem exists_setOutcome (s : Store) (now : Int) (key value option : String)
    (hshort : ∀ n, ¬ Overlong amount n) :
    ∃ o, s.Yields now .set [key, value, option, amount] o ∧
      SetOutcome s now key value option amount o := by
  rcases read_cases amount with ⟨n, hlong, -⟩ | ⟨n, -, hn⟩ | ⟨hnone, -⟩
  · exact absurd hlong (hshort n)
  · -- only now the option counts
    have hamount := integer_eq_ok hn
    by_cases hoption : Timed option
    · by_cases hpos : 0 < n
      · obtain ⟨u, hu⟩ := exists_scale?_iff.2 hoption
        exact ⟨_, yields_of_command (ofArguments_setFor key value hn hu hpos),
          .written hamount hu hpos (writes_setText s key value _ now)⟩
      · have hfailed := lifetime_of_nonpos hamount hoption (Int.not_lt.1 hpos)
        exact ⟨_, yields_of_failed (map_eq_error_iff.2 hfailed),
          .notPositive hamount hoption (Int.not_lt.1 hpos)⟩
    · have hfailed := lifetime_of_not_timed hamount hoption
      exact ⟨_, yields_of_failed (map_eq_error_iff.2 hfailed), .otherOption hamount hoption⟩
  · have hfailed : lifetime option amount = _ := lifetime_of_not_spells hnone
    exact ⟨_, yields_of_failed (map_eq_error_iff.2 hfailed), .notInteger hnone⟩

theorem exists_spells_of_integer {n : Int} (h : integer amount = .ok n) :
    ∃ ds, Spells amount ds := by
  obtain ⟨ds, hds, -⟩ := exists_integer_eq_ok_iff.1 ⟨n, h⟩
  exact ⟨ds, hds⟩

namespace SetOutcome

variable {o : Outcome} (h : SetOutcome s now key value option amount o)
include h

theorem notInteger_iff : o.reply = Failure.notInteger.reply ↔ ∀ ds, ¬ Spells amount ds := by
  cases h with
  | notInteger hnone => exact iff_of_true rfl hnone
  | otherOption hn _ | notPositive hn _ _ =>
    obtain ⟨ds, hds⟩ := exists_spells_of_integer hn
    exact iff_of_false (by decide) fun hnone => hnone ds hds
  | written hn _ _ hwrites =>
    obtain ⟨ds, hds⟩ := exists_spells_of_integer hn
    rw [hwrites.reply]
    exact iff_of_false (by decide) fun hnone => hnone ds hds

theorem malformed_iff : o.reply = Failure.malformed.reply ↔
    (∃ ds, Spells amount ds) ∧ ¬ Timed option := by
  cases h with
  | notInteger hnone => exact iff_of_false (by decide) fun ⟨⟨ds, hds⟩, _⟩ => hnone ds hds
  | otherOption hn hoption => exact iff_of_true rfl ⟨exists_spells_of_integer hn, hoption⟩
  | notPositive _ hoption _ => exact iff_of_false (by decide) fun hother => hother.2 hoption
  | written _ hu _ hwrites =>
    rw [hwrites.reply]
    exact iff_of_false (by decide) fun hother => hother.2 (exists_scale?_iff.1 ⟨_, hu⟩)

theorem invalidLifetime_iff : o.reply = Failure.invalidLifetime.reply ↔
    Timed option ∧ ∃ n ≤ 0, integer amount = .ok n := by
  cases h with
  | notInteger hnone =>
    refine iff_of_false (by decide) ?_
    rintro ⟨-, n, -, hn⟩
    obtain ⟨ds, hds⟩ := exists_spells_of_integer hn
    exact hnone ds hds
  | otherOption _ hoption => exact iff_of_false (by decide) fun htimed => hoption htimed.1
  | notPositive hn hoption hle => exact iff_of_true rfl ⟨hoption, _, hle, hn⟩
  | written hn _ hpos hwrites =>
    rw [hwrites.reply]
    refine iff_of_false (by decide) ?_
    rintro ⟨-, m, hle, hm⟩
    cases hn.symm.trans hm
    omega

theorem replacement_of_error (herror : o.reply ≠ .ok) : o.replacement = none := by
  cases h with
  | notInteger _ | otherOption _ _ | notPositive _ _ _ => rfl
  | written _ _ _ hwrites => exact absurd hwrites.reply herror

theorem writes {n : Int} {u : Scale} (hn : integer amount = .ok n) (hu : scale? option = some u)
    (hpos : 0 < n) : o.Writes s key value (some (now + n * u.factor)) := by
  have hoption : Timed option := exists_scale?_iff.1 ⟨u, hu⟩
  cases h with
  | notInteger hnone =>
    obtain ⟨ds, hds⟩ := exists_spells_of_integer hn
    exact absurd hds (hnone ds)
  | otherOption _ hother => exact absurd hoption hother
  | notPositive hm _ hle =>
    cases hn.symm.trans hm
    omega
  | written hm hu' _ hwrites =>
    cases hn.symm.trans hm
    cases hu.symm.trans hu'
    exact hwrites

end SetOutcome

/-- The amount is read before the option is looked at, and its sign last; a `SET` that passes writes
the text with its expiry, whatever was under the key. -/
theorem set_reads_amount_first (s : Store) (now : Int) (key value : String) :
    (∃ o, s.Yields now .set [key, value] o ∧ o.Writes s key value none) ∧
    (∀ option, s.Yields now .set [key, value, option] (.ofFailure .malformed)) ∧
    ∀ option amount, (∀ n, ¬ Overlong amount n) →
      ∃ o, s.Yields now .set [key, value, option, amount] o ∧
        (o.reply = Failure.notInteger.reply ↔ ∀ ds, ¬ Spells amount ds) ∧
        (o.reply = Failure.malformed.reply ↔ (∃ ds, Spells amount ds) ∧ ¬ Timed option) ∧
        (o.reply = Failure.invalidLifetime.reply ↔
          Timed option ∧ ∃ n ≤ 0, integer amount = .ok n) ∧
        (∀ n, 0 < n → integer amount = .ok n →
          (Text.upper option = "EX" → o.Writes s key value (some (now + 1000 * n))) ∧
          (Text.upper option = "PX" → o.Writes s key value (some (now + n)))) ∧
        (o.reply ≠ .ok → o.replacement = none) := by
  refine ⟨?_, fun option => yields_of_failed rfl, ?_⟩
  · exact ⟨_, yields_of_command rfl, writes_setText s key value none now⟩
  · intro option amount hshort
    obtain ⟨o, hyields, ho⟩ := exists_setOutcome s now key value option hshort
    refine ⟨o, hyields, ho.notInteger_iff, ho.malformed_iff, ho.invalidLifetime_iff, ?_,
      ho.replacement_of_error⟩
    intro n hpos hn
    constructor
    · intro hex
      have hwrites := ho.writes hn (scale?_of_upper_eq_ex hex) hpos
      rwa [Scale.factor, Int.mul_comm] at hwrites
    · intro hpx
      have hwrites := ho.writes hn (scale?_of_upper_eq_px hpx) hpos
      rwa [Scale.factor, Int.mul_one] at hwrites

end Options

/-- A list that expires at 9. -/
def expiringList : Store := ⟨[("k", ⟨.list ["a"], some 9⟩)], by decide⟩

/-- A text with a lifetime of its own takes the place of the list; an amount that is not positive
leaves the list as it is. -/
theorem set_reads_amount_first_expiring :
    (∃ o, execute {} "SET k v pX ٢5" expiringList 5 = .ok o ∧
      o.Writes expiringList "k" "v" (some 30)) ∧
    ∃ o, execute {} "SET k v ex -3" expiringList 5 = .ok o ∧
      o.reply = Failure.invalidLifetime.reply ∧ o.replacement = none := by
  obtain ⟨-, -, hoptions⟩ := set_reads_amount_first expiringList 5 "k" "v"
  constructor
  · obtain ⟨o, hyields, -, -, -, hwrites, -⟩ :=
      hoptions "pX" "٢5" (not_overlong_of_length_le (by decide))
    exact ⟨o, hyields.line {} _ ⟨⟨rfl, rfl, rfl⟩, rfl⟩, (hwrites 25 (by decide) rfl).2 rfl⟩
  · obtain ⟨o, hyields, -, -, hinvalid, -, herror⟩ :=
      hoptions "ex" "-3" (not_overlong_of_length_le (by decide))
    have hreply := hinvalid.2 ⟨Or.inl rfl, -3, by decide, rfl⟩
    refine ⟨o, hyields.line {} _ ⟨⟨rfl, rfl, rfl⟩, rfl⟩, hreply, herror ?_⟩
    rw [hreply]
    decide

/-- An option that is none goes unnoticed where the amount is no integer. -/
theorem set_unknown_option_unnoticed :
    ¬ Timed "XX" ∧ LineOf {} .set ["k", "v", "XX", "abc"] "SET k v XX abc" ∧
      ∃ o, execute {} "SET k v XX abc" Table.empty 0 = .ok o ∧
        o.reply = Failure.notInteger.reply ∧ o.reply ≠ Failure.malformed.reply := by
  refine ⟨?_, ⟨⟨by decide, by decide, by decide⟩, by decide⟩, _, rfl, rfl, by decide⟩
  rw [Timed]
  decide

end Keyspace
