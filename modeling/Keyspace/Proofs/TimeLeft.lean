import Mathlib.Data.Rat.Floor
import Keyspace.Proofs.Deadline
import Keyspace.Proofs.Instant

namespace Keyspace

namespace Store

variable {s : Store} {k : String} {now later t : Int} {e : Entry}

theorem eq_wholeSeconds_iff {n m : Int} :
    m = wholeSeconds n ↔ 1000 * (m - 1) < n ∧ n ≤ 1000 * m := by
  have hbounds := wholeSeconds_bounds n
  constructor
  · rintro rfl
    exact hbounds
  · intro h
    omega

theorem wholeSeconds_mono {n n' : Int} (hle : n ≤ n') : wholeSeconds n ≤ wholeSeconds n' := by
  have hn := wholeSeconds_bounds n
  have hn' := wholeSeconds_bounds n'
  omega

theorem wholeSeconds_pos {n : Int} (h : 0 < n) : 1 ≤ wholeSeconds n := by
  have hbounds := wholeSeconds_bounds n
  omega

theorem wholeSeconds_mul (n : Int) : wholeSeconds (n * 1000) = n := by
  have hbounds := wholeSeconds_bounds (n * 1000)
  omega

theorem wholeSeconds_eq_ceil (n : Int) : wholeSeconds n = ⌈(n : ℚ) / 1000⌉ := by
  obtain ⟨hlower, hupper⟩ := wholeSeconds_bounds n
  have hlower' : 1000 * ((wholeSeconds n : ℚ) - 1) < n := by exact_mod_cast hlower
  have hupper' : (n : ℚ) ≤ 1000 * wholeSeconds n := by exact_mod_cast hupper
  symm
  rw [Int.ceil_eq_iff, lt_div_iff₀ (by norm_num), div_le_iff₀ (by norm_num)]
  exact ⟨by linarith, by linarith⟩

/-- What `TTL` tells of a key. -/
def timeLeft (s : Store) (k : String) (now : Int) : Int :=
  match lookup s k now with
  | none => -2
  | some e =>
    match e.expiresAt with
    | none => -1
    | some t => wholeSeconds (t - now)

theorem outcome_ttl (s : Store) (k : String) (now : Int) :
    (Command.ttl k).outcome s now = .unchanged (.integer (timeLeft s k now)) := by
  show Store.ttl s k now = _
  unfold Store.ttl timeLeft
  cases lookup s k now with
  | none => rfl
  | some e => cases he : e.expiresAt <;> simp only [Entry.remaining, he, Option.map]

theorem timeLeft_of_absent (h : lookup s k now = none) : timeLeft s k now = -2 := by
  rw [timeLeft, h]

theorem timeLeft_of_kept (h : lookup s k now = some e) (he : e.expiresAt = none) :
    timeLeft s k now = -1 := by
  simp only [timeLeft, h, he]

theorem timeLeft_of_expiring (h : lookup s k now = some e) (he : e.expiresAt = some t) :
    timeLeft s k now = wholeSeconds (t - now) := by
  simp only [timeLeft, h, he]

theorem lookup_of_kept (h : s.get? k = some e) (he : e.expiresAt = none) (now : Int) :
    lookup s k now = some e := by
  rw [lookup_eq_some_iff, Entry.isExpired, he]
  exact ⟨h, rfl⟩

theorem lookup_eq_none_iff :
    lookup s k now = none ↔
      ∀ e, s.get? k = some e → ∃ t, e.expiresAt = some t ∧ t ≤ now := by
  simp only [lookup, Option.filter_eq_none_iff, isLive_eq_true_iff, Bool.not_eq_false,
    Entry.isExpired_eq_true_iff]

/-- A live key has a second left, or is kept for good. -/
theorem timeLeft_of_live (h : lookup s k now = some e) :
    (e.expiresAt = none ∧ timeLeft s k now = -1) ∨
      (e.expiresAt ≠ none ∧ 1 ≤ timeLeft s k now) := by
  cases he : e.expiresAt with
  | none => exact Or.inl ⟨rfl, timeLeft_of_kept h he⟩
  | some t =>
    have hlive : now < t :=
      (isLive_of_expiresAt he).1 (isLive_eq_true_iff.2 (lookup_eq_some_iff.1 h).2)
    rw [timeLeft_of_expiring h he]
    exact Or.inr ⟨Option.some_ne_none t, wholeSeconds_pos (by omega)⟩

theorem timeLeft_eq_neg_two_iff : timeLeft s k now = -2 ↔ lookup s k now = none := by
  cases h : lookup s k now with
  | none => exact iff_of_true (timeLeft_of_absent h) rfl
  | some e =>
    refine iff_of_false ?_ nofun
    have hlive := timeLeft_of_live h
    omega

theorem timeLeft_eq_neg_one_iff :
    timeLeft s k now = -1 ↔ ∃ e, s.get? k = some e ∧ e.expiresAt = none := by
  constructor
  · intro hleft
    cases h : lookup s k now with
    | none =>
      rw [timeLeft_of_absent h] at hleft
      omega
    | some e =>
      refine ⟨e, (lookup_eq_some_iff.1 h).1, ?_⟩
      rcases timeLeft_of_live h with ⟨he, -⟩ | ⟨-, hpos⟩
      · exact he
      · omega
  · rintro ⟨e, hk, he⟩
    exact timeLeft_of_kept (lookup_of_kept hk he now) he

theorem timeLeft_falls (s : Store) (k : String) {now later : Int} (hle : now ≤ later) :
    timeLeft s k later ≤ timeLeft s k now := by
  have hlater := lookup_later s k hle
  cases h : lookup s k now with
  | none => rw [timeLeft_of_absent h, timeLeft_of_absent (lookup_none_later h hle)]
  | some e =>
    rw [h, Option.filter_some] at hlater
    split at hlater
    · -- the same entry is found, and less is left of it
      cases he : e.expiresAt with
      | none => rw [timeLeft_of_kept h he, timeLeft_of_kept hlater he]
      | some t =>
        rw [timeLeft_of_expiring h he, timeLeft_of_expiring hlater he]
        exact wholeSeconds_mono (by omega)
    · rw [timeLeft_of_absent hlater]
      have hlive := timeLeft_of_live h
      omega

/-- The integers, one for each instant, run down to the expiry of a key: -2 where the key is gone,
-1 where it is kept for good, and otherwise the seconds left, rounded up. -/
structure RunsDown (s : Store) (k : String) (left : Int → Int) : Prop where
  gone : ∀ now, left now = -2 ↔
    ∀ e, s.get? k = some e → ∃ t, e.expiresAt = some t ∧ t ≤ now
  kept : ∀ now, left now = -1 ↔ ∃ e, s.get? k = some e ∧ e.expiresAt = none
  seconds : ∀ now e t, s.get? k = some e → e.expiresAt = some t → now < t →
    1 ≤ left now ∧ ∀ m, m = left now ↔ 1000 * (m - 1) < t - now ∧ t - now ≤ 1000 * m
  falling : ∀ now later, now ≤ later → left later ≤ left now
  gone_from_expiry : ∀ e t, s.get? k = some e → e.expiresAt = some t →
    ∀ now, left now = -2 ↔ t ≤ now

theorem runsDown_timeLeft (s : Store) (k : String) : s.RunsDown k (timeLeft s k) where
  gone now := timeLeft_eq_neg_two_iff.trans lookup_eq_none_iff
  kept now := timeLeft_eq_neg_one_iff
  seconds now e t hk he hlt := by
    have hfound : lookup s k now = some e := by rw [lookup_of_expiresAt hk he, if_pos hlt]
    rw [timeLeft_of_expiring hfound he]
    exact ⟨wholeSeconds_pos (by omega), fun m => eq_wholeSeconds_iff⟩
  falling _ _ hle := timeLeft_falls s k hle
  gone_from_expiry e t hk he now := by
    rw [timeLeft_eq_neg_two_iff, lookup_of_expiresAt hk he]
    by_cases hlt : now < t
    · simp [hlt]
    · simp only [hlt, if_false, true_iff]
      omega

theorem timeLeft_insert {d : Int} (he : e.expiresAt = some (now + d)) (hd : 0 < d) :
    timeLeft (s.insert k e) k now = wholeSeconds d := by
  have hk : (s.insert k e).get? k = some e := by rw [Table.get?_insert, if_pos rfl]
  have hfound : lookup (s.insert k e) k now = some e := by
    rw [lookup_of_expiresAt hk he, if_pos (by omega)]
  rw [timeLeft_of_expiring hfound he, add_sub_cancel_left]

/-- These arguments of the verb form a command right after which so many seconds are told to be
left of the key, and so does every line with these words. -/
structure Leaves (s : Store) (k : String) (now : Int) (v : Verb) (ws : List String) (m : Int) :
    Prop where
  command : ∃ c, Command.ofArguments v ws = .ok c ∧
    (Command.ttl k).outcome ((c.outcome s now).after s) now = .unchanged (.integer m)
  line : ∀ limits write ask, LineOf limits v ws write → LineOf limits .ttl [k] ask →
    execute limits ask (s.afterLine limits write now) now = .ok (.unchanged (.integer m))

theorem leaves_of_insert {v : Verb} {ws : List String} {c : Command} {r : Reply} {d : Int}
    (hc : Command.ofArguments v ws = .ok c)
    (hout : c.outcome s now = .changed r (s.insert k e)) (he : e.expiresAt = some (now + d))
    (hd : 0 < d) : s.Leaves k now v ws (wholeSeconds d) := by
  have htold : (Command.ttl k).outcome ((c.outcome s now).after s) now =
      .unchanged (.integer (wholeSeconds d)) := by
    rw [outcome_ttl, hout]
    show Outcome.unchanged (.integer (timeLeft (s.insert k e) k now)) = _
    rw [timeLeft_insert he hd]
  refine ⟨⟨c, hc, htold⟩, ?_⟩
  intro limits write ask hwrite hask
  rw [afterLine_of_execute (hwrite.execute_eq hc s now), ← htold]
  exact hask.execute_eq rfl _ now

end Store

open Store

namespace Command

variable {value option amount : String} {n : Int} {u : Scale}

theorem ofArguments_setFor (k value : String) (hn : Numeral.read amount = .value n)
    (hu : scale? option = some u) (hpos : 0 < n) :
    ofArguments .set [k, value, option, amount] =
      .ok (set k value (some ⟨n * u.factor, Int.mul_pos hpos u.factor_pos⟩)) := by
  simp only [ofArguments, lifetime, integer_eq_ok hn, hu, dif_pos hpos]
  rfl

theorem ofArguments_expire (k : String) (hn : Numeral.read amount = .value n) :
    ofArguments .expire [k, amount] = .ok (expire k n) := by
  simp only [ofArguments, integer_eq_ok hn]
  rfl

end Command

theorem leaves_setFor {option amount : String} {n : Int} {u : Command.Scale} (s : Store)
    (k value : String) (now : Int) (hn : Numeral.read amount = .value n)
    (hu : Command.scale? option = some u) (hpos : 0 < n) :
    s.Leaves k now .set [k, value, option, amount] (wholeSeconds (n * u.factor)) :=
  leaves_of_insert (Command.ofArguments_setFor k value hn hu hpos) rfl rfl
    (Int.mul_pos hpos u.factor_pos)

/-- -2 and -1 stand for keys that are gone or kept for good; any other reply is the time left in
seconds, rounded up, which never rises and is -2 from the expiry on. -/
theorem ttl_is_exact_ceiling (s : Store) (k : String) :
    (∃ left : Int → Int, s.RunsDown k left ∧
      (∀ now, (Command.ttl k).outcome s now = .unchanged (.integer (left now))) ∧
      ∀ limits line now, LineOf limits .ttl [k] line →
        execute limits line s now = .ok (.unchanged (.integer (left now)))) ∧
    ∀ now amount n, Numeral.read amount = .value n → 1 ≤ n →
      ((∃ e, lookup s k now = some e) → s.Leaves k now .expire [k, amount] n) ∧
      ∀ value option,
        (Text.upper option = "EX" → s.Leaves k now .set [k, value, option, amount] n) ∧
        (Text.upper option = "PX" →
          s.Leaves k now .set [k, value, option, amount] ⌈(n : ℚ) / 1000⌉) := by
  constructor
  · refine ⟨timeLeft s k, runsDown_timeLeft s k, outcome_ttl s k, ?_⟩
    intro limits line now hline
    rw [hline.execute_eq rfl s now, outcome_ttl]
  · intro now amount n hn hpos
    refine ⟨?_, ?_⟩
    · rintro ⟨e, he⟩
      have hexpiry : (e.withExpiry (some (now + n * 1000))).expiresAt = some (now + n * 1000) := rfl
      have hleaves := leaves_of_insert (Command.ofArguments_expire k hn) (outcome_expire he hpos)
        hexpiry (by omega)
      rwa [wholeSeconds_mul] at hleaves
    · intro value option
      constructor
      · intro hex
        have hleaves := leaves_setFor s k value now hn (Command.scale?_of_upper_eq_ex hex) hpos
        rwa [Command.Scale.factor, wholeSeconds_mul] at hleaves
      · intro hpx
        have hleaves := leaves_setFor s k value now hn (Command.scale?_of_upper_eq_px hpx) hpos
        rwa [Command.Scale.factor, Int.mul_one, wholeSeconds_eq_ceil] at hleaves

/-- A text that expires at 1500, and one that is kept for good. -/
def briefAndLasting : Store :=
  ⟨[("brief", ⟨.string "1", some 1500⟩), ("lasting", ⟨.string "2", none⟩)], by decide⟩

/-- A second and a half is told as two seconds; a key that is made to expire after 7 seconds, or
after 7001 milliseconds, is told to have 7 or 8 left. -/
theorem ttl_is_exact_ceiling_brief :
    execute {} "TTL brief" briefAndLasting 0 = .ok (.unchanged (.integer 2)) ∧
    execute {} "TTL lasting" (briefAndLasting.afterLine {} "EXPIRE lasting +7" 5) 5 =
      .ok (.unchanged (.integer 7)) ∧
    execute {} "TTL brief" (briefAndLasting.afterLine {} "SET brief 3 px 7001" 5) 5 =
      .ok (.unchanged (.integer 8)) := by
  obtain ⟨⟨left, hleft, -, htold⟩, hset⟩ := ttl_is_exact_ceiling briefAndLasting "brief"
  obtain ⟨-, hexpire⟩ := ttl_is_exact_ceiling briefAndLasting "lasting"
  refine ⟨?_, ?_, ?_⟩
  · have htwo : 2 = left 0 := ((hleft.seconds 0 _ 1500 rfl rfl (by decide)).2 2).2 (by decide)
    rw [htwo]
    exact htold {} _ 0 ⟨⟨rfl, rfl, rfl⟩, rfl⟩
  · have hleaves := (hexpire 5 "+7" 7 rfl (by decide)).1 ⟨_, rfl⟩
    exact hleaves.line {} _ _ ⟨⟨rfl, rfl, rfl⟩, rfl⟩ ⟨⟨rfl, rfl, rfl⟩, rfl⟩
  · have hleaves := ((hset 5 "7001" 7001 rfl (by decide)).2 "3" "px").2 rfl
    have hceil : ⌈((7001 : Int) : ℚ) / 1000⌉ = 8 := by norm_num
    rw [hceil] at hleaves
    exact hleaves.line {} _ _ ⟨⟨rfl, rfl, rfl⟩, rfl⟩ ⟨⟨rfl, rfl, rfl⟩, rfl⟩

end Keyspace
