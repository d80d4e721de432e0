import Keyspace.Proofs.Deletion
import Keyspace.Proofs.KeysOrder
import Keyspace.Proofs.ReplyText
import Keyspace.Proofs.Sweeping
import Keyspace.Proofs.TimeLeft

namespace Keyspace

open Store

namespace Store

theorem census_expired (s : Store) (now : Int) :
    (census s now).expired = (expiredKeys s now).length := by
  show (s.entries.map Prod.snd).countP (fun e => e.isExpired now) = _
  rw [List.countP_map, List.countP_eq_length_filter, expiredKeys, List.length_map]
  rfl

theorem census_total (s : Store) (now : Int) :
    (census s now).total = (census s now).expired + (census s now).active := by
  have hsize := size_swept s now
  rw [Table.size, entries_swept, ← census_active, ← census_expired] at hsize
  show s.size = _
  omega

theorem census_ofKind (s : Store) (now : Int) (kind : Kind) :
    (census s now).ofKind kind = (liveEntries s now).countP fun p => p.2.kind == kind :=
  countP_live s now fun e => e.kind == kind

theorem countP_kinds (ps : List (String × Entry)) :
    ps.countP (fun p => p.2.kind == .string) + ps.countP (fun p => p.2.kind == .list) +
      ps.countP (fun p => p.2.kind == .set) + ps.countP (fun p => p.2.kind == .hash) =
        ps.length := by
  induction ps with
  | nil => rfl
  | cons p ps ih =>
    simp only [List.countP_cons, List.length_cons, ← ih]
    cases p.2.kind <;> simp <;> omega

theorem liveEntries_swept (s : Store) (now : Int) :
    liveEntries (swept s now) now = liveEntries s now := by
  simp only [liveEntries, entries_swept, List.filter_filter, Bool.and_self]

/-- What a census counts among the live entries of a store. -/
theorem census_eq (s : Store) (now : Int) :
    census s now =
      { total := s.size
        expired := (expiredKeys s now).length
        active := (liveEntries s now).length
        volatile := (liveEntries s now).countP fun p => p.2.isVolatile
        ofKind := fun kind => (liveEntries s now).countP fun p => p.2.kind == kind } := by
  rw [← census_expired, ← census_active, ← census_volatile]
  simp only [← census_ofKind]
  rfl

theorem census_swept (s : Store) (now : Int) :
    census (swept s now) now =
      { census s now with total := (census s now).active, expired := 0 } := by
  have hsize : (swept s now).size = (liveEntries s now).length := by
    rw [Table.size, entries_swept]
  have hexpired : expiredKeys (swept s now) now = [] := sweep_eq_none_iff.1 (sweep_swept s now)
  rw [census_eq (swept s now), liveEntries_swept, hsize, hexpired, census_eq s]
  rfl

/-- The live keys that are to expire are those that have a second left. -/
theorem census_volatile_eq (s : Store) (now : Int) :
    (census s now).volatile = (liveKeys s now).countP fun k => 1 ≤ timeLeft s k now := by
  rw [census_volatile, liveKeys_eq_map, List.countP_map]
  apply List.countP_congr
  rintro ⟨k, e⟩ hp
  rcases timeLeft_of_live (mem_liveEntries.1 hp) with ⟨he, hleft⟩ | ⟨he, hleft⟩
  · simp [Entry.isVolatile, he, hleft]
  · simpa [Entry.isVolatile, Option.isSome_iff_ne_none, he] using hleft

end Store

namespace Text

def lines (s : String) : List String := (s.toList.splitOn '\n').map String.ofList

theorem lines_append_break (s t : String) : lines (s ++ "\n" ++ t) = lines s ++ lines t := by
  have hlist : (s ++ "\n" ++ t).toList = s.toList ++ '\n' :: t.toList := by simp
  rw [lines, hlist, List.splitOn_append_cons_self, List.map_append, lines, lines]

theorem lines_of_oneLine {s : String} (h : Reply.OneLine s) : lines s = [s] := by
  rw [lines, List.splitOn_eq_singleton h, List.map_singleton, String.ofList_toList]

theorem lines_intercalate {ls : List String} (hne : ls ≠ []) (h : ∀ l ∈ ls, Reply.OneLine l) :
    lines (String.intercalate "\n" ls) = ls := by
  induction ls with
  | nil => exact absurd rfl hne
  | cons l ls ih =>
    have hl := lines_of_oneLine (h l List.mem_cons_self)
    cases ls with
    | nil => rw [String.intercalate_singleton, hl]
    | cons l' ls =>
      rw [String.intercalate_cons_cons, lines_append_break, hl,
        ih (List.cons_ne_nil l' ls) fun x hx => h x (List.mem_cons_of_mem l hx),
        List.singleton_append]

/-- Reports that are shown one below the other, with an empty line between them, show their lines. -/
theorem filter_lines_reports {p : String → Bool} (hempty : p "" = false)
    {reports : List (List String)} (hne : ∀ r ∈ reports, r ≠ [])
    (h : ∀ r ∈ reports, ∀ l ∈ r, Reply.OneLine l) :
    (lines (String.intercalate "\n\n" (reports.map (String.intercalate "\n")))).filter p =
      reports.flatten.filter p := by
  induction reports with
  | nil => simp [lines, hempty]
  | cons r reports ih =>
    have hr := lines_intercalate (hne r List.mem_cons_self) (h r List.mem_cons_self)
    cases reports with
    | nil => simp [hr]
    | cons r' reports =>
      have ih' := ih (fun x hx => hne x (List.mem_cons_of_mem r hx))
        fun x hx => h x (List.mem_cons_of_mem r hx)
      have hbreak (t u : String) : t ++ "\n\n" ++ u = t ++ "\n" ++ ("" ++ "\n" ++ u) :=
        String.toList_injective (by simp)
      rw [List.map_cons, List.map_cons, String.intercalate_cons_cons, ← List.map_cons, hbreak,
        lines_append_break, lines_append_break, hr, List.filter_append, List.filter_append, ih',
        List.flatten_cons, List.filter_append]
      simp [lines, hempty]

end Text

/-- Whether the report on the keys is shown for a topic, or where none is given. -/
def showsKeyspace (topic : Option String) : Bool :=
  topic.all fun t => Text.lower t ∈ ["default", "all", "everything", "keyspace"]

/-- A line on a database, which tells how many keys are live in it and how many are to expire. -/
def isCountLine (line : String) : Bool := "db0:".toList.isPrefixOf line.toList

def countLine (live volatile : Nat) : String :=
  "db0:keys=" ++ toString live ++ ",expires=" ++ toString volatile

theorem isCountLine_countLine (live volatile : Nat) :
    isCountLine (countLine live volatile) = true := by
  simp [isCountLine, countLine]

theorem oneLine_countLine (live volatile : Nat) : Reply.OneLine (countLine live volatile) := by
  have hdigits (n : Nat) : '\n' ∉ Nat.toDigits 10 n := Reply.not_mem_toDigits rfl n
  simp [Reply.OneLine, countLine, hdigits]

theorem keyspaceReport_eq (c : Census) :
    keyspaceReport c =
      "# Keyspace" :: if c.active = 0 then [] else [countLine c.active c.volatile] := by
  unfold keyspaceReport countLine
  split <;> rfl

theorem oneLine_reportsOn {topic : Option String} {c : Census} {report : List String}
    (h : report ∈ reportsOn topic c) : ∀ l ∈ report, Reply.OneLine l := by
  rcases mem_reportsOn h with rfl | rfl
  · decide
  · rw [keyspaceReport_eq]
    intro l hl
    rcases List.mem_cons.1 hl with rfl | hl
    · decide
    · split at hl
      · cases hl
      · rw [List.mem_singleton.1 hl]
        exact oneLine_countLine c.active c.volatile

theorem ne_nil_of_mem_reportsOn {topic : Option String} {c : Census} {report : List String}
    (h : report ∈ reportsOn topic c) : report ≠ [] := by
  rcases mem_reportsOn h with rfl | rfl
  · decide
  · rw [keyspaceReport_eq]
    exact List.cons_ne_nil _ _

theorem filter_keyspaceReport (c : Census) :
    (keyspaceReport c).filter isCountLine =
      if c.active = 0 then [] else [countLine c.active c.volatile] := by
  have hheading : ¬ isCountLine "# Keyspace" = true := by decide
  rw [keyspaceReport_eq, List.filter_cons_of_neg hheading]
  split
  · rfl
  · exact List.filter_cons_of_pos (isCountLine_countLine c.active c.volatile)

/-- A line on the keys comes from the report on them alone. -/
theorem filter_reportsOn (topic : Option String) (c : Census) :
    (reportsOn topic c).flatten.filter isCountLine =
      if showsKeyspace topic = true then (keyspaceReport c).filter isCountLine else [] := by
  have hserver : serverReport.filter isCountLine = [] := by decide
  cases topic with
  | none => simp [reportsOn, showsKeyspace, hserver]
  | some t =>
    simp only [reportsOn, showsKeyspace, Option.map_some, Option.all_some, List.mem_cons,
      List.not_mem_nil, or_false, decide_eq_true_eq]
    -- topics are told apart in lower case only
    generalize Text.lower t = word
    by_cases hall : word = "default" ∨ word = "all" ∨ word = "everything"
    · have hshown : word = "default" ∨ word = "all" ∨ word = "everything" ∨ word = "keyspace" := by
        tauto
      rw [if_pos hall, if_pos hshown]
      simp [hserver]
    · by_cases hkeys : word = "keyspace"
      · simp [hkeys]
      · have hhidden :
            ¬ (word = "default" ∨ word = "all" ∨ word = "everything" ∨ word = "keyspace") := by
          tauto
        rw [if_neg hall, if_neg hkeys, if_neg hhidden]
        split <;> simp [hserver]

theorem filter_lines_info (s : Store) (topic : Option String) (now : Int) :
    ∃ text, (Command.info topic).outcome s now = .unchanged (.text text) ∧
      (Text.lines text).filter isCountLine =
        if showsKeyspace topic = true then (keyspaceReport (census s now)).filter isCountLine
        else [] := by
  refine ⟨_, rfl, ?_⟩
  rw [← filter_reportsOn]
  exact Text.filter_lines_reports (by decide) (fun r hr => ne_nil_of_mem_reportsOn hr)
    fun r hr => oneLine_reportsOn hr

/-- `KEYS`, `EXISTS`, `TTL`, the report of `INFO` and the census agree on which keys are live, and a
sweep takes out nothing that any of them counts. -/
theorem observers_agree (s : Store) (now : Int) :
    ∃ (items : List String) (left : String → Int),
      (Command.keys "*").outcome s now = .unchanged (.array items) ∧ items.Nodup ∧
      (∀ k, (Command.ttl k).outcome s now = .unchanged (.integer (left k)) ∧
        (k ∈ items ↔ left k ≠ -2)) ∧
      (∀ k, ∃ n : Int, (Command.existing [k]).outcome s now = .unchanged (.integer n) ∧
        (k ∈ items ↔ n = 1)) ∧
      (∀ topic, ∃ text, (Command.info topic).outcome s now = .unchanged (.text text) ∧
        (Text.lines text).filter isCountLine =
          if showsKeyspace topic = true ∧ items ≠ [] then
            [countLine items.length (items.countP fun k => 1 ≤ left k)]
          else []) ∧
      let c := census s now
      c.total = s.size ∧ c.total = c.expired + c.active ∧
        c.expired = (expiredKeys s now).length ∧ c.active = (liveKeys s now).length ∧
        c.active = items.length ∧
        c.ofKind .string + c.ofKind .list + c.ofKind .set + c.ofKind .hash = c.active ∧
        census (swept s now) now = { c with total := c.active, expired := 0 } := by
  have hactive : (census s now).active = (liveKeys s now).length := by
    rw [census_active, liveKeys_eq_map, List.length_map]
  refine ⟨liveKeys s now, fun k => timeLeft s k now, outcome_keys_star s now,
    nodup_liveKeys s now, ?_, ?_, ?_, rfl, census_total s now, census_expired s now, hactive,
    hactive, ?_, census_swept s now⟩
  · intro k
    refine ⟨outcome_ttl s k now, ?_⟩
    rw [ne_eq, timeLeft_eq_neg_two_iff, mem_liveKeys]
    exact Option.ne_none_iff_exists'.symm
  · intro k
    refine ⟨_, outcome_existing s [k] now, ?_⟩
    rw [mem_liveKeys, ← holds_iff]
    cases h : holds s now k <;> simp [h]
  · intro topic
    obtain ⟨text, htext, hlines⟩ := filter_lines_info s topic now
    refine ⟨text, htext, ?_⟩
    rw [hlines, filter_keyspaceReport, hactive, census_volatile_eq]
    by_cases hempty : liveKeys s now = []
    · simp [hempty]
    · simp [hempty]
  · simp only [census_ofKind, census_active, countP_kinds]

end Keyspace
