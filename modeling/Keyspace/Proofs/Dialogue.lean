import Keyspace.Options
import Keyspace.Proofs.FreshSession
import Keyspace.Proofs.UsageHints

namespace Keyspace

open Text

namespace Console

namespace Turn

variable (t : Turn)

/-- The line without the blanks around it. -/
def text : String := trim t.line

/-- The line as it is compared with the console's own words. -/
def word : String := lower t.text

def leaves : Bool := t.word == "exit" || t.word == "quit"

/-- Blank lines and calls for help. -/
def quiet : Bool := t.text == "" || t.word == "help"

/-- Any other line but the words that clear the session or end the console. -/
def isCommand : Bool := t.text ≠ "" && t.word ∉ ["help", "clear", "exit", "quit"]

/-- The call on the session that a line makes. -/
def call? : Option Session.Call :=
  if t.isCommand then some (.submit t.text t.sweepAt t.now)
  else if t.word = "clear" then some .reset
  else none

theorem ofLine_eq : Entered.ofLine t.line =
    if t.text = "" then .blank
    else if t.word = "help" then .help
    else if t.word = "exit" ∨ t.word = "quit" then .leave
    else if t.word = "clear" then .clear
    else .command t.text := rfl

variable {t}

theorem text_ne_empty {w : String} (h : t.word = w) (hw : w ≠ "") : t.text ≠ "" := by
  intro htext
  have hempty : t.word = "" := by rw [word, htext]; decide
  exact hw (h.symm.trans hempty)

theorem isCommand_iff : t.isCommand = true ↔ t.text ≠ "" ∧ t.word ≠ "help" ∧ t.word ≠ "clear" ∧
    t.word ≠ "exit" ∧ t.word ≠ "quit" := by
  simp [isCommand]

theorem leaves_iff : t.leaves = true ↔ t.word = "exit" ∨ t.word = "quit" := by
  simp [leaves]

theorem quiet_iff : t.quiet = true ↔ t.text = "" ∨ t.word = "help" := by
  simp [quiet]

theorem ofLine_of_help (h : t.word = "help") : Entered.ofLine t.line = .help := by
  rw [ofLine_eq, if_neg (text_ne_empty h (by decide)), if_pos h]

theorem ofLine_of_clear (h : t.word = "clear") : Entered.ofLine t.line = .clear := by
  rw [ofLine_eq, if_neg (text_ne_empty h (by decide)), h, if_neg (by decide), if_neg (by decide),
    if_pos rfl]

theorem ofLine_of_isCommand (h : t.isCommand = true) :
    Entered.ofLine t.line = .command t.text := by
  obtain ⟨htext, hhelp, hclear, hexit, hquit⟩ := isCommand_iff.1 h
  rw [ofLine_eq, if_neg htext, if_neg hhelp, if_neg (not_or.2 ⟨hexit, hquit⟩), if_neg hclear]

theorem ofLine_eq_leave_iff : Entered.ofLine t.line = .leave ↔ t.leaves = true := by
  rw [leaves_iff, ofLine_eq]
  by_cases h : t.word = "exit" ∨ t.word = "quit"
  · have htext : t.text ≠ "" := by
      rcases h with h | h
      · exact text_ne_empty h (by decide)
      · exact text_ne_empty h (by decide)
    have hhelp : t.word ≠ "help" := by
      rcases h with h | h <;> rw [h] <;> decide
    rw [if_neg htext, if_neg hhelp, if_pos h]
    exact iff_of_true rfl h
  · refine iff_of_false ?_ h
    rw [if_neg h]
    split_ifs <;> nofun

theorem word_of_quiet (h : t.quiet = true) : t.word = "" ∨ t.word = "help" := by
  rcases quiet_iff.1 h with htext | hhelp
  · left
    rw [word, htext]
    decide
  · exact Or.inr hhelp

theorem quiet_of_leaves (h : t.leaves = true) : t.quiet = false := by
  by_contra hquiet
  rw [leaves_iff] at h
  rcases word_of_quiet (Bool.of_not_eq_false hquiet) with hword | hword
  · rw [hword] at h
    exact absurd h (by decide)
  · rw [hword] at h
    exact absurd h (by decide)

theorem call?_of_quiet (h : t.quiet = true) : t.call? = none := by
  have hcommand : ¬ t.isCommand = true := by
    rw [isCommand_iff]
    rcases quiet_iff.1 h with htext | hhelp
    · exact fun hc => hc.1 htext
    · exact fun hc => hc.2.1 hhelp
  have hclear : t.word ≠ "clear" := by
    rcases word_of_quiet h with hword | hword <;> rw [hword] <;> decide
  rw [call?, if_neg hcommand, if_neg hclear]

theorem call?_of_clear (h : t.word = "clear") : t.call? = some .reset := by
  have hcommand : ¬ t.isCommand = true := fun hc => (isCommand_iff.1 hc).2.2.1 h
  rw [call?, if_neg hcommand, if_pos h]

theorem call?_of_isCommand (h : t.isCommand = true) :
    t.call? = some (.submit t.text t.sweepAt t.now) := if_pos h

end Turn

/-- The lines that are read: those in front of the first that ends the console. -/
def heard (turns : List Turn) : List Turn := turns.takeWhile fun t => !t.leaves

/-- The calls that lines make on the session, in their order. -/
def calls (turns : List Turn) : List Session.Call := turns.filterMap Turn.call?

def farewell (ending : Ending) (turns : List Turn) : String :=
  if turns.any Turn.leaves then leaveFarewell else ending.farewell

/-- The commands with their arguments, and the console's own words. -/
def helpText : String :=
  "\nCommands:\n---------\n" ++
  "  SET        key value [EX seconds|PX milliseconds]\n" ++
  "  GET        key\n" ++
  "  DEL        key [key ...]\n" ++
  "  EXISTS     key [key ...]\n" ++
  "  EXPIRE     key seconds\n" ++
  "  TTL        key\n" ++
  "  PERSIST    key\n" ++
  "  LPUSH      key value [value ...]\n" ++
  "  RPUSH      key value [value ...]\n" ++
  "  LPOP       key\n" ++
  "  LRANGE     key start stop\n" ++
  "  SADD       key member [member ...]\n" ++
  "  SMEMBERS   key\n" ++
  "  SISMEMBER  key member\n" ++
  "  HSET       key field value [field value ...]\n" ++
  "  HGET       key field\n" ++
  "  HGETALL    key\n" ++
  "  KEYS       pattern\n" ++
  "  INFO       [section]\n" ++
  "  FLUSHALL   \n" ++
  "\nConsole commands:\n-----------------\n" ++
  "  help       Show this help message\n" ++
  "  clear      Drop all keys and history\n" ++
  "  exit       Exit the console\n\n"

/-- What a line is shown in a session in this state. -/
inductive Shows (s : Session) (t : Turn) : String → Prop where
  | blank : t.text = "" → Shows s t ""
  | help : t.word = "help" → Shows s t helpText
  | clear : t.word = "clear" → Shows s t "Store cleared.\n"
  | command {s' : Session} {r : Record} : t.isCommand = true →
      s.submit t.text t.sweepAt t.now = .ok (s', r) → Shows s t (r.output ++ "\n" ++ usageLine r)

/-- Each line that is read, with what it is shown: in a session that has had, in their order, the
calls of the lines in front of it. -/
structure Answered (s : Session) (turns : List Turn) (shown : List (Turn × String)) : Prop where
  lines : shown.map Prod.fst = heard turns
  blocks : ∀ before t block after, shown = before ++ (t, block) :: after →
    Shows (s.afterCalls (calls (before.map Prod.fst))) t block

section Line

variable {s : Session} {t : Turn} {block : String}

theorem helpPage_eq : helpPage = helpText := by rfl

/-- What a line is shown is what the console shows for it, and the session goes on from the call. -/
theorem Shows.respond_eq (h : Shows s t block) :
    respond s (Entered.ofLine t.line) t.sweepAt t.now =
      .ok (s.afterCalls t.call?.toList, block) := by
  cases h with
  | blank htext =>
    have hquiet : t.quiet = true := Turn.quiet_iff.2 (Or.inl htext)
    rw [Turn.ofLine_eq, if_pos htext, Turn.call?_of_quiet hquiet]
    rfl
  | help hhelp =>
    have hquiet : t.quiet = true := Turn.quiet_iff.2 (Or.inr hhelp)
    rw [Turn.ofLine_of_help hhelp, Turn.call?_of_quiet hquiet, respond, helpPage_eq]
    rfl
  | clear hclear =>
    rw [Turn.ofLine_of_clear hclear, Turn.call?_of_clear hclear]
    rfl
  | @command s' r hcommand hsubmit =>
    have hcall : s.afterCalls [.submit t.text t.sweepAt t.now] = s' := by
      simp only [Session.afterCalls, List.foldl_cons, List.foldl_nil, Session.call, hsubmit]
    rw [Turn.ofLine_of_isCommand hcommand, Turn.call?_of_isCommand hcommand, Option.toList_some,
      hcall, respond, hsubmit]
    rfl

theorem Shows.eq_of_respond {other : String} (h : Shows s t block)
    (hother : (respond s (Entered.ofLine t.line) t.sweepAt t.now).map Prod.snd = .ok other) :
    block = other := by
  rw [h.respond_eq] at hother
  exact Except.ok.inj hother

theorem Shows.unique {other : String} (h : Shows s t block) (hother : Shows s t other) :
    block = other := by
  apply h.eq_of_respond
  rw [hother.respond_eq]
  rfl

/-- Every line that does not end the console is shown something, as its arguments are kept short. -/
theorem exists_shows (hlimits : s.limits = {}) (h : t.leaves = false) :
    ∃ block, Shows s t block := by
  by_cases htext : t.text = ""
  · exact ⟨_, .blank htext⟩
  · by_cases hhelp : t.word = "help"
    · exact ⟨_, .help hhelp⟩
    · by_cases hclear : t.word = "clear"
      · exact ⟨_, .clear hclear⟩
      · have hstays : ¬ (t.word = "exit" ∨ t.word = "quit") := by
          rw [← Turn.leaves_iff, h]
          nofun
        obtain ⟨hexit, hquit⟩ := not_or.1 hstays
        have hlimit : s.limits.value ≤ Numeral.digitLimit := by rw [hlimits]; decide
        obtain ⟨o, ho⟩ := exists_outcome hlimit t.text (s.tick t.sweepAt).1.store t.now
        exact ⟨_, .command (Turn.isCommand_iff.2 ⟨htext, hhelp, hclear, hexit, hquit⟩)
          (Session.submit_eq_ok ho)⟩

theorem dialogue_cons (h : t.leaves = false) (hshows : Shows s t block) (ending : Ending)
    (turns : List Turn) :
    dialogue ending s (t :: turns) =
      (dialogue ending (s.afterCalls t.call?.toList) turns).map (Release.prompt ++ block ++ ·) := by
  apply dialogue_respond _ hshows.respond_eq
  rw [Ne, Turn.ofLine_eq_leave_iff, h]
  nofun

theorem dialogue_of_leaves (h : t.leaves = true) (ending : Ending) (s : Session)
    (turns : List Turn) :
    dialogue ending s (t :: turns) = .ok (Release.prompt ++ leaveFarewell) := by
  rw [dialogue, Turn.ofLine_eq_leave_iff.2 h]

end Line

section Lines

variable {s : Session} {t : Turn} {block : String} {turns turns' : List Turn}
  {shown shown' : List (Turn × String)}

theorem heard_of_leaves (h : t.leaves = true) (turns : List Turn) : heard (t :: turns) = [] := by
  simp [heard, h]

theorem heard_cons (h : t.leaves = false) (turns : List Turn) :
    heard (t :: turns) = t :: heard turns := by
  simp [heard, h]

theorem afterCalls_calls_cons (s : Session) (t : Turn) (turns : List Turn) :
    s.afterCalls (calls (t :: turns)) = (s.afterCalls t.call?.toList).afterCalls (calls turns) := by
  rw [calls, List.filterMap_cons]
  cases t.call? with
  | none => rfl
  | some c => rfl

theorem limits_afterCalls (hlimits : s.limits = {}) (cs : List Session.Call) :
    (s.afterCalls cs).limits = {} :=
  (s.kept_afterCalls cs).1.trans hlimits

theorem answered_nil_iff (h : heard turns = []) : Answered s turns shown ↔ shown = [] := by
  constructor
  · intro hshown
    have hlines := hshown.lines
    rwa [h, List.map_eq_nil_iff] at hlines
  · rintro rfl
    exact ⟨h.symm, fun before _ _ _ hnil => absurd hnil.symm (by simp)⟩

/-- The first line is shown something in the session as it is, the others in the session that had
its call. -/
theorem answered_cons_iff (h : t.leaves = false) : Answered s (t :: turns) shown ↔
    ∃ block rest, shown = (t, block) :: rest ∧ Shows s t block ∧
      Answered (s.afterCalls t.call?.toList) turns rest := by
  constructor
  · intro hshown
    have hlines := hshown.lines
    rw [heard_cons h, List.map_eq_cons_iff] at hlines
    obtain ⟨⟨_, block⟩, rest, rfl, rfl, hrest⟩ := hlines
    refine ⟨block, rest, rfl, hshown.blocks [] _ _ _ rfl, hrest, ?_⟩
    rintro before t' block' after rfl
    have hblock := hshown.blocks ((_, block) :: before) t' block' after rfl
    rwa [List.map_cons, afterCalls_calls_cons] at hblock
  · rintro ⟨block, rest, rfl, hshows, hrest⟩
    refine ⟨?_, ?_⟩
    · rw [heard_cons h, List.map_cons, hrest.lines]
    · intro before t' block' after hsplit
      -- the line is the first, or one of the others behind the first call
      cases before with
      | nil =>
        cases hsplit
        exact hshows
      | cons p before =>
        obtain ⟨rfl, rfl⟩ := List.cons.inj hsplit
        rw [List.map_cons, afterCalls_calls_cons]
        exact hrest.blocks before t' block' after rfl

/-- All that is shown is a prompt and a block for each line that is read, and a prompt and the
farewell. -/
theorem exists_answered (hlimits : s.limits = {}) (ending : Ending) (turns : List Turn) :
    ∃ shown, Answered s turns shown ∧
      dialogue ending s turns = .ok (String.join (shown.map fun p => Release.prompt ++ p.2) ++
        (Release.prompt ++ farewell ending turns)) := by
  induction turns generalizing s with
  | nil => exact ⟨[], (answered_nil_iff rfl).2 rfl, rfl⟩
  | cons t turns ih =>
    cases h : t.leaves with
    | true =>
      refine ⟨[], (answered_nil_iff (heard_of_leaves h turns)).2 rfl, ?_⟩
      rw [dialogue_of_leaves h, farewell, List.any_cons, h]
      rfl
    | false =>
      obtain ⟨block, hblock⟩ := exists_shows hlimits h
      -- the call leaves the limits alone, so the session that it leaves answers as well
      obtain ⟨rest, hrest, hdialogue⟩ := ih (limits_afterCalls hlimits t.call?.toList)
      refine ⟨(t, block) :: rest, (answered_cons_iff h).2 ⟨_, _, rfl, hblock, hrest⟩, ?_⟩
      have hfarewell : farewell ending (t :: turns) = farewell ending turns := by
        rw [farewell, List.any_cons, h, Bool.false_or, farewell]
      rw [dialogue_cons h hblock, hdialogue, hfarewell, List.map_cons, String.join_cons]
      simp only [Except.map, String.append_assoc]

theorem Answered.unique (h : Answered s turns shown) (h' : Answered s turns shown') :
    shown = shown' := by
  induction turns generalizing s shown shown' with
  | nil => rw [(answered_nil_iff rfl).1 h, (answered_nil_iff rfl).1 h']
  | cons t turns ih =>
    cases hleaves : t.leaves with
    | true =>
      have hnil := heard_of_leaves hleaves turns
      rw [(answered_nil_iff hnil).1 h, (answered_nil_iff hnil).1 h']
    | false =>
      obtain ⟨block, rest, rfl, hblock, hrest⟩ := (answered_cons_iff hleaves).1 h
      obtain ⟨block', rest', rfl, hblock', hrest'⟩ := (answered_cons_iff hleaves).1 h'
      rw [hblock.unique hblock', ih hrest hrest']

/-- Without blank lines and calls for help a script has the same blocks for its other lines. -/
theorem Answered.filter_loud (h : Answered s turns shown) :
    Answered s (turns.filter fun t => !t.quiet) (shown.filter fun p => !p.1.quiet) := by
  induction turns generalizing s shown with
  | nil =>
    rw [(answered_nil_iff rfl).1 h]
    exact (answered_nil_iff rfl).2 rfl
  | cons t turns ih =>
    cases hleaves : t.leaves with
    | true =>
      rw [(answered_nil_iff (heard_of_leaves hleaves turns)).1 h]
      simp only [List.filter_cons, Turn.quiet_of_leaves hleaves, Bool.not_false, if_true]
      exact (answered_nil_iff (heard_of_leaves hleaves _)).2 rfl
    | false =>
      obtain ⟨block, rest, rfl, hblock, hrest⟩ := (answered_cons_iff hleaves).1 h
      have hfiltered := ih hrest
      cases hquiet : t.quiet with
      | true =>
        -- the session that shows the other lines has had no call in between
        rw [Turn.call?_of_quiet hquiet] at hfiltered
        simp only [List.filter_cons, hquiet, Bool.not_true, Bool.false_eq_true, if_false]
        exact hfiltered
      | false =>
        simp only [List.filter_cons, hquiet, Bool.not_false, if_true]
        exact (answered_cons_iff hleaves).2 ⟨block, _, rfl, hblock, hfiltered⟩

/-- What is typed behind a line that ends the console is not read. -/
theorem dialogue_append_of_leaves (h : turns.any Turn.leaves = true) (hlimits : s.limits = {})
    (ending ending' : Ending) (later : List Turn) :
    dialogue ending' s (turns ++ later) = dialogue ending s turns := by
  induction turns generalizing s with
  | nil => cases h
  | cons t turns ih =>
    cases hleaves : t.leaves with
    | true => rw [List.cons_append, dialogue_of_leaves hleaves, dialogue_of_leaves hleaves]
    | false =>
      obtain ⟨block, hblock⟩ := exists_shows hlimits hleaves
      rw [List.any_cons, hleaves, Bool.false_or] at h
      rw [List.cons_append, dialogue_cons hleaves hblock, dialogue_cons hleaves hblock,
        ih h (limits_afterCalls hlimits _)]

end Lines

theorem banner_eq :
    banner = "Welcome to Redis Playground v1.1.0\nType 'help' for commands.\n\n" := by decide

/-- The console shows the banner, a prompt with a block for each line that is read, and one more
prompt with a farewell; a block is that of a new session that had the calls of the lines before. -/
theorem console_drives_session (options : Options) (interval : Int)
    (hoption : options.sweepInterval = some interval) (hinterval : 0 ≤ interval)
    (ending : Ending) (turns : List Turn) :
    options.sweeper = .ok { interval := interval.toNat } ∧
    (∃ shown, Answered (Session.start {} interval.toNat) turns shown ∧
      transcript ending { sweeper := { interval := interval.toNat } } turns =
        .ok ("Welcome to Redis Playground v1.1.0\nType 'help' for commands.\n\n" ++
          (String.join (shown.map fun p => "127.0.0.1:6379> " ++ p.2) ++ ("127.0.0.1:6379> " ++
            if turns.any Turn.leaves then "Goodbye!\n"
            else match ending with
              | .endOfInput => "\nGoodbye!\n"
              | .interrupt => "\n\nInterrupted. Goodbye!\n")))) ∧
    (∀ turns' shown shown',
      (turns.filter fun t => !t.quiet) = (turns'.filter fun t => !t.quiet) →
      Answered (Session.start {} interval.toNat) turns shown →
      Answered (Session.start {} interval.toNat) turns' shown' →
      (shown.filter fun p => !p.1.quiet) = (shown'.filter fun p => !p.1.quiet)) ∧
    (turns.any Turn.leaves = true → ∀ ending' later,
      transcript ending' { sweeper := { interval := interval.toNat } } (turns ++ later) =
        transcript ending { sweeper := { interval := interval.toNat } } turns) := by
  have hlimits : (Session.start {} interval.toNat).limits = {} := rfl
  refine ⟨?_, ?_, ?_, ?_⟩
  · rw [Options.sweeper, hoption]
    simp only [Sweeper.ofInterval?, if_pos hinterval]
  · obtain ⟨shown, hshown, hdialogue⟩ := exists_answered hlimits ending turns
    refine ⟨shown, hshown, ?_⟩
    show (dialogue ending (Session.start {} interval.toNat) turns).map (banner ++ ·) = _
    rw [hdialogue, banner_eq]
    cases ending with
    | endOfInput => rfl
    | interrupt => rfl
  · intro turns' shown shown' hsame hshown hshown'
    have hloud := hshown.filter_loud
    rw [hsame] at hloud
    exact hloud.unique hshown'.filter_loud
  · intro hleaves ending' later
    exact congrArg _ (dialogue_append_of_leaves hleaves hlimits ending ending' later)

/-- A command, a blank line and the word that ends the console, with a blank behind it; then a
command that is not read. -/
def quittingScript : List Turn :=
  [⟨" set k v", 0, 1⟩, ⟨"\t", 2, 2⟩, ⟨"Quit ", 3, 3⟩, ⟨"GET k", 4, 4⟩]

theorem blocks_quittingScript (rest : List Turn) {shown : List (Turn × String)}
    (hrest : heard rest = [])
    (h : Answered (Session.start {} 250) (quittingScript.take 2 ++ rest) shown) :
    shown.map Prod.snd = ["OK\n", ""] := by
  obtain ⟨block, _, rfl, hblock, hothers⟩ := (answered_cons_iff (by decide)).1 h
  obtain ⟨block', _, rfl, hblock', hnil⟩ := (answered_cons_iff (by decide)).1 hothers
  have hset : block = "OK\n" := hblock.eq_of_respond (by rfl)
  have hblank : block' = "" := hblock'.eq_of_respond (by rfl)
  rw [(answered_nil_iff hrest).1 hnil, hset, hblank]
  rfl

/-- The same two lines with each of the three farewells. -/
theorem console_drives_session_endings :
    Options.ofWords {} ["--sweep-interval", "250"] = .ok ⟨some 250, false⟩ ∧
    transcript .interrupt { sweeper := { interval := 250 } } quittingScript =
      .ok ("Welcome to Redis Playground v1.1.0\nType 'help' for commands.\n\n" ++
        "127.0.0.1:6379> OK\n127.0.0.1:6379> 127.0.0.1:6379> Goodbye!\n") ∧
    transcript .endOfInput { sweeper := { interval := 250 } } (quittingScript.take 2) =
      .ok ("Welcome to Redis Playground v1.1.0\nType 'help' for commands.\n\n" ++
        "127.0.0.1:6379> OK\n127.0.0.1:6379> 127.0.0.1:6379> \nGoodbye!\n") ∧
    transcript .interrupt { sweeper := { interval := 250 } } (quittingScript.take 2) =
      .ok ("Welcome to Redis Playground v1.1.0\nType 'help' for commands.\n\n" ++
        "127.0.0.1:6379> OK\n127.0.0.1:6379> 127.0.0.1:6379> \n\nInterrupted. Goodbye!\n") := by
  have hdrives := console_drives_session ⟨some 250, false⟩ 250 rfl (by decide)
  -- the texts are put together from the blocks alone
  have hjoin (shown : List (Turn × String)) (h : shown.map Prod.snd = ["OK\n", ""]) :
      String.join (shown.map fun p => "127.0.0.1:6379> " ++ p.2) =
        "127.0.0.1:6379> OK\n127.0.0.1:6379> " := by
    have hmap := congrArg (List.map fun block => "127.0.0.1:6379> " ++ block) h
    rw [List.map_map] at hmap
    exact (congrArg String.join hmap).trans (by decide)
  refine ⟨by rfl, ?_, ?_, ?_⟩
  · obtain ⟨shown, hshown, htranscript⟩ := (hdrives .interrupt quittingScript).2.1
    have hblocks := blocks_quittingScript (quittingScript.drop 2) (by rfl) hshown
    exact htranscript.trans (by rw [hjoin shown hblocks]; rfl)
  · obtain ⟨shown, hshown, htranscript⟩ := (hdrives .endOfInput (quittingScript.take 2)).2.1
    have hblocks := blocks_quittingScript [] rfl hshown
    exact htranscript.trans (by rw [hjoin shown hblocks]; rfl)
  · obtain ⟨shown, hshown, htranscript⟩ := (hdrives .interrupt (quittingScript.take 2)).2.1
    have hblocks := blocks_quittingScript [] rfl hshown
    exact htranscript.trans (by rw [hjoin shown hblocks]; rfl)

end Console

end Keyspace
