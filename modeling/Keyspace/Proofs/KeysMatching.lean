import Keyspace.Command.Execute
import Keyspace.Proofs.GlobRelation
import Keyspace.Proofs.Live
import Keyspace.Proofs.Reading

namespace Keyspace

open Store

/-- A pattern that is read for keys accepts the texts that match it once it is written plainly. -/
theorem Glob.accepts_ofKeyPattern_iff (p k : String) :
    (ofKeyPattern p).accepts k = true ↔ Globs LateClass (plainNegation p.toList) k.toList := by
  rw [accepts, matchesChars_iff]
  exact matches_ofChars_iff (plainNegation p.toList) k.toList

section Lines

variable {limits : Limits} {line : String}

/-- A line that passes the checks has one argument, the pattern. -/
theorem arguments_of_keys (h : (Request.ofLine line).Passes limits .keys) :
    (Request.ofLine line).arguments = [(Request.ofLine line).key] := by
  obtain ⟨p, hp⟩ := List.length_eq_one_iff.1 (Arity.eq_of_admits h.arity)
  rw [Request.key, hp]
  rfl

theorem execute_of_keys (h : (Request.ofLine line).Passes limits .keys) (s : Store) (now : Int) :
    execute limits line s now = .ok ((Command.keys (Request.ofLine line).key).outcome s now) := by
  apply execute_of_ofLine
  rw [Command.ofLine_of_passes h, arguments_of_keys h]
  rfl

end Lines

theorem Command.outcome_keys (p : String) (s : Store) (now : Int) :
    (keys p).outcome s now =
      .unchanged (.array ((liveKeys s now).filter (Glob.ofKeyPattern p).accepts)) := rfl

/-- The live keys that match as a whole, in the order of the store, with every caret right behind an
opening bracket read as an exclamation mark. -/
theorem keys_lists_matching (s : Store) (now : Int) (p : String) :
    ∃ q items, Glob.Replaced ['[', '^'] ['[', '!'] p.toList q ∧
      (Command.keys p).outcome s now = .unchanged (.array items) ∧
      items.Sublist s.keys ∧ items.Nodup ∧
      (∀ k, k ∈ items ↔
        (∃ e, lookup s k now = some e) ∧ Glob.Globs Glob.LateClass q k.toList) ∧
      ∀ limits line, (Request.ofLine line).Passes limits .keys → (Request.ofLine line).key = p →
        execute limits line s now = .ok (.unchanged (.array items)) := by
  let items := (liveKeys s now).filter (Glob.ofKeyPattern p).accepts
  have hlive : items.Sublist (liveKeys s now) := List.filter_sublist
  refine ⟨Glob.plainNegation p.toList, items, Glob.replaced_iff.2 rfl,
    Command.outcome_keys p s now, hlive.trans (liveKeys_sublist_keys s now),
    hlive.nodup (nodup_liveKeys s now), ?_, ?_⟩
  · intro k
    rw [List.mem_filter, mem_liveKeys, Glob.accepts_ofKeyPattern_iff]
  · rintro limits line hpasses rfl
    exact execute_of_keys hpasses s now

/-- Three keys; the third expires at 10. -/
def letterKeys : Store :=
  ⟨[("x", ⟨.string "1", none⟩), ("!", ⟨.string "2", none⟩), ("y", ⟨.string "3", some 10⟩)],
    by decide⟩

theorem keys_lists_matching_caret :
    ∃ items, execute {} "KEYS [^a-c]" letterKeys 10 = .ok (.unchanged (.array items)) ∧
      "x" ∈ items ∧ "y" ∉ items := by
  obtain ⟨q, items, hq, -, -, -, hmem, hlines⟩ := keys_lists_matching letterKeys 10 "[^a-c]"
  refine ⟨items, hlines {} "KEYS [^a-c]" ⟨rfl, rfl, rfl⟩ rfl, ?_, ?_⟩
  · have htext : Glob.ClassText "!a-c".toList := .marked (by decide)
    have hclass : Glob.LateClass 'x' "!a-c".toList := .noneOf (.range .nil) (by decide)
    rw [hmem, Glob.replaced_iff.1 hq]
    exact ⟨⟨_, rfl⟩, .bracket htext hclass .done⟩
  · rw [hmem]
    rintro ⟨⟨e, he⟩, -⟩
    cases he

/-- The exclamation mark behind a backward range negates, so that the class excludes the letter. A
rule by which a backward range just stands for nothing has it list the letter. -/
theorem keys_late_mark :
    execute {} "KEYS [b-a!x]" letterKeys 0 = .ok (.unchanged (.array ["!", "y"])) ∧
      ¬ ∃ q, Glob.Replaced ['[', '^'] ['[', '!'] "[b-a!x]".toList q ∧
        ∀ k, k ∈ ["!", "y"] ↔
          (∃ e, lookup letterKeys k 0 = some e) ∧ Glob.Globs Glob.PlainClass q k.toList := by
  have htokens : Glob.ofKeyPattern "[b-a!x]" = [.noneOf [.single 'x']] := by
    have hsplit : Glob.splitClass "b-a!x]".toList = some ("b-a!x".toList, []) := rfl
    have hclass : Glob.ofChars "[b-a!x]".toList = Glob.classOf "b-a!x".toList :: Glob.ofChars [] :=
      Glob.ofChars_bracket hsplit
    show Glob.ofChars "[b-a!x]".toList = _
    rw [hclass, Glob.ofChars_nil]
    rfl
  constructor
  · have hpasses : (Request.ofLine "KEYS [b-a!x]").Passes {} .keys := ⟨rfl, rfl, rfl⟩
    have hkey : (Request.ofLine "KEYS [b-a!x]").key = "[b-a!x]" := rfl
    rw [execute_of_keys hpasses, hkey, Command.outcome_keys, htokens]
    rfl
  · rintro ⟨q, hq, hmem⟩
    obtain rfl : q = "[b-a!x]".toList := Glob.replaced_iff.1 hq
    have htext : Glob.ClassText "b-a!x".toList := .plain (by decide) (by decide)
    have hclass : Glob.PlainClass 'x' "b-a!x".toList :=
      .oneOf (by decide) (Glob.lists_membersOf _) (by decide)
    have hx : Glob.Globs Glob.PlainClass "[b-a!x]".toList "x".toList :=
      .bracket htext hclass .done
    exact absurd ((hmem "x").2 ⟨⟨_, rfl⟩, hx⟩) (by decide)

end Keyspace
