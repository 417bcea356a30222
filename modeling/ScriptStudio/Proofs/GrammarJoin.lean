import ScriptStudio.Proofs.GoalCompletion
import ScriptStudio.Proofs.GrammarSound

/-!
# Reading one text after another

A program that is read to its end reads the same when a line end and another program follow, and the
two lists of statements are then read one after the other.

In front of the end the machine does not know what is to come. At the end every goal but that of the
program itself does what it does at a line end (`Goal.next_newline`), so that the machine stands in
front of the line end with the program as its only goal. There it goes on with the second text.
-/

namespace ScriptStudio

namespace Grammar

variable {goal : Goal} {goals : List Goal} {parts parts' : List Part} {last newline : Token}

/-- A goal that ends at the end of the text ends in the same way at the end of a line. -/
theorem Goal.next_newline (hgoal : goal ≠ .program) (hlast : last.kind = .endOfFile)
    (hnewline : newline.kind = .newline) (h : goal.next last = .turn goals) :
    goal.next newline = .turn goals ∧
      ∀ parts, goal.parts newline parts = goal.parts last parts := by
  cases goal with
  | token kind refusal => grind [Goal.next]
  | operators level =>
    have hkinds := level.notMem_kinds
    simp_all [Goal.next, Goal.parts]
  | _ =>
    simp_all [Goal.next, Goal.parts, isAtWord, unaryKinds, Move.ofPrimary, Move.ofStatement]

theorem Pending.reading_newline (hlast : last.kind = .endOfFile)
    (hnewline : newline.kind = .newline) (hgoals : Pending goals)
    (h : Reading (goals, parts, [last]) ([], parts', [last])) (rest : List Token) :
    ∃ left, (left = [] ∨ left = [.program]) ∧
      Reading (goals, parts, newline :: rest) (left, parts', newline :: rest) := by
  generalize hstart : (goals, parts, [last]) = start at h
  induction h using Relation.ReflTransGen.head_induction_on generalizing goals parts with
  | refl =>
    cases hstart
    exact ⟨[], .inl rfl, .refl⟩
  | head hstep hrun ih =>
    obtain @⟨goal, later, _, _, _, _, hstep, _⟩ := hstep
    cases hstart
    cases hstep with
    | take hnext => exact absurd (Reading.reaches hrun).suffix (by simp)
    | turn hnext =>
      by_cases hgoal : goal = .program
      · -- It is the last goal, and the run is at its end.
        subst hgoal
        cases hgoals with
        | cons hproper => cases hproper
        | program =>
          cases (if_pos (by simp [hlast])).symm.trans hnext
          obtain ⟨rfl, -⟩ := Reading.unique hrun .refl
          exact ⟨[.program], .inr rfl, .refl⟩
      · obtain ⟨hnext', hparts⟩ := Goal.next_newline hgoal hlast hnewline hnext
        have hpending := hgoals.next last
        rw [hnext] at hpending
        obtain ⟨left, hleft, hreading⟩ := ih hpending rfl
        refine ⟨left, hleft, .turn hnext' ?_⟩
        rwa [hparts]

end Grammar

open Grammar

/-- Tokens that spell the same spell the same program. -/
theorem Program.ofTokens_alike {tokens others : List Token} {program : Program}
    (h : Program.ofTokens tokens = .ok program)
    (halike : others.map spelling = tokens.map spelling) :
    Ended others ∧ Program.ofTokens others = .ok program := by
  have hended := Program.ended_of_ofTokens h
  have hothers : Ended others := by
    obtain ⟨token, htoken, hkind⟩ := hended
    obtain ⟨other, hother, hsame⟩ := List.mem_map.mp (halike ▸ List.mem_map_of_mem htoken)
    exact ⟨other, hother, (congrArg Prod.fst hsame).trans hkind⟩
  obtain ⟨rest, hreading⟩ := (Program.ofTokens_eq_ok_iff_reading hended).mp h
  exact ⟨hothers, (Program.ofTokens_eq_ok_iff_reading hothers).mpr (hreading.alike halike)⟩

/-- Tokens that each spell a program spell the two programs one after the other when a line end
stands between them. The tokens of the second may lie at other places. -/
theorem Program.ofTokens_joined {body later others : List Token} {last newline : Token}
    {first second : Program} (hbody : ∀ token ∈ body, token.kind ≠ .endOfFile)
    (hlast : last.kind = .endOfFile) (hnewline : newline.kind = .newline)
    (hfirst : Program.ofTokens (body ++ [last]) = .ok first)
    (hsecond : Program.ofTokens later = .ok second)
    (halike : others.map spelling = later.map spelling) :
    Program.ofTokens (body ++ newline :: others) =
      .ok ⟨first.statements ++ second.statements⟩ := by
  obtain ⟨hothers, hsecond⟩ := Program.ofTokens_alike hsecond halike
  have hended : Ended (body ++ newline :: others) :=
    hothers.of_suffix ((List.suffix_cons _ _).trans (List.suffix_append _ _))
  have hread := programItems_halts (closed_append_singleton body hlast).ended (Nat.le_refl _)
  rw [(Program.items_of_ofTokens hbody hlast hfirst).1] at hread
  obtain ⟨taken, middle, between, htaken, hfront, hturns⟩ := Reading.split hread
  obtain rfl := List.append_cancel_right htaken
  have hpending : Pending middle := .of_reaches (hfront body [last] rfl).reaches
  obtain ⟨left, hleft, hline⟩ :=
    hpending.reading_newline hlast hnewline (hturns [last] rfl) others
  have hall := (hfront body (newline :: others) rfl).andThen hline
  rcases hleft with rfl | rfl
  · -- No program ends in front of a line end.
    have hend := isAt_endOfFile_of_programItems (programItems_eq hended hall)
    simp [hnewline] at hend
  · obtain ⟨rest, hitems⟩ := (Program.ofTokens_eq_ok_iff hothers.ne_nil).mp hsecond
    have hparses := programItems_parses (fuelFor others) first.statements others
    rw [hitems] at hparses
    obtain ⟨-, hlater, -⟩ := hparses.2 hothers
    have hnext : Goal.program.next newline = .take [.program] := by simp [Goal.next, hnewline]
    exact (Program.ofTokens_eq_ok_iff_reading hended).mpr ⟨rest, hall.andThen (.take hnext hlater)⟩

end ScriptStudio
