import ScriptStudio.Proofs.RuleOutcomes

/-!
# What is read is what was written

A program that is read from tokens is spelled by them. Line ends apart, every token up to the end
stands in the derivation, once and in its place.

The tokens that a list of statements took spell it. It is read up to an end, and where there is only
one end, these are all the tokens in front of it.
-/

namespace ScriptStudio

namespace Grammar

variable {fuel : Nat} {tokens : List Token}

/-- A list of statements is read up to an end. -/
theorem isAt_endOfFile_of_programItems {rest : List Token} {found : List Stmt}
    (h : programItems fuel tokens = .ok (found, rest)) : isAt [.endOfFile] rest = true := by
  induction fuel generalizing tokens found with
  | zero => cases h
  | succ fuel ih =>
    unfold programItems at h
    split at h
    · rename_i hend
      cases h
      exact hend
    · split at h
      · exact ih h
      · obtain ⟨⟨first, later⟩, _, h⟩ := bind_eq_ok h
        obtain ⟨⟨more, last⟩, hmore, h⟩ := bind_eq_ok h
        cases h
        exact ih hmore

/-- What is left at an end is left of the tokens that have an end. -/
theorem suffix_of_append_of_peek {body back taken rest : List Token}
    (hbody : ∀ token ∈ body, token.kind ≠ .endOfFile) (hrest : rest ≠ [])
    (htaken : body ++ back = taken ++ rest) (hend : (peek rest).kind = .endOfFile) :
    rest <:+ back := by
  rcases List.append_eq_append_iff.mp htaken with ⟨more, rfl, rfl⟩ | ⟨more, rfl, rfl⟩
  · exact List.suffix_append _ _
  · cases more with
    | nil => exact List.suffix_refl _
    | cons token more => exact absurd hend (hbody token (by simp))

end Grammar

open Grammar

/-- Tokens that spell a program have an end. -/
theorem Program.ended_of_ofTokens {tokens : List Token} {program : Program}
    (h : Program.ofTokens tokens = .ok program) : Ended tokens := by
  have hne : tokens ≠ [] := by
    rintro rfl
    cases h
  obtain ⟨rest, hitems⟩ := (Program.ofTokens_eq_ok_iff hne).mp h
  have hparses := programItems_parses (fuelFor tokens) [] tokens
  rw [hitems] at hparses
  have hend := List.mem_singleton.mp (kind_of_isAt (isAt_endOfFile_of_programItems hitems))
  obtain ⟨token, more, rfl⟩ := List.exists_cons_of_ne_nil (hparses.1.ne_nil hne)
  exact ⟨token, hparses.1.suffix.subset List.mem_cons_self, hend⟩

/-- A program that is read from tokens with a single end is read up to the end. -/
theorem Program.items_of_ofTokens {body : List Token} {last : Token} {program : Program}
    (hbody : ∀ token ∈ body, token.kind ≠ .endOfFile) (hlast : last.kind = .endOfFile)
    (h : Program.ofTokens (body ++ [last]) = .ok program) :
    programItems (fuelFor (body ++ [last])) (body ++ [last]) = .ok (program.statements, [last]) ∧
      program.Derives NoEnding (words body) := by
  have hended := (closed_append_singleton body hlast).ended
  obtain ⟨rest, hitems⟩ := (Program.ofTokens_eq_ok_iff hended.ne_nil).mp h
  obtain ⟨hrest, taken, htaken, hderives⟩ := derives_of_programItems hended hitems
  have hend := List.mem_singleton.mp (kind_of_isAt (isAt_endOfFile_of_programItems hitems))
  obtain ⟨front, hfront⟩ := suffix_of_append_of_peek hbody hrest.ne_nil htaken hend
  obtain ⟨rfl, rfl⟩ : front = [] ∧ rest = [last] := by
    rcases List.append_eq_singleton_iff.mp hfront with hboth | ⟨-, hnil⟩
    · exact hboth
    · exact absurd hnil hrest.ne_nil
  obtain rfl := List.append_cancel_right htaken
  exact ⟨hitems, hderives⟩

/-- A program that is read from tokens with a single end is spelled by all the tokens in front of
the end, line ends apart, and its operators lie in the layers of the grammar. The layers of a
derivation are those of the kinds of its tokens; they are the layers of the tree when the operators
are spelled as their kinds say. -/
theorem Program.derives_of_ofTokens {body : List Token} {last : Token} {program : Program}
    (hbody : ∀ token ∈ body, token.kind ≠ .endOfFile) (hlast : last.kind = .endOfFile)
    (h : Program.ofTokens (body ++ [last]) = .ok program) :
    program.Derives NoEnding (words body) ∧
      ((∀ token ∈ body, token.IsSpelled) → program.isStratified = true) := by
  obtain ⟨-, hderives⟩ := Program.items_of_ofTokens hbody hlast h
  refine ⟨hderives, fun hspelled => Stmt.Derives.areStratified _ hderives fun token htoken => ?_⟩
  exact hspelled token (List.mem_of_mem_filter htoken)

/-- The tokens of a text with a question without a prompt, operators of three levels and a line end
inside a block. -/
def twoStatements : List Token :=
  [⟨.sayKw, "say", ⟨1, 1⟩⟩, ⟨.identifier, "a", ⟨1, 5⟩⟩, ⟨.minus, "-", ⟨1, 7⟩⟩,
    ⟨.identifier, "b", ⟨1, 9⟩⟩, ⟨.times, "*", ⟨1, 11⟩⟩, ⟨.inputKw, "input", ⟨1, 13⟩⟩,
    ⟨.leftParen, "(", ⟨1, 18⟩⟩, ⟨.rightParen, ")", ⟨1, 19⟩⟩, ⟨.plus, "+", ⟨1, 21⟩⟩,
    ⟨.identifier, "c", ⟨1, 23⟩⟩, ⟨.newline, "\n", ⟨1, 24⟩⟩, ⟨.ifKw, "if", ⟨2, 1⟩⟩,
    ⟨.notKw, "not", ⟨2, 4⟩⟩, ⟨.trueKw, "true", ⟨2, 8⟩⟩, ⟨.leftBrace, "\x7b", ⟨2, 13⟩⟩,
    ⟨.newline, "\n", ⟨2, 14⟩⟩, ⟨.returnKw, "return", ⟨3, 1⟩⟩, ⟨.rightBrace, "\x7d", ⟨3, 8⟩⟩]

/-- What the tokens spell. -/
def twoStatementsRead : Program where
  statements :=
    [.say (.binary
        (.binary (.reference "a") .minus
          (.binary (.reference "b") .times (.input (.literal .string (.text "")))))
        .plus (.reference "c")),
      .branch (.unary .not (.literal .boolean (.bool true))) (.block [.give none]) none]

theorem derives_twoStatementsRead :
    Program.ofTokens (twoStatements ++ [⟨.endOfFile, "", ⟨3, 9⟩⟩]) = .ok twoStatementsRead ∧
      twoStatementsRead.Derives NoEnding (words twoStatements) ∧
      twoStatementsRead.isStratified = true := by
  have hread : Program.ofTokens (twoStatements ++ [⟨.endOfFile, "", ⟨3, 9⟩⟩]) =
    .ok twoStatementsRead := rfl
  obtain ⟨hderives, hstratified⟩ := Program.derives_of_ofTokens (by decide) rfl hread
  exact ⟨hread, hderives, hstratified (by decide)⟩

end ScriptStudio
