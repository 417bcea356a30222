import ScriptStudio.Program.Cursor
import ScriptStudio.Proofs.GoalCompletion
import ScriptStudio.Proofs.RuleOutcomes

/-!
# A token is refused as early as possible

A token is refused when no program begins with the tokens up to it, and not before. The tokens in
front of a refused token can always be completed to a program, since the goals at that moment can be
met.

The machine decides what the rules answer: `programItems_of_refuse` where it refuses a token, and
`exists_ofTokens_of_reaches` where it meets all goals.
-/

namespace ScriptStudio.Grammar

variable {goal : Goal} {goals : List Goal} {tokens rest : List Token} {token : Token}

/-! ## Token lists with one end -/

/-- The only end of the text is the last token. -/
structure EndsOnce (tokens : List Token) : Prop where
  closed : Closed tokens
  once : ∀ token ∈ tokens.dropLast, token.kind ≠ .endOfFile

theorem EndsOnce.completed {taken : List Token} (h : EndsOnce (taken ++ token :: rest))
    (hgoals : Pending goals) : EndsOnce (taken ++ completion goals) := by
  have hlast : Closed (taken ++ completion goals) := by
    rw [completion, ← List.append_assoc]
    exact closed_append_singleton _ rfl
  refine ⟨hlast, fun other hother => ?_⟩
  rw [completion, ← List.append_assoc, List.dropLast_concat, List.mem_append] at hother
  rcases hother with hother | hother
  · refine h.once other ?_
    rw [List.dropLast_append_of_ne_nil (List.cons_ne_nil _ _)]
    exact List.mem_append_left _ hother
  · exact hgoals.kind_ne_of_mem other hother

/-! ## The machine decides -/

/-- Where the machine refuses a token, reading stops. -/
theorem programItems_of_refuse (hended : Ended tokens) {later : List Goal} {refusal : Refusal}
    (h : Reaches ([.program], tokens) (goal :: later, token :: rest))
    (hnext : goal.next token = .refuse refusal) :
    programItems (fuelFor tokens) tokens =
      .error ⟨.refused ⟨refusal, token⟩, token :: rest⟩ :=
  programItems_eq hended ⟨_, h, by simp [stop?, hnext]⟩

/-- Tokens with an end that meet all goals are a program. -/
theorem exists_ofTokens_of_reaches (hended : Ended tokens)
    (h : Reaches ([.program], tokens) ([], rest)) :
    ∃ program, Program.ofTokens tokens = .ok program := by
  have hhalts := programItems_halts hended (Nat.le_refl _)
  cases hitems : programItems (fuelFor tokens) tokens with
  | ok found =>
    exact ⟨⟨found.1⟩, (Program.ofTokens_eq_ok_iff hended.ne_nil).mpr ⟨_, hitems⟩⟩
  | error stop =>
    rw [hitems] at hhalts
    obtain ⟨state, hreaches, hstop⟩ := hhalts
    cases Reaches.unique h (stuck_nil _) hreaches (stuck_of_stop? hstop)
    cases hstop

/-- A token that is refused, the goal that refuses it and the run up to there. -/
theorem exists_refuse_of_ofTokens (hended : Ended tokens) {error : ParseError}
    (h : Program.ofTokens tokens = .error (.refused error)) :
    ∃ goal later rest, Reaches ([.program], tokens) (goal :: later, error.token :: rest) ∧
      goal.next error.token = .refuse error.refusal := by
  obtain ⟨rest, hitems⟩ := (Program.ofTokens_eq_error_iff hended.ne_nil).mp h
  have hhalts := programItems_halts hended (Nat.le_refl _)
  rw [hitems] at hhalts
  obtain ⟨state, hreaches, hstop⟩ := hhalts
  obtain ⟨goal, later, more, rfl, -, hnext⟩ := exists_of_stop?_refused hstop
  exact ⟨goal, later, more, hreaches, hnext⟩

end ScriptStudio.Grammar

namespace ScriptStudio

open Grammar

/-- The tokens are refused at a place, and this is the first place where they can be. -/
structure RefusedFirst (tokens : List Token) (error : ParseError) (place : Nat) : Prop where
  /-- Reading stops at the place, and the token there is the one that is refused. -/
  stops : (TokenCursor.ofTokens tokens).read Grammar.program =
    (.error (.refused error), ⟨tokens, place⟩)
  token : tokens[place]? = some error.token
  /-- The tokens up to the place decide. All tokens that begin like them are refused there, for the
  same reason. -/
  decided : ∀ others, EndsOnce others →
    (others.take (place + 1)).map spelling = (tokens.take (place + 1)).map spelling →
      ∃ other, Program.ofTokens others = .error (.refused other) ∧
        (TokenCursor.ofTokens others).read Grammar.program =
          (.error (.refused other), ⟨others, place⟩) ∧
        other.detail = error.detail
  /-- The tokens in front of the place decide nothing yet. Some program begins with them. -/
  viable : ∃ more program, EndsOnce (tokens.take place ++ more) ∧
    Program.ofTokens (tokens.take place ++ more) = .ok program

/-- Where the rules stop, the cursor stops. -/
theorem read_program_of_error {tokens rest : List Token} {error : ParseError} (hne : tokens ≠ [])
    (h : programItems (fuelFor tokens) tokens = .error ⟨.refused error, rest⟩) :
    Program.ofTokens tokens = .error (.refused error) ∧
      (TokenCursor.ofTokens tokens).read Grammar.program =
        (.error (.refused error), ⟨tokens, tokens.length - rest.length⟩) := by
  have hempty : tokens.isEmpty = false := by simpa using hne
  constructor
  · exact (Program.ofTokens_eq_error_iff hne).mpr ⟨rest, h⟩
  · rw [TokenCursor.read, TokenCursor.ofTokens, hempty]
    dsimp only [Grammar.program, TokenCursor.ahead]
    rw [List.drop_zero, h]
    rfl

/-- What is wrong with a token does not depend on its place. -/
theorem ParseError.detail_congr {token other : Token} (refusal : Refusal)
    (h : spelling other = spelling token) :
    ParseError.detail ⟨refusal, other⟩ = ParseError.detail ⟨refusal, token⟩ := by
  obtain ⟨hkind, htext⟩ : other.kind = token.kind ∧ other.text = token.text := Prod.mk.inj h
  simp only [ParseError.detail, hkind, htext]

/-- Tokens that begin like a front and a token after it. -/
theorem exists_of_take_alike {taken others : List Token} {token : Token}
    (h : (others.take (taken.length + 1)).map spelling = (taken ++ [token]).map spelling) :
    ∃ front other more, others = front ++ other :: more ∧
      front.map spelling = taken.map spelling ∧ spelling other = spelling token := by
  rw [List.map_append] at h
  obtain ⟨front, last, htake, hfront, hlast⟩ := List.map_eq_append_iff.mp h
  obtain ⟨other, rfl, hother⟩ := List.map_eq_singleton_iff.mp hlast
  refine ⟨front, other, others.drop (taken.length + 1), ?_, hfront, hother⟩
  calc others = others.take (taken.length + 1) ++ others.drop (taken.length + 1) := by simp
    _ = front ++ other :: others.drop (taken.length + 1) := by simp [htake]

/-- A program that is refused is refused at the first place where it can be: every list of tokens
that begins with the tokens up to the refused one is refused there with the same words, and some
program begins with the tokens in front of it. -/
theorem Program.refusedFirst_of_ofTokens {tokens : List Token} (honce : EndsOnce tokens)
    {error : ParseError} (h : Program.ofTokens tokens = .error (.refused error)) :
    ∃ place, RefusedFirst tokens error place := by
  have hended := honce.closed.ended
  obtain ⟨goal, later, rest, hreaches, hnext⟩ := exists_refuse_of_ofTokens hended h
  have hitems := programItems_of_refuse hended hreaches hnext
  obtain ⟨refusal, token⟩ := error
  obtain ⟨taken, middle, rfl, hfirst, hturns⟩ := hreaches.split
  have hplace : (taken ++ token :: rest).length - (token :: rest).length = taken.length := by
    simp
  refine ⟨taken.length, ?_, by simp, fun others hothers halike => ?_, ?_⟩
  · rw [(read_program_of_error hended.ne_nil hitems).2, hplace]
  · rw [List.take_length_add_append, List.take_succ_cons, List.take_zero] at halike
    obtain ⟨front, other, more, rfl, hfront, hother⟩ := exists_of_take_alike halike
    have hended := hothers.closed.ended
    have hlength : front.length = taken.length := by simpa using congrArg List.length hfront
    have hreaches : Reaches ([.program], front ++ other :: more) (goal :: later, other :: more) :=
      (hfirst front (other :: more) hfront).trans (hturns (other :: more) (by simp [hother]))
    have hstop := programItems_of_refuse hended hreaches ((goal.next_congr hother).trans hnext)
    obtain ⟨hrefused, hread⟩ := read_program_of_error hended.ne_nil hstop
    have hsame : (front ++ other :: more).length - (other :: more).length = taken.length := by
      simp [hlength]
    exact ⟨_, hrefused, by rw [hread, hsame], ParseError.detail_congr refusal hother⟩
  · have hpending : Pending middle := .of_reaches (hfirst taken (token :: rest) rfl)
    have hcompleted := honce.completed hpending
    have hmet := (hfirst taken (completion middle) rfl).trans hpending.reaches_completion
    obtain ⟨program, hprogram⟩ := exists_ofTokens_of_reaches hcompleted.closed.ended hmet
    rw [List.take_left]
    exact ⟨completion middle, program, hcompleted, hprogram⟩

/-- The tokens of a branch whose block asks for another argument and closes the call instead. -/
def danglingComma : List Token :=
  [⟨.ifKw, "if", ⟨1, 1⟩⟩, ⟨.identifier, "x", ⟨1, 4⟩⟩, ⟨.leftBrace, "\x7b", ⟨1, 6⟩⟩,
    ⟨.newline, "\n", ⟨1, 7⟩⟩, ⟨.sayKw, "say", ⟨2, 1⟩⟩, ⟨.identifier, "f", ⟨2, 5⟩⟩,
    ⟨.leftParen, "(", ⟨2, 6⟩⟩, ⟨.identifier, "a", ⟨2, 7⟩⟩, ⟨.comma, ",", ⟨2, 8⟩⟩,
    ⟨.rightParen, ")", ⟨2, 10⟩⟩, ⟨.endOfFile, "", ⟨2, 11⟩⟩]

/-- The parenthesis is refused, though the block has no end either. -/
theorem refusedFirst_danglingComma :
    EndsOnce danglingComma ∧
      Program.ofTokens danglingComma =
        .error (.refused ⟨.noExpression, ⟨.rightParen, ")", ⟨2, 10⟩⟩⟩) ∧
      RefusedFirst danglingComma ⟨.noExpression, ⟨.rightParen, ")", ⟨2, 10⟩⟩⟩ 9 := by
  have honce : EndsOnce danglingComma := ⟨rfl, by decide⟩
  have hrefused : Program.ofTokens danglingComma =
      .error (.refused ⟨.noExpression, ⟨.rightParen, ")", ⟨2, 10⟩⟩⟩) := rfl
  obtain ⟨place, hfirst⟩ := Program.refusedFirst_of_ofTokens honce hrefused
  have hread : (TokenCursor.ofTokens danglingComma).read Grammar.program =
      (.error (.refused ⟨.noExpression, ⟨.rightParen, ")", ⟨2, 10⟩⟩⟩), ⟨danglingComma, 9⟩) := rfl
  obtain rfl : 9 = place := by
    have hsame := hread.symm.trans hfirst.stops
    exact congrArg (fun answer => answer.2.position) hsame
  exact ⟨honce, hrefused, hfirst⟩

end ScriptStudio
