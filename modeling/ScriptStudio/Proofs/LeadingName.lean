import ScriptStudio.Proofs.EarliestRefusal
import ScriptStudio.Proofs.GrammarSound

/-!
# Lines that begin with a name

No statement begins with a name, so a call cannot stand on a line of its own. A text with such a
line is refused as a whole, and the name is the token that is refused, whatever follows it.

`leadIns` are the kinds of token after which a statement may stand. When the machine takes one off
and a name is at hand, it comes to ask for a statement (`Goal.reaches_statement`). What came before
is the same whatever follows. So if the tokens up to a lead-in go on to a program in any way, they
are not refused before a name that stands there instead.
-/

namespace ScriptStudio.Grammar

/-- The kinds of token after which a statement may stand: a line end, an opening brace, `else`. -/
def leadIns : List TokenKind := [.newline, .leftBrace, .elseKw]

/-- The kinds of token that a list of statements looks for in front of a statement. -/
def pauses : List TokenKind := [.newline, .rightBrace, .endOfFile]

variable {goal : Goal} {goals : List Goal} {tokens : List Token} {leadIn name : Token}

theorem reaches_statement_of_lists (hgoal : goal = .program ∨ goal = .blockRest)
    (hname : name.kind = .identifier) (later : List Goal) (rest : List Token) :
    ∃ more, Reaches (goal :: later, name :: rest) (.statement :: more, name :: rest) := by
  have hnext : goal.next name = .turn [.statement, .make .item, goal] := by
    rcases hgoal with rfl | rfl <;> simp [Goal.next, hname]
  exact ⟨_, .single (.turn hnext _ _)⟩

/-- After a lead-in the machine asks for a statement if a name is at hand. -/
theorem Goal.reaches_statement (hgoal : goal.isProper = true ∨ goal = .program)
    (hleadIn : leadIn.kind ∈ leadIns) (h : goal.next leadIn = .take goals)
    (hname : name.kind = .identifier) (later : List Goal) (rest : List Token) :
    ∃ more, Reaches (goals ++ later, name :: rest) (.statement :: more, name :: rest) := by
  have hnot : ∀ kinds : List TokenKind, (∀ kind ∈ leadIns, kind ∉ kinds) →
      ¬isAt kinds [leadIn] = true := fun _ hkinds hat => hkinds _ hleadIn (kind_of_isAt hat)
  cases goal with
  | program =>
    rw [Goal.next] at h
    repeat' split at h
    all_goals cases h
    exact reaches_statement_of_lists (.inl rfl) hname later rest
  | blockRest =>
    rw [Goal.next, if_neg (hnot [.rightBrace] (by decide))] at h
    repeat' split at h
    all_goals cases h
    exact reaches_statement_of_lists (.inr rfl) hname later rest
  | block =>
    rw [Goal.next] at h
    split at h <;> cases h
    obtain ⟨more, hmore⟩ := reaches_statement_of_lists (.inr rfl) hname later rest
    exact ⟨more, (reaches_make _ _).trans hmore⟩
  | alternative =>
    rw [Goal.next] at h
    split at h <;> cases h
    exact ⟨later, .refl⟩
  | token kind refusal =>
    rw [Goal.next] at h
    split at h <;> cases h
    rename_i hkind
    have hsubset : leadIns ⊆ edges := by decide
    have hedge : kind ∈ edges := hkind ▸ hsubset hleadIn
    simp [Goal.isProper, hedge] at hgoal
  | operators level =>
    have hkinds : ∀ kind ∈ leadIns, kind ∉ level.kinds := by cases level <;> decide
    rw [Goal.next, if_neg (hnot _ hkinds)] at h
    cases h
  | operand level => cases level <;> cases h
  | _ =>
    -- No other goal takes one of the three off.
    simp only [leadIns, List.mem_cons, List.not_mem_nil, or_false] at hleadIn
    rcases hleadIn with hkind | hkind | hkind <;>
      simp [Goal.next, Move.ofPrimary, Move.ofStatement, isAtWord, unaryKinds, hkind] at h

theorem reaches_name {before back : List Token}
    (hbefore : ∀ token ∈ before, token.kind ≠ .endOfFile)
    (hplace : ∀ token ∈ before.getLast?, token.kind ∈ leadIns)
    (hname : name.kind = .identifier) {program : Program}
    (h : Program.ofTokens (before ++ back) = .ok program) (later : List Token) :
    ∃ more, Reaches ([.program], before ++ name :: later) (.statement :: more, name :: later) := by
  rcases List.eq_nil_or_concat before with rfl | ⟨front, leadIn, rfl⟩
  · exact reaches_statement_of_lists (.inl rfl) hname [] later
  -- A program is read up to an end, which does not stand in the front.
  have hended := Program.ended_of_ofTokens h
  obtain ⟨rest, hitems⟩ := (Program.ofTokens_eq_ok_iff hended.ne_nil).mp h
  obtain ⟨hrest, taken, htaken, -⟩ := derives_of_programItems hended hitems
  have hend := List.mem_singleton.mp (kind_of_isAt (isAt_endOfFile_of_programItems hitems))
  have hsuffix := suffix_of_append_of_peek hbefore hrest.ne_nil htaken hend
  have hreading := programItems_halts hended (Nat.le_refl _)
  rw [hitems] at hreading
  rw [List.concat_eq_append, List.append_assoc, List.singleton_append] at hreading ⊢
  obtain ⟨goal, others, goals, hnext, hreaches⟩ := (Reading.reaches hreading).exists_take hsuffix
  have hgoal : goal.isProper = true ∨ goal = .program := by
    cases Pending.of_reaches (hreaches back) with
    | program => exact .inr rfl
    | cons hproper => exact .inl hproper
  obtain ⟨more, hmore⟩ :=
    Goal.reaches_statement hgoal (hplace leadIn (by simp)) hnext hname others later
  exact ⟨more, ((hreaches (name :: later)).tail (.take hnext _ _)).trans hmore⟩

end ScriptStudio.Grammar

namespace ScriptStudio

open Grammar

/-- A name stands where a statement is asked for, at the start of a line, of a block or of an `else`
branch. Then the tokens are no program. If anything at all can stand there that makes them one, a
word `say` in front of the name for example, the name is the token that is refused. -/
theorem Program.ofTokens_leadingName {before later : List Token} {name : Token}
    (hbefore : ∀ token ∈ before, token.kind ≠ .endOfFile)
    (hplace : ∀ token ∈ before.getLast?, token.kind ∈ leadIns)
    (hname : name.kind = .identifier) (hclosed : Closed (name :: later)) :
    (∀ program, Program.ofTokens (before ++ name :: later) ≠ .ok program) ∧
      ∀ start rest program, start.kind ∉ pauses →
        Program.ofTokens (before ++ start :: rest) = .ok program →
          Program.ofTokens (before ++ name :: later) =
            .error (.refused ⟨.noStatement, name⟩) := by
  have hrefused : ∀ {back : List Token} {program : Program},
      Program.ofTokens (before ++ back) = .ok program →
        Program.ofTokens (before ++ name :: later) = .error (.refused ⟨.noStatement, name⟩) := by
    intro back program hprogram
    obtain ⟨more, hmore⟩ := reaches_name hbefore hplace hname hprogram later
    have hended := hclosed.ended.of_suffix (List.suffix_append before _)
    have hnext : Goal.statement.next name = .refuse .noStatement := by
      simp [Goal.next, Move.ofStatement, hname]
    exact (Program.ofTokens_eq_error_iff hended.ne_nil).mpr
      ⟨_, programItems_of_refuse hended hmore hnext⟩
  refine ⟨fun program hprogram => ?_, fun start rest program _ hprogram => hrefused hprogram⟩
  -- The name itself is a way to go on, so a program with it would be refused.
  cases (hrefused hprogram).symm.trans hprogram

/-- An empty block and the start of the block of its `else` branch. -/
def beforeGreeting : List Token :=
  [⟨.ifKw, "if", ⟨1, 1⟩⟩, ⟨.trueKw, "true", ⟨1, 4⟩⟩, ⟨.leftBrace, "\x7b", ⟨1, 9⟩⟩,
    ⟨.rightBrace, "\x7d", ⟨1, 10⟩⟩, ⟨.elseKw, "else", ⟨1, 12⟩⟩, ⟨.leftBrace, "\x7b", ⟨1, 17⟩⟩,
    ⟨.newline, "\n", ⟨1, 18⟩⟩]

/-- The name that is called in the branch. -/
def greetingName : Token := ⟨.identifier, "greet", ⟨2, 1⟩⟩

/-- The rest of the call and of the text. -/
def afterGreeting : List Token :=
  [⟨.leftParen, "(", ⟨2, 6⟩⟩, ⟨.rightParen, ")", ⟨2, 7⟩⟩, ⟨.newline, "\n", ⟨2, 8⟩⟩,
    ⟨.rightBrace, "\x7d", ⟨3, 1⟩⟩, ⟨.endOfFile, "", ⟨3, 2⟩⟩]

theorem ofTokens_bareGreeting :
    Program.ofTokens (beforeGreeting ++ ⟨.sayKw, "say", ⟨2, 1⟩⟩ :: greetingName :: afterGreeting) =
        .ok ⟨[.branch (.literal .boolean (.bool true)) (.block [])
          (some (.block [.say (.call "greet" [])]))]⟩ ∧
      Program.ofTokens (beforeGreeting ++ greetingName :: afterGreeting) =
        .error (.refused ⟨.noStatement, greetingName⟩) := by
  have hsay : Program.ofTokens
      (beforeGreeting ++ ⟨.sayKw, "say", ⟨2, 1⟩⟩ :: greetingName :: afterGreeting) =
        .ok ⟨[.branch (.literal .boolean (.bool true)) (.block [])
          (some (.block [.say (.call "greet" [])]))]⟩ := rfl
  have hlast : ∀ token ∈ beforeGreeting.getLast?, token.kind ∈ leadIns := by decide
  have hclosed : Closed (greetingName :: afterGreeting) := rfl
  obtain ⟨_, hrefused⟩ := Program.ofTokens_leadingName (by decide) hlast rfl hclosed
  exact ⟨hsay, hrefused _ _ _ (by decide) hsay⟩

end ScriptStudio
