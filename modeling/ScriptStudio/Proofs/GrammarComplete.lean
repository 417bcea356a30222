import ScriptStudio.Proofs.ExpressionComplete
import ScriptStudio.Proofs.Rendering
import ScriptStudio.Proofs.RuleOutcomes

/-!
# What is written is what is read

Tokens that spell a program are read as that program, if a line end stands after every statement.

Statements are known by their first token, and so are the places where a list of statements ends:
no statement begins with a line end, a closing brace or the end of the text. A block is read as a
block whatever follows it, and any other statement in front of a line end.
-/

namespace ScriptStudio

namespace Grammar

/-! ## Statements -/

/-- The kinds of the tokens that may begin a statement. -/
def leaders : List TokenKind :=
  [.functionKw, .ifKw, .whileKw, .forKw, .returnKw, .sayKw, .kasKw, .leftBrace]

variable {tokens tested starts stops : List Token} {body : List Stmt}
  {word name sign kas upTo closing : Token} {e condition start stop : Expr} {later : List Goal}
  {parts : List Part} {rest : List Token} {final : List Goal × List Part × List Token}

theorem begins_of_stmtDerives {ending : List Token → Prop} {s : Stmt}
    (h : s.Derives ending tokens) : Begins leaders tokens := by
  cases h with
  | say hword => exact .of_kind hword (by decide) _
  | assign hword => exact .of_kind hword (by decide) _
  | give hword => exact .of_kind hword (by decide) _
  | giveValue hword => exact .of_kind hword (by decide) _
  | block hopening => exact .of_kind hopening (by decide) _
  | branch hword => exact .of_kind hword (by decide) _
  | branchElse hword => exact .of_kind hword (by decide) _
  | loop hword => exact .of_kind hword (by decide) _
  | count hword => exact .of_kind hword (by decide) _
  | countStep hword => exact .of_kind hword (by decide) _
  | define hword => exact .of_kind hword (by decide) _

/-- A block begins with its brace. -/
theorem begins_of_blockDerives {ending : List Token → Prop}
    (h : (Stmt.block body).Derives ending tokens) : Begins [.leftBrace] tokens := by
  cases h with
  | block hopening => exact .of_kind hopening (by decide) _

/-- The tokens are read as a statement in front of a line end. -/
def ReadsStatement (s : Stmt) (tokens : List Token) : Prop :=
  ∀ later parts line rest, line.kind = .newline →
    Reading (.statement :: later, parts, tokens ++ line :: rest)
      (later, .stmt s :: parts, line :: rest)

/-- The tokens are read as a block, whatever follows. -/
def ReadsBlock (s : Stmt) (tokens : List Token) : Prop :=
  ∀ later parts token rest,
    Reading (.block :: later, parts, tokens ++ token :: rest)
      (later, .stmt s :: parts, token :: rest)

/-- An expression is read up to a token that may stand after every expression. -/
theorem Reading.expression {token : Token} {kind : TokenKind} (he : e.Derives loosest tokens)
    (hkind : token.kind = kind) (hcloser : kind ∈ closers)
    (h : Reading (later, .expr e :: parts, token :: rest) final) :
    Reading (.expression :: later, parts, tokens ++ token :: rest) final :=
  ((reads_of_derives e he).meets _ _ _ _ (.of_closer (hkind ▸ hcloser))).andThen h

/-- An expression ends in front of a block. -/
theorem Reading.expressionBlock (he : e.Derives loosest tested)
    (hbegins : Begins [.leftBrace] tokens)
    (h : Reading (later, .expr e :: parts, tokens ++ rest) final) :
    Reading (.expression :: later, parts, tested ++ (tokens ++ rest)) final := by
  obtain ⟨opening, more, rfl, hopening⟩ := hbegins
  exact .expression he (List.mem_singleton.mp hopening) (by decide) h

theorem readsStatement_say (hword : word.kind = .sayKw) (he : e.Derives loosest tokens) :
    ReadsStatement (.say e) (word :: tokens) := by
  intro later parts line rest hline
  have hnext : Goal.statement.next word = .turn Goal.ofSay := by
    simp only [Goal.next, Move.ofStatement, hword]
  refine .turn hnext (.take (if_pos hword) ?_)
  exact .expression he hline (by decide) (.make .refl)

theorem readsStatement_assign (hword : word.kind = .kasKw) (hname : name.kind = .identifier)
    (hsign : sign.kind = .assign) (he : e.Derives loosest tokens) :
    ReadsStatement (.assign name.text e) (word :: name :: sign :: tokens) := by
  intro later parts line rest hline
  have hnext : Goal.statement.next word = .turn Goal.ofAssign := by
    simp only [Goal.next, Move.ofStatement, hword]
  refine .turn hnext (.take (if_pos hword) (.take (if_pos hname) (.take (if_pos hsign) ?_)))
  exact .expression he hline (by decide) (.make .refl)

theorem next_return (hword : word.kind = .returnKw) :
    Goal.statement.next word = .turn Goal.ofGive := by
  simp only [Goal.next, Move.ofStatement, hword]

theorem readsStatement_give (hword : word.kind = .returnKw) :
    ReadsStatement (.give none) [word] := by
  intro later parts line rest hline
  refine .turn (next_return hword) (.take (if_pos hword) ?_)
  exact .turn (if_pos (by simp [hline])) (.make .refl)

theorem readsStatement_giveValue (hword : word.kind = .returnKw) (he : e.Derives loosest tokens) :
    ReadsStatement (.give (some e)) (word :: tokens) := by
  intro later parts line rest hline
  refine .turn (next_return hword) (.take (if_pos hword) ?_)
  have hread : Reading ([.expression, .make .give] ++ later, parts, tokens ++ line :: rest)
      (later, .stmt (.give (some e)) :: parts, line :: rest) :=
    .expression he hline (by decide) (.make .refl)
  obtain ⟨first, more, rfl, hfirst⟩ := begins_of_derives he
  exact .turn (if_neg (not_isAt hfirst (by decide))) hread

theorem readsStatement_loop {body : Stmt} (hword : word.kind = .whileKw)
    (hcondition : condition.Derives loosest tested) (hbegins : Begins [.leftBrace] tokens)
    (hbody : ReadsBlock body tokens) :
    ReadsStatement (.loop condition body) (word :: (tested ++ tokens)) := by
  intro later parts line rest hline
  have hnext : Goal.statement.next word = .turn Goal.ofLoop := by
    simp only [Goal.next, Move.ofStatement, hword]
  rw [List.cons_append, List.append_assoc]
  refine .turn hnext (.take (if_pos hword) (.expressionBlock hcondition hbegins ?_))
  exact (hbody _ _ _ _).andThen (.make .refl)

theorem next_if (hword : word.kind = .ifKw) : Goal.statement.next word = .turn Goal.ofBranch := by
  simp only [Goal.next, Move.ofStatement, hword]

theorem readsStatement_branch {thenBranch : Stmt} {thens : List Token} (hword : word.kind = .ifKw)
    (hcondition : condition.Derives loosest tested) (hbegins : Begins [.leftBrace] thens)
    (hthen : ReadsBlock thenBranch thens) :
    ReadsStatement (.branch condition thenBranch none) (word :: (tested ++ thens)) := by
  intro later parts line rest hline
  rw [List.cons_append, List.append_assoc]
  refine .turn (next_if hword) (.take (if_pos hword) (.expressionBlock hcondition hbegins ?_))
  refine (hthen _ _ _ _).andThen ?_
  exact .turn (if_neg (by simp [hline])) (.make .refl)

theorem readsStatement_branchElse {other : Token} {thenBranch elseBranch : Stmt}
    {thens elses : List Token} (hword : word.kind = .ifKw)
    (hcondition : condition.Derives loosest tested) (hbegins : Begins [.leftBrace] thens)
    (hthen : ReadsBlock thenBranch thens) (hother : other.kind = .elseKw)
    (helse : ReadsStatement elseBranch elses) :
    ReadsStatement (.branch condition thenBranch (some elseBranch))
      (word :: (tested ++ (thens ++ other :: elses))) := by
  intro later parts line rest hline
  simp only [List.cons_append, List.append_assoc]
  refine .turn (next_if hword) (.take (if_pos hword) (.expressionBlock hcondition hbegins ?_))
  refine (hthen _ _ _ _).andThen (.take (if_pos (by simp [hother])) ?_)
  exact (helse _ _ _ _ hline).andThen (.make .refl)

theorem isAtWord_cons {word : String} {token : Token} (h : token.IsWord word) :
    isAtWord word [token] = true := by
  simp [isAtWord, h.1, h.2]

section Count

variable {body : Stmt} (hword : word.kind = .forKw) (hkas : kas.kind = .kasKw)
  (hname : name.kind = .identifier) (hsign : sign.kind = .assign)
  (hstart : start.Derives loosest starts) (hto : upTo.IsWord "to")
  (hstop : stop.Derives loosest stops)
include hword hkas hname hsign hstart hto hstop

/-- The two forms of a counting loop are read alike up to the end of the stop. -/
theorem Reading.count {token : Token} {kind : TokenKind} (hkind : token.kind = kind)
    (hcloser : kind ∈ closers)
    (h : Reading ([.stride, .block, .make .count] ++ later,
      .expr stop :: .expr start :: .word name.text :: parts, token :: rest) final) :
    Reading (.statement :: later, parts,
      word :: kas :: name :: sign :: (starts ++ upTo :: (stops ++ token :: rest))) final := by
  have hnext : Goal.statement.next word = .turn Goal.ofCount := by
    simp only [Goal.next, Move.ofStatement, hword]
  refine .turn hnext (.take (if_pos hword) (.take (if_pos hkas) (.take (if_pos hname) ?_)))
  refine .take (if_pos hsign) (.expression hstart hto.1 (by decide) ?_)
  exact .take (if_pos (isAtWord_cons hto)) (.expression hstop hkind hcloser h)

theorem readsStatement_count (hbegins : Begins [.leftBrace] tokens)
    (hbody : ReadsBlock body tokens) :
    ReadsStatement (.count name.text start stop none body)
      (word :: kas :: name :: sign :: (starts ++ upTo :: (stops ++ tokens))) := by
  intro later parts line rest hline
  simp only [List.cons_append, List.append_assoc]
  obtain ⟨opening, more, rfl, hopening⟩ := hbegins
  have hkind := List.mem_singleton.mp hopening
  refine .count hword hkas hname hsign hstart hto hstop hkind (by decide) ?_
  refine .turn (if_neg (by simp [isAtWord, hkind])) ?_
  exact (hbody _ _ _ _).andThen (.make .refl)

theorem readsStatement_countStep {byStep : Token} {step : Expr} {steps : List Token}
    (hby : byStep.IsWord "step") (hstep : step.Derives loosest steps)
    (hbegins : Begins [.leftBrace] tokens) (hbody : ReadsBlock body tokens) :
    ReadsStatement (.count name.text start stop (some step) body)
      (word :: kas :: name :: sign ::
        (starts ++ upTo :: (stops ++ byStep :: (steps ++ tokens)))) := by
  intro later parts line rest hline
  simp only [List.cons_append, List.append_assoc]
  refine .count hword hkas hname hsign hstart hto hstop hby.1 (by decide) ?_
  refine .take (if_pos (isAtWord_cons hby)) (.expressionBlock hstep hbegins ?_)
  exact (hbody _ _ _ _).andThen (.make .refl)

end Count

theorem parameters_reading {names : List String} (h : Separated NameSpelled names tokens)
    (hnames : names ≠ []) (hclosing : closing.kind = .rightParen) (done : List String) :
    Begins [.identifier] tokens ∧
      Reading (.list (.name (.missing .parameterName)) :: later, .names done :: parts,
          tokens ++ closing :: rest)
        (later, .names (done ++ names) :: parts, closing :: rest) := by
  induction h generalizing done with
  | nil => exact absurd rfl hnames
  | one hitem =>
    obtain ⟨name, rfl, hkind, rfl⟩ := hitem
    refine ⟨.of_kind hkind (by decide) _, .turn rfl (.take (if_pos hkind) (.make ?_))⟩
    exact .turn (if_neg (by simp [hclosing])) .refl
  | more hitem hcomma hmore hlater ih =>
    obtain ⟨name, rfl, hkind, rfl⟩ := hitem
    refine ⟨.of_kind hkind (by decide) _, .turn rfl ?_⟩
    simp only [List.cons_append]
    refine .take (if_pos hkind) (.make (.take (if_pos (by simp [hcomma])) ?_))
    have hlast := (ih hmore (done ++ [name.text])).2
    rwa [List.append_assoc] at hlast

theorem readsStatement_define {opening : Token} {parameters : List String} {body : Stmt}
    {names : List Token} (hword : word.kind = .functionKw) (hname : name.kind = .identifier)
    (hopening : opening.kind = .leftParen) (hparameters : Separated NameSpelled parameters names)
    (hclosing : closing.kind = .rightParen) (hbody : ReadsBlock body tokens) :
    ReadsStatement (.define name.text parameters body)
      (word :: name :: opening :: (names ++ closing :: tokens)) := by
  intro later parts line rest hline
  have hnext : Goal.statement.next word = .turn Goal.ofDefine := by
    simp only [Goal.next, Move.ofStatement, hword]
  simp only [List.cons_append, List.append_assoc]
  refine .turn hnext (.take (if_pos hword) (.take (if_pos hname) (.take (if_pos hopening) ?_)))
  by_cases hempty : parameters = []
  · subst hempty
    cases hparameters
    refine .make (.take (if_pos (by simp [hclosing])) ?_)
    exact (hbody _ _ _ _).andThen (.make .refl)
  · obtain ⟨⟨first, more, rfl, hfirst⟩, hnames⟩ := parameters_reading hparameters hempty hclosing []
    refine .make (.turn (if_neg (not_isAt hfirst (by decide))) (hnames.andThen ?_))
    exact .take (if_pos hclosing) ((hbody _ _ _ _).andThen (.make .refl))

/-! ## Lists of statements -/

/-- The goal asks for statements and passes over the line ends between them. -/
structure Goal.Lists (goal : Goal) : Prop where
  turns : ∀ first : Token, first.kind ∈ leaders →
    goal.next first = .turn [.statement, .make .item, goal]
  lines : ∀ line : Token, line.kind = .newline → goal.next line = .take [goal]
  parts : ∀ token parts, goal.parts token parts = parts

theorem Goal.lists_blockRest : Goal.blockRest.Lists where
  turns first hfirst := by
    have hline : ¬isAt [.newline] [first] = true := not_isAt hfirst (by decide)
    have hbrace : ¬isAt [.rightBrace] [first] = true := not_isAt hfirst (by decide)
    have hend : ¬isAt [.endOfFile] [first] = true := not_isAt hfirst (by decide)
    exact (if_neg hline).trans ((if_neg hbrace).trans (if_neg hend))
  lines line hline := if_pos (by simp [hline])
  parts _ _ := rfl

theorem Goal.lists_program : Goal.program.Lists where
  turns first hfirst := by
    have hend : ¬isAt [.endOfFile] [first] = true := not_isAt hfirst (by decide)
    have hline : ¬isAt [.newline] [first] = true := not_isAt hfirst (by decide)
    exact (if_neg hend).trans (if_neg hline)
  lines line hline := (if_neg (by simp [hline])).trans (if_pos (by simp [hline]))
  parts _ _ := rfl

/-- The tokens are read as more statements of a list. -/
def ReadsItems (body : List Stmt) (tokens : List Token) : Prop :=
  ∀ goal : Goal, goal.Lists → ∀ done later parts last rest,
    Reading (goal :: later, .stmts done :: parts, tokens ++ last :: rest)
      (goal :: later, .stmts (done ++ body) :: parts, last :: rest)

theorem readsBlock_block {opening : Token} (hopening : opening.kind = .leftBrace)
    (hbody : ReadsItems body tokens) (hclosing : closing.kind = .rightBrace) :
    ReadsBlock (.block body) (opening :: (tokens ++ [closing])) := by
  intro later parts token rest
  have hnext : Goal.blockRest.next closing = .take [.make .block] := by
    simp [Goal.next, hclosing]
  have hread := hbody _ Goal.lists_blockRest [] later parts closing (token :: rest)
  obtain ⟨first, more, hall⟩ := List.exists_cons_of_ne_nil
    (List.append_ne_nil_of_right_ne_nil tokens (List.cons_ne_nil closing (token :: rest)))
  simp only [List.cons_append, List.nil_append, List.append_assoc]
  rw [hall] at hread ⊢
  exact .take (if_pos hopening) (.make (hread.andThen (.take hnext (.make .refl))))

theorem ReadsBlock.readsStatement {s : Stmt} (h : ReadsBlock s tokens)
    (hbegins : Begins [.leftBrace] tokens) : ReadsStatement s tokens := by
  intro later parts line rest hline
  have hread := h later parts line rest
  obtain ⟨opening, more, rfl, hopening⟩ := hbegins
  have hnext : Goal.statement.next opening = .turn [.block] := by
    simp only [Goal.next, Move.ofStatement, List.mem_singleton.mp hopening]
  exact .turn hnext hread

mutual

/-- Tokens that spell a statement are read as it, and a block is read as a block wherever it stands.
The recursion is on the statement. -/
theorem readsStatement_of_derives : (s : Stmt) → {tokens : List Token} →
    s.Derives LineEnding tokens →
    ReadsStatement s tokens ∧ (s.isBlock = true → ReadsBlock s tokens)
  | .say _, _, h => by
    refine ⟨?_, fun hblock => nomatch hblock⟩
    cases h with
    | say hword he => exact readsStatement_say hword he
  | .assign _ _, _, h => by
    refine ⟨?_, fun hblock => nomatch hblock⟩
    cases h with
    | assign hword hname hsign he => exact readsStatement_assign hword hname hsign he
  | .give _, _, h => by
    refine ⟨?_, fun hblock => nomatch hblock⟩
    cases h with
    | give hword => exact readsStatement_give hword
    | giveValue hword he => exact readsStatement_giveValue hword he
  | .block body, _, h => by
    have hbegins := begins_of_blockDerives h
    cases h with
    | block hopening hbody hclosing =>
      have hblock := readsBlock_block hopening (readsItems_of_items body hbody) hclosing
      exact ⟨hblock.readsStatement hbegins, fun _ => hblock⟩
  | .branch condition thenBranch none, _, h => by
    refine ⟨?_, fun hblock => nomatch hblock⟩
    -- Asked of the branch itself, since only the derivation shows that it is a block.
    have ih := @readsStatement_of_derives thenBranch
    cases h with
    | branch hword hcondition hthen =>
      exact readsStatement_branch hword hcondition (begins_of_blockDerives hthen)
        ((ih hthen).2 rfl)
  | .branch condition thenBranch (some elseBranch), _, h => by
    refine ⟨?_, fun hblock => nomatch hblock⟩
    have ih := @readsStatement_of_derives thenBranch
    cases h with
    | branchElse hword hcondition hthen hother helse =>
      exact readsStatement_branchElse hword hcondition (begins_of_blockDerives hthen)
        ((ih hthen).2 rfl) hother (readsStatement_of_derives elseBranch helse).1
  | .loop condition body, _, h => by
    refine ⟨?_, fun hblock => nomatch hblock⟩
    have ih := @readsStatement_of_derives body
    cases h with
    | loop hword hcondition hbody =>
      exact readsStatement_loop hword hcondition (begins_of_blockDerives hbody)
        ((ih hbody).2 rfl)
  | .count _ start stop step body, _, h => by
    refine ⟨?_, fun hblock => nomatch hblock⟩
    have ih := @readsStatement_of_derives body
    cases h with
    | count hword hkas hname hsign hstart hto hstop hbody =>
      exact readsStatement_count hword hkas hname hsign hstart hto hstop
        (begins_of_blockDerives hbody) ((ih hbody).2 rfl)
    | countStep hword hkas hname hsign hstart hto hstop hby hstep hbody =>
      exact readsStatement_countStep hword hkas hname hsign hstart hto hstop hby hstep
        (begins_of_blockDerives hbody) ((ih hbody).2 rfl)
  | .define _ _ body, _, h => by
    refine ⟨?_, fun hblock => nomatch hblock⟩
    have ih := @readsStatement_of_derives body
    cases h with
    | define hword hname hopening hparameters hclosing hbody =>
      exact readsStatement_define hword hname hopening hparameters hclosing ((ih hbody).2 rfl)
  | .unknown _, _, h => nomatch h

theorem readsItems_of_items : (body : List Stmt) → {tokens : List Token} →
    Items (Stmt.Derives LineEnding) LineEnding body tokens → ReadsItems body tokens
  | [], _, h => by
    cases h with
    | nil =>
      intro goal hgoal done later parts last rest
      rw [List.append_nil]
      exact .refl
  | s :: more, _, h => by
    intro goal hgoal done later parts last rest
    cases h with
    | @cons _ _ tokens ends others hitem hends hmore =>
      obtain ⟨line, rfl, hline⟩ := hends
      have hread : Reading ([.statement, .make .item, goal] ++ later, .stmts done :: parts,
          tokens ++ line :: (others ++ last :: rest))
          (goal :: later, .stmts (done ++ [s] ++ more) :: parts, last :: rest) := by
        refine ((readsStatement_of_derives s hitem).1 _ _ _ _ hline).andThen (.make ?_)
        refine .take (hgoal.lines line hline) ?_
        rw [hgoal.parts]
        exact readsItems_of_items more hmore goal hgoal _ _ _ _ _
      obtain ⟨first, others', rfl, hfirst⟩ := begins_of_stmtDerives hitem
      simp only [List.append_assoc, List.cons_append, List.nil_append] at hread ⊢
      refine .turn (hgoal.turns first hfirst) ?_
      rw [hgoal.parts]
      exact hread

end

end Grammar

open Grammar

/-- Tokens that spell a program are read as it. -/
theorem Program.ofTokens_of_derives {program : Program} {tokens : List Token} {last : Token}
    (h : program.Derives LineEnding tokens) (hlast : last.kind = .endOfFile) :
    Program.ofTokens (tokens ++ [last]) = .ok program := by
  have hended : Ended (tokens ++ [last]) := ⟨last, by simp, hlast⟩
  rw [Program.ofTokens_eq_ok_iff_reading hended]
  refine ⟨[last], ?_⟩
  refine (readsItems_of_items _ h _ Goal.lists_program [] [] [] last []).andThen ?_
  exact .turn (if_pos (by simp [hlast])) .refl

/-- The tokens of a stratified program are read as the program, and so are all other tokens that
spell it: tokens at other places, other spellings of its literals, questions without a prompt. -/
theorem Program.ofTokens_render {program : Program} (hstratified : program.isStratified = true)
    {spell : LiteralSpelling} (hliterals : spell.Covers program.literals) :
    Program.ofTokens (program.render spell) = .ok program ∧
      ∀ tokens last, program.Derives LineEnding tokens → last.kind = .endOfFile →
        Program.ofTokens (tokens ++ [last]) = .ok program := by
  refine ⟨?_, fun tokens last htokens hlast => Program.ofTokens_of_derives htokens hlast⟩
  have hderives : program.Derives LineEnding (Stmt.renderLines spell program.statements) :=
    Stmt.derives_renderLines program.statements hstratified hliterals
  exact Program.ofTokens_of_derives hderives rfl

/-- A counting loop whose names are the words of such a loop, with an `if` after an `else`, a return
without a value and operators of four levels. -/
def countingByStep : Program where
  statements :=
    [.count "to" (.reference "to") (.reference "step")
      (some (.call "step" [.reference "to", .literal .number (.float (.zero false))]))
      (.block
        [.branch
          (.binary (.binary (.reference "a") .minus (.reference "b")) .less
            (.binary (.binary (.reference "c") .minus (.reference "d")) .minus
              (.binary (.unary .minus (.reference "e")) .times
                (.group (.binary (.reference "f") .or (.reference "g"))))))
          (.block [.give none])
          (some (.branch (.unary .not (.reference "h")) (.block [])
            (some (.say (.literal .string (.text "done"))))))])]

/-- Spells the literals of the loop. -/
def countingSpelling : LiteralSpelling
  | .number, _ => ⟨.number, "0.0", .start⟩
  | .string, _ => ⟨.string, "'done'", .start⟩
  | .boolean, _ => .ofSpelling "true"

theorem ofTokens_render_countingByStep :
    countingByStep.isStratified = true ∧ countingSpelling.Covers countingByStep.literals ∧
      Program.ofTokens (countingByStep.render countingSpelling) = .ok countingByStep := by
  have hcovers : countingSpelling.Covers countingByStep.literals := by
    rintro literal (_ | ⟨_, _ | ⟨_, _ | _⟩⟩)
    · exact ⟨rfl, by decide⟩
    · exact ⟨rfl, by decide⟩
  exact ⟨by decide, hcovers, (Program.ofTokens_render (by decide) hcovers).1⟩

end ScriptStudio
