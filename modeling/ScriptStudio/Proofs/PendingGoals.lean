import Mathlib.Logic.Relation
import ScriptStudio.Proofs.TokensLeft

/-!
# What is still to be read

While a program is read, some constructs are begun and not yet ended. What is still to be read of
them is a stack of goals, the innermost first, and what was read of them is a stack of parts. The
token at hand and the first goal decide alone what happens next, which is `Goal.next`: the goal
turns into other goals, the token is taken off, or the token is refused.

This makes reading a machine.

* `Step` is one move of the machine on goals and tokens, and `Reaches` any number of moves. A move
  is determined by what it starts from, so that a stuck machine got stuck at the only place it could
  (`Reaches.unique`).
* `ReadStep` and `Reading` are the same moves with the parts, of which `Make` builds the tree.
* `Halts` is how the machine answers as a rule of the grammar does, with a tree or with a failure.
  It has one answer (`Halts.unique`).
* `Reading.split` cuts a run at the moment when a token came to hand. What came before depends on
  the kinds and the texts of the tokens taken off and on nothing that follows them.
-/

namespace ScriptStudio.Grammar

/-! ## Parts of a tree -/

/-- A part of a tree that is not finished. -/
inductive Part where
  | word (text : String)
  | names (found : List String)
  | expr (e : Expr)
  | exprs (found : List Expr)
  | stmt (s : Stmt)
  | stmts (found : List Stmt)

/-- What is built of the last parts. -/
inductive Make where
  | push (part : Part)
  /-- Adds the last part to the list in front of it. -/
  | item
  | call (callee : String)
  /-- A question. Its prompt, if it has one, stands after an empty list. -/
  | input
  | group
  | unary (op : UnaryOp)
  | binary (op : BinaryOp)
  | say
  | assign
  | give
  | block
  /-- A branch, with or without a statement for the other case. -/
  | branch
  | loop
  /-- A counted loop, with or without a step. -/
  | count
  | define

/-- The parts after something was built of the last ones. -/
def Make.apply : Make → List Part → List Part
  | .push part, parts => part :: parts
  | .item, .word name :: .names found :: parts => .names (found ++ [name]) :: parts
  | .item, .expr e :: .exprs found :: parts => .exprs (found ++ [e]) :: parts
  | .item, .stmt s :: .stmts found :: parts => .stmts (found ++ [s]) :: parts
  | .call callee, .exprs arguments :: parts => .expr (.call callee arguments) :: parts
  | .input, .exprs _ :: parts => .expr (.input (.literal .string (.text ""))) :: parts
  | .input, .expr prompt :: .exprs _ :: parts => .expr (.input prompt) :: parts
  | .group, .expr e :: parts => .expr (.group e) :: parts
  | .unary op, .expr e :: parts => .expr (.unary op e) :: parts
  | .binary op, .expr right :: .expr left :: parts => .expr (.binary left op right) :: parts
  | .say, .expr e :: parts => .stmt (.say e) :: parts
  | .assign, .expr e :: .word name :: parts => .stmt (.assign name e) :: parts
  | .give, .expr e :: parts => .stmt (.give (some e)) :: parts
  | .block, .stmts body :: parts => .stmt (.block body) :: parts
  | .branch, .stmt thenBranch :: .expr condition :: parts =>
    .stmt (.branch condition thenBranch none) :: parts
  | .branch, .stmt elseBranch :: .stmt thenBranch :: .expr condition :: parts =>
    .stmt (.branch condition thenBranch (some elseBranch)) :: parts
  | .loop, .stmt body :: .expr condition :: parts => .stmt (.loop condition body) :: parts
  | .count, .stmt body :: .expr stop :: .expr start :: .word name :: parts =>
    .stmt (.count name start stop none body) :: parts
  | .count, .stmt body :: .expr step :: .expr stop :: .expr start :: .word name :: parts =>
    .stmt (.count name start stop (some step) body) :: parts
  | .define, .stmt body :: .names parameters :: .word name :: parts =>
    .stmt (.define name parameters body) :: parts
  | _, parts => parts

/-! ## Goals -/

/-- Something that is still to be read. -/
inductive Goal where
  /-- A token of the kind. -/
  | token (kind : TokenKind) (refusal : Refusal)
  /-- A name. -/
  | name (refusal : Refusal)
  /-- The word in front of the last value of a counter. -/
  | limitWord
  | binary (level : Level)
  | operand (level : Level)
  /-- Operators of the level with their right operands, or nothing. -/
  | operators (level : Level)
  | unary
  | primary
  /-- What may follow a name: arguments in parentheses, or nothing. -/
  | call (callee : String)
  /-- One item or more with commas between them. -/
  | list (item : Goal)
  /-- A comma and more items, or nothing. -/
  | more (item : Goal)
  /-- A closing parenthesis, or the goal and then a closing parenthesis. -/
  | upToParen (inner : Goal) (refusal : Refusal)
  | statement
  | block
  /-- Statements and line ends up to the brace that closes a block. -/
  | blockRest
  /-- `else` with a statement, or nothing. -/
  | alternative
  /-- The word `step` with an expression, or nothing. -/
  | stride
  /-- An expression to give back, or nothing. -/
  | giveValue
  | program
  /-- Nothing is left to read of something that can be built now. -/
  | make (what : Make)

namespace Goal

/-- An expression. -/
abbrev expression : Goal := .binary .disjunction

/-- The goals of a definition. -/
def ofDefine : List Goal :=
  [.token .functionKw (.missing (.keyword "function")), .name (.missing .functionName),
    .token .leftParen (.missing .openAfterFunctionName), .make (.push (.names [])),
    .upToParen (.list (.name (.missing .parameterName))) (.missing .closeAfterParameters),
    .block, .make .define]

/-- The goals of a branch. -/
def ofBranch : List Goal :=
  [.token .ifKw (.missing (.keyword "if")), .expression, .block, .alternative, .make .branch]

/-- The goals of a loop. -/
def ofLoop : List Goal :=
  [.token .whileKw (.missing (.keyword "while")), .expression, .block, .make .loop]

/-- The goals of a counted loop. -/
def ofCount : List Goal :=
  [.token .forKw (.missing (.keyword "for")), .token .kasKw (.missing .counterKeyword),
    .name (.missing .variableName), .token .assign (.missing .assignSign), .expression, .limitWord,
    .expression, .stride, .block, .make .count]

/-- The goals of a `return`. -/
def ofGive : List Goal := [.token .returnKw (.missing (.keyword "return")), .giveValue]

/-- The goals of a `say`. -/
def ofSay : List Goal := [.token .sayKw (.otherKind .sayKw), .expression, .make .say]

/-- The goals of an assignment. -/
def ofAssign : List Goal :=
  [.token .kasKw (.otherKind .kasKw), .name (.missing .variableName),
    .token .assign (.missing .assignSign), .expression, .make .assign]

end Goal

/-- What a goal does with the token at hand. -/
inductive Move where
  /-- It turns into other goals, and the token stays. -/
  | turn (goals : List Goal)
  /-- It takes the token off and leaves other goals. -/
  | take (goals : List Goal)
  | refuse (refusal : Refusal)
  /-- It meets a number token that is no number. -/
  | noNumber

/-- Takes the token off as a literal. -/
def Move.literal (kind : LiteralKind) (value : Value) : Move :=
  .take [.make (.push (.expr (.literal kind value)))]

/-- What happens with a token where a primary expression is asked for. -/
def Move.ofPrimary (token : Token) : Move :=
  match token.kind with
  | .inputKw =>
    .take [.token .leftParen (.missing .openAfterInput), .make (.push (.exprs [])),
      .upToParen .expression (.missing .closeAfterPrompt), .make .input]
  | .leftParen =>
    .take [.expression, .token .rightParen (.missing .closeAfterGroup), .make .group]
  | .number =>
    match Binary64.ofText? token.text with
    | some x => .literal .number (.float x)
    | none => .noNumber
  | .string => .literal .string (.text (literalText token.text))
  | .trueKw => .literal .boolean (.bool true)
  | .falseKw => .literal .boolean (.bool false)
  | .identifier => .take [.call token.text]
  | _ => .refuse .noExpression

/-- What happens with a token where a statement is asked for. -/
def Move.ofStatement (token : Token) : Move :=
  match token.kind with
  | .functionKw => .turn Goal.ofDefine
  | .ifKw => .turn Goal.ofBranch
  | .whileKw => .turn Goal.ofLoop
  | .forKw => .turn Goal.ofCount
  | .returnKw => .turn Goal.ofGive
  | .sayKw => .turn Goal.ofSay
  | .kasKw => .turn Goal.ofAssign
  | .leftBrace => .turn [.block]
  | _ => .refuse .noStatement

/-- What the goal does with the token. -/
def Goal.next (goal : Goal) (token : Token) : Move :=
  match goal with
  | .token kind refusal => if token.kind = kind then .take [] else .refuse refusal
  | .name refusal => if token.kind = .identifier then .take [] else .refuse refusal
  | .limitWord => if isAtWord "to" [token] then .take [] else .refuse (.missing .toWord)
  | .binary level => .turn [.operand level, .operators level]
  | .operand level =>
    match level.tighter? with
    | some tighter => .turn [.binary tighter]
    | none => .turn [.unary]
  | .operators level =>
    if isAt level.kinds [token] then
      .take [.operand level, .make (.binary (BinaryOp.ofSymbol token.text)), .operators level]
    else .turn []
  | .unary =>
    if isAt unaryKinds [token] then .take [.unary, .make (.unary (UnaryOp.ofSymbol token.text))]
    else .turn [.primary]
  | .primary => Move.ofPrimary token
  | .call callee =>
    if isAt [.leftParen] [token] then
      .take [.make (.push (.exprs [])),
        .upToParen (.list .expression) (.missing .closeAfterArguments), .make (.call callee)]
    else .turn [.make (.push (.expr (.reference callee)))]
  | .list item => .turn [item, .make .item, .more item]
  | .more item => if isAt [.comma] [token] then .take [.list item] else .turn []
  | .upToParen inner refusal =>
    if isAt [.rightParen] [token] then .take [] else .turn [inner, .token .rightParen refusal]
  | .statement => Move.ofStatement token
  | .block =>
    if token.kind = .leftBrace then .take [.make (.push (.stmts [])), .blockRest]
    else .refuse (.otherKind .leftBrace)
  | .blockRest =>
    if isAt [.newline] [token] then .take [.blockRest]
    else if isAt [.rightBrace] [token] then .take [.make .block]
    else if isAt [.endOfFile] [token] then .refuse (.missing .closeBlock)
    else .turn [.statement, .make .item, .blockRest]
  | .alternative => if isAt [.elseKw] [token] then .take [.statement] else .turn []
  | .stride => if isAtWord "step" [token] then .take [.expression] else .turn []
  | .giveValue =>
    if isAt [.newline, .rightBrace, .endOfFile] [token] then
      .turn [.make (.push (.stmt (.give none)))]
    else .turn [.expression, .make .give]
  | .program =>
    if isAt [.endOfFile] [token] then .turn []
    else if isAt [.newline] [token] then .take [.program]
    else .turn [.statement, .make .item, .program]
  | .make _ => .turn []

/-- The parts after a move of the goal. -/
def Goal.parts (goal : Goal) (token : Token) (parts : List Part) : List Part :=
  match goal with
  | .name _ => .word token.text :: parts
  | .make what => what.apply parts
  | _ => parts

/-- A token without its place. -/
def spelling (token : Token) : TokenKind × String := (token.kind, token.text)

variable {token : Token} {goal : Goal} {before after : List Goal} {parts : List Part}
  {tokens rest : List Token}

/-- Places play no part. -/
theorem Goal.next_congr (goal : Goal) {other : Token} (h : spelling other = spelling token) :
    goal.next other = goal.next token := by
  obtain ⟨hkind, htext⟩ : other.kind = token.kind ∧ other.text = token.text := Prod.mk.inj h
  have hat : ∀ kinds, isAt kinds [other] = isAt kinds [token] := by
    intro kinds
    rw [isAt_cons, isAt_cons, hkind]
  have hword : ∀ word, isAtWord word [other] = isAtWord word [token] := by
    intro word
    rw [isAtWord, isAtWord, hat, peek_cons, peek_cons, htext]
  cases goal <;>
    simp only [Goal.next, Move.ofPrimary, Move.ofStatement, hat, hword, hkind, htext]

theorem Goal.parts_congr (goal : Goal) {other : Token} (h : spelling other = spelling token)
    (parts : List Part) : goal.parts other parts = goal.parts token parts := by
  obtain ⟨-, htext⟩ : other.kind = token.kind ∧ other.text = token.text := Prod.mk.inj h
  cases goal <;> simp only [Goal.parts, htext]

/-- One move: from the goals and the tokens that are left to those after the move. -/
inductive Step : List Goal × List Token → List Goal × List Token → Prop
  | turn {goal : Goal} {token : Token} {goals : List Goal} (h : goal.next token = .turn goals)
      (later : List Goal) (rest : List Token) :
      Step (goal :: later, token :: rest) (goals ++ later, token :: rest)
  | take {goal : Goal} {token : Token} {goals : List Goal} (h : goal.next token = .take goals)
      (later : List Goal) (rest : List Token) :
      Step (goal :: later, token :: rest) (goals ++ later, rest)

/-- Any number of moves. -/
abbrev Reaches : List Goal × List Token → List Goal × List Token → Prop :=
  Relation.ReflTransGen Step

theorem Step.rightUnique : Relator.RightUnique Step := by
  intro before after other h h'
  cases h with
  | turn h =>
    cases h' with
    | turn h' =>
      rw [h] at h'
      cases h'
      rfl
    | take h' =>
      rw [h] at h'
      cases h'
  | take h =>
    cases h' with
    | turn h' =>
      rw [h] at h'
      cases h'
    | take h' =>
      rw [h] at h'
      cases h'
      rfl

/-- No move is left. -/
def Stuck (state : List Goal × List Token) : Prop := ∀ after, ¬Step state after

theorem stuck_nil (tokens : List Token) : Stuck ([], tokens) := by
  intro after h
  cases h

/-- The machine gets stuck at one place only. -/
theorem Reaches.unique {before after other : List Goal × List Token} (h : Reaches before after)
    (hafter : Stuck after) (h' : Reaches before other) (hother : Stuck other) : after = other := by
  rcases Relation.ReflTransGen.total_of_right_unique Step.rightUnique h h' with hle | hle
  · exact ((Relation.reflTransGen_iff_eq hafter).mp hle).symm
  · exact (Relation.reflTransGen_iff_eq hother).mp hle

/-- The failure of the machine where its first goal does not take the token at hand. -/
def stop? : List Goal × List Token → Option ParseStop
  | (goal :: _, token :: rest) =>
    match goal.next token with
    | .refuse refusal => some ⟨.refused ⟨refusal, token⟩, token :: rest⟩
    | .noNumber => some ⟨.badNumber token.text, rest⟩
    | _ => none
  | _ => none

theorem stuck_of_stop? {state : List Goal × List Token} {stop : ParseStop}
    (h : stop? state = some stop) : Stuck state := by
  intro after hstep
  cases hstep with
  | turn hnext | take hnext => simp [stop?, hnext] at h

/-- The machine gets stuck with the failure. -/
def Sticks (before : List Goal) (tokens : List Token) (stop : ParseStop) : Prop :=
  ∃ state, Reaches (before, tokens) state ∧ stop? state = some stop

theorem exists_of_stop?_refused {state : List Goal × List Token} {error : ParseError}
    (h : stop? state = some ⟨.refused error, rest⟩) :
    ∃ goal later more, state = (goal :: later, error.token :: more) ∧
      rest = error.token :: more ∧ goal.next error.token = .refuse error.refusal := by
  unfold stop? at h
  split at h
  · split at h
    · rename_i hnext
      cases h
      exact ⟨_, _, _, rfl, rfl, hnext⟩
    · cases h
    · cases h
  · cases h

/-! ## The machine with the parts -/

/-- One move of the machine, with the parts of the tree. -/
inductive ReadStep :
    List Goal × List Part × List Token → List Goal × List Part × List Token → Prop
  | move {goal : Goal} {later goals : List Goal} {token : Token} {rest more : List Token}
      (h : Step (goal :: later, token :: rest) (goals, more)) (parts : List Part) :
      ReadStep (goal :: later, parts, token :: rest) (goals, goal.parts token parts, more)

/-- Any number of moves, with the parts of the tree. -/
abbrev Reading : List Goal × List Part × List Token → List Goal × List Part × List Token → Prop :=
  Relation.ReflTransGen ReadStep

theorem ReadStep.rightUnique : Relator.RightUnique ReadStep := by
  intro before after other h h'
  cases h with
  | move h =>
    cases h' with
    | move h' =>
      cases Step.rightUnique h h'
      rfl

namespace Reading

variable {parts' : List Part} {goals later : List Goal}
  {final : List Goal × List Part × List Token}

theorem reaches (h : Reading (before, parts, tokens) (after, parts', rest)) :
    Reaches (before, tokens) (after, rest) := by
  refine h.lift (fun state => (state.1, state.2.2)) ?_
  intro _ _ hstep
  cases hstep with
  | move hstep => exact hstep

/-- All goals are met with one tree. -/
theorem unique {other : List Part} {more : List Token}
    (h : Reading (before, parts, tokens) ([], parts', rest))
    (h' : Reading (before, parts, tokens) ([], other, more)) : parts' = other ∧ rest = more := by
  have hstuck : ∀ parts tokens state, ¬ReadStep ([], parts, tokens) state := by
    intro _ _ _ hstep
    cases hstep
  rcases Relation.ReflTransGen.total_of_right_unique ReadStep.rightUnique h h' with hle | hle
  · cases (Relation.reflTransGen_iff_eq (hstuck _ _)).mp hle
    exact ⟨rfl, rfl⟩
  · cases (Relation.reflTransGen_iff_eq (hstuck _ _)).mp hle
    exact ⟨rfl, rfl⟩

theorem andThen {start middle : List Goal × List Part × List Token} (h : Reading start middle)
    (h' : Reading middle final) : Reading start final := h.trans h'

theorem turn (hnext : goal.next token = .turn goals)
    (h : Reading (goals ++ later, goal.parts token parts, token :: rest) final) :
    Reading (goal :: later, parts, token :: rest) final :=
  .head (.move (.turn hnext _ _) _) h

theorem take (hnext : goal.next token = .take goals)
    (h : Reading (goals ++ later, goal.parts token parts, rest) final) :
    Reading (goal :: later, parts, token :: rest) final :=
  .head (.move (.take hnext _ _) _) h

/-- Something is built, whatever the token at hand. -/
theorem make {what : Make} (h : Reading (later, what.apply parts, token :: rest) final) :
    Reading (.make what :: later, parts, token :: rest) final :=
  turn rfl h

end Reading

/-- How the machine answers: it meets all goals, and the parts hold what was found; or it gets stuck
with a failure. -/
def Halts {α : Type} (before : List Goal) (parts : List Part) (put : α → List Part)
    (tokens : List Token) : Except ParseStop (α × List Token) → Prop
  | .ok (found, rest) => Reading (before, parts, tokens) ([], put found, rest)
  | .error stop => Sticks before tokens stop

theorem Halts.unique {α : Type} {put : α → List Part}
    {outcome other : Except ParseStop (α × List Token)} (hput : Function.Injective put)
    (h : Halts before parts put tokens outcome) (h' : Halts before parts put tokens other) :
    outcome = other := by
  cases outcome with
  | ok found =>
    cases other with
    | ok found' =>
      obtain ⟨hparts, hrest⟩ := Reading.unique h h'
      rw [Prod.ext (hput hparts) hrest]
    | error stop =>
      obtain ⟨state, hreaches, hstop⟩ := h'
      cases Reaches.unique (Reading.reaches h) (stuck_nil _) hreaches (stuck_of_stop? hstop)
      cases hstop
  | error stop =>
    obtain ⟨state, hreaches, hstop⟩ := h
    cases other with
    | ok found' =>
      cases Reaches.unique (Reading.reaches h') (stuck_nil _) hreaches (stuck_of_stop? hstop)
      cases hstop
    | error stop' =>
      obtain ⟨state', hreaches', hstop'⟩ := h'
      obtain rfl := Reaches.unique hreaches (stuck_of_stop? hstop) hreaches' (stuck_of_stop? hstop')
      rw [hstop] at hstop'
      cases hstop'
      rfl

/-! ## Where a token came to hand -/

/-- A run, cut where the first of the tokens left came to hand. The goals and the parts at that
moment depend on the tokens that were taken off and not on what follows, and what happens then
depends on the token at hand. -/
theorem Reading.split {parts' : List Part}
    (h : Reading (before, parts, tokens) (after, parts', rest)) :
    ∃ taken middle between, tokens = taken ++ rest ∧
      (∀ others more, others.map spelling = taken.map spelling →
        Reading (before, parts, others ++ more) (middle, between, more)) ∧
      ∀ more, more.head?.map spelling = rest.head?.map spelling →
        Reading (middle, between, more) (after, parts', more) := by
  generalize hfinish : (after, parts', rest) = finish at h
  induction h generalizing after parts' rest with
  | refl =>
    cases hfinish
    refine ⟨[], before, parts, rfl, fun others more halike => ?_, fun _ _ => .refl⟩
    rw [List.map_eq_nil_iff.mp halike]
    exact .refl
  | tail _ hstep ih =>
    obtain @⟨goal, later, _, token, _, _, hstep, parts⟩ := hstep
    cases hfinish
    obtain ⟨taken, middle, between, htokens, hfirst, hturns⟩ := ih rfl
    cases hstep with
    | turn hnext =>
      refine ⟨taken, middle, between, htokens, hfirst, fun more hmore => ?_⟩
      have hreading := hturns more hmore
      obtain ⟨other, hother, hspelling⟩ := Option.map_eq_some_iff.mp hmore
      obtain ⟨more, rfl⟩ := List.head?_eq_some_iff.mp hother
      rw [← goal.parts_congr hspelling]
      exact hreading.tail (.move (.turn ((goal.next_congr hspelling).trans hnext) _ _) _)
    | take hnext =>
      refine ⟨taken ++ [token], _, goal.parts token parts, by simp [htokens],
        fun others more halike => ?_, fun _ _ => .refl⟩
      -- The token that is taken off came to hand with the goals `middle`.
      rw [List.map_append] at halike
      obtain ⟨front, last, rfl, hfront, hlast⟩ := List.map_eq_append_iff.mp halike
      obtain ⟨other, rfl, hspelling⟩ := List.map_eq_singleton_iff.mp hlast
      rw [List.append_assoc, ← goal.parts_congr hspelling]
      have hreading := (hfirst front (other :: more) hfront).trans
        (hturns (other :: more) (by simp [hspelling]))
      exact hreading.tail (.move (.take ((goal.next_congr hspelling).trans hnext) _ _) _)

/-- Tokens that spell the same are read the same. -/
theorem Reading.alike {parts' : List Part}
    (h : Reading (before, parts, tokens) (after, parts', rest)) {others : List Token}
    (hothers : others.map spelling = tokens.map spelling) :
    ∃ more, Reading (before, parts, others) (after, parts', more) := by
  obtain ⟨taken, middle, between, rfl, hfirst, hturns⟩ := h.split
  rw [List.map_append] at hothers
  obtain ⟨front, more, rfl, hfront, hmore⟩ := List.map_eq_append_iff.mp hothers
  have hhead : more.head?.map spelling = rest.head?.map spelling := by
    rw [← List.head?_map, hmore, List.head?_map]
  exact ⟨more, (hfirst front more hfront).trans (hturns more hhead)⟩

theorem Reaches.exists_reading (h : Reaches (before, tokens) (after, rest)) (parts : List Part) :
    ∃ parts', Reading (before, parts, tokens) (after, parts', rest) := by
  generalize hfinish : (after, rest) = finish at h
  induction h generalizing after rest with
  | refl =>
    cases hfinish
    exact ⟨parts, .refl⟩
  | tail _ hstep ih =>
    subst hfinish
    obtain ⟨parts', hreading⟩ : ∃ parts', _ := ih rfl
    cases hstep with
    | turn hnext => exact ⟨_, hreading.tail (.move (.turn hnext _ _) _)⟩
    | take hnext => exact ⟨_, hreading.tail (.move (.take hnext _ _) _)⟩

/-- A run, cut where the first of the tokens left came to hand. Each half depends on the spelling of
what it saw and on nothing else. -/
theorem Reaches.split (h : Reaches (before, tokens) (after, rest)) :
    ∃ taken middle, tokens = taken ++ rest ∧
      (∀ others more, others.map spelling = taken.map spelling →
        Reaches (before, others ++ more) (middle, more)) ∧
      ∀ more, more.head?.map spelling = rest.head?.map spelling →
        Reaches (middle, more) (after, more) := by
  obtain ⟨parts, hreading⟩ := h.exists_reading []
  obtain ⟨taken, middle, between, htokens, hfirst, hturns⟩ := hreading.split
  exact ⟨taken, middle, htokens, fun others more halike => (hfirst others more halike).reaches,
    fun more hmore => (hturns more hmore).reaches⟩

theorem Reaches.suffix (h : Reaches (before, tokens) (after, rest)) : rest <:+ tokens := by
  obtain ⟨taken, _, htokens, _⟩ := h.split
  exact ⟨taken, htokens.symm⟩

/-- A run that goes past a token comes to a goal that takes it off. What happens up to there does
not depend on what follows the token. -/
theorem Reaches.exists_take {front back : List Token} {last : Token}
    (h : Reaches (before, front ++ last :: back) (after, rest)) (hrest : rest <:+ back) :
    ∃ goal later goals, goal.next last = .take goals ∧
      ∀ more, Reaches (before, front ++ last :: more) (goal :: later, last :: more) := by
  obtain ⟨goal, later, goals, hnext, hreaches⟩ : ∃ goal later goals,
      goal.next last = .take goals ∧
        Reaches (before, front ++ last :: back) (goal :: later, last :: back) := by
    generalize hstart : (before, front ++ last :: back) = start at h
    induction h using Relation.ReflTransGen.head_induction_on generalizing before front with
    | refl =>
      have hlength := hrest.length_le
      cases hstart
      rw [List.length_append, List.length_cons] at hlength
      omega
    | head hstep hrun ih =>
      subst hstart
      cases front with
      | nil =>
        cases hstep with
        | turn hnext =>
          obtain ⟨goal, later, goals, htake, hreaches⟩ :=
            ih (show (_, [] ++ last :: back) = _ from rfl)
          exact ⟨goal, later, goals, htake, .head (.turn hnext _ _) hreaches⟩
        | take hnext => exact ⟨_, _, _, hnext, .refl⟩
      | cons token front =>
        cases hstep with
        | turn hnext =>
          obtain ⟨goal, later, goals, htake, hreaches⟩ :=
            ih (show (_, (token :: front) ++ last :: back) = _ from rfl)
          exact ⟨goal, later, goals, htake, .head (.turn hnext _ _) hreaches⟩
        | take hnext =>
          obtain ⟨goal, later, goals, htake, hreaches⟩ := ih rfl
          exact ⟨goal, later, goals, htake, .head (.take hnext _ _) hreaches⟩
  obtain ⟨taken, middle, htaken, hfirst, hturns⟩ := hreaches.split
  obtain rfl := List.append_cancel_right htaken
  exact ⟨goal, later, goals, hnext, fun more =>
    (hfirst front (last :: more) rfl).trans (hturns (last :: more) rfl)⟩

end ScriptStudio.Grammar
