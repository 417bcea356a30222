import ScriptStudio.Proofs.PendingGoals
import ScriptStudio.Proofs.Rendering

/-!
# Every stack of goals can be met

While a program is read, there are always tokens that meet what is still to be read.

`Goal.finish` gives tokens that meet one goal, and `completion` those of a whole stack. A goal such
as a list of operators goes on when the token after it allows it. `Pending` says that each such goal
has a token after it at which it ends; one move keeps this (`Pending.next`), and so does a run. It
says too that the goal of a program stands below all others, and that no token is asked for that
belongs to lists of statements (`edges`).
-/

namespace ScriptStudio.Grammar

/-! ## Tokens that meet a goal -/

/-- A token of the kind. -/
def ofKind (kind : TokenKind) : Token := ⟨kind, "", .start⟩

/-- Tokens that meet the goal. -/
def Goal.finish : Goal → List Token
  | .token kind _ => [ofKind kind]
  | .name _ => [ofKind .identifier]
  | .limitWord => [.ofName "to"]
  | .binary _ | .operand _ | .unary | .primary | .giveValue => [ofKind .identifier]
  | .operators _ | .call _ | .more _ | .alternative | .stride | .program | .make _ => []
  | .list item => item.finish
  | .upToParen _ _ => [ofKind .rightParen]
  | .statement | .block => [ofKind .leftBrace, ofKind .rightBrace]
  | .blockRest => [ofKind .rightBrace]

/-- Tokens that meet all goals, and the end of the text. -/
def completion (goals : List Goal) : List Token :=
  goals.flatMap Goal.finish ++ [ofKind .endOfFile]

/-- The goal may go on after the tokens that meet it. -/
def Goal.isOpen : Goal → Bool
  | .token _ _ | .name _ | .limitWord | .upToParen _ _ | .block | .blockRest | .make _ => false
  | _ => true

/-- The kinds of the tokens that only lists of statements, blocks and `else` take. -/
def edges : List TokenKind := [.endOfFile, .newline, .leftBrace, .elseKw]

/-- The goal is no program and asks for no token of the edges. -/
def Goal.isProper : Goal → Bool
  | .token kind _ => !edges.contains kind
  | .list item | .more item | .upToParen item _ => item.isProper
  | .program => false
  | _ => true

/-- The kinds of the tokens at which every open goal ends. -/
def stoppers : List TokenKind := [.rightParen, .leftBrace, .rightBrace, .endOfFile, .identifier]

/-- Every open goal ends in front of the token. -/
def Stops (token : Token) : Prop := token.kind ∈ stoppers ∧ isAtWord "step" [token] = false

@[simp]
theorem completion_cons (goal : Goal) (later : List Goal) :
    completion (goal :: later) = goal.finish ++ completion later := by
  simp [completion]

theorem completion_ne_nil (goals : List Goal) : completion goals ≠ [] := by
  simp [completion]

/-- The goals can be met one after the other. -/
inductive Pending : List Goal → Prop
  | nil : Pending []
  | program : Pending [.program]
  | cons {goal : Goal} {later : List Goal} (hproper : goal.isProper = true)
      (hstops : goal.isOpen = true → Stops (peek (completion later))) (hlater : Pending later) :
      Pending (goal :: later)

/-- The goals that a move leaves. -/
def Move.goals : Move → List Goal
  | .turn goals | .take goals => goals
  | .refuse _ | .noNumber => []

theorem stops_ofKind {kind : TokenKind} (hkind : kind ∈ stoppers) (hname : kind ≠ .identifier) :
    Stops (ofKind kind) :=
  ⟨hkind, by simp [isAtWord, ofKind, hname]⟩

namespace Pending

variable {goal : Goal} {later : List Goal}

/-- A goal that is not open may stand in front of all others. -/
theorem cons_closed (hproper : goal.isProper = true) (hclosed : goal.isOpen = false)
    (hlater : Pending later) : Pending (goal :: later) :=
  .cons hproper (by simp [hclosed]) hlater

/-- An open goal may stand where another one can end. -/
theorem cons_stops (hproper : goal.isProper = true) (hstops : Stops (peek (completion later)))
    (hlater : Pending later) : Pending (goal :: later) :=
  .cons hproper (fun _ => hstops) hlater

/-- A block may stand in front of all others, and every open goal may stand in front of a block. -/
theorem cons_block (hproper : goal.isProper = true) (hlater : Pending later) :
    Pending (goal :: .block :: later) :=
  cons_stops hproper (stops_ofKind (by decide) (by decide)) (cons_closed rfl rfl hlater)

theorem statement_next (hstops : Stops (peek (completion later))) (hlater : Pending later)
    (token : Token) : Pending ((Goal.statement.next token).goals ++ later) := by
  have hmake : ∀ what, Pending (.make what :: later) := fun _ => cons_closed rfl rfl hlater
  have hto : Stops (.ofName "to") := ⟨by decide, by decide⟩
  have hbrace : Stops (ofKind .leftBrace) := stops_ofKind (by decide) (by decide)
  rw [Goal.next, Move.ofStatement]
  split
  · refine cons_closed rfl rfl (cons_closed rfl rfl (cons_closed rfl rfl ?_))
    exact cons_closed rfl rfl (cons_closed rfl rfl (cons_closed rfl rfl (hmake _)))
  · exact cons_closed rfl rfl (cons_block rfl (cons_stops rfl hstops (hmake _)))
  · exact cons_closed rfl rfl (cons_block rfl (hmake _))
  · refine cons_closed rfl rfl (cons_closed rfl rfl (cons_closed rfl rfl ?_))
    refine cons_closed rfl rfl (cons_stops rfl hto (cons_closed rfl rfl ?_))
    exact cons_stops rfl hbrace (cons_block rfl (hmake _))
  · exact cons_closed rfl rfl (cons_stops rfl hstops hlater)
  · exact cons_closed rfl rfl (cons_stops rfl hstops (hmake _))
  · refine cons_closed rfl rfl (cons_closed rfl rfl (cons_closed rfl rfl ?_))
    exact cons_stops rfl hstops (hmake _)
  · exact cons_closed rfl rfl hlater
  · exact hlater

end Pending

variable {goal : Goal} {goals : List Goal} {tokens rest : List Token} {token : Token}

/-- A move keeps the goals such that they can be met. -/
theorem Pending.next {later : List Goal} (h : Pending (goal :: later)) (token : Token) :
    Pending ((goal.next token).goals ++ later) := by
  have hparen : Stops (ofKind .rightParen) := stops_ofKind (by decide) (by decide)
  cases h with
  | program =>
    rw [Goal.next]
    split_ifs
    · exact .nil
    · exact .program
    · refine cons_stops rfl (stops_ofKind (by decide) (by decide)) ?_
      exact cons_closed rfl rfl .program
  | cons hproper hstops hlater =>
    have hlast : ∀ other : Goal, goal.isOpen = true → other.isProper = true →
        Pending (other :: later) :=
      fun _ hopen hproper => cons_stops hproper (hstops hopen) hlater
    have hmake : ∀ what, Pending (.make what :: later) := fun _ => cons_closed rfl rfl hlater
    cases goal with
    | token kind refusal | name refusal | limitWord =>
      rw [Goal.next]
      split_ifs
      · exact hlater
      · exact hlater
    | binary level => exact cons_stops rfl (hstops rfl) (hlast _ rfl rfl)
    | operand level =>
      rw [Goal.next]
      split
      · exact hlast _ rfl rfl
      · exact hlast _ rfl rfl
    | operators level =>
      rw [Goal.next]
      split_ifs
      · exact cons_stops rfl (hstops rfl) (cons_closed rfl rfl (hlast _ rfl rfl))
      · exact hlater
    | unary =>
      rw [Goal.next]
      split_ifs
      · exact cons_stops rfl (hstops rfl) (hmake _)
      · exact hlast _ rfl rfl
    | primary =>
      rw [Goal.next, Move.ofPrimary]
      split
      · exact cons_closed rfl rfl (cons_closed rfl rfl (cons_closed rfl rfl (hmake _)))
      · exact cons_stops rfl hparen (cons_closed rfl rfl (hmake _))
      · split
        · exact hmake _
        · exact hlater
      · exact hmake _
      · exact hmake _
      · exact hmake _
      · exact hlast _ rfl rfl
      · exact hlater
    | call callee =>
      rw [Goal.next]
      split_ifs
      · exact cons_closed rfl rfl (cons_closed rfl rfl (hmake _))
      · exact hmake _
    | list item =>
      exact cons_stops hproper (hstops rfl)
        (cons_closed rfl rfl (hlast (.more item) rfl hproper))
    | more item =>
      rw [Goal.next]
      split_ifs
      · exact hlast (.list item) rfl hproper
      · exact hlater
    | upToParen inner refusal =>
      rw [Goal.next]
      split_ifs
      · exact hlater
      · exact cons_stops hproper hparen (cons_closed rfl rfl hlater)
    | statement => exact statement_next (hstops rfl) hlater token
    | block =>
      rw [Goal.next]
      split_ifs
      · exact cons_closed rfl rfl (cons_closed rfl rfl hlater)
      · exact hlater
    | blockRest =>
      have hrest : Pending (.blockRest :: later) := cons_closed rfl rfl hlater
      rw [Goal.next]
      split_ifs
      · exact hrest
      · exact hmake _
      · exact hlater
      · refine cons_stops rfl (stops_ofKind (by decide) (by decide)) ?_
        exact cons_closed rfl rfl hrest
    | alternative | stride =>
      rw [Goal.next]
      split_ifs
      · exact hlast _ rfl rfl
      · exact hlater
    | giveValue =>
      rw [Goal.next]
      split_ifs
      · exact hmake _
      · exact cons_stops rfl (hstops rfl) (hmake _)
    | program => exact absurd hproper (by decide)
    | make what => exact hlater

/-- The goals that a run from a program leads to can be met. -/
theorem Pending.of_reaches (h : Reaches ([.program], tokens) (goals, rest)) : Pending goals := by
  generalize hfinish : (goals, rest) = finish at h
  induction h generalizing goals rest with
  | refl =>
    cases hfinish
    exact .program
  | tail _ hstep ih =>
    cases hstep with
    | @turn goal token left hnext later _ | @take goal token left hnext later _ =>
      cases hfinish
      have hpending := (ih rfl).next token
      rwa [hnext] at hpending

/-! ## Goals are met -/

theorem Stops.not_isAt (h : Stops token) {kinds : List TokenKind}
    (hkinds : ∀ kind ∈ stoppers, kind ∉ kinds) : ¬isAt kinds [token] = true := by
  intro hat
  exact hkinds _ h.1 (kind_of_isAt hat)

theorem Level.disjoint_stoppers (level : Level) : ∀ kind ∈ stoppers, kind ∉ level.kinds := by
  cases level <;> decide

section

variable {token : Token} {rest : List Token} (later : List Goal)

theorem reaches_make (what : Make) :
    Reaches (.make what :: later, token :: rest) (later, token :: rest) := by
  have hnext : (Goal.make what).next token = .turn [] := rfl
  exact .single (.turn hnext _ _)

theorem reaches_operators (level : Level) (h : Stops token) :
    Reaches (.operators level :: later, token :: rest) (later, token :: rest) := by
  have hnext : (Goal.operators level).next token = .turn [] :=
    if_neg (h.not_isAt level.disjoint_stoppers)
  exact .single (.turn hnext _ _)

theorem reaches_primary (h : Stops token) :
    Reaches (.primary :: later, ofKind .identifier :: token :: rest) (later, token :: rest) := by
  have hname : Goal.primary.next (ofKind .identifier) = .take [.call ""] := rfl
  have hcall : (Goal.call "").next token = .turn [.make (.push (.expr (.reference "")))] :=
    if_neg (h.not_isAt (by decide))
  exact .head (.take hname _ _) (.head (.turn hcall _ _) (reaches_make later _))

theorem reaches_unary (h : Stops token) :
    Reaches (.unary :: later, ofKind .identifier :: token :: rest) (later, token :: rest) := by
  have hname : Goal.unary.next (ofKind .identifier) = .turn [.primary] := rfl
  exact .head (.turn hname _ _) (reaches_primary later h)

theorem reaches_operand (level : Level) (h : Stops token) :
    Reaches (.operand level :: later, ofKind .identifier :: token :: rest)
      (later, token :: rest) := by
  -- The induction is on the number of tighter levels.
  induction hdepth : level.depth generalizing level later with
  | zero =>
    have htightest : level.tighter? = none := by
      cases level <;> first | rfl | cases hdepth
    have hnext : (Goal.operand level).next (ofKind .identifier) = .turn [.unary] := by
      simp only [Goal.next, htightest]
    exact .head (.turn hnext _ _) (reaches_unary later h)
  | succ depth ih =>
    obtain ⟨tighter, htighter⟩ : ∃ tighter, level.tighter? = some tighter := by
      cases level <;> first | exact ⟨_, rfl⟩ | cases hdepth
    have hless := Level.depth_tighter htighter
    have hnext : (Goal.operand level).next (ofKind .identifier) = .turn [.binary tighter] := by
      simp only [Goal.next, htighter]
    have hbinary : (Goal.binary tighter).next (ofKind .identifier) =
        .turn [.operand tighter, .operators tighter] := rfl
    refine .head (.turn hnext _ _) (.head (.turn hbinary _ _) ?_)
    exact (ih _ tighter (by omega)).trans (reaches_operators later tighter h)

theorem reaches_binary (level : Level) (h : Stops token) :
    Reaches (.binary level :: later, ofKind .identifier :: token :: rest)
      (later, token :: rest) := by
  have hnext : (Goal.binary level).next (ofKind .identifier) =
      .turn [.operand level, .operators level] := rfl
  refine .head (.turn hnext _ _) ?_
  exact (reaches_operand _ level h).trans (reaches_operators later level h)

theorem reaches_blockRest :
    Reaches (.blockRest :: later, ofKind .rightBrace :: token :: rest) (later, token :: rest) := by
  have hclosing : Goal.blockRest.next (ofKind .rightBrace) = .take [.make .block] := rfl
  exact .head (.take hclosing _ _) (reaches_make later _)

theorem reaches_block :
    Reaches (.block :: later, ofKind .leftBrace :: ofKind .rightBrace :: token :: rest)
      (later, token :: rest) := by
  have hopening : Goal.block.next (ofKind .leftBrace) =
      .take [.make (.push (.stmts [])), .blockRest] := rfl
  exact .head (.take hopening _ _) ((reaches_make _ _).trans (reaches_blockRest later))

/-- The tokens of a goal meet it, if it ends in front of the token that follows. -/
theorem Goal.reaches_finish {goal : Goal} (hproper : goal.isProper = true)
    (hstops : goal.isOpen = true → Stops token) :
    Reaches (goal :: later, goal.finish ++ token :: rest) (later, token :: rest) := by
  induction goal generalizing later token rest with
  | token kind refusal =>
    have hnext : (Goal.token kind refusal).next (ofKind kind) = .take [] := if_pos rfl
    exact .single (.take hnext _ _)
  | name refusal =>
    have hnext : (Goal.name refusal).next (ofKind .identifier) = .take [] := rfl
    exact .single (.take hnext _ _)
  | limitWord =>
    have hnext : Goal.limitWord.next (.ofName "to") = .take [] := rfl
    exact .single (.take hnext _ _)
  | binary level => exact reaches_binary later level (hstops rfl)
  | operand level => exact reaches_operand later level (hstops rfl)
  | operators level => exact reaches_operators later level (hstops rfl)
  | unary => exact reaches_unary later (hstops rfl)
  | primary => exact reaches_primary later (hstops rfl)
  | call callee =>
    have hnext : (Goal.call callee).next token =
        .turn [.make (.push (.expr (.reference callee)))] :=
      if_neg ((hstops rfl).not_isAt (by decide))
    exact .head (.turn hnext _ _) (reaches_make later _)
  | list item ih =>
    have hmore : (Goal.more item).next token = .turn [] :=
      if_neg ((hstops rfl).not_isAt (by decide))
    have hitem : Reaches (item :: .make .item :: .more item :: later, item.finish ++ token :: rest)
        (.make .item :: .more item :: later, token :: rest) :=
      ih _ hproper fun _ => hstops rfl
    obtain ⟨first, others, hall⟩ : ∃ first others, item.finish ++ token :: rest = first :: others :=
      List.exists_cons_of_ne_nil (by simp)
    rw [Goal.finish, hall]
    rw [hall] at hitem
    refine .head (.turn rfl _ _) (hitem.trans ?_)
    exact (reaches_make _ _).trans (.single (.turn hmore _ _))
  | more item =>
    have hnext : (Goal.more item).next token = .turn [] :=
      if_neg ((hstops rfl).not_isAt (by decide))
    exact .single (.turn hnext _ _)
  | upToParen inner refusal =>
    have hnext : (Goal.upToParen inner refusal).next (ofKind .rightParen) = .take [] := rfl
    exact .single (.take hnext _ _)
  | statement =>
    have hnext : Goal.statement.next (ofKind .leftBrace) = .turn [.block] := rfl
    exact .head (.turn hnext _ _) (reaches_block later)
  | block => exact reaches_block later
  | blockRest => exact reaches_blockRest later
  | alternative =>
    have hnext : Goal.alternative.next token = .turn [] :=
      if_neg ((hstops rfl).not_isAt (by decide))
    exact .single (.turn hnext _ _)
  | stride =>
    have hnext : Goal.stride.next token = .turn [] := if_neg (by simp [(hstops rfl).2])
    exact .single (.turn hnext _ _)
  | giveValue =>
    have hnext : Goal.giveValue.next (ofKind .identifier) = .turn [.expression, .make .give] := rfl
    refine .head (.turn hnext _ _) ((reaches_binary _ _ (hstops rfl)).trans ?_)
    exact reaches_make later _
  | program => exact absurd hproper (by decide)
  | make what => exact reaches_make later what

end

/-- Goals that can be met are met by their completion. -/
theorem Pending.reaches_completion (h : Pending goals) :
    Reaches (goals, completion goals) ([], [ofKind .endOfFile]) := by
  induction h with
  | nil => exact .refl
  | program =>
    have hnext : Goal.program.next (ofKind .endOfFile) = .turn [] := rfl
    exact .single (.turn hnext _ _)
  | @cons goal later hproper hstops _ ih =>
    obtain ⟨token, rest, hlater⟩ := List.exists_cons_of_ne_nil (completion_ne_nil later)
    rw [hlater, peek_cons] at hstops
    rw [completion_cons]
    rw [hlater] at ih ⊢
    exact (goal.reaches_finish later hproper hstops).trans ih

theorem Goal.kind_ne_of_mem_finish (hproper : goal.isProper = true) :
    ∀ token ∈ goal.finish, token.kind ≠ .endOfFile := by
  induction goal with
  | token kind refusal =>
    have hkind : kind ∉ edges := by simpa [Goal.isProper] using hproper
    have hend : TokenKind.endOfFile ∈ edges := by decide
    simpa [Goal.finish, ofKind] using fun heq : kind = .endOfFile => hkind (heq ▸ hend)
  | list item ih => exact ih hproper
  | program => exact absurd hproper (by decide)
  | _ => simp [Goal.finish, ofKind, Token.ofName]

/-- A completion has one end. -/
theorem Pending.kind_ne_of_mem (h : Pending goals) :
    ∀ token ∈ goals.flatMap Goal.finish, token.kind ≠ .endOfFile := by
  induction h with
  | nil => simp
  | program => simp [Goal.finish]
  | cons hproper _ _ ih =>
    intro token htoken
    rw [List.flatMap_cons, List.mem_append] at htoken
    rcases htoken with htoken | htoken
    · exact Goal.kind_ne_of_mem_finish hproper token htoken
    · exact ih token htoken

end ScriptStudio.Grammar
