import ScriptStudio.Proofs.Derivation

/-!
# Trees as tokens

A tree is written down as a list of tokens: the words and symbols that the scanner knows, names as
they are, and for every literal a token that the caller chooses. A line end stands after every
statement of a list and nowhere else, and the tokens of a program end with the end of the text.

`Expr.derives_render` and `Stmt.derives_render` say that the tokens spell the tree, provided that
the tree is stratified and the chosen tokens stand for their literals.
-/

namespace ScriptStudio

open Grammar

/-- The token of a word or a symbol with a fixed spelling. Places play no part. -/
def Token.ofSpelling (word : String) : Token :=
  ⟨(spellings.lookup word).getD .unknown, word, .start⟩

/-- The token of a name. -/
def Token.ofName (name : String) : Token := ⟨.identifier, name, .start⟩

theorem Token.isWord_ofName (name : String) : (Token.ofName name).IsWord name := ⟨rfl, rfl⟩

/-- Lists of tokens with a comma between them. -/
def Token.withCommas : List (List Token) → List Token
  | [] => []
  | [tokens] => tokens
  | tokens :: rest => tokens ++ .ofSpelling "," :: Token.withCommas rest

/-- A choice of a token for every literal. -/
abbrev LiteralSpelling := LiteralKind → Value → Token

section

variable (spell : LiteralSpelling)

mutual

/-- The tokens of an expression. -/
def Expr.render : Expr → List Token
  | .literal kind value => [spell kind value]
  | .reference name => [.ofName name]
  | .binary left op right => left.render ++ .ofSpelling op.symbol :: right.render
  | .unary op operand => .ofSpelling op.symbol :: operand.render
  | .group inner => .ofSpelling "(" :: (inner.render ++ [.ofSpelling ")"])
  | .input prompt =>
    .ofSpelling "input" :: .ofSpelling "(" :: (prompt.render ++ [.ofSpelling ")"])
  | .call name arguments =>
    .ofName name :: .ofSpelling "(" ::
      (Token.withCommas (Expr.renders arguments) ++ [.ofSpelling ")"])
  | .unknown _ => []

/-- The tokens of several expressions. -/
def Expr.renders : List Expr → List (List Token)
  | [] => []
  | e :: rest => e.render :: Expr.renders rest

end

mutual

/-- The tokens of a statement. -/
def Stmt.render : Stmt → List Token
  | .say e => .ofSpelling "say" :: e.render spell
  | .assign name e => .ofSpelling "kas" :: .ofName name :: .ofSpelling "=" :: e.render spell
  | .block body => .ofSpelling "\x7b" :: (Stmt.renderLines body ++ [.ofSpelling "\x7d"])
  | .define name parameters body =>
    .ofSpelling "function" :: .ofName name :: .ofSpelling "(" ::
      (Token.withCommas (parameters.map fun parameter => [.ofName parameter]) ++
        .ofSpelling ")" :: body.render)
  | .give none => [.ofSpelling "return"]
  | .give (some e) => .ofSpelling "return" :: e.render spell
  | .branch condition thenBranch none =>
    .ofSpelling "if" :: (condition.render spell ++ thenBranch.render)
  | .branch condition thenBranch (some elseBranch) =>
    .ofSpelling "if" :: (condition.render spell ++
      (thenBranch.render ++ .ofSpelling "else" :: elseBranch.render))
  | .loop condition body => .ofSpelling "while" :: (condition.render spell ++ body.render)
  | .count name start stop none body =>
    .ofSpelling "for" :: .ofSpelling "kas" :: .ofName name :: .ofSpelling "=" ::
      (start.render spell ++ .ofName "to" :: (stop.render spell ++ body.render))
  | .count name start stop (some step) body =>
    .ofSpelling "for" :: .ofSpelling "kas" :: .ofName name :: .ofSpelling "=" ::
      (start.render spell ++ .ofName "to" ::
        (stop.render spell ++ .ofName "step" :: (step.render spell ++ body.render)))
  | .unknown _ => []

/-- The tokens of several statements, with a line end after each. -/
def Stmt.renderLines : List Stmt → List Token
  | [] => []
  | s :: rest => s.render ++ .ofSpelling "\n" :: Stmt.renderLines rest

end

/-- The tokens of a program. -/
def Program.render (program : Program) : List Token :=
  Stmt.renderLines spell program.statements ++ [⟨.endOfFile, "", .start⟩]

end

/-! ## Literals -/

mutual

/-- The literals of an expression. -/
def Expr.literals : Expr → List (LiteralKind × Value)
  | .literal kind value => [(kind, value)]
  | .reference _ => []
  | .binary left _ right => left.literals ++ right.literals
  | .unary _ operand => operand.literals
  | .group inner => inner.literals
  | .input prompt => prompt.literals
  | .call _ arguments => Expr.allLiterals arguments
  | .unknown _ => []

/-- The literals of several expressions. -/
def Expr.allLiterals : List Expr → List (LiteralKind × Value)
  | [] => []
  | e :: rest => e.literals ++ Expr.allLiterals rest

end

/-- The literals of an expression that may be left out. -/
def Expr.optionLiterals : Option Expr → List (LiteralKind × Value)
  | none => []
  | some e => e.literals

mutual

/-- The literals of a statement. -/
def Stmt.literals : Stmt → List (LiteralKind × Value)
  | .say e => e.literals
  | .assign _ e => e.literals
  | .block body => Stmt.allLiterals body
  | .define _ _ body => body.literals
  | .give e => Expr.optionLiterals e
  | .branch condition thenBranch elseBranch =>
    condition.literals ++ (thenBranch.literals ++ Stmt.optionLiterals elseBranch)
  | .loop condition body => condition.literals ++ body.literals
  | .count _ start stop step body =>
    start.literals ++ (stop.literals ++ (Expr.optionLiterals step ++ body.literals))
  | .unknown _ => []

/-- The literals of several statements. -/
def Stmt.allLiterals : List Stmt → List (LiteralKind × Value)
  | [] => []
  | s :: rest => s.literals ++ Stmt.allLiterals rest

/-- The literals of a statement that may be left out. -/
def Stmt.optionLiterals : Option Stmt → List (LiteralKind × Value)
  | none => []
  | some s => s.literals

end

/-- The literals of a program. -/
def Program.literals (program : Program) : List (LiteralKind × Value) :=
  Stmt.allLiterals program.statements

/-- Every literal of a list is spelled by a token that stands for it. -/
def LiteralSpelling.Covers (spell : LiteralSpelling) (literals : List (LiteralKind × Value)) :
    Prop :=
  ∀ literal ∈ literals, (spell literal.1 literal.2).Denotes literal.1 literal.2

theorem LiteralSpelling.covers_append {spell : LiteralSpelling}
    {literals more : List (LiteralKind × Value)} :
    spell.Covers (literals ++ more) ↔ spell.Covers literals ∧ spell.Covers more :=
  List.forall_mem_append

/-! ## The tokens spell the tree -/

theorem BinaryOp.ofSpelling_symbol {op : BinaryOp} {level : Level} (h : op.level? = some level) :
    (Token.ofSpelling op.symbol).kind ∈ level.kinds ∧
      BinaryOp.ofSymbol (Token.ofSpelling op.symbol).text = op := by
  cases op <;> cases h <;> decide

theorem UnaryOp.ofSpelling_symbol {op : UnaryOp} (h : op.isKnown = true) :
    (Token.ofSpelling op.symbol).kind ∈ unaryKinds ∧
      UnaryOp.ofSymbol (Token.ofSpelling op.symbol).text = op := by
  cases op with
  | other symbol => cases h
  | _ => decide

theorem Expr.rank_le_loosest (e : Expr) : e.rank ≤ loosest := by
  cases e with
  | binary left op right =>
    rw [Expr.rank]
    cases op.level? with
    | none => exact Nat.zero_le _
    | some level => exact Nat.add_le_add_right level.depth_le 2
  | _ => exact of_decide_eq_true rfl

theorem separated_withCommas {α : Type} {spells : α → List Token → Prop} {items : List α}
    {lists : List (List Token)} (h : List.Forall₂ spells items lists) :
    Separated spells items (Token.withCommas lists) := by
  induction h with
  | nil => exact .nil
  | cons hitem hrest ih =>
    cases hrest with
    | nil => exact .one hitem
    | cons hnext hrest => exact .more hitem (by decide) (List.cons_ne_nil _ _) ih

section

variable {spell : LiteralSpelling}

mutual

/-- The recursion is on the expression. Where the grammar asks for a tighter operand, the rank of
the operand is what the layers of the tree give. -/
theorem Expr.derives_render : (e : Expr) → e.isStratified = true → spell.Covers e.literals →
    {bound : Nat} → e.rank ≤ bound → e.Derives bound (e.render spell)
  | .literal kind value, _, hliterals, _, _ => .literal (hliterals _ (List.mem_singleton_self _))
  | .reference name, _, _, _, _ => .reference (Token.isWord_ofName name).1
  | .binary left op right, h, hliterals, bound, hbound => by
    rw [Expr.isStratified, Bool.and_eq_true, Bool.and_eq_true, Option.any_eq_true] at h
    obtain ⟨⟨level, hlevel, hranks⟩, hleft, hright⟩ := h
    simp only [Bool.and_eq_true, decide_eq_true_eq] at hranks
    obtain ⟨hliteralsOfLeft, hliteralsOfRight⟩ := LiteralSpelling.covers_append.mp hliterals
    obtain ⟨hkind, hop⟩ := BinaryOp.ofSpelling_symbol hlevel
    have hlevelBound : level.rank ≤ bound := by simpa [Expr.rank, hlevel] using hbound
    have hderives := Expr.Derives.binary hlevelBound hkind
      (Expr.derives_render left hleft hliteralsOfLeft hranks.1)
      (Expr.derives_render right hright hliteralsOfRight (Nat.le_sub_one_of_lt hranks.2))
    rwa [hop] at hderives
  | .unary op operand, h, hliterals, bound, hbound => by
    simp only [Expr.isStratified, Bool.and_eq_true, decide_eq_true_eq] at h
    obtain ⟨hknown, hrank, hoperand⟩ := h
    obtain ⟨hkind, hop⟩ := UnaryOp.ofSpelling_symbol hknown
    have hderives := Expr.Derives.unary hbound hkind
      (Expr.derives_render operand hoperand hliterals hrank)
    rwa [hop] at hderives
  | .group inner, h, hliterals, _, _ =>
    .group (by decide) (Expr.derives_render inner h hliterals inner.rank_le_loosest) (by decide)
  | .input prompt, h, hliterals, _, _ =>
    .input (by decide) (by decide)
      (Expr.derives_render prompt h hliterals prompt.rank_le_loosest) (by decide)
  | .call name arguments, h, hliterals, _, _ =>
    .call (Token.isWord_ofName name).1 (by decide)
      (separated_withCommas (Expr.derives_renders arguments h hliterals)) (by decide)
  | .unknown _, h, _, _, _ => nomatch h

theorem Expr.derives_renders : (arguments : List Expr) → Expr.areStratified arguments = true →
    spell.Covers (Expr.allLiterals arguments) →
    List.Forall₂ (Expr.Derives loosest) arguments (Expr.renders spell arguments)
  | [], _, _ => .nil
  | e :: rest, h, hliterals => by
    obtain ⟨he, hrest⟩ := Bool.and_eq_true_iff.mp h
    obtain ⟨hliteralsOfE, hliterals⟩ := LiteralSpelling.covers_append.mp hliterals
    exact .cons (Expr.derives_render e he hliteralsOfE e.rank_le_loosest)
      (Expr.derives_renders rest hrest hliterals)

end

theorem Expr.derives_render_loosest {e : Expr} (h : e.isStratified = true)
    (hliterals : spell.Covers e.literals) : e.Derives loosest (e.render spell) :=
  e.derives_render h hliterals e.rank_le_loosest

theorem separated_names (names : List String) :
    Separated NameSpelled names (Token.withCommas (names.map fun name => [.ofName name])) := by
  refine separated_withCommas ?_
  induction names with
  | nil => exact .nil
  | cons name rest ih => exact .cons ⟨_, rfl, Token.isWord_ofName name⟩ ih

theorem Stmt.exists_of_isBlock {s : Stmt} (h : s.isBlock = true) : ∃ body, s = .block body := by
  cases s with
  | block body => exact ⟨body, rfl⟩
  | _ => cases h

mutual

theorem Stmt.derives_render : (s : Stmt) → s.isStratified = true → spell.Covers s.literals →
    s.Derives LineEnding (s.render spell)
  | .say e, h, hliterals => .say (by decide) (Expr.derives_render_loosest h hliterals)
  | .assign name e, h, hliterals =>
    .assign (by decide) (Token.isWord_ofName name).1 (by decide)
      (Expr.derives_render_loosest h hliterals)
  | .give none, _, _ => .give (by decide)
  | .give (some e), h, hliterals => .giveValue (by decide) (Expr.derives_render_loosest h hliterals)
  | .block body, h, hliterals =>
    .block (by decide) (Stmt.derives_renderLines body h hliterals) (by decide)
  | .branch condition thenBranch elseBranch, h, hliterals => by
    simp only [Stmt.isStratified, Bool.and_eq_true] at h
    obtain ⟨⟨hcondition, hblock, hthen⟩, helse⟩ := h
    simp only [Stmt.literals, LiteralSpelling.covers_append] at hliterals
    obtain ⟨hliteralsOfCondition, hliteralsOfThen, hliteralsOfElse⟩ := hliterals
    have hcondition := Expr.derives_render_loosest hcondition hliteralsOfCondition
    have hthen := Stmt.derives_render thenBranch hthen hliteralsOfThen
    obtain ⟨body, rfl⟩ := Stmt.exists_of_isBlock hblock
    cases elseBranch with
    | none => exact .branch (by decide) hcondition hthen
    | some elseBranch =>
      have helse := Stmt.derives_render elseBranch helse hliteralsOfElse
      exact .branchElse (by decide) hcondition hthen (by decide) helse
  | .loop condition body, h, hliterals => by
    simp only [Stmt.isStratified, Bool.and_eq_true] at h
    obtain ⟨hcondition, hblock, hbody⟩ := h
    obtain ⟨hliteralsOfCondition, hliteralsOfBody⟩ := LiteralSpelling.covers_append.mp hliterals
    have hcondition := Expr.derives_render_loosest hcondition hliteralsOfCondition
    have hbody := Stmt.derives_render body hbody hliteralsOfBody
    obtain ⟨body, rfl⟩ := Stmt.exists_of_isBlock hblock
    exact .loop (by decide) hcondition hbody
  | .count name start stop step body, h, hliterals => by
    simp only [Stmt.isStratified, Bool.and_eq_true] at h
    obtain ⟨⟨⟨hstart, hstop⟩, hstep⟩, hblock, hbody⟩ := h
    simp only [Stmt.literals, LiteralSpelling.covers_append] at hliterals
    obtain ⟨hliteralsOfStart, hliteralsOfStop, hliteralsOfStep, hliteralsOfBody⟩ := hliterals
    have hname := (Token.isWord_ofName name).1
    have hstart := Expr.derives_render_loosest hstart hliteralsOfStart
    have hstop := Expr.derives_render_loosest hstop hliteralsOfStop
    have hbody := Stmt.derives_render body hbody hliteralsOfBody
    obtain ⟨body, rfl⟩ := Stmt.exists_of_isBlock hblock
    cases step with
    | none =>
      exact .count (by decide) (by decide) hname (by decide) hstart (Token.isWord_ofName _) hstop
        hbody
    | some step =>
      have hstep := Expr.derives_render_loosest hstep hliteralsOfStep
      exact .countStep (by decide) (by decide) hname (by decide) hstart (Token.isWord_ofName _)
        hstop (Token.isWord_ofName _) hstep hbody
  | .define name parameters body, h, hliterals => by
    obtain ⟨hblock, hbody⟩ := Bool.and_eq_true_iff.mp h
    have hbody := Stmt.derives_render body hbody hliterals
    obtain ⟨body, rfl⟩ := Stmt.exists_of_isBlock hblock
    exact .define (by decide) (Token.isWord_ofName name).1 (by decide) (separated_names parameters)
      (by decide) hbody
  | .unknown _, h, _ => nomatch h

theorem Stmt.derives_renderLines : (body : List Stmt) → Stmt.areStratified body = true →
    spell.Covers (Stmt.allLiterals body) →
    Items (Stmt.Derives LineEnding) LineEnding body (Stmt.renderLines spell body)
  | [], _, _ => .nil
  | s :: rest, h, hliterals => by
    obtain ⟨hs, hrest⟩ := Bool.and_eq_true_iff.mp h
    obtain ⟨hliteralsOfS, hliterals⟩ := LiteralSpelling.covers_append.mp hliterals
    have hends : LineEnding [.ofSpelling "\n"] := ⟨_, rfl, by decide⟩
    exact .cons (Stmt.derives_render s hs hliteralsOfS) hends
      (Stmt.derives_renderLines rest hrest hliterals)

end

end

end ScriptStudio
