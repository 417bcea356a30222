import ScriptStudio.Proofs.TokensLeft
import ScriptStudio.Token.Pattern

/-!
# The grammar as a relation

Which tokens spell which tree, without a word on how a tree is found.

Expressions are derived within a bound on how loosely they may bind: primary expressions have rank
zero, unary operators rank one, and the levels of binary operators follow from multiplication up to
disjunction. The left operand of a binary operator may be of the operator's own level and the right
one has to be tighter. Inside parentheses, as an argument and as a prompt every expression may
stand.

Statements are derived with a say on what stands after each statement of a list, which is nothing or
a line end.

* `Expr.Derives`, `Stmt.Derives`, `Program.Derives`: the rules.
* `Expr.isStratified`, `Stmt.isStratified`: the same layers, read off a tree alone.
* `Token.IsSpelled`: a token whose text is the spelling of its kind. For such tokens
  `Stmt.Derives.isStratified` gives the layers of the tree from its derivation.
-/

namespace ScriptStudio

open Grammar

/-! ## Expressions -/

/-- How loosely the operators of a level bind. Unary operators have rank one and primary expressions
rank zero. -/
def Grammar.Level.rank (level : Level) : Nat := level.depth + 2

theorem Grammar.Level.rank_tighter {level tighter : Level} (h : level.tighter? = some tighter) :
    tighter.rank = level.rank - 1 := by
  have hdepth := Level.depth_tighter h
  unfold Level.rank
  omega

theorem Grammar.Level.rank_tightest {level : Level} (h : level.tighter? = none) :
    level.rank - 1 = 1 := by
  cases level <;> cases h
  rfl

/-- The rank of the loosest operators. -/
def loosest : Nat := Level.disjunction.rank

/-- A token stands for a literal. -/
def Token.Denotes (token : Token) : LiteralKind → Value → Prop
  | .number, .float x => token.kind = .number ∧ Binary64.ofText? token.text = some x
  | .string, .text s => token.kind = .string ∧ literalText token.text = s
  | .boolean, .bool b => token.kind = if b then .trueKw else .falseKw
  | _, _ => False

/-- Items with a comma between them. -/
inductive Separated {α : Type} (spells : α → List Token → Prop) : List α → List Token → Prop
  | nil : Separated spells [] []
  | one {item : α} {tokens : List Token} (hitem : spells item tokens) :
    Separated spells [item] tokens
  | more {item : α} {rest : List α} {comma : Token} {tokens later : List Token}
    (hitem : spells item tokens) (hcomma : comma.kind = .comma) (hrest : rest ≠ [])
    (hlater : Separated spells rest later) :
    Separated spells (item :: rest) (tokens ++ comma :: later)

/-- An expression is spelled by tokens, and its loosest operator binds at most as loosely as the
bound says. -/
inductive Expr.Derives : Nat → Expr → List Token → Prop
  | literal {bound : Nat} {kind : LiteralKind} {value : Value} {token : Token}
    (hvalue : token.Denotes kind value) : Derives bound (.literal kind value) [token]
  | reference {bound : Nat} {name : Token} (hname : name.kind = .identifier) :
    Derives bound (.reference name.text) [name]
  | call {bound : Nat} {name opening closing : Token} {arguments : List Expr}
    {tokens : List Token} (hname : name.kind = .identifier) (hopening : opening.kind = .leftParen)
    (harguments : Separated (Derives loosest) arguments tokens)
    (hclosing : closing.kind = .rightParen) :
    Derives bound (.call name.text arguments) (name :: opening :: (tokens ++ [closing]))
  | input {bound : Nat} {word opening closing : Token} {prompt : Expr} {tokens : List Token}
    (hword : word.kind = .inputKw) (hopening : opening.kind = .leftParen)
    (hprompt : Derives loosest prompt tokens) (hclosing : closing.kind = .rightParen) :
    Derives bound (.input prompt) (word :: opening :: (tokens ++ [closing]))
  /-- A question without a prompt asks with the empty text. -/
  | inputBare {bound : Nat} {word opening closing : Token} (hword : word.kind = .inputKw)
    (hopening : opening.kind = .leftParen) (hclosing : closing.kind = .rightParen) :
    Derives bound (.input (.literal .string (.text ""))) [word, opening, closing]
  | group {bound : Nat} {opening closing : Token} {inner : Expr} {tokens : List Token}
    (hopening : opening.kind = .leftParen) (hinner : Derives loosest inner tokens)
    (hclosing : closing.kind = .rightParen) :
    Derives bound (.group inner) (opening :: (tokens ++ [closing]))
  | unary {bound : Nat} {op : Token} {operand : Expr} {tokens : List Token}
    (hbound : 1 ≤ bound) (hop : op.kind ∈ unaryKinds) (hoperand : Derives 1 operand tokens) :
    Derives bound (.unary (UnaryOp.ofSymbol op.text) operand) (op :: tokens)
  | binary {bound : Nat} {level : Level} {op : Token} {left right : Expr}
    {before later : List Token} (hbound : level.rank ≤ bound) (hop : op.kind ∈ level.kinds)
    (hleft : Derives level.rank left before) (hright : Derives (level.rank - 1) right later) :
    Derives bound (.binary left (BinaryOp.ofSymbol op.text) right) (before ++ op :: later)

variable {tokens : List Token}

theorem Expr.Derives.mono {bound bound' : Nat} {e : Expr} (h : e.Derives bound tokens)
    (hle : bound ≤ bound') : e.Derives bound' tokens := by
  cases h with
  | literal hvalue => exact .literal hvalue
  | reference hname => exact .reference hname
  | call hname hopening harguments hclosing => exact .call hname hopening harguments hclosing
  | input hword hopening hprompt hclosing => exact .input hword hopening hprompt hclosing
  | inputBare hword hopening hclosing => exact .inputBare hword hopening hclosing
  | group hopening hinner hclosing => exact .group hopening hinner hclosing
  | unary hbound hop hoperand => exact .unary (Nat.le_trans hbound hle) hop hoperand
  | binary hbound hop hleft hright => exact .binary (Nat.le_trans hbound hle) hop hleft hright

theorem Expr.Derives.length_pos {bound : Nat} {e : Expr} (h : e.Derives bound tokens) :
    0 < tokens.length := by
  cases h <;> simp +arith

/-! ## Statements -/

/-- Items of a list, each with its ending. -/
inductive Items {α : Type} (spells : α → List Token → Prop) (ending : List Token → Prop) :
    List α → List Token → Prop
  | nil : Items spells ending [] []
  | cons {item : α} {rest : List α} {tokens ends later : List Token}
    (hitem : spells item tokens) (hends : ending ends) (hrest : Items spells ending rest later) :
    Items spells ending (item :: rest) (tokens ++ (ends ++ later))

/-- A token is the given name. -/
def Token.IsWord (token : Token) (word : String) : Prop :=
  token.kind = .identifier ∧ token.text = word

/-- A name is spelled by a single token. -/
def NameSpelled (name : String) (tokens : List Token) : Prop :=
  ∃ token : Token, tokens = [token] ∧ token.IsWord name

/-- A statement is spelled by tokens, with an ending after every statement of a list inside it. -/
inductive Stmt.Derives (ending : List Token → Prop) : Stmt → List Token → Prop
  | say {word : Token} {e : Expr} {tokens : List Token} (hword : word.kind = .sayKw)
    (he : e.Derives loosest tokens) : Derives ending (.say e) (word :: tokens)
  | assign {word name sign : Token} {e : Expr} {tokens : List Token} (hword : word.kind = .kasKw)
    (hname : name.kind = .identifier) (hsign : sign.kind = .assign)
    (he : e.Derives loosest tokens) :
    Derives ending (.assign name.text e) (word :: name :: sign :: tokens)
  | give {word : Token} (hword : word.kind = .returnKw) : Derives ending (.give none) [word]
  | giveValue {word : Token} {e : Expr} {tokens : List Token} (hword : word.kind = .returnKw)
    (he : e.Derives loosest tokens) : Derives ending (.give (some e)) (word :: tokens)
  | block {opening closing : Token} {body : List Stmt} {tokens : List Token}
    (hopening : opening.kind = .leftBrace) (hbody : Items (Derives ending) ending body tokens)
    (hclosing : closing.kind = .rightBrace) :
    Derives ending (.block body) (opening :: (tokens ++ [closing]))
  | branch {word : Token} {condition : Expr} {body : List Stmt} {tested thens : List Token}
    (hword : word.kind = .ifKw) (hcondition : condition.Derives loosest tested)
    (hthen : Derives ending (.block body) thens) :
    Derives ending (.branch condition (.block body) none) (word :: (tested ++ thens))
  | branchElse {word other : Token} {condition : Expr} {body : List Stmt} {elseBranch : Stmt}
    {tested thens elses : List Token} (hword : word.kind = .ifKw)
    (hcondition : condition.Derives loosest tested) (hthen : Derives ending (.block body) thens)
    (hother : other.kind = .elseKw) (helse : Derives ending elseBranch elses) :
    Derives ending (.branch condition (.block body) (some elseBranch))
      (word :: (tested ++ (thens ++ other :: elses)))
  | loop {word : Token} {condition : Expr} {body : List Stmt} {tested tokens : List Token}
    (hword : word.kind = .whileKw) (hcondition : condition.Derives loosest tested)
    (hbody : Derives ending (.block body) tokens) :
    Derives ending (.loop condition (.block body)) (word :: (tested ++ tokens))
  | count {word kas name sign upTo : Token} {start stop : Expr} {body : List Stmt}
    {starts stops tokens : List Token} (hword : word.kind = .forKw) (hkas : kas.kind = .kasKw)
    (hname : name.kind = .identifier) (hsign : sign.kind = .assign)
    (hstart : start.Derives loosest starts) (hto : upTo.IsWord "to")
    (hstop : stop.Derives loosest stops) (hbody : Derives ending (.block body) tokens) :
    Derives ending (.count name.text start stop none (.block body))
      (word :: kas :: name :: sign :: (starts ++ upTo :: (stops ++ tokens)))
  | countStep {word kas name sign upTo byStep : Token} {start stop step : Expr} {body : List Stmt}
    {starts stops steps tokens : List Token} (hword : word.kind = .forKw)
    (hkas : kas.kind = .kasKw) (hname : name.kind = .identifier) (hsign : sign.kind = .assign)
    (hstart : start.Derives loosest starts) (hto : upTo.IsWord "to")
    (hstop : stop.Derives loosest stops) (hby : byStep.IsWord "step")
    (hstep : step.Derives loosest steps) (hbody : Derives ending (.block body) tokens) :
    Derives ending (.count name.text start stop (some step) (.block body))
      (word :: kas :: name :: sign :: (starts ++ upTo :: (stops ++ byStep :: (steps ++ tokens))))
  | define {word name opening closing : Token} {parameters : List String} {body : List Stmt}
    {names tokens : List Token} (hword : word.kind = .functionKw)
    (hname : name.kind = .identifier) (hopening : opening.kind = .leftParen)
    (hparameters : Separated NameSpelled parameters names)
    (hclosing : closing.kind = .rightParen) (hbody : Derives ending (.block body) tokens) :
    Derives ending (.define name.text parameters (.block body))
      (word :: name :: opening :: (names ++ closing :: tokens))

theorem Stmt.Derives.length_pos {ending : List Token → Prop} {s : Stmt}
    (h : s.Derives ending tokens) : 0 < tokens.length := by
  cases h <;> simp

/-- A program is spelled by tokens, with an ending after every statement of a list. -/
def Program.Derives (ending : List Token → Prop) (program : Program) (tokens : List Token) : Prop :=
  Items (Stmt.Derives ending) ending program.statements tokens

/-- Nothing stands after a statement. -/
def NoEnding (tokens : List Token) : Prop := tokens = []

/-- A line end stands after a statement. -/
def LineEnding (tokens : List Token) : Prop := ∃ token, tokens = [token] ∧ token.kind = .newline

/-! ## The layers of a tree -/

/-- The level of an operator. -/
def BinaryOp.level? : BinaryOp → Option Level
  | .or => some .disjunction
  | .and => some .conjunction
  | .equal | .notEqual => some .equality
  | .less | .greater | .lessEqual | .greaterEqual => some .comparison
  | .plus | .minus => some .addition
  | .times | .divide | .modulo => some .multiplication
  | .other _ => none

/-- The operator has a meaning. -/
def UnaryOp.isKnown : UnaryOp → Bool
  | .other _ => false
  | _ => true

/-- The rank of the operator at the root of an expression. -/
def Expr.rank : Expr → Nat
  | .binary _ op _ => (op.level?.map Level.rank).getD 0
  | .unary _ _ => 1
  | _ => 0

mutual

/-- Every operand of an expression binds as tightly as its operator asks, the right operand of a
binary operator more tightly than the operator. -/
def Expr.isStratified : Expr → Bool
  | .literal _ _ => true
  | .reference _ => true
  | .binary left op right =>
    op.level?.any (fun level => left.rank ≤ level.rank && right.rank < level.rank) &&
      (left.isStratified && right.isStratified)
  | .unary op operand => op.isKnown && (decide (operand.rank ≤ 1) && operand.isStratified)
  | .group inner => inner.isStratified
  | .input prompt => prompt.isStratified
  | .call _ arguments => Expr.areStratified arguments
  | .unknown _ => false

/-- Several expressions are stratified. -/
def Expr.areStratified : List Expr → Bool
  | [] => true
  | e :: rest => e.isStratified && Expr.areStratified rest

end

/-- The statement is a block. -/
def Stmt.isBlock : Stmt → Bool
  | .block _ => true
  | _ => false

mutual

/-- The expressions of a statement are stratified, and its bodies are blocks. -/
def Stmt.isStratified : Stmt → Bool
  | .say e => e.isStratified
  | .assign _ e => e.isStratified
  | .block body => Stmt.areStratified body
  | .define _ _ body => body.isBlock && body.isStratified
  | .give e => e.all Expr.isStratified
  | .branch condition thenBranch elseBranch =>
    condition.isStratified && (thenBranch.isBlock && thenBranch.isStratified) &&
      Stmt.optionIsStratified elseBranch
  | .loop condition body => condition.isStratified && (body.isBlock && body.isStratified)
  | .count _ start stop step body =>
    start.isStratified && stop.isStratified && step.all Expr.isStratified &&
      (body.isBlock && body.isStratified)
  | .unknown _ => false

/-- Several statements are stratified. -/
def Stmt.areStratified : List Stmt → Bool
  | [] => true
  | s :: rest => s.isStratified && Stmt.areStratified rest

/-- A statement that may be left out is stratified. -/
def Stmt.optionIsStratified : Option Stmt → Bool
  | none => true
  | some s => s.isStratified

end

/-- The statements of a program are stratified. -/
def Program.isStratified (program : Program) : Bool := Stmt.areStratified program.statements

/-! ## Derivations give layers

The rules look at the kind of an operator's token, and the tree keeps its text. The layers of a tree
are those of its derivation when the text of every token is the spelling of its kind, as it is for
the tokens of a source text.
-/

/-- The words and symbols with a fixed spelling. -/
def spellings : List (String × TokenKind) := reservedWords ++ symbols

/-- The token is spelled as its kind says, if its kind has a spelling. -/
def Token.IsSpelled (token : Token) : Prop :=
  ∀ entry ∈ spellings, token.kind = entry.2 → token.text = entry.1

instance : DecidablePred Token.IsSpelled := fun token =>
  inferInstanceAs (Decidable (∀ entry ∈ spellings, token.kind = entry.2 → token.text = entry.1))

theorem Grammar.Level.exists_spelling (level : Level) : ∀ kind ∈ level.kinds,
    ∃ entry ∈ spellings, kind = entry.2 ∧ (BinaryOp.ofSymbol entry.1).level? = some level := by
  cases level <;> decide

theorem unaryKinds_exists_spelling : ∀ kind ∈ unaryKinds,
    ∃ entry ∈ spellings, kind = entry.2 ∧ (UnaryOp.ofSymbol entry.1).isKnown = true := by
  decide

namespace Token.IsSpelled

variable {token : Token}

theorem level?_ofSymbol (h : token.IsSpelled) {level : Level} (hkind : token.kind ∈ level.kinds) :
    (BinaryOp.ofSymbol token.text).level? = some level := by
  obtain ⟨entry, hentry, hkind, hlevel⟩ := level.exists_spelling _ hkind
  rw [h entry hentry hkind, hlevel]

theorem isKnown_ofSymbol (h : token.IsSpelled) (hkind : token.kind ∈ unaryKinds) :
    (UnaryOp.ofSymbol token.text).isKnown = true := by
  obtain ⟨entry, hentry, hkind, hknown⟩ := unaryKinds_exists_spelling _ hkind
  rw [h entry hentry hkind, hknown]

end Token.IsSpelled

mutual

/-- The layers of an expression, from a derivation within a bound. The recursion is on the
expression, whose constructor decides the rule. -/
theorem Expr.Derives.isStratified :
    (e : Expr) → {bound : Nat} → {tokens : List Token} → e.Derives bound tokens →
      (∀ token ∈ tokens, token.IsSpelled) → e.isStratified = true ∧ e.rank ≤ bound
  | .literal _ _, _, _, _, _ => ⟨rfl, Nat.zero_le _⟩
  | .reference _, _, _, _, _ => ⟨rfl, Nat.zero_le _⟩
  | .binary left op right, _, _, h, hspelled => by
    cases h with
    | @binary _ level _ _ _ _ _ hbound hop hleft hright =>
      simp only [List.mem_append, List.mem_cons] at hspelled
      have hlevel := (hspelled _ (Or.inr (Or.inl rfl))).level?_ofSymbol hop
      obtain ⟨hleft, hleftRank⟩ := Expr.Derives.isStratified left hleft
        fun token htoken => hspelled token (Or.inl htoken)
      obtain ⟨hright, hrightRank⟩ := Expr.Derives.isStratified right hright
        fun token htoken => hspelled token (Or.inr (Or.inr htoken))
      have htighter : right.rank < level.rank := by
        unfold Level.rank at hrightRank ⊢
        omega
      refine ⟨?_, ?_⟩
      · simp [Expr.isStratified, hlevel, hleft, hright, hleftRank, htighter]
      · simpa [Expr.rank, hlevel] using hbound
  | .unary op operand, _, _, h, hspelled => by
    cases h with
    | unary hbound hop hoperand =>
      have hknown := (hspelled _ List.mem_cons_self).isKnown_ofSymbol hop
      obtain ⟨hoperand, hrank⟩ := Expr.Derives.isStratified operand hoperand
        fun token htoken => hspelled token (List.mem_cons_of_mem _ htoken)
      exact ⟨by simp [Expr.isStratified, hknown, hoperand, hrank], hbound⟩
  | .group inner, _, _, h, hspelled => by
    cases h with
    | group hopening hinner hclosing =>
      have hstratified := (Expr.Derives.isStratified inner hinner fun token htoken =>
        hspelled token (by simp [htoken])).1
      exact ⟨hstratified, Nat.zero_le _⟩
  | .input prompt, _, _, h, hspelled => by
    cases h with
    | input hword hopening hprompt hclosing =>
      have hstratified := (Expr.Derives.isStratified prompt hprompt fun token htoken =>
        hspelled token (by simp [htoken])).1
      exact ⟨hstratified, Nat.zero_le _⟩
    | inputBare hword hopening hclosing => exact ⟨rfl, Nat.zero_le _⟩
  | .call name arguments, _, _, h, hspelled => by
    cases h with
    | call hname hopening harguments hclosing =>
      have hstratified := Expr.Derives.areStratified arguments harguments fun token htoken =>
        hspelled token (by simp [htoken])
      exact ⟨hstratified, Nat.zero_le _⟩
  | .unknown _, _, _, h, _ => nomatch h

theorem Expr.Derives.areStratified :
    (arguments : List Expr) → {tokens : List Token} →
      Separated (Expr.Derives loosest) arguments tokens →
      (∀ token ∈ tokens, token.IsSpelled) → Expr.areStratified arguments = true
  | [], _, _, _ => rfl
  | e :: rest, _, h, hspelled => by
    cases h with
    | one hitem =>
      have he := (Expr.Derives.isStratified e hitem hspelled).1
      simp [Expr.areStratified, he]
    | more hitem hcomma hrest hlater =>
      have he := (Expr.Derives.isStratified e hitem fun token htoken =>
        hspelled token (by simp [htoken])).1
      have hrest := Expr.Derives.areStratified rest hlater fun token htoken =>
        hspelled token (by simp [htoken])
      simp [Expr.areStratified, he, hrest]

end

mutual

/-- The layers of a statement, from a derivation. -/
theorem Stmt.Derives.isStratified {ending : List Token → Prop} :
    (s : Stmt) → {tokens : List Token} → s.Derives ending tokens →
      (∀ token ∈ tokens, token.IsSpelled) → s.isStratified = true
  | .say e, _, h, hspelled => by
    cases h with
    | say hword he => exact (Expr.Derives.isStratified e he (List.forall_mem_cons.mp hspelled).2).1
  | .assign name e, _, h, hspelled => by
    cases h with
    | assign hword hname hsign he =>
      simp only [List.forall_mem_cons] at hspelled
      exact (Expr.Derives.isStratified e he hspelled.2.2.2).1
  | .give e, _, h, hspelled => by
    cases h with
    | give hword => rfl
    | giveValue hword he =>
      exact (Expr.Derives.isStratified _ he (List.forall_mem_cons.mp hspelled).2).1
  | .block body, _, h, hspelled => by
    cases h with
    | block hopening hbody hclosing =>
      simp only [List.forall_mem_cons, List.forall_mem_append] at hspelled
      exact Stmt.Derives.areStratified body hbody hspelled.2.1
  | .branch condition thenBranch none, _, h, hspelled => by
    -- Asked of the branch itself, since only the derivation shows that it is a block.
    have ih := @Stmt.Derives.isStratified ending thenBranch
    cases h with
    | branch hword hcondition hthen =>
      simp only [List.forall_mem_cons, List.forall_mem_append] at hspelled
      have hcondition := (Expr.Derives.isStratified condition hcondition hspelled.2.1).1
      have hthen : Stmt.areStratified _ = true := ih hthen hspelled.2.2
      simp [Stmt.isStratified, Stmt.isBlock, Stmt.optionIsStratified, hcondition, hthen]
  | .branch condition thenBranch (some elseBranch), _, h, hspelled => by
    have ih := @Stmt.Derives.isStratified ending thenBranch
    cases h with
    | branchElse hword hcondition hthen hother helse =>
      simp only [List.forall_mem_cons, List.forall_mem_append] at hspelled
      have hcondition := (Expr.Derives.isStratified condition hcondition hspelled.2.1).1
      have hthen : Stmt.areStratified _ = true := ih hthen hspelled.2.2.1
      have helse := Stmt.Derives.isStratified elseBranch helse hspelled.2.2.2.2
      simp [Stmt.isStratified, Stmt.isBlock, Stmt.optionIsStratified, hcondition, hthen, helse]
  | .loop condition body, _, h, hspelled => by
    have ih := @Stmt.Derives.isStratified ending body
    cases h with
    | loop hword hcondition hbody =>
      simp only [List.forall_mem_cons, List.forall_mem_append] at hspelled
      have hcondition := (Expr.Derives.isStratified condition hcondition hspelled.2.1).1
      have hbody : Stmt.areStratified _ = true := ih hbody hspelled.2.2
      simp [Stmt.isStratified, Stmt.isBlock, hcondition, hbody]
  | .count name start stop step body, _, h, hspelled => by
    have ih := @Stmt.Derives.isStratified ending body
    cases h with
    | count hword hkas hname hsign hstart hto hstop hbody =>
      simp only [List.forall_mem_cons, List.forall_mem_append] at hspelled
      obtain ⟨-, -, -, -, hstarts, -, hstops, htokens⟩ := hspelled
      have hstart := (Expr.Derives.isStratified start hstart hstarts).1
      have hstop := (Expr.Derives.isStratified stop hstop hstops).1
      have hbody : Stmt.areStratified _ = true := ih hbody htokens
      simp [Stmt.isStratified, Stmt.isBlock, hstart, hstop, hbody]
    | countStep hword hkas hname hsign hstart hto hstop hby hstep hbody =>
      simp only [List.forall_mem_cons, List.forall_mem_append] at hspelled
      obtain ⟨-, -, -, -, hstarts, -, hstops, -, hsteps, htokens⟩ := hspelled
      have hstart := (Expr.Derives.isStratified start hstart hstarts).1
      have hstop := (Expr.Derives.isStratified stop hstop hstops).1
      have hstep := (Expr.Derives.isStratified _ hstep hsteps).1
      have hbody : Stmt.areStratified _ = true := ih hbody htokens
      simp [Stmt.isStratified, Stmt.isBlock, hstart, hstop, hstep, hbody]
  | .define name parameters body, _, h, hspelled => by
    have ih := @Stmt.Derives.isStratified ending body
    cases h with
    | define hword hname hopening hparameters hclosing hbody =>
      simp only [List.forall_mem_cons, List.forall_mem_append] at hspelled
      have hbody : Stmt.areStratified _ = true := ih hbody hspelled.2.2.2.2.2
      simp [Stmt.isStratified, Stmt.isBlock, hbody]
  | .unknown _, _, h, _ => nomatch h

theorem Stmt.Derives.areStratified {ending : List Token → Prop} :
    (body : List Stmt) → {tokens : List Token} → Items (Stmt.Derives ending) ending body tokens →
      (∀ token ∈ tokens, token.IsSpelled) → Stmt.areStratified body = true
  | [], _, _, _ => rfl
  | s :: rest, _, h, hspelled => by
    cases h with
    | cons hitem hends hrest =>
      simp only [List.forall_mem_append] at hspelled
      have hs := Stmt.Derives.isStratified s hitem hspelled.1
      have hrest := Stmt.Derives.areStratified rest hrest hspelled.2.2
      simp [Stmt.areStratified, hs, hrest]

end

end ScriptStudio
