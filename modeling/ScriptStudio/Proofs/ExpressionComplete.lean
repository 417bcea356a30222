import ScriptStudio.Proofs.Derivation
import ScriptStudio.Proofs.PendingGoals

/-!
# Reading expressions that were written

Tokens that spell an expression are read as that expression, if what follows cannot belong to it.

`Ends` says what may follow: a token that opens no parenthesis and is no operator that would have to
be taken along.

The operators of a level are read by a loop that has the left operand in hand, and the loop may go
on after the expression in question. So `ReadsAt` stops where the loop is about to go on. From it
follow the cases of a binary operator, of a looser level and, when the loop stops, of an operand.
-/

namespace ScriptStudio

namespace Grammar

/-! ## Where an expression ends -/

/-- The token cannot go on with an expression within the bound. -/
structure Ends (bound : Nat) (token : Token) : Prop where
  noCall : token.kind ≠ .leftParen
  noOperator : ∀ level : Level, level.rank ≤ bound → token.kind ∉ level.kinds

/-- The kinds of the tokens that may stand after an expression of any rank. -/
def closers : List TokenKind :=
  [.rightParen, .comma, .leftBrace, .rightBrace, .newline, .endOfFile, .identifier]

theorem Level.disjoint_closers (level : Level) : ∀ kind ∈ closers, kind ∉ level.kinds := by
  cases level <;> decide

theorem Level.leftParen_notMem_kinds (level : Level) : TokenKind.leftParen ∉ level.kinds := by
  cases level <;> decide

/-- No token is an operator of two levels. -/
theorem Level.eq_of_mem_kinds (level other : Level) :
    ∀ kind ∈ level.kinds, kind ∈ other.kinds → level = other := by
  cases level <;> cases other <;> decide

namespace Ends

variable {bound : Nat} {token : Token}

theorem mono {bound' : Nat} (h : Ends bound token) (hle : bound' ≤ bound) : Ends bound' token :=
  ⟨h.noCall, fun level hlevel => h.noOperator level (Nat.le_trans hlevel hle)⟩

theorem of_closer (h : token.kind ∈ closers) : Ends bound token := by
  refine ⟨?_, fun level _ => level.disjoint_closers _ h⟩
  have hparen : TokenKind.leftParen ∉ closers := by decide
  exact fun heq => hparen (heq ▸ h)

/-- A tighter expression ends in front of an operator. -/
theorem of_operator {level : Level} (hop : token.kind ∈ level.kinds) :
    Ends (level.rank - 1) token := by
  refine ⟨?_, fun other hother hmem => ?_⟩
  · intro hparen
    exact level.leftParen_notMem_kinds (hparen ▸ hop)
  · obtain rfl := Level.eq_of_mem_kinds level other _ hop hmem
    unfold Level.rank at hother
    omega

theorem operators {level : Level} (h : Ends bound token) (hlevel : level.rank ≤ bound) :
    (Goal.operators level).next token = .turn [] :=
  if_neg fun hat => h.noOperator level hlevel (kind_of_isAt hat)

end Ends

/-! ## Levels -/

/-- The goal is met by the tokens, which are read as an expression within the bound. -/
def Meets (goal : Goal) (bound : Nat) (e : Expr) (tokens : List Token) : Prop :=
  ∀ later parts token rest, Ends bound token →
    Reading (goal :: later, parts, tokens ++ token :: rest) (later, .expr e :: parts, token :: rest)

/-- The level has read the expression and is about to go on with its operators. -/
def ReadsAt (level : Level) (e : Expr) (tokens : List Token) : Prop :=
  ∀ later parts token rest, Ends (level.rank - 1) token →
    Reading (.binary level :: later, parts, tokens ++ token :: rest)
      (.operators level :: later, .expr e :: parts, token :: rest)

section

variable {level : Level} {e : Expr} {goal : Goal} {tokens : List Token}

theorem Reading.turn_any {goals later : List Goal} {parts : List Part} {token : Token}
    {rest : List Token} {final : List Goal × List Part × List Token}
    (hnext : ∀ token, goal.next token = .turn goals)
    (hparts : ∀ token, goal.parts token parts = parts)
    (h : Reading (goals ++ later, parts, tokens ++ token :: rest) final) :
    Reading (goal :: later, parts, tokens ++ token :: rest) final := by
  obtain ⟨first, more, hall⟩ : ∃ first more, tokens ++ token :: rest = first :: more :=
    List.exists_cons_of_ne_nil (by simp)
  rw [hall] at h ⊢
  exact .turn (hnext first) (by rwa [hparts])

theorem Meets.readsAt (h : Meets (.operand level) (level.rank - 1) e tokens) :
    ReadsAt level e tokens := by
  intro later parts token rest hends
  exact .turn_any (fun _ => rfl) (fun _ => rfl) (h _ _ _ _ hends)

theorem Meets.operand (h : Meets .unary 1 e tokens) (htightest : level.tighter? = none) :
    Meets (.operand level) (level.rank - 1) e tokens := by
  intro later parts token rest hends
  rw [Level.rank_tightest htightest] at hends
  have hnext : ∀ token, (Goal.operand level).next token = .turn [.unary] := by
    intro token
    simp only [Goal.next, htightest]
  exact .turn_any hnext (fun _ => rfl) (h _ _ _ _ hends)

/-- The loop of the tighter level stops in front of what ends an operand. -/
theorem ReadsAt.operand {tighter : Level} (h : ReadsAt tighter e tokens)
    (htighter : level.tighter? = some tighter) :
    Meets (.operand level) (level.rank - 1) e tokens := by
  intro later parts token rest hends
  rw [← Level.rank_tighter htighter] at hends
  have hnext : ∀ token, (Goal.operand level).next token = .turn [.binary tighter] := by
    intro token
    simp only [Goal.next, htighter]
  refine .turn_any hnext (fun _ => rfl) ?_
  refine (h _ _ _ _ (hends.mono (Nat.sub_le _ _))).andThen ?_
  exact .turn (hends.operators (Nat.le_refl _)) .refl

theorem Level.eq_of_depth_eq {other : Level} (h : level.depth = other.depth) : level = other := by
  cases level <;> cases other <;> first | rfl | cases h

/-- What is read at a level is read at every looser one. -/
theorem ReadsAt.looser {tight : Level} (h : ReadsAt tight e tokens)
    (hle : tight.depth ≤ level.depth) : ReadsAt level e tokens := by
  induction hdepth : level.depth generalizing level with
  | zero =>
    have heq : tight.depth = level.depth := by omega
    rwa [← Level.eq_of_depth_eq heq]
  | succ depth ih =>
    rcases Nat.eq_or_lt_of_le hle with heq | hlt
    · rwa [← Level.eq_of_depth_eq heq]
    · cases htighter : level.tighter? with
      | none =>
        have hrank := Level.rank_tightest htighter
        unfold Level.rank at hrank
        omega
      | some tighter =>
        have htight := Level.depth_tighter htighter
        have hread : ReadsAt tighter e tokens := ih (by omega) (by omega)
        exact (hread.operand htighter).readsAt

/-- A left operand, an operator and a right operand are read as one expression: the loop that has
the left operand in hand takes the operator and goes on with the joined expression in hand. -/
theorem ReadsAt.binary {left right : Expr} {before later : List Token} {op : Token}
    (hleft : ReadsAt level left before) (hop : op.kind ∈ level.kinds)
    (hright : Meets (.operand level) (level.rank - 1) right later) :
    ReadsAt level (.binary left (BinaryOp.ofSymbol op.text) right) (before ++ op :: later) := by
  intro goals parts token rest hends
  rw [List.append_assoc, List.cons_append]
  refine (hleft _ _ _ _ (Ends.of_operator hop)).andThen ?_
  have hat : isAt level.kinds [op] = true := by simpa using hop
  exact .take (if_pos hat) ((hright _ _ _ _ hends).andThen (.make .refl))

end

/-- The tokens are read as an expression within the bound. -/
structure Reads (bound : Nat) (e : Expr) (tokens : List Token) : Prop where
  unary : bound ≤ 1 → Meets .unary 1 e tokens
  binary : ∀ level : Level, bound ≤ level.rank → ReadsAt level e tokens

namespace Reads

variable {bound : Nat} {level : Level} {e : Expr} {tokens : List Token}

theorem of_unary (h : Meets .unary 1 e tokens) : Reads bound e tokens := by
  refine ⟨fun _ => h, fun level _ => ?_⟩
  have hmultiplication : ReadsAt .multiplication e tokens := (h.operand rfl).readsAt
  exact hmultiplication.looser (Nat.zero_le _)

theorem of_binary (h : ReadsAt level e tokens) (hlevel : level.rank ≤ bound) :
    Reads bound e tokens := by
  refine ⟨fun hbound => ?_, fun other hother => h.looser ?_⟩
  · unfold Level.rank at hlevel
    omega
  · unfold Level.rank at hlevel hother
    omega

theorem operand (h : Reads (level.rank - 1) e tokens) :
    Meets (.operand level) (level.rank - 1) e tokens := by
  cases htighter : level.tighter? with
  | none => exact (h.unary (Nat.le_of_eq (Level.rank_tightest htighter))).operand htighter
  | some tighter =>
    have hrank := Level.rank_tighter htighter
    exact (h.binary tighter (Nat.le_of_eq hrank.symm)).operand htighter

theorem meets (h : Reads level.rank e tokens) : Meets (.binary level) level.rank e tokens := by
  intro later parts token rest hends
  refine (h.binary level (Nat.le_refl _) _ _ _ _ (hends.mono (Nat.sub_le _ _))).andThen ?_
  exact .turn (hends.operators (Nat.le_refl _)) .refl

end Reads

/-! ## Expressions -/

/-- The kinds of the tokens that are literals. -/
def literalKinds : List TokenKind := [.number, .string, .trueKw, .falseKw]

/-- The kinds of the tokens that may begin an expression. -/
def openers : List TokenKind := literalKinds ++ [.identifier, .inputKw, .leftParen] ++ unaryKinds

/-- The tokens begin with a token of the kinds. -/
def Begins (kinds : List TokenKind) (tokens : List Token) : Prop :=
  ∃ first more, tokens = first :: more ∧ first.kind ∈ kinds

variable {kinds : List TokenKind} {tokens : List Token} {opening closing : Token}

theorem Begins.of_kind {first : Token} {kind : TokenKind} (hkind : first.kind = kind)
    (hkinds : kind ∈ kinds) (more : List Token) : Begins kinds (first :: more) :=
  ⟨first, more, rfl, hkind ▸ hkinds⟩

theorem Begins.append (h : Begins kinds tokens) (rest : List Token) :
    Begins kinds (tokens ++ rest) := by
  obtain ⟨first, more, rfl, hfirst⟩ := h
  exact ⟨first, more ++ rest, rfl, hfirst⟩

/-- A token of other kinds does not stand there. -/
theorem not_isAt {first : Token} (h : first.kind ∈ kinds) {others : List TokenKind}
    (hdisjoint : ∀ kind ∈ kinds, kind ∉ others) : ¬isAt others [first] = true := by
  intro hat
  exact hdisjoint _ h (kind_of_isAt hat)

theorem kind_of_denotes {kind : LiteralKind} {value : Value} {token : Token}
    (h : token.Denotes kind value) : token.kind ∈ literalKinds := by
  unfold Token.Denotes at h
  split at h
  · simp [h.1, literalKinds]
  · simp [h.1, literalKinds]
  · rw [h]
    split <;> decide
  · exact h.elim

theorem begins_of_derives {e : Expr} {bound : Nat} {tokens : List Token}
    (h : e.Derives bound tokens) : Begins openers tokens := by
  cases h with
  | literal hvalue =>
    have hsubset : literalKinds ⊆ openers := by decide
    exact ⟨_, [], rfl, hsubset (kind_of_denotes hvalue)⟩
  | reference hname => exact .of_kind hname (by decide) _
  | call hname => exact .of_kind hname (by decide) _
  | input hword => exact .of_kind hword (by decide) _
  | inputBare hword => exact .of_kind hword (by decide) _
  | group hopening => exact .of_kind hopening (by decide) _
  | unary _ hop =>
    have hsubset : unaryKinds ⊆ openers := by decide
    exact ⟨_, _, rfl, hsubset hop⟩
  -- A binary operation begins with its left operand.
  | binary _ _ hleft => exact (begins_of_derives hleft).append _
termination_by sizeOf e

/-- A primary expression is a unary one without an operator. -/
theorem meets_of_primary {e : Expr} {first : Token} {more : List Token} {goals : List Goal}
    (hfirst : first.kind ∉ unaryKinds) (hnext : Goal.primary.next first = .take goals)
    (h : ∀ later parts token rest, Ends 1 token →
      Reading (goals ++ later, parts, more ++ token :: rest)
        (later, .expr e :: parts, token :: rest)) :
    Meets .unary 1 e (first :: more) := by
  intro later parts token rest hends
  have hunary : Goal.unary.next first = .turn [.primary] :=
    if_neg fun hat => hfirst (kind_of_isAt hat)
  exact .turn hunary (.take hnext (h _ _ _ _ hends))

theorem meets_literal {kind : LiteralKind} {value : Value} {token : Token}
    (h : token.Denotes kind value) : Meets .unary 1 (.literal kind value) [token] := by
  have hfirst : token.kind ∉ unaryKinds := by
    have hdisjoint : ∀ kind ∈ literalKinds, kind ∉ unaryKinds := by decide
    exact hdisjoint _ (kind_of_denotes h)
  have hnext : Goal.primary.next token = .literal kind value := by
    rw [Goal.next, Move.ofPrimary]
    unfold Token.Denotes at h
    split at h
    · simp only [h.1, h.2]
    · simp only [h.1, h.2]
    · rename_i b
      cases b <;> simp only [h] <;> rfl
    · exact h.elim
  exact meets_of_primary hfirst hnext fun _ _ _ _ _ => .make .refl

theorem next_name {name : Token} (hname : name.kind = .identifier) :
    Goal.primary.next name = .take [.call name.text] := by
  simp only [Goal.next, Move.ofPrimary, hname]

theorem meets_reference {name : Token} (hname : name.kind = .identifier) :
    Meets .unary 1 (.reference name.text) [name] := by
  refine meets_of_primary (by simp [hname, unaryKinds]) (next_name hname)
    fun later parts token rest hends => ?_
  have hat : ¬isAt [.leftParen] [token] = true := fun hat =>
    hends.noCall (List.mem_singleton.mp (kind_of_isAt hat))
  exact .turn (if_neg hat) (.make .refl)

theorem meets_group {inner : Expr} (hopening : opening.kind = .leftParen)
    (hinner : Reads loosest inner tokens) (hclosing : closing.kind = .rightParen) :
    Meets .unary 1 (.group inner) (opening :: (tokens ++ [closing])) := by
  have hnext : Goal.primary.next opening =
      .take [.expression, .token .rightParen (.missing .closeAfterGroup), .make .group] := by
    simp only [Goal.next, Move.ofPrimary, hopening]
  refine meets_of_primary (by simp [hopening, unaryKinds]) hnext
    fun later parts token rest hends => ?_
  rw [List.append_assoc, List.singleton_append]
  refine (hinner.meets _ _ _ _ (.of_closer (by rw [hclosing]; decide))).andThen ?_
  exact .take (if_pos hclosing) (.make .refl)

theorem next_input {word : Token} (hword : word.kind = .inputKw) :
    Goal.primary.next word =
      .take [.token .leftParen (.missing .openAfterInput), .make (.push (.exprs [])),
        .upToParen .expression (.missing .closeAfterPrompt), .make .input] := by
  simp only [Goal.next, Move.ofPrimary, hword]

theorem meets_input {word : Token} {prompt : Expr} (hword : word.kind = .inputKw)
    (hopening : opening.kind = .leftParen) (hbegins : Begins openers tokens)
    (hprompt : Reads loosest prompt tokens) (hclosing : closing.kind = .rightParen) :
    Meets .unary 1 (.input prompt) (word :: opening :: (tokens ++ [closing])) := by
  refine meets_of_primary (by simp [hword, unaryKinds]) (next_input hword)
    fun later parts token rest _ => ?_
  simp only [List.cons_append, List.nil_append, List.append_assoc]
  obtain ⟨first, more, rfl, hfirst⟩ := hbegins
  refine .take (if_pos hopening) (.make (.turn (if_neg (not_isAt hfirst (by decide))) ?_))
  refine (hprompt.meets _ _ _ _ (.of_closer (by rw [hclosing]; decide))).andThen ?_
  exact .take (if_pos hclosing) (.make .refl)

theorem meets_inputBare {word : Token} (hword : word.kind = .inputKw)
    (hopening : opening.kind = .leftParen) (hclosing : closing.kind = .rightParen) :
    Meets .unary 1 (.input (.literal .string (.text ""))) [word, opening, closing] := by
  refine meets_of_primary (by simp [hword, unaryKinds]) (next_input hword)
    fun later parts token rest _ => ?_
  have hat : isAt [.rightParen] [closing] = true := by simp [hclosing]
  exact .take (if_pos hopening) (.make (.take (if_pos hat) (.make .refl)))

/-- The tokens are read as more arguments, up to a closing parenthesis. -/
def ReadsArguments (arguments : List Expr) (tokens : List Token) : Prop :=
  ∀ done later parts closing rest, closing.kind = .rightParen →
    Reading (.list .expression :: later, .exprs done :: parts, tokens ++ closing :: rest)
      (later, .exprs (done ++ arguments) :: parts, closing :: rest)

theorem meets_call {name : Token} {arguments : List Expr} (hname : name.kind = .identifier)
    (hopening : opening.kind = .leftParen) (harguments : arguments = [] ∧ tokens = [] ∨
      Begins openers tokens ∧ ReadsArguments arguments tokens)
    (hclosing : closing.kind = .rightParen) :
    Meets .unary 1 (.call name.text arguments) (name :: opening :: (tokens ++ [closing])) := by
  refine meets_of_primary (by simp [hname, unaryKinds]) (next_name hname)
    fun later parts token rest _ => ?_
  simp only [List.cons_append, List.nil_append, List.append_assoc]
  have hparen : isAt [.leftParen] [opening] = true := by simp [hopening]
  refine .take (if_pos hparen) ?_
  rcases harguments with ⟨rfl, rfl⟩ | ⟨⟨first, more, rfl, hfirst⟩, harguments⟩
  · have hat : isAt [.rightParen] [closing] = true := by simp [hclosing]
    exact .make (.take (if_pos hat) (.make .refl))
  · refine .make (.turn (if_neg (not_isAt hfirst (by decide))) ?_)
    refine (harguments [] _ _ _ _ hclosing).andThen ?_
    exact .take (if_pos hclosing) (.make .refl)

theorem meets_unary {op : Token} {operand : Expr} (hop : op.kind ∈ unaryKinds)
    (hoperand : Meets .unary 1 operand tokens) :
    Meets .unary 1 (.unary (UnaryOp.ofSymbol op.text) operand) (op :: tokens) := by
  intro later parts token rest hends
  have hat : isAt unaryKinds [op] = true := by simpa using hop
  exact .take (if_pos hat) ((hoperand _ _ _ _ hends).andThen (.make .refl))

mutual

/-- Tokens that spell an expression are read as it. The recursion is on the expression. -/
theorem reads_of_derives : (e : Expr) → {bound : Nat} → {tokens : List Token} →
    e.Derives bound tokens → Reads bound e tokens
  | .literal _ _, _, _, h => by
    cases h with
    | literal hvalue => exact .of_unary (meets_literal hvalue)
  | .reference _, _, _, h => by
    cases h with
    | reference hname => exact .of_unary (meets_reference hname)
  | .binary left _ right, _, _, h => by
    cases h with
    | binary hbound hop hleft hright =>
      have hleft := (reads_of_derives left hleft).binary _ (Nat.le_refl _)
      have hright := (reads_of_derives right hright).operand
      exact .of_binary (hleft.binary hop hright) hbound
  | .unary _ operand, _, _, h => by
    cases h with
    | unary hbound hop hoperand =>
      have hoperand := (reads_of_derives operand hoperand).unary (Nat.le_refl _)
      exact .of_unary (meets_unary hop hoperand)
  | .group inner, _, _, h => by
    cases h with
    | group hopening hinner hclosing =>
      exact .of_unary (meets_group hopening (reads_of_derives inner hinner) hclosing)
  | .input prompt, _, _, h => by
    cases h with
    | input hword hopening hprompt hclosing =>
      exact .of_unary (meets_input hword hopening (begins_of_derives hprompt)
        (reads_of_derives prompt hprompt) hclosing)
    | inputBare hword hopening hclosing =>
      exact .of_unary (meets_inputBare hword hopening hclosing)
  | .call _ arguments, _, _, h => by
    cases h with
    | call hname hopening harguments hclosing =>
      exact .of_unary (meets_call hname hopening
        (readsArguments_of_separated arguments harguments) hclosing)
  | .unknown _, _, _, h => nomatch h

theorem readsArguments_of_separated : (arguments : List Expr) → {tokens : List Token} →
    Separated (Expr.Derives loosest) arguments tokens →
    arguments = [] ∧ tokens = [] ∨ Begins openers tokens ∧ ReadsArguments arguments tokens
  | [], _, h => by
    cases h with
    | nil => exact Or.inl ⟨rfl, rfl⟩
  | e :: rest, _, h => by
    refine Or.inr ?_
    cases h with
    | one hitem =>
      refine ⟨begins_of_derives hitem, fun done later parts closing last hclosing => ?_⟩
      refine .turn_any (fun _ => rfl) (fun _ => rfl) ?_
      refine ((reads_of_derives e hitem).meets _ _ _ _
        (.of_closer (by rw [hclosing]; decide))).andThen (.make ?_)
      exact .turn (if_neg (by simp [hclosing])) .refl
    | @more _ _ comma tokens later hitem hcomma hrest hlater =>
      refine ⟨(begins_of_derives hitem).append _, fun done goals parts closing last hclosing => ?_⟩
      rcases readsArguments_of_separated rest hlater with ⟨hnil, _⟩ | ⟨_, harguments⟩
      · exact absurd hnil hrest
      · rw [List.append_assoc, List.cons_append]
        refine .turn_any (fun _ => rfl) (fun _ => rfl) ?_
        refine ((reads_of_derives e hitem).meets _ _ _ _
          (.of_closer (by rw [hcomma]; decide))).andThen (.make ?_)
        refine .take (if_pos (by simp [hcomma])) ?_
        have hmore := harguments (done ++ [e]) goals parts closing last hclosing
        rwa [List.append_assoc] at hmore

end

end Grammar

end ScriptStudio
