import ScriptStudio.Proofs.Derivation
import ScriptStudio.Proofs.PendingGoals

/-!
# The outcomes of the rules

Every rule of the grammar is gone through once, and `Parses` says what there is to say of its
outcome.

* A rule that finds something is a run of the machine from the goals that stand for the rule to the
  goals below them, and the run builds what the rule found. The tokens it took, line ends apart,
  spell what it found.
* A rule that fails does so where the machine gets stuck. Twenty units of fuel for each token, and a
  few for the way down to the next token, are enough for this.

Sequencing keeps `Parses`, so the proofs follow the rules step by step, and each ends with the
constructor of the derivation. The loop over the operators of a level carries a derivation of its
left operand. As the machine has one answer, the rules have one too, whatever the fuel, once it is
enough (`programItems_eq`).
-/

namespace ScriptStudio

namespace Grammar

/-- The tokens that are no line ends. -/
def words (tokens : List Token) : List Token := tokens.filter (·.kind ≠ .newline)

theorem words_append (taken rest : List Token) :
    words (taken ++ rest) = words taken ++ words rest :=
  List.filter_append _ _

theorem words_cons_newline (h : token.kind = .newline) (rest : List Token) :
    words (token :: rest) = words rest := by
  simp [words, h]

theorem words_cons_of_ne (h : token.kind ≠ .newline) (rest : List Token) :
    words (token :: rest) = token :: words rest := by
  simp [words, h]

/-- What a rule found is what a run builds, and the words it took spell it. Where it failed the
machine gets stuck, if there was enough fuel. Both are said of tokens with an end; what is left is
never nothing, whatever the tokens. -/
def Parses {α : Type} (before : List Goal) (parts : List Part) (after : List Goal)
    (put : α → List Part) (spells : α → List Token → Prop) (slack fuel : Nat)
    (tokens : List Token) : Except ParseStop (α × List Token) → Prop
  | .ok (found, rest) =>
    Left tokens rest ∧
      (Ended tokens → Ended rest ∧ Reading (before, parts, tokens) (after, put found, rest) ∧
        ∃ taken, tokens = taken ++ rest ∧ spells found (words taken))
  | .error stop => Ended tokens → 20 * tokens.length + slack ≤ fuel → Sticks before tokens stop

variable {token : Token} {tokens : List Token} {goal : Goal} {fuel : Nat}

namespace Parses

variable {α β : Type} {before middle after later goals : List Goal} {parts parts' : List Part}
  {between : α → List Part} {put : β → List Part} {first : α → List Token → Prop}
  {spells : β → List Token → Prop} {inner slack fuel' : Nat}
  {outcome : Except ParseStop (α × List Token)} {result : Except ParseStop (β × List Token)}

theorem exhausted (h : fuel < slack) (rest : List Token) :
    Parses before parts after put spells slack fuel tokens (.error ⟨.exhausted, rest⟩) :=
  fun _ henough => absurd henough (by omega)

theorem found {value : β} (hparts : parts = put value) (h : spells value []) :
    Parses after parts after put spells slack fuel tokens (.ok (value, tokens)) := by
  subst hparts
  exact ⟨.refl tokens, fun hended => ⟨hended, .refl, [], rfl, h⟩⟩

theorem refuse {refusal : Refusal} (hnext : goal.next (peek tokens) = .refuse refusal) :
    Parses (goal :: later) parts after put spells slack fuel tokens (refuse refusal tokens) := by
  intro hended _
  cases tokens with
  | nil => exact absurd rfl hended.ne_nil
  | cons token rest =>
    rw [peek_cons] at hnext
    exact ⟨_, .refl, by simp [stop?, hnext]⟩

theorem noNumber (hkind : (peek tokens).kind ≠ .endOfFile)
    (hnext : goal.next (peek tokens) = .noNumber) :
    Parses (goal :: later) parts after put spells slack fuel tokens
      (.error ⟨.badNumber (peek tokens).text, advance tokens⟩) := by
  intro hended _
  have hreaches : Reaches (goal :: later, tokens)
      (goal :: later, peek tokens :: advance tokens) := by
    rw [← (hended.advance_eq hkind).1]
  exact ⟨_, hreaches, by simp [stop?, hnext]⟩

/-- The machine moves on, and what it takes off, so many tokens at least, stands in front of what
the rule takes. -/
theorem of_reading (least : Nat) {rest front : List Token} (hleft : Left tokens rest)
    (hreading : Ended tokens → Ended rest ∧
      Reading (before, parts, tokens) (middle, parts', rest) ∧
        ∃ taken, tokens = taken ++ rest ∧ words taken = front ∧ least ≤ taken.length)
    (h : Parses middle parts' after put (fun found later => spells found (front ++ later))
      (slack + 20 * least) fuel rest result) :
    Parses before parts after put spells slack fuel tokens result := by
  cases result with
  | ok found =>
    refine ⟨hleft.trans h.1, fun hended => ?_⟩
    obtain ⟨hrest, hfirst, taken, rfl, rfl, -⟩ := hreading hended
    obtain ⟨hlast, hlater, more, rfl, hspells⟩ := h.2 hrest
    refine ⟨hlast, hfirst.trans hlater, taken ++ more, by rw [List.append_assoc], ?_⟩
    rwa [words_append]
  | error stop =>
    intro hended henough
    obtain ⟨hrest, hfirst, taken, rfl, -, hleast⟩ := hreading hended
    rw [List.length_append] at henough
    obtain ⟨state, hreaches, hstop⟩ := h hrest (by omega)
    exact ⟨state, hfirst.reaches.trans hreaches, hstop⟩

theorem imp {spells' : β → List Token → Prop}
    (h : Parses before parts after put spells' inner fuel' tokens result)
    (hslack : fuel + inner ≤ fuel' + slack)
    (himp : ∀ found taken, spells' found taken → spells found taken) :
    Parses before parts after put spells slack fuel tokens result := by
  cases result with
  | ok found =>
    refine ⟨h.1, fun hended => ?_⟩
    obtain ⟨hrest, hreading, taken, htaken, hspells⟩ := h.2 hended
    exact ⟨hrest, hreading, taken, htaken, himp _ _ hspells⟩
  | error stop => exact fun hended henough => h hended (by omega)

theorem weaken (h : Parses before parts after put spells inner fuel' tokens result)
    (hslack : fuel + inner ≤ fuel' + slack) :
    Parses before parts after put spells slack fuel tokens result :=
  h.imp hslack fun _ _ hspells => hspells

/-- What the first rule took, so many words at least, stands in front of what the second one
takes. -/
theorem bind_least {least : Nat} {next : α × List Token → Except ParseStop (β × List Token)}
    (h : Parses before parts middle between first inner fuel' tokens outcome)
    (hleast : ∀ found taken, first found taken → least ≤ taken.length)
    (hslack : fuel + inner ≤ fuel' + slack)
    (hnext : ∀ found rest taken, outcome = .ok (found, rest) →
      Parses middle (between found) after put
        (fun result later => first found taken → spells result (taken ++ later))
        (slack + 20 * least) fuel rest (next (found, rest))) :
    Parses before parts after put spells slack fuel tokens (outcome >>= next) := by
  cases outcome with
  | ok found =>
    obtain ⟨value, rest⟩ := found
    by_cases hended : Ended tokens
    · obtain ⟨hrest, hreading, taken, htaken, hfirst⟩ := h.2 hended
      have hlength : least ≤ taken.length :=
        Nat.le_trans (hleast _ _ hfirst) (List.length_filter_le _ _)
      refine of_reading least h.1 (fun _ => ⟨hrest, hreading, taken, htaken, rfl, hlength⟩) ?_
      exact (hnext _ _ _ rfl).imp (Nat.le_refl _) fun _ _ hspells => hspells hfirst
    · -- Without an end only what is left is at stake.
      have hlater := hnext value rest [] rfl
      change Parses _ _ _ _ _ _ _ _ (next (value, rest))
      cases hresult : next (value, rest) with
      | ok result =>
        rw [hresult] at hlater
        exact ⟨h.1.trans hlater.1, fun hended' => absurd hended' hended⟩
      | error stop => exact fun hended' => absurd hended' hended
  | error stop => exact fun hended henough => h hended (by omega)

/-- What the first rule took stands in front of what the second one takes. -/
theorem bind {next : α × List Token → Except ParseStop (β × List Token)}
    (h : Parses before parts middle between first inner fuel' tokens outcome)
    (hslack : fuel + inner ≤ fuel' + slack)
    (hnext : ∀ found rest taken, outcome = .ok (found, rest) →
      Parses middle (between found) after put
        (fun result later => first found taken → spells result (taken ++ later)) slack fuel rest
        (next (found, rest))) :
    Parses before parts after put spells slack fuel tokens (outcome >>= next) :=
  bind_least h (fun _ _ _ => Nat.zero_le _) hslack hnext

/-- The rule goes on after the machine has turned its first goal. -/
theorem turn_of_ended (hnext : Ended tokens → goal.next (peek tokens) = .turn goals)
    (h : Parses (goals ++ later) (goal.parts (peek tokens) parts) after put spells slack fuel tokens
      result) :
    Parses (goal :: later) parts after put spells slack fuel tokens result := by
  refine of_reading 0 (.refl tokens) (fun hended => ⟨hended, ?_, [], rfl, rfl, Nat.le_refl _⟩) h
  cases tokens with
  | nil => exact absurd rfl hended.ne_nil
  | cons token rest => exact .turn (hnext hended) .refl

theorem turn (hnext : goal.next (peek tokens) = .turn goals)
    (h : Parses (goals ++ later) (goal.parts (peek tokens) parts) after put spells slack fuel tokens
      result) :
    Parses (goal :: later) parts after put spells slack fuel tokens result :=
  turn_of_ended (fun _ => hnext) h

/-- The rule goes on after the machine has built something. -/
theorem make {what : Make}
    (h : Parses later (what.apply parts) after put spells slack fuel tokens result) :
    Parses (.make what :: later) parts after put spells slack fuel tokens result :=
  turn rfl h

/-- A rule that wraps what another one found. -/
theorem map {what : Make}
    (h : Parses before parts (.make what :: after) between first inner fuel' tokens outcome)
    (hslack : fuel + inner ≤ fuel' + slack) (wrap : α → β)
    (hput : ∀ found, what.apply (between found) = put (wrap found))
    (hwrap : ∀ found taken, first found taken → spells (wrap found) taken) :
    Parses before parts after put spells slack fuel tokens
      (outcome >>= fun found => pure (wrap found.1, found.2)) := by
  refine bind h hslack fun value rest taken _ => make ?_
  refine found (hput value) fun hfirst => ?_
  rw [List.append_nil]
  exact hwrap value taken hfirst

/-- The rule goes on after the machine has taken a token off that is no end. -/
theorem advance (hend : (peek tokens).kind ≠ .endOfFile)
    (hnext : goal.next (peek tokens) = .take goals)
    (h : Parses (goals ++ later) (goal.parts (peek tokens) parts) after put
      (fun found later => spells found (words [peek tokens] ++ later)) (slack + 20) fuel
      (advance tokens) result) :
    Parses (goal :: later) parts after put spells slack fuel tokens result := by
  refine of_reading 1 (.advance tokens) (fun hended => ?_) h
  obtain ⟨htokens, hrest⟩ := hended.advance_eq hend
  refine ⟨hrest, ?_, [peek tokens], htokens, rfl, Nat.le_refl _⟩
  have hreading : Reading (goal :: later, parts, peek tokens :: Grammar.advance tokens)
      (goals ++ later, goal.parts (peek tokens) parts, Grammar.advance tokens) :=
    .take hnext .refl
  rwa [← htokens] at hreading

/-- The token is no line end. -/
theorem past {kinds : List TokenKind} (hkinds : .endOfFile ∉ kinds ∧ .newline ∉ kinds)
    (hat : (peek tokens).kind ∈ kinds) (hnext : goal.next (peek tokens) = .take goals)
    (h : Parses (goals ++ later) (goal.parts (peek tokens) parts) after put
      (fun found later => spells found (peek tokens :: later)) (slack + 20) fuel
      (Grammar.advance tokens) result) :
    Parses (goal :: later) parts after put spells slack fuel tokens result := by
  have hne : ∀ kind, kind ∉ kinds → (peek tokens).kind ≠ kind := fun _ hnot heq =>
    hnot (heq ▸ hat)
  refine advance (hne _ hkinds.1) hnext ?_
  rw [words_cons_of_ne (hne _ hkinds.2)]
  exact h

/-- The token is a line end, and the token after it is looked at with the same goal. -/
theorem line (hline : isAt [.newline] tokens = true)
    (hnext : goal.next (peek tokens) = .take [goal])
    (hparts : goal.parts (peek tokens) parts = parts)
    (h : Parses (goal :: later) parts after put spells (slack + 20) fuel (Grammar.advance tokens)
      result) :
    Parses (goal :: later) parts after put spells slack fuel tokens result := by
  refine advance (kind_ne_of_isAt hline (by decide)) hnext ?_
  rw [words_cons_newline (List.mem_singleton.mp (kind_of_isAt hline)), hparts]
  exact h

/-- Asking for a token of a kind and going on after it. -/
theorem take {next : Token × List Token → Except ParseStop (β × List Token)} {kind : TokenKind}
    {refusal : Refusal} (hkind : kind ≠ .endOfFile ∧ kind ≠ .newline)
    (hgoal : ∀ token, goal.next token = if token.kind = kind then .take goals else .refuse refusal)
    (hnext : ∀ token rest, token.kind = kind →
      Parses (goals ++ later) (goal.parts token parts) after put
        (fun found later => spells found (token :: later)) (slack + 20) fuel rest
        (next (token, rest))) :
    Parses (goal :: later) parts after put spells slack fuel tokens
      (take kind refusal tokens >>= next) := by
  have hmove := hgoal (peek tokens)
  unfold Grammar.take
  split
  · rename_i hpeek
    have hkinds : .endOfFile ∉ [kind] ∧ .newline ∉ [kind] := by simpa [eq_comm] using hkind
    rw [if_pos hpeek] at hmove
    exact past hkinds (List.mem_singleton.mpr hpeek) hmove (hnext _ _ hpeek)
  · rename_i hpeek
    rw [if_neg hpeek] at hmove
    exact refuse hmove

/-- Asking for the parenthesis that ends a list, which the machine has found already. -/
theorem close {next : Token × List Token → Except ParseStop (β × List Token)} {inner : Goal}
    {refusal : Refusal} (hparen : isAt [.rightParen] tokens = true)
    (hnext : ∀ token rest, token.kind = .rightParen →
      Parses later parts after put (fun found later => spells found (token :: later)) (slack + 20)
        fuel rest (next (token, rest))) :
    Parses (.upToParen inner refusal :: later) parts after put spells slack fuel tokens
      (Grammar.take .rightParen refusal tokens >>= next) := by
  have hkind := List.mem_singleton.mp (kind_of_isAt hparen)
  rw [Grammar.take, if_pos hkind]
  exact past (by decide) (kind_of_isAt hparen) (if_pos hparen) (hnext _ _ hkind)

end Parses

/-- A rule stands for goals: it meets them and nothing else, and it puts what it found in the place
of the last parts. -/
abbrev ParsesAs {α : Type} (goals : List Goal) (had : List Part) (put : α → List Part)
    (spells : α → List Token → Prop) (slack fuel : Nat) (tokens : List Token)
    (outcome : Except ParseStop (α × List Token)) : Prop :=
  ∀ later parts, Parses (goals ++ later) (had ++ parts) later (fun found => put found ++ parts)
    spells slack fuel tokens outcome

/-- A rule for an expression that binds within the bound. -/
abbrev ParsesExpr (goal : Goal) (bound : Nat) :=
  ParsesAs [goal] [] (fun e => [.expr e]) (Expr.Derives bound)

/-- A rule for a statement. -/
abbrev ParsesStmt (goals : List Goal) :=
  ParsesAs goals [] (fun s => [.stmt s]) (Stmt.Derives NoEnding)

/-! ## Expressions -/

theorem Level.notMem_kinds (level : Level) :
    TokenKind.endOfFile ∉ level.kinds ∧ TokenKind.newline ∉ level.kinds := by
  cases level <;> decide

/-- The outcomes of the rules for expressions. -/
structure ExpressionsParse (fuel : Nat) : Prop where
  binary : ∀ level tokens, ParsesExpr (.binary level) level.rank (2 * level.depth + 4) fuel tokens
    (binary fuel level tokens)
  operand : ∀ level tokens, ParsesExpr (.operand level) (level.rank - 1) (2 * level.depth + 3) fuel
    tokens (operand fuel level tokens)
  binaryTail : ∀ level left front tokens, ParsesAs [.operators level] [.expr left]
    (fun e => [.expr e])
    (fun e taken => left.Derives level.rank front → e.Derives level.rank (front ++ taken)) 1 fuel
    tokens (binaryTail fuel level left tokens)
  unary : ∀ tokens, ParsesExpr .unary 1 2 fuel tokens (unary fuel tokens)
  primary : ∀ tokens, ParsesExpr .primary 0 1 fuel tokens (primary fuel tokens)
  arguments : ∀ done tokens, ParsesAs [.list .expression] [.exprs done]
    (fun found => [.exprs (done ++ found)])
    (fun found taken => found ≠ [] ∧ Separated (Expr.Derives loosest) found taken) 15 fuel tokens
    (arguments fuel tokens)

theorem primary_parses (h : ExpressionsParse fuel) :
    ParsesExpr .primary 0 1 (fuel + 1) tokens (primary (fuel + 1) tokens) := by
  intro later parts
  have hdisjunction : Level.disjunction.depth = 5 := rfl
  have hnext : Goal.primary.next (peek tokens) = Move.ofPrimary (peek tokens) := rfl
  unfold Move.ofPrimary at hnext
  unfold primary
  dsimp only
  split
  case h_8 =>
    refine Parses.refuse (hnext.trans ?_)
    split <;> first | contradiction | rfl
  case h_3 hkind =>
    rw [hkind] at hnext
    dsimp only at hnext
    split
    · rename_i x hx
      rw [hx] at hnext
      exact Parses.past (by decide) (List.mem_singleton.mpr hkind) hnext
        (Parses.make (Parses.found rfl (.literal ⟨hkind, hx⟩)))
    · rename_i hx
      rw [hx] at hnext
      exact Parses.noNumber (by rw [hkind]; decide) hnext
  all_goals
    rename_i hkind
    rw [hkind] at hnext
    refine Parses.past (by decide) (List.mem_singleton.mpr hkind) hnext ?_
  · refine Parses.take (by decide) (fun _ => rfl) fun opening rest hopening => Parses.make ?_
    dsimp only
    split
    · rename_i hparen
      have hclosing := List.mem_singleton.mp (kind_of_isAt hparen)
      refine Parses.past (by decide) (kind_of_isAt hparen) (if_pos hparen) (Parses.make ?_)
      exact Parses.found rfl (.inputBare hkind hopening hclosing)
    · rename_i hparen
      refine Parses.turn (if_neg hparen) ?_
      refine Parses.bind (h.binary _ _ _ _) (by omega) fun prompt rest _ _ => ?_
      refine Parses.take (by decide) (fun _ => rfl) fun closing rest hclosing => Parses.make ?_
      exact Parses.found rfl fun hprompt => .input hkind hopening hprompt hclosing
  · refine Parses.bind (h.binary _ _ _ _) (by omega) fun inner rest _ _ => ?_
    refine Parses.take (by decide) (fun _ => rfl) fun closing rest hclosing => Parses.make ?_
    exact Parses.found rfl fun hinner => .group hkind hinner hclosing
  · exact Parses.make (Parses.found rfl (.literal ⟨hkind, rfl⟩))
  · exact Parses.make (Parses.found rfl (.literal hkind))
  · exact Parses.make (Parses.found rfl (.literal hkind))
  · split
    · rename_i hparen
      have hopening := List.mem_singleton.mp (kind_of_isAt hparen)
      refine Parses.past (by decide) (kind_of_isAt hparen) (if_pos hparen) (Parses.make ?_)
      split
      · rename_i hclose
        refine Parses.close hclose fun closing rest hclosing => Parses.make ?_
        exact Parses.found rfl (.call hkind hopening .nil hclosing)
      · rename_i hopen
        refine Parses.turn (if_neg hopen) ?_
        refine Parses.bind (h.arguments [] _ _ _) (by omega) fun arguments rest _ _ => ?_
        refine Parses.take (by decide) (fun _ => rfl) fun closing rest hclosing => Parses.make ?_
        exact Parses.found rfl fun harguments => .call hkind hopening harguments.2 hclosing
    · rename_i hparen
      exact Parses.turn (if_neg hparen) (Parses.make (Parses.found rfl (.reference hkind)))

theorem expressionsParse (fuel : Nat) : ExpressionsParse fuel := by
  induction fuel with
  | zero => constructor <;> intros <;> exact fun _ _ => Parses.exhausted (by omega) _
  | succ fuel ih =>
    have hdisjunction : Level.disjunction.depth = 5 := rfl
    constructor
    case binary =>
      intro level tokens later parts
      refine Parses.turn rfl ?_
      refine Parses.bind (ih.operand _ _ _ _) (by omega) fun left rest front _ => ?_
      refine (ih.binaryTail _ left front _ _ _).imp (by omega) fun e taken he hleft => ?_
      exact he (hleft.mono (Nat.sub_le _ _))
    case operand =>
      intro level tokens later parts
      unfold operand
      split
      · rename_i tighter htighter
        have hnext : (Goal.operand level).next (peek tokens) = .turn [.binary tighter] := by
          simp only [Goal.next, htighter]
        have hdepth := Level.depth_tighter htighter
        rw [← Level.rank_tighter htighter]
        exact Parses.turn hnext ((ih.binary _ _ _ _).weaken (by omega))
      · rename_i htightest
        have hnext : (Goal.operand level).next (peek tokens) = .turn [.unary] := by
          simp only [Goal.next, htightest]
        rw [Level.rank_tightest htightest]
        exact Parses.turn hnext ((ih.unary _ _ _).weaken (by omega))
    case binaryTail =>
      intro level left front tokens later parts
      have hdepth := level.depth_le
      unfold binaryTail
      split
      · rename_i hop
        refine Parses.past level.notMem_kinds (kind_of_isAt hop) (if_pos hop) ?_
        refine Parses.bind (ih.operand _ _ _ _) (by omega) fun right rest taken _ => Parses.make ?_
        -- The operator and its right operand join the left operand of what follows.
        refine (ih.binaryTail level _ (front ++ peek tokens :: taken) _ _ _).imp (by omega)
          fun e last he hright hleft => ?_
        have hjoined := Expr.Derives.binary (Nat.le_refl _) (kind_of_isAt hop) hleft hright
        simpa only [List.append_assoc, List.cons_append] using he hjoined
      · rename_i hop
        refine Parses.turn (if_neg hop) (Parses.found rfl fun hleft => ?_)
        rwa [List.append_nil]
    case unary =>
      intro tokens later parts
      unfold unary
      split
      · rename_i hop
        refine Parses.past (by decide) (kind_of_isAt hop) (if_pos hop) ?_
        exact Parses.map (ih.unary _ _ _) (by omega)
          (Expr.unary (UnaryOp.ofSymbol (peek tokens).text)) (fun _ => rfl)
          fun operand taken hoperand => .unary (Nat.le_refl _) (kind_of_isAt hop) hoperand
      · rename_i hop
        refine Parses.turn (if_neg hop) ((ih.primary _ _ _).imp (by omega) ?_)
        exact fun e taken he => he.mono (Nat.zero_le _)
    case primary => exact fun tokens => primary_parses ih
    case arguments =>
      intro done tokens later parts
      refine Parses.turn rfl ?_
      refine Parses.bind (ih.binary _ _ _ _) (by omega) fun first rest taken _ => Parses.make ?_
      dsimp only
      split
      · rename_i hcomma
        have hkind := List.mem_singleton.mp (kind_of_isAt hcomma)
        refine Parses.past (by decide) (kind_of_isAt hcomma) (if_pos hcomma) ?_
        refine Parses.bind (ih.arguments (done ++ [first]) _ _ _) (by omega)
          fun more last later _ => ?_
        refine Parses.found (by simp) fun hmore hfirst => ⟨List.cons_ne_nil _ _, ?_⟩
        rw [List.append_nil]
        exact .more hfirst hkind hmore.1 hmore.2
      · rename_i hcomma
        refine Parses.turn (if_neg hcomma) ?_
        refine Parses.found rfl fun hfirst => ⟨List.cons_ne_nil _ _, ?_⟩
        rw [List.append_nil]
        exact .one hfirst

theorem expression_parses (fuel : Nat) (tokens : List Token) :
    ParsesExpr .expression loosest 14 fuel tokens (expression fuel tokens) :=
  (expressionsParse fuel).binary _ _

/-! ## Statements -/

theorem parameters_parses (fuel : Nat) (done : List String) (tokens : List Token) :
    ParsesAs [.list (.name (.missing .parameterName))] [.names done]
      (fun found => [.names (done ++ found)])
      (fun found taken => found ≠ [] ∧ Separated NameSpelled found taken) 1 fuel tokens
      (parameters fuel tokens) := by
  intro later parts
  induction fuel generalizing done tokens with
  | zero => exact Parses.exhausted (by omega) _
  | succ fuel ih =>
    refine Parses.turn rfl ?_
    refine Parses.take (by decide) (fun _ => rfl) fun name rest hname => Parses.make ?_
    have hname : NameSpelled name.text [name] := ⟨name, rfl, hname, rfl⟩
    dsimp only
    split
    · rename_i hcomma
      have hkind := List.mem_singleton.mp (kind_of_isAt hcomma)
      refine Parses.past (by decide) (kind_of_isAt hcomma) (if_pos hcomma) ?_
      refine Parses.bind (ih (done ++ [name.text]) _) (by omega) fun more last later _ => ?_
      refine Parses.found (by simp) fun hmore => ⟨List.cons_ne_nil _ _, ?_⟩
      rw [List.append_nil]
      exact .more hname hkind hmore.1 hmore.2
    · rename_i hcomma
      refine Parses.turn (if_neg hcomma) (Parses.found rfl ?_)
      exact ⟨List.cons_ne_nil _ _, .one hname⟩

theorem sayStatement_parses (fuel : Nat) (tokens : List Token) :
    ParsesStmt Goal.ofSay 0 fuel tokens (sayStatement fuel tokens) := by
  intro later parts
  refine Parses.take (by decide) (fun _ => rfl) fun word rest hword => ?_
  exact Parses.map (expression_parses fuel _ _ _) (by omega) Stmt.say (fun _ => rfl)
    fun e taken he => .say hword he

theorem assignStatement_parses (fuel : Nat) (tokens : List Token) :
    ParsesStmt Goal.ofAssign 0 fuel tokens (assignStatement fuel tokens) := by
  intro later parts
  refine Parses.take (by decide) (fun _ => rfl) fun word rest hword => ?_
  refine Parses.take (by decide) (fun _ => rfl) fun name rest hname => ?_
  refine Parses.take (by decide) (fun _ => rfl) fun sign rest hsign => ?_
  exact Parses.map (expression_parses fuel _ _ _) (by omega) (Stmt.assign name.text) (fun _ => rfl)
    fun e taken he => .assign hword hname hsign he

theorem giveStatement_parses (fuel : Nat) (tokens : List Token) :
    ParsesStmt Goal.ofGive 0 fuel tokens (giveStatement fuel tokens) := by
  intro later parts
  refine Parses.take (by decide) (fun _ => rfl) fun word rest hword => ?_
  dsimp only
  split
  · rename_i hend
    exact Parses.turn (if_pos hend) (Parses.make (Parses.found rfl (.give hword)))
  · rename_i hend
    refine Parses.turn (if_neg hend) ?_
    exact Parses.map (expression_parses fuel _ _ _) (by omega) (fun e => Stmt.give (some e))
      (fun _ => rfl) fun e taken he => .giveValue hword he

/-- A block is spelled by tokens. -/
def BlockDerives (s : Stmt) (tokens : List Token) : Prop :=
  ∃ body, s = .block body ∧ (Stmt.block body).Derives NoEnding tokens

theorem isWord_of_isAtWord {word : String} (h : isAtWord word tokens = true) :
    (peek tokens).IsWord word := by
  simp only [isAtWord, Bool.and_eq_true, beq_iff_eq] at h
  exact ⟨List.mem_singleton.mp (kind_of_isAt h.1), h.2⟩

/-- The outcomes of the rules for statements. The items of a block are read after the line ends in
front of them, and what closes the block is still to be read after them. -/
structure StatementsParse (fuel : Nat) : Prop where
  statement : ∀ tokens, ParsesStmt [.statement] 2 fuel tokens (statement fuel tokens)
  blockStatement : ∀ tokens, ParsesAs [.block] [] (fun s => [.stmt s]) BlockDerives 1 fuel tokens
    (blockStatement fuel tokens)
  items : ∀ done tokens later parts, Parses (.blockRest :: later) (.stmts done :: parts)
    (.blockRest :: later) (fun found => .stmts (done ++ found) :: parts)
    (Items (Stmt.Derives NoEnding) NoEnding) 3 fuel tokens
    (blockItems fuel (skipNewlines tokens.length tokens))
  branchStatement : ∀ tokens,
    ParsesStmt Goal.ofBranch 1 fuel tokens (branchStatement fuel tokens)
  loopStatement : ∀ tokens, ParsesStmt Goal.ofLoop 1 fuel tokens (loopStatement fuel tokens)
  countStatement : ∀ tokens, ParsesStmt Goal.ofCount 1 fuel tokens (countStatement fuel tokens)
  defineStatement : ∀ tokens,
    ParsesStmt Goal.ofDefine 1 fuel tokens (defineStatement fuel tokens)

theorem branchStatement_parses (h : StatementsParse fuel) (tokens : List Token) :
    ParsesStmt Goal.ofBranch 1 (fuel + 1) tokens (branchStatement (fuel + 1) tokens) := by
  intro later parts
  refine Parses.take (by decide) (fun _ => rfl) fun word rest hword => ?_
  refine Parses.bind (expression_parses fuel _ _ _) (by omega) fun condition rest tested _ => ?_
  refine Parses.bind (h.blockStatement _ _ _) (by omega) fun thenBranch rest thens _ => ?_
  dsimp only
  split
  · rename_i helse
    have hkind := List.mem_singleton.mp (kind_of_isAt helse)
    refine Parses.past (by decide) (kind_of_isAt helse) (if_pos helse) ?_
    refine Parses.map (h.statement _ _ _) (by omega)
      (fun elseBranch => Stmt.branch condition thenBranch (some elseBranch)) (fun _ => rfl) ?_
    rintro elseBranch elses helses ⟨body, rfl, hthens⟩ htested
    exact .branchElse hword htested hthens hkind helses
  · rename_i helse
    refine Parses.turn (if_neg helse) (Parses.make (Parses.found rfl ?_))
    rintro ⟨body, rfl, hthens⟩ htested
    rw [List.append_nil]
    exact .branch hword htested hthens

theorem loopStatement_parses (h : StatementsParse fuel) (tokens : List Token) :
    ParsesStmt Goal.ofLoop 1 (fuel + 1) tokens (loopStatement (fuel + 1) tokens) := by
  intro later parts
  refine Parses.take (by decide) (fun _ => rfl) fun word rest hword => ?_
  refine Parses.bind (expression_parses fuel _ _ _) (by omega) fun condition rest tested _ => ?_
  refine Parses.map (h.blockStatement _ _ _) (by omega) (Stmt.loop condition) (fun _ => rfl) ?_
  rintro _ taken ⟨body, rfl, htaken⟩ htested
  exact .loop hword htested htaken

theorem countStatement_parses (h : StatementsParse fuel) (tokens : List Token) :
    ParsesStmt Goal.ofCount 1 (fuel + 1) tokens (countStatement (fuel + 1) tokens) := by
  intro later parts
  refine Parses.take (by decide) (fun _ => rfl) fun word rest hword => ?_
  refine Parses.take (by decide) (fun _ => rfl) fun kas rest hkas => ?_
  refine Parses.take (by decide) (fun _ => rfl) fun name rest hname => ?_
  refine Parses.take (by decide) (fun _ => rfl) fun sign rest hsign => ?_
  refine Parses.bind (expression_parses fuel _ _ _) (by omega) fun start rest starts _ => ?_
  dsimp only
  split
  · rename_i hto
    rw [Bool.not_eq_true'] at hto
    exact Parses.refuse (if_neg (ne_true_of_eq_false hto))
  · rename_i hto
    rw [Bool.not_eq_true', Bool.not_eq_false] at hto
    have hupTo := isWord_of_isAtWord hto
    refine Parses.past (by decide) (List.mem_singleton.mpr hupTo.1) (if_pos hto) ?_
    refine Parses.bind (expression_parses fuel _ _ _) (by omega) fun stop rest stops _ => ?_
    dsimp only
    split
    · rename_i hby
      have hstride := isWord_of_isAtWord hby
      refine Parses.past (by decide) (List.mem_singleton.mpr hstride.1) (if_pos hby) ?_
      refine Parses.bind (expression_parses fuel _ _ _) (by omega) fun step rest steps _ => ?_
      refine Parses.map (h.blockStatement _ _ _) (by omega)
        (Stmt.count name.text start stop (some step)) (fun _ => rfl) ?_
      rintro _ taken ⟨body, rfl, htaken⟩ hstep hstop hstart
      exact .countStep hword hkas hname hsign hstart hupTo hstop hstride hstep htaken
    · rename_i hby
      refine Parses.turn (if_neg hby) ?_
      refine Parses.map (h.blockStatement _ _ _) (by omega) (Stmt.count name.text start stop none)
        (fun _ => rfl) ?_
      rintro _ taken ⟨body, rfl, htaken⟩ hstop hstart
      exact .count hword hkas hname hsign hstart hupTo hstop htaken

theorem defineStatement_parses (h : StatementsParse fuel) (tokens : List Token) :
    ParsesStmt Goal.ofDefine 1 (fuel + 1) tokens (defineStatement (fuel + 1) tokens) := by
  intro later parts
  refine Parses.take (by decide) (fun _ => rfl) fun word rest hword => ?_
  refine Parses.take (by decide) (fun _ => rfl) fun name rest hname => ?_
  refine Parses.take (by decide) (fun _ => rfl) fun opening rest hopening => Parses.make ?_
  dsimp only
  split
  · rename_i hparen
    refine Parses.close hparen fun closing rest hclosing => ?_
    refine Parses.map (h.blockStatement _ _ _) (by omega) (Stmt.define name.text [])
      (fun _ => rfl) ?_
    rintro _ taken ⟨body, rfl, htaken⟩
    exact .define hword hname hopening .nil hclosing htaken
  · rename_i hparen
    refine Parses.turn (if_neg hparen) ?_
    refine Parses.bind (parameters_parses fuel [] _ _ _) (by omega)
      fun parameters rest names _ => ?_
    refine Parses.take (by decide) (fun _ => rfl) fun closing rest hclosing => ?_
    refine Parses.map (h.blockStatement _ _ _) (by omega) (Stmt.define name.text parameters)
      (fun _ => rfl) ?_
    rintro _ taken ⟨body, rfl, htaken⟩ hnames
    exact .define hword hname hopening hnames.2 hclosing htaken

theorem statement_parses (h : StatementsParse fuel) (tokens : List Token) :
    ParsesStmt [.statement] 2 (fuel + 1) tokens (statement (fuel + 1) tokens) := by
  intro later parts
  have hnext : Goal.statement.next (peek tokens) = Move.ofStatement (peek tokens) := rfl
  unfold Move.ofStatement at hnext
  unfold statement
  split
  case h_9 =>
    refine Parses.refuse (hnext.trans ?_)
    split <;> first | contradiction | rfl
  all_goals
    rename_i hkind
    rw [hkind] at hnext
    refine Parses.turn hnext ?_
  · exact (h.defineStatement _ _ _).weaken (by omega)
  · exact (h.branchStatement _ _ _).weaken (by omega)
  · exact (h.loopStatement _ _ _).weaken (by omega)
  · exact (h.countStatement _ _ _).weaken (by omega)
  · exact (giveStatement_parses _ _ _ _).weaken (by omega)
  · exact (sayStatement_parses _ _ _ _).weaken (by omega)
  · exact (assignStatement_parses _ _ _ _).weaken (by omega)
  · refine (h.blockStatement _ _ _).imp (by omega) ?_
    rintro _ taken ⟨body, rfl, hbody⟩
    exact hbody

/-- The items of a block are read up to a closing brace or the end. -/
theorem isAt_of_blockItems {rest : List Token} {body : List Stmt}
    (h : blockItems fuel tokens = .ok (body, rest)) :
    isAt [.rightBrace, .endOfFile] rest = true := by
  induction fuel generalizing tokens body with
  | zero => cases h
  | succ fuel ih =>
    unfold blockItems at h
    split at h
    · rename_i hend
      cases h
      exact hend
    · obtain ⟨⟨first, inner⟩, _, h⟩ := bind_eq_ok h
      obtain ⟨⟨more, last⟩, hmore, h⟩ := bind_eq_ok h
      cases h
      exact ih hmore

theorem blockStatement_parses (h : StatementsParse fuel) (tokens : List Token) :
    ParsesAs [.block] [] (fun s => [.stmt s]) BlockDerives 1 (fuel + 1) tokens
      (blockStatement (fuel + 1) tokens) := by
  intro later parts
  refine Parses.take (by decide) (fun _ => rfl) fun opening rest hopening => Parses.make ?_
  refine Parses.bind (h.items [] _ _ _) (by omega) fun body rest taken hitems => ?_
  have hend := kind_of_isAt (isAt_of_blockItems hitems)
  dsimp only
  by_cases hbrace : (peek rest).kind = .rightBrace
  · have hnext : Goal.blockRest.next (peek rest) = .take [.make .block] := by
      simp [Goal.next, hbrace]
    rw [take, if_pos hbrace]
    refine Parses.past (by decide) (List.mem_singleton.mpr hbrace) hnext (Parses.make ?_)
    exact Parses.found rfl fun hbody => ⟨body, rfl, .block hopening hbody hbrace⟩
  · have hkind : (peek rest).kind = .endOfFile := by simpa [hbrace] using hend
    have hnext : Goal.blockRest.next (peek rest) = .refuse (.missing .closeBlock) := by
      simp [Goal.next, hkind]
    rw [take, if_neg hbrace]
    exact Parses.refuse hnext

/-- The line ends in front of the items of a block are no words. They are dropped up to a token that
is none. -/
theorem Parses.skipNewlines {α : Type} {spells : α → List Token → Prop} {later after : List Goal}
    {parts : List Part} {put : α → List Part} {slack fuel' : Nat}
    {outcome : Except ParseStop (α × List Token)} (hfuel : Ended tokens → tokens.length ≤ fuel)
    (h : (Ended (skipNewlines fuel tokens) → isAt [.newline] (skipNewlines fuel tokens) = false) →
      Parses (.blockRest :: later) parts after put spells slack fuel' (skipNewlines fuel tokens)
        outcome) :
    Parses (.blockRest :: later) parts after put spells slack fuel' tokens outcome := by
  induction fuel generalizing tokens with
  | zero =>
    refine h fun hended => ?_
    have hnil : tokens = [] := List.length_eq_zero_iff.mp (Nat.le_zero.mp (hfuel hended))
    exact absurd hnil hended.ne_nil
  | succ fuel ih =>
    unfold Grammar.skipNewlines at h
    split at h
    · rename_i hline
      have hkind := kind_ne_of_isAt hline (by decide)
      refine Parses.line hline (if_pos hline) rfl
        ((ih (fun hrest => ?_) h).weaken (by omega))
      have hended := hrest.of_suffix (Left.advance tokens).suffix
      have hlength := congrArg List.length (hended.advance_eq hkind).1
      have hle := hfuel hended
      rw [List.length_cons] at hlength
      omega
    · rename_i hline
      exact h fun _ => Bool.eq_false_iff.mpr hline

theorem items_parses (h : StatementsParse fuel) (done : List Stmt) (tokens : List Token)
    (later : List Goal) (parts : List Part) :
    Parses (.blockRest :: later) (.stmts done :: parts) (.blockRest :: later)
      (fun found => .stmts (done ++ found) :: parts) (Items (Stmt.Derives NoEnding) NoEnding) 3
      (fuel + 1) tokens (blockItems (fuel + 1) (skipNewlines tokens.length tokens)) := by
  refine Parses.skipNewlines (fun _ => Nat.le_refl _) fun hline => ?_
  generalize skipNewlines tokens.length tokens = rest at hline ⊢
  unfold blockItems
  split
  · exact Parses.found (by simp) .nil
  · rename_i hgo
    have hnext : Ended rest →
        Goal.blockRest.next (peek rest) = .turn [.statement, .make .item, .blockRest] := by
      intro hended
      have hline := hline hended
      simp only [isAt, List.contains_iff_mem, List.mem_cons, List.not_mem_nil, or_false,
        not_or] at hgo
      have hkind : (peek rest).kind ≠ .newline := by simpa [isAt] using hline
      simp [Goal.next, hgo, hkind]
    refine Parses.turn_of_ended hnext ?_
    refine Parses.bind_least (h.statement _ _ _) (fun _ _ hs => hs.length_pos) (by omega)
      fun first rest taken _ => Parses.make ?_
    refine Parses.bind (h.items (done ++ [first]) _ _ _) (by omega) fun more last later _ => ?_
    refine Parses.found (by simp) fun hmore hfirst => ?_
    rw [List.append_nil]
    exact .cons hfirst (show NoEnding [] from rfl) hmore

theorem statementsParse (fuel : Nat) : StatementsParse fuel := by
  induction fuel with
  | zero => constructor <;> intros <;> first
    | exact Parses.exhausted (by omega) _
    | exact fun _ _ => Parses.exhausted (by omega) _
  | succ fuel ih =>
    constructor
    · exact statement_parses ih
    · exact blockStatement_parses ih
    · exact items_parses ih
    · exact branchStatement_parses ih
    · exact loopStatement_parses ih
    · exact countStatement_parses ih
    · exact defineStatement_parses ih

/-! ## Programs -/

/-- Reading a program is a run of the machine from the one goal of a program to no goal. -/
theorem programItems_parses (fuel : Nat) (done : List Stmt) (tokens : List Token) :
    Parses [.program] [.stmts done] [] (fun found => [.stmts (done ++ found)])
      (Items (Stmt.Derives NoEnding) NoEnding) 3 fuel tokens (programItems fuel tokens) := by
  induction fuel generalizing done tokens with
  | zero => exact Parses.exhausted (by omega) _
  | succ fuel ih =>
    unfold programItems
    split
    · rename_i hend
      exact Parses.turn (if_pos hend) (Parses.found (by simp [Goal.parts]) .nil)
    · rename_i hend
      split
      · rename_i hline
        have hnext : Goal.program.next (peek tokens) = .take [.program] :=
          (if_neg hend).trans (if_pos hline)
        exact Parses.line hline hnext rfl ((ih done _).weaken (by omega))
      · rename_i hline
        have hnext : Goal.program.next (peek tokens) = .turn [.statement, .make .item, .program] :=
          (if_neg hend).trans (if_neg hline)
        refine Parses.turn hnext ?_
        refine Parses.bind_least ((statementsParse fuel).statement _ _ _)
          (fun _ _ hs => hs.length_pos) (by omega) fun first rest taken _ => Parses.make ?_
        refine Parses.bind (ih (done ++ [first]) _) (by omega) fun more last later _ => ?_
        refine Parses.found (by simp) fun hmore hfirst => ?_
        rw [List.append_nil]
        exact .cons hfirst (show NoEnding [] from rfl) hmore

variable {α : Type} {before : List Goal} {parts : List Part} {put : α → List Part}
  {spells : α → List Token → Prop} {slack : Nat} {outcome : Except ParseStop (α × List Token)}

/-- With enough fuel the rule answers as the machine does. -/
theorem Parses.halts (h : Parses before parts [] put spells slack fuel tokens outcome)
    (hended : Ended tokens) (henough : 20 * tokens.length + slack ≤ fuel) :
    Halts before parts put tokens outcome := by
  cases outcome with
  | ok found => exact (h.2 hended).2.1
  | error stop => exact h hended henough

/-- The tokens are read as a program. -/
abbrev ReadsProgram (tokens : List Token) : Except ParseStop (List Stmt × List Token) → Prop :=
  Halts [.program] [.stmts []] (fun found => [.stmts found]) tokens

theorem programItems_halts (hended : Ended tokens) (hfuel : fuelFor tokens ≤ fuel) :
    ReadsProgram tokens (programItems fuel tokens) := by
  refine (programItems_parses fuel [] tokens).halts hended ?_
  unfold fuelFor at hfuel
  omega

/-- The statements that were found are spelled by the words in front of what is left. -/
theorem derives_of_programItems {found : List Stmt} {rest : List Token} (hended : Ended tokens)
    (h : programItems fuel tokens = .ok (found, rest)) :
    Ended rest ∧ ∃ taken, tokens = taken ++ rest ∧
      Items (Stmt.Derives NoEnding) NoEnding found (words taken) := by
  have hparses := programItems_parses fuel [] tokens
  rw [h] at hparses
  obtain ⟨hrest, -, htaken⟩ := hparses.2 hended
  exact ⟨hrest, htaken⟩

/-- What the machine answers, the rule answers. -/
theorem programItems_eq {outcome : Except ParseStop (List Stmt × List Token)}
    (hended : Ended tokens) (h : ReadsProgram tokens outcome) :
    programItems (fuelFor tokens) tokens = outcome :=
  (programItems_halts hended (Nat.le_refl _)).unique (fun _ _ heq => by simpa using heq) h

end Grammar

open Grammar

variable {tokens : List Token}

theorem Program.ofTokens_eq_ok_iff (hne : tokens ≠ []) {program : Program} :
    Program.ofTokens tokens = .ok program ↔
      ∃ rest, programItems (fuelFor tokens) tokens = .ok (program.statements, rest) := by
  have hempty : tokens.isEmpty = false := by simpa using hne
  rw [Program.ofTokens, hempty]
  dsimp only [Grammar.program]
  cases programItems (fuelFor tokens) tokens with
  | error stop => simp [bind, Except.bind]
  | ok found =>
    obtain ⟨statements, rest⟩ := found
    constructor
    · rintro ⟨⟩
      exact ⟨rest, rfl⟩
    · rintro ⟨_, ⟨⟩⟩
      rfl

theorem Program.ofTokens_eq_error_iff (hne : tokens ≠ []) {failure : ParseFailure} :
    Program.ofTokens tokens = .error failure ↔
      ∃ rest, programItems (fuelFor tokens) tokens = .error ⟨failure, rest⟩ := by
  have hempty : tokens.isEmpty = false := by simpa using hne
  rw [Program.ofTokens, hempty]
  dsimp only [Grammar.program]
  cases programItems (fuelFor tokens) tokens with
  | error stop =>
    obtain ⟨failure', rest⟩ := stop
    constructor
    · rintro ⟨⟩
      exact ⟨rest, rfl⟩
    · rintro ⟨_, ⟨⟩⟩
      rfl
  | ok found => simp [bind, Except.bind, pure, Except.pure]

/-- Tokens with an end spell a program exactly if the machine builds its statements. -/
theorem Program.ofTokens_eq_ok_iff_reading (hended : Ended tokens) {program : Program} :
    Program.ofTokens tokens = .ok program ↔
      ∃ rest,
        Reading ([.program], [.stmts []], tokens) ([], [.stmts program.statements], rest) := by
  rw [Program.ofTokens_eq_ok_iff hended.ne_nil]
  constructor
  · rintro ⟨rest, hitems⟩
    have hhalts := programItems_halts hended (Nat.le_refl _)
    rw [hitems] at hhalts
    exact ⟨rest, hhalts⟩
  · rintro ⟨rest, hreading⟩
    exact ⟨rest, programItems_eq hended hreading⟩

end ScriptStudio
