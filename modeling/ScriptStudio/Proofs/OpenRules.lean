import Mathlib.Data.List.Forall2
import Mathlib.Order.Nat
import ScriptStudio.Proofs.RuleOutcomes

/-!
# How many rules are open at once

A rule that calls another stays open until that one has ended. Here every goal of the machine
carries the number of rules that are open around it, and the number is bounded by how deep the
tokens are nested: nine rules for a parenthesis, three for a brace, one for a sign and two for an
`else`. A place to keep open rules that has room for so many is never too small.

* `CountedStep` is a move of the machine with these numbers. `exists_counted` says that every run
  has them.
* `Nesting` follows the tokens that were taken off. `roomFor` is the most that it comes to.
* `Fits` bounds the numbers of a stack of goals by the nesting; one move keeps this (`Fits.turn`,
  `Fits.take`), and so does a run (`Fits.of_counted`).
-/

namespace ScriptStudio.Grammar

/-! ## Goals with the rules around them -/

/-- The rules that the goal opens for what it turns into. An expression opens its own rule and that
of the loosest level, and a statement its own rule and that of its kind. -/
@[simp] def Goal.opened (goal : Goal) (token : Token) : Nat :=
  match goal with
  | .binary .disjunction => 2
  | .binary _ | .unary | .primary | .block => 1
  | .statement => if token.kind = .leftBrace then 1 else 2
  | _ => 0

/-- A stack of goals, each with the number of rules that are open around it. -/
abbrev Counted := List (Goal × Nat)

/-- The goals, all with the same rules around them. -/
@[simp] def counted (depth : Nat) (goals : List Goal) : Counted := goals.map (·, depth)

variable {goal : Goal} {goals : List Goal} {token : Token} {tokens rest : List Token}
  {later stack : Counted} {depth : Nat}

/-- How deep a token is nested, in rules. -/
structure Nesting where
  /-- What the open parentheses and braces come to, with all that was open when they came. -/
  outer : Nat := 0
  /-- What the signs and `else` of the line add. -/
  own : Nat := 0
  /-- The two numbers from before each parenthesis and brace that is open. -/
  saved : List (Nat × Nat) := []

namespace Nesting

/-- Inside a parenthesis or a brace, whose rules come to `cost`. -/
def push (cost : Nat) (nesting : Nesting) : Nesting :=
  ⟨nesting.outer + nesting.own + cost, 0, (nesting.outer, nesting.own) :: nesting.saved⟩

/-- After the end of the innermost parenthesis or brace. -/
def pop : Nesting → Nesting
  | ⟨_, _, (outer, own) :: saved⟩ => ⟨outer, own, saved⟩
  | nesting => nesting

/-- After a sign or an `else`. -/
def add (more : Nat) (nesting : Nesting) : Nesting :=
  { nesting with own := nesting.own + more }

/-- At the end of a line. -/
def endLine (nesting : Nesting) : Nesting := { nesting with own := 0 }

/-- The nesting after a token. -/
def after (nesting : Nesting) (token : Token) : Nesting :=
  match token.kind with
  | .leftParen => nesting.push 9
  | .leftBrace => nesting.push 3
  | .rightParen | .rightBrace => nesting.pop
  | .newline => nesting.endLine
  | .minus | .plus | .notKw => nesting.add 1
  | .elseKw => nesting.add 2
  | _ => nesting

/-- The rules that are open at most. The rules of a program, a statement and an expression, down to
a primary one, are twelve. -/
def room (nesting : Nesting) : Nat := 12 + nesting.outer + nesting.own

end Nesting

/-- What a goal does to the nesting by the time it is met. -/
inductive Effect where
  | opens (cost : Nat)
  | closes
  | level
  /-- There is no goal after it. -/
  | last
deriving DecidableEq

/-- The effect of each goal. -/
@[simp] def Goal.effect : Goal → Effect
  | .token .leftParen _ => .opens 9
  | .token .rightParen _ | .upToParen _ _ | .blockRest => .closes
  | .program => .last
  | _ => .level

/-- The rules that the goal opens, one in the other, until the tokens are nested deeper. -/
@[simp] def Goal.need : Goal → Nat
  | .token _ _ | .name _ | .limitWord | .call _ | .make _ => 0
  | .primary => 1
  | .unary | .operand .multiplication | .operators .multiplication => 2
  | .binary .multiplication | .operand .addition | .operators .addition => 3
  | .binary .addition | .operand .comparison | .operators .comparison => 4
  | .binary .comparison | .operand .equality | .operators .equality => 5
  | .binary .equality | .operand .conjunction | .operators .conjunction => 6
  | .binary .conjunction | .operand .disjunction | .operators .disjunction => 7
  | .binary .disjunction | .block | .alternative | .stride | .giveValue => 9
  | .statement | .blockRest | .program => 11
  | .list item | .more item | .upToParen item _ => item.need

/-- Items of lists leave the nesting as it is, and no goal asks for a token of its own at which a
line or a block begins or ends. -/
@[simp] def Goal.isTame : Goal → Bool
  | .token kind _ => !([.newline, .leftBrace, .rightBrace].contains kind)
  | .list item | .more item | .upToParen item _ => item.isTame && item.effect == .level
  | _ => true

/-- The goals that begin a line. They do not depend on the line before. -/
@[simp] def Goal.isLine : Goal → Bool
  | .blockRest | .program => true
  | _ => false

/-- The numbers of open rules keep to the nesting. -/
@[simp] def Fits : Counted → Nesting → Prop
  | [], _ => True
  | (goal, depth) :: later, nesting =>
    depth + goal.need ≤ (if goal.isLine then 12 + nesting.outer else nesting.room) ∧
      goal.isTame = true ∧
      match goal.effect with
      | .opens cost => Fits later (nesting.push cost)
      | .closes => nesting.saved ≠ [] ∧ depth ≤ nesting.pop.room ∧ Fits later nesting.pop
      | .level => Fits later nesting
      | .last => later = []

variable {nesting : Nesting}

namespace Nesting

@[simp] theorem pop_push (cost : Nat) (nesting : Nesting) : (nesting.push cost).pop = nesting := rfl

@[simp] theorem saved_push (cost : Nat) (nesting : Nesting) : (nesting.push cost).saved ≠ [] :=
  List.cons_ne_nil _ _

@[simp] theorem outer_push (cost : Nat) (nesting : Nesting) :
    12 + (nesting.push cost).outer = nesting.room + cost := by
  simp only [push, room]
  omega

@[simp] theorem room_push (cost : Nat) (nesting : Nesting) :
    (nesting.push cost).room = nesting.room + cost := by
  rw [← outer_push, room]
  rfl

@[simp] theorem room_add (more : Nat) (nesting : Nesting) :
    (nesting.add more).room = nesting.room + more := by
  simp only [add, room, Nat.add_assoc]

@[simp] theorem outer_endLine (nesting : Nesting) : nesting.endLine.outer = nesting.outer := rfl

@[simp] theorem saved_endLine (nesting : Nesting) : nesting.endLine.saved = nesting.saved := rfl

@[simp] theorem pop_endLine (h : nesting.saved ≠ []) : nesting.endLine.pop = nesting.pop := by
  obtain ⟨outer, own, saved⟩ := nesting
  cases saved with
  | nil => exact absurd rfl h
  | cons pair saved => rfl

end Nesting

/-- More is open, and as much is closed again by each closing token. -/
structure Nesting.Within (nesting other : Nesting) : Prop where
  outer : nesting.outer ≤ other.outer
  own : nesting.own ≤ other.own
  saved : List.Forall₂ (· ≤ ·) nesting.saved other.saved

namespace Nesting.Within

variable {other : Nesting}

theorem refl (nesting : Nesting) : nesting.Within nesting :=
  ⟨Nat.le_refl _, Nat.le_refl _, List.forall₂_refl _⟩

theorem add (nesting : Nesting) (more : Nat) : nesting.Within (nesting.add more) :=
  ⟨Nat.le_refl _, Nat.le_add_right _ _, List.forall₂_refl _⟩

theorem room_le (h : nesting.Within other) : nesting.room ≤ other.room :=
  Nat.add_le_add (Nat.add_le_add_left h.outer 12) h.own

theorem push (h : nesting.Within other) (cost : Nat) :
    (nesting.push cost).Within (other.push cost) :=
  ⟨Nat.add_le_add_right (Nat.add_le_add h.outer h.own) cost, Nat.le_refl _,
    .cons ⟨h.outer, h.own⟩ h.saved⟩

theorem ne_nil (h : nesting.Within other) (hne : nesting.saved ≠ []) : other.saved ≠ [] := by
  intro hnil
  have hsaved := h.saved
  rw [hnil, List.forall₂_nil_right_iff] at hsaved
  exact hne hsaved

theorem pop (h : nesting.Within other) : nesting.pop.Within other.pop := by
  obtain ⟨outer, own, saved⟩ := nesting
  obtain ⟨outer', own', saved'⟩ := other
  cases h.saved with
  | nil => exact h
  | cons hpair hsaved => exact ⟨hpair.1, hpair.2, hsaved⟩

end Nesting.Within

/-- More may be open around the same goals. -/
theorem Fits.mono {other : Nesting} (h : Fits stack nesting) (hle : nesting.Within other) :
    Fits stack other := by
  induction stack generalizing nesting other with
  | nil => trivial
  | cons entry later ih =>
    obtain ⟨goal, depth⟩ := entry
    obtain ⟨hroom, htame, hlater⟩ := h
    refine ⟨Nat.le_trans hroom ?_, htame, ?_⟩
    · split
      · exact Nat.add_le_add_left hle.outer 12
      · exact hle.room_le
    · cases heffect : goal.effect with
      | opens cost =>
        rw [heffect] at hlater
        exact ih hlater (hle.push cost)
      | closes =>
        rw [heffect] at hlater
        obtain ⟨hsaved, hclosed, hlater⟩ := hlater
        exact ⟨hle.ne_nil hsaved, Nat.le_trans hclosed hle.pop.room_le, ih hlater hle.pop⟩
      | level =>
        rw [heffect] at hlater
        exact ih hlater hle
      | last =>
        rw [heffect] at hlater
        exact hlater

/-- A turn opens no more than the goal needs. -/
theorem Fits.turn (h : Fits ((goal, depth) :: later) nesting)
    (hnext : goal.next token = .turn goals) :
    Fits (counted (depth + goal.opened token) goals ++ later) nesting := by
  cases goal with
  | token | name | limitWord | block => grind [Goal.next]
  | primary => grind [Goal.next, Move.ofPrimary, Move.literal]
  | binary level =>
    cases hnext
    cases level <;> simp at h ⊢ <;> grind
  | operand level => cases level <;> cases hnext <;> simp at h ⊢ <;> grind
  | list item =>
    cases hnext
    have hdepth : depth ≤ nesting.room := Nat.le_trans (Nat.le_add_right _ _) h.1
    cases item <;> simp_all
  | make what =>
    cases hnext
    simp_all
  | upToParen inner refusal =>
    rw [Goal.next] at hnext
    split at hnext <;> cases hnext
    cases inner <;> simp_all <;> grind
  | statement =>
    rw [Goal.next, Move.ofStatement] at hnext
    split at hnext <;> cases hnext <;>
      simp_all [Goal.ofDefine, Goal.ofBranch, Goal.ofLoop, Goal.ofCount, Goal.ofGive, Goal.ofSay,
        Goal.ofAssign] <;> grind
  | blockRest | program =>
    rw [Goal.next] at hnext
    repeat' split at hnext
    all_goals cases hnext
    all_goals simp_all [Nesting.room]
    all_goals omega
  | operators | unary | call | more | alternative | stride | giveValue =>
    rw [Goal.next] at hnext
    split at hnext <;> cases hnext <;> simp at h ⊢ <;> grind

/-- The kinds of the tokens that open or close a level of nesting or end a line. -/
def nestingKinds : List TokenKind := [.leftParen, .leftBrace, .rightParen, .rightBrace, .newline]

theorem Nesting.within_after (nesting : Nesting) (h : token.kind ∉ nestingKinds) :
    nesting.Within (nesting.after token) := by
  unfold Nesting.after
  split <;> first | exact .refl _ | exact .add _ _ | simp_all [nestingKinds]

theorem Fits.take_token {refusal : Refusal}
    (h : Fits ((.token token.kind refusal, depth) :: later) nesting) :
    Fits later (nesting.after token) := by
  by_cases hneutral : token.kind ∈ nestingKinds
  · simp only [nestingKinds, List.mem_cons, List.not_mem_nil, or_false] at hneutral
    rcases hneutral with hkind | hkind | hkind | hkind | hkind <;> simp_all [Nesting.after]
  · have hlevel : (Goal.token token.kind refusal).effect = .level := by
      cases hkind : token.kind <;> simp_all [nestingKinds]
    rw [Fits, hlevel] at h
    exact h.2.2.mono (nesting.within_after hneutral)

/-- A token that is taken off counts as soon as it is gone. -/
theorem Fits.take (h : Fits ((goal, depth) :: later) nesting)
    (hnext : goal.next token = .take goals) :
    Fits (counted (depth + goal.opened token) goals ++ later) (nesting.after token) := by
  cases goal with
  | token kind refusal =>
    rw [Goal.next] at hnext
    split at hnext <;> cases hnext
    rename_i hkind
    subst hkind
    exact h.take_token
  | operators level =>
    rw [Goal.next] at hnext
    split at hnext <;> cases hnext
    rename_i hat
    have hneutral : ∀ kind ∈ level.kinds, kind ∉ nestingKinds := by
      cases level <;> decide
    have h := h.mono (nesting.within_after (hneutral _ (kind_of_isAt hat)))
    cases level <;> simp at h ⊢ <;> grind
  | unary =>
    rw [Goal.next] at hnext
    split at hnext <;> cases hnext
    rename_i hat
    have hafter : nesting.after token = nesting.add 1 := by
      simp [isAt, unaryKinds] at hat
      rcases hat with hkind | hkind | hkind <;> rw [Nesting.after, hkind]
    rw [hafter]
    simp at h ⊢
    exact ⟨by omega, by omega, h.2.mono (.add _ _)⟩
  | alternative =>
    rw [Goal.next] at hnext
    split at hnext <;> cases hnext
    rename_i hat
    simp_all [isAt, Nesting.after]
    exact h.2.mono (.add _ _)
  | primary =>
    rw [Goal.next, Move.ofPrimary] at hnext
    repeat' split at hnext
    all_goals cases hnext
    all_goals simp_all [Nesting.after]
    all_goals omega
  | blockRest | program =>
    rw [Goal.next] at hnext
    repeat' split at hnext
    all_goals cases hnext
    all_goals simp_all [isAt, Nesting.after]
  | call | block =>
    rw [Goal.next] at hnext
    split at hnext <;> cases hnext
    simp_all [isAt, Nesting.after]
    omega
  | name | limitWord | stride | more | upToParen =>
    rw [Goal.next] at hnext
    split at hnext <;> cases hnext
    simp_all [isAtWord, isAt, Nesting.after]
  | statement =>
    rw [Goal.next, Move.ofStatement] at hnext
    split at hnext <;> cases hnext
  | giveValue | binary | list | operand | make => grind [Goal.next]

end ScriptStudio.Grammar
