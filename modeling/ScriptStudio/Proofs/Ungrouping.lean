import Mathlib.Algebra.GroupWithZero.Nat
import Mathlib.Algebra.Order.BigOperators.Group.List
import Mathlib.Algebra.Order.Group.Nat
import ScriptStudio.Program.Basic

/-!
# Programs without parentheses

Taking the parentheses out of a program, counting them, and comparing programs that differ in
nothing else.

* `Expr.ungroup`, `Stmt.ungroup`, `Program.ungroup`: the program without parentheses.
* `Expr.groups`, `Stmt.groups`, `Program.groups`: how many it has.
* `SameBare`: pieces of programs that are the same without parentheses.
* `Expr.Parallel`, `Stmt.Parallel`: such pieces have the same form, apart from parentheses around
  them.
-/

namespace ScriptStudio

/-! ## Programs without parentheses -/

mutual

/-- The expression without its parentheses. A node that is no expression is never looked into and
stays as it is. -/
def Expr.ungroup : Expr → Expr
  | .literal kind value => .literal kind value
  | .reference name => .reference name
  | .binary left op right => .binary left.ungroup op right.ungroup
  | .unary op operand => .unary op operand.ungroup
  | .group inner => inner.ungroup
  | .input prompt => .input prompt.ungroup
  | .call name arguments => .call name (Expr.ungroupAll arguments)
  | .unknown node => .unknown node

/-- Several expressions without their parentheses. -/
def Expr.ungroupAll : List Expr → List Expr
  | [] => []
  | e :: rest => e.ungroup :: Expr.ungroupAll rest

end

mutual

/-- The statement without the parentheses of its expressions. -/
def Stmt.ungroup : Stmt → Stmt
  | .say e => .say e.ungroup
  | .assign name e => .assign name e.ungroup
  | .block body => .block (Stmt.ungroupAll body)
  | .define name parameters body => .define name parameters body.ungroup
  | .give e => .give (e.map Expr.ungroup)
  | .branch condition thenBranch elseBranch =>
    .branch condition.ungroup thenBranch.ungroup (Stmt.ungroupOption elseBranch)
  | .loop condition body => .loop condition.ungroup body.ungroup
  | .count name start stop step body =>
    .count name start.ungroup stop.ungroup (step.map Expr.ungroup) body.ungroup
  | .unknown node => .unknown node

/-- Several statements without parentheses. -/
def Stmt.ungroupAll : List Stmt → List Stmt
  | [] => []
  | s :: rest => s.ungroup :: Stmt.ungroupAll rest

/-- A statement that may be left out, without parentheses. -/
def Stmt.ungroupOption : Option Stmt → Option Stmt
  | none => none
  | some s => some s.ungroup

end

mutual

/-- How many parentheses an expression has. -/
def Expr.groups : Expr → Nat
  | .literal _ _ => 0
  | .reference _ => 0
  | .binary left _ right => left.groups + right.groups
  | .unary _ operand => operand.groups
  | .group inner => inner.groups + 1
  | .input prompt => prompt.groups
  | .call _ arguments => Expr.groupsAll arguments
  | .unknown _ => 0

/-- How many parentheses several expressions have. -/
def Expr.groupsAll : List Expr → Nat
  | [] => 0
  | e :: rest => e.groups + Expr.groupsAll rest

end

/-- How many parentheses an expression has that may be left out. -/
def Expr.groupsOption : Option Expr → Nat
  | none => 0
  | some e => e.groups

mutual

/-- How many parentheses a statement has. -/
def Stmt.groups : Stmt → Nat
  | .say e => e.groups
  | .assign _ e => e.groups
  | .block body => Stmt.groupsAll body
  | .define _ _ body => body.groups
  | .give e => Expr.groupsOption e
  | .branch condition thenBranch elseBranch =>
    condition.groups + thenBranch.groups + Stmt.groupsOption elseBranch
  | .loop condition body => condition.groups + body.groups
  | .count _ start stop step body =>
    start.groups + stop.groups + Expr.groupsOption step + body.groups
  | .unknown _ => 0

/-- How many parentheses several statements have. -/
def Stmt.groupsAll : List Stmt → Nat
  | [] => 0
  | s :: rest => s.groups + Stmt.groupsAll rest

/-- How many parentheses a statement has that may be left out. -/
def Stmt.groupsOption : Option Stmt → Nat
  | none => 0
  | some s => s.groups

end

theorem Expr.ungroupAll_eq_map (es : List Expr) : Expr.ungroupAll es = es.map Expr.ungroup := by
  induction es with
  | nil => rfl
  | cons e rest ih => rw [Expr.ungroupAll, ih, List.map_cons]

theorem Expr.groupsAll_eq_sum (es : List Expr) :
    Expr.groupsAll es = (es.map Expr.groups).sum := by
  induction es with
  | nil => rfl
  | cons e rest ih => rw [Expr.groupsAll, ih, List.map_cons, List.sum_cons]

theorem Expr.groupsOption_eq_getD (e : Option Expr) :
    Expr.groupsOption e = (e.map Expr.groups).getD 0 := by
  cases e <;> rfl

theorem Stmt.ungroupAll_eq_map (statements : List Stmt) :
    Stmt.ungroupAll statements = statements.map Stmt.ungroup := by
  induction statements with
  | nil => rfl
  | cons s rest ih => rw [Stmt.ungroupAll, ih, List.map_cons]

theorem Stmt.groupsAll_eq_sum (statements : List Stmt) :
    Stmt.groupsAll statements = (statements.map Stmt.groups).sum := by
  induction statements with
  | nil => rfl
  | cons s rest ih => rw [Stmt.groupsAll, ih, List.map_cons, List.sum_cons]

theorem Stmt.ungroupOption_eq_map (s : Option Stmt) :
    Stmt.ungroupOption s = s.map Stmt.ungroup := by
  cases s <;> rfl

theorem Stmt.groupsOption_eq_getD (s : Option Stmt) :
    Stmt.groupsOption s = (s.map Stmt.groups).getD 0 := by
  cases s <;> rfl

mutual

theorem Expr.groups_ungroup (e : Expr) : e.ungroup.groups = 0 := by
  cases e with
  | literal | reference | unknown => rfl
  | binary left op right =>
    rw [Expr.ungroup, Expr.groups, left.groups_ungroup, right.groups_ungroup]
  | unary op operand => exact operand.groups_ungroup
  | group inner => exact inner.groups_ungroup
  | input prompt => exact prompt.groups_ungroup
  | call name arguments => exact Expr.groupsAll_ungroupAll arguments

theorem Expr.groupsAll_ungroupAll (es : List Expr) :
    Expr.groupsAll (Expr.ungroupAll es) = 0 := by
  cases es with
  | nil => rfl
  | cons e rest =>
    rw [Expr.ungroupAll, Expr.groupsAll, e.groups_ungroup, Expr.groupsAll_ungroupAll rest]

end

theorem Expr.groupsOption_map_ungroup (e : Option Expr) :
    Expr.groupsOption (e.map Expr.ungroup) = 0 := by
  cases e with
  | none => rfl
  | some e => exact e.groups_ungroup

mutual

theorem Stmt.groups_ungroup (s : Stmt) : s.ungroup.groups = 0 := by
  cases s with
  | say e => exact e.groups_ungroup
  | assign name e => exact e.groups_ungroup
  | block body => exact Stmt.groupsAll_ungroupAll body
  | define name parameters body => exact body.groups_ungroup
  | give e => exact Expr.groupsOption_map_ungroup e
  | branch condition thenBranch elseBranch =>
    rw [Stmt.ungroup, Stmt.groups, condition.groups_ungroup, thenBranch.groups_ungroup,
      Stmt.groupsOption_ungroupOption elseBranch]
  | loop condition body =>
    rw [Stmt.ungroup, Stmt.groups, condition.groups_ungroup, body.groups_ungroup]
  | count name start stop step body =>
    rw [Stmt.ungroup, Stmt.groups, start.groups_ungroup, stop.groups_ungroup,
      Expr.groupsOption_map_ungroup, body.groups_ungroup]
  | unknown => rfl

theorem Stmt.groupsAll_ungroupAll (statements : List Stmt) :
    Stmt.groupsAll (Stmt.ungroupAll statements) = 0 := by
  cases statements with
  | nil => rfl
  | cons s rest =>
    rw [Stmt.ungroupAll, Stmt.groupsAll, s.groups_ungroup, Stmt.groupsAll_ungroupAll rest]

theorem Stmt.groupsOption_ungroupOption (s : Option Stmt) :
    Stmt.groupsOption (Stmt.ungroupOption s) = 0 := by
  cases s with
  | none => rfl
  | some s => exact s.groups_ungroup

end

mutual

theorem Expr.ungroup_of_groups {e : Expr} (h : e.groups = 0) : e.ungroup = e := by
  cases e with
  | literal | reference | unknown => rfl
  | binary left op right =>
    obtain ⟨hleft, hright⟩ := Nat.add_eq_zero_iff.mp h
    rw [Expr.ungroup, Expr.ungroup_of_groups hleft, Expr.ungroup_of_groups hright]
  | unary op operand => exact congrArg (Expr.unary op) (Expr.ungroup_of_groups h)
  | group inner => cases h
  | input prompt => exact congrArg Expr.input (Expr.ungroup_of_groups h)
  | call name arguments => exact congrArg (Expr.call name) (Expr.ungroupAll_of_groupsAll h)

theorem Expr.ungroupAll_of_groupsAll {es : List Expr} (h : Expr.groupsAll es = 0) :
    Expr.ungroupAll es = es := by
  cases es with
  | nil => rfl
  | cons e rest =>
    obtain ⟨he, hrest⟩ := Nat.add_eq_zero_iff.mp h
    rw [Expr.ungroupAll, Expr.ungroup_of_groups he, Expr.ungroupAll_of_groupsAll hrest]

end

theorem Expr.map_ungroup_of_groupsOption {e : Option Expr} (h : Expr.groupsOption e = 0) :
    e.map Expr.ungroup = e := by
  cases e with
  | none => rfl
  | some e => exact congrArg some (Expr.ungroup_of_groups h)

mutual

theorem Stmt.ungroup_of_groups {s : Stmt} (h : s.groups = 0) : s.ungroup = s := by
  cases s with
  | say e => exact congrArg Stmt.say (Expr.ungroup_of_groups h)
  | assign name e => exact congrArg (Stmt.assign name) (Expr.ungroup_of_groups h)
  | block body => exact congrArg Stmt.block (Stmt.ungroupAll_of_groupsAll h)
  | define name parameters body =>
    exact congrArg (Stmt.define name parameters) (Stmt.ungroup_of_groups h)
  | give e => exact congrArg Stmt.give (Expr.map_ungroup_of_groupsOption h)
  | branch condition thenBranch elseBranch =>
    simp only [Stmt.groups, Nat.add_eq_zero_iff] at h
    rw [Stmt.ungroup, Expr.ungroup_of_groups h.1.1, Stmt.ungroup_of_groups h.1.2,
      Stmt.ungroupOption_of_groupsOption h.2]
  | loop condition body =>
    obtain ⟨hcondition, hbody⟩ := Nat.add_eq_zero_iff.mp h
    rw [Stmt.ungroup, Expr.ungroup_of_groups hcondition, Stmt.ungroup_of_groups hbody]
  | count name start stop step body =>
    simp only [Stmt.groups, Nat.add_eq_zero_iff] at h
    rw [Stmt.ungroup, Expr.ungroup_of_groups h.1.1.1, Expr.ungroup_of_groups h.1.1.2,
      Expr.map_ungroup_of_groupsOption h.1.2, Stmt.ungroup_of_groups h.2]
  | unknown => rfl

theorem Stmt.ungroupAll_of_groupsAll {statements : List Stmt}
    (h : Stmt.groupsAll statements = 0) : Stmt.ungroupAll statements = statements := by
  cases statements with
  | nil => rfl
  | cons s rest =>
    obtain ⟨hs, hrest⟩ := Nat.add_eq_zero_iff.mp h
    rw [Stmt.ungroupAll, Stmt.ungroup_of_groups hs, Stmt.ungroupAll_of_groupsAll hrest]

theorem Stmt.ungroupOption_of_groupsOption {s : Option Stmt} (h : Stmt.groupsOption s = 0) :
    Stmt.ungroupOption s = s := by
  cases s with
  | none => rfl
  | some s => exact congrArg some (Stmt.ungroup_of_groups h)

end

/-! ## Programs that differ in parentheses -/

/-- Two pieces of a program are the same without parentheses. Each of them has at most so many. -/
structure SameBare {α : Type} (ungroup : α → α) (groups : α → Nat) (limit limit' : Nat)
    (piece piece' : α) : Prop where
  same : ungroup piece' = ungroup piece
  groups_le : groups piece ≤ limit
  groups_le' : groups piece' ≤ limit'

/-- `SameBare` of expressions. -/
abbrev Expr.SameBare : Nat → Nat → Expr → Expr → Prop :=
  ScriptStudio.SameBare Expr.ungroup Expr.groups

/-- `SameBare` of statements. -/
abbrev Stmt.SameBare : Nat → Nat → Stmt → Stmt → Prop :=
  ScriptStudio.SameBare Stmt.ungroup Stmt.groups

section

variable {limit limit' : Nat}

theorem SameBare.symm {α : Type} {ungroup : α → α} {groups : α → Nat} {piece piece' : α}
    (h : SameBare ungroup groups limit limit' piece piece') :
    SameBare ungroup groups limit' limit piece' piece :=
  ⟨h.same.symm, h.groups_le', h.groups_le⟩

variable {s : Stmt}

theorem Stmt.sameBare_ungroup (h : s.groups ≤ limit) : Stmt.SameBare limit 0 s s.ungroup :=
  ⟨Stmt.ungroup_of_groups s.groups_ungroup, h, s.groups_ungroup.le⟩

theorem Stmt.SameBare.eq_ungroup {s' : Stmt} (h : Stmt.SameBare limit 0 s s') : s' = s.ungroup := by
  rw [← h.same, Stmt.ungroup_of_groups (Nat.le_zero.mp h.groups_le')]

theorem forall₂_sameBare {α : Type} {ungroup : α → α} {groups : α → Nat} {pieces pieces' : List α}
    (hsame : pieces'.map ungroup = pieces.map ungroup) (hle : (pieces.map groups).sum ≤ limit)
    (hle' : (pieces'.map groups).sum ≤ limit') :
    List.Forall₂ (SameBare ungroup groups limit limit') pieces pieces' := by
  induction pieces generalizing pieces' with
  | nil =>
    obtain rfl := List.map_eq_nil_iff.mp hsame
    exact .nil
  | cons piece rest ih =>
    obtain ⟨piece', rest', rfl, hpiece, hrest⟩ := List.map_eq_cons_iff.mp hsame
    rw [List.map_cons, List.sum_cons] at hle hle'
    exact .cons ⟨hpiece, by omega, by omega⟩ (ih hrest (by omega) (by omega))

theorem optionRel_sameBare {α : Type} {ungroup : α → α} {groups : α → Nat}
    {piece piece' : Option α} (hsame : piece'.map ungroup = piece.map ungroup)
    (hle : (piece.map groups).getD 0 ≤ limit) (hle' : (piece'.map groups).getD 0 ≤ limit') :
    Option.Rel (SameBare ungroup groups limit limit') piece piece' := by
  cases piece with
  | none =>
    obtain rfl := Option.map_eq_none_iff.mp hsame
    exact .none
  | some piece =>
    obtain ⟨piece', rfl, hpiece⟩ := Option.map_eq_some_iff.mp hsame
    exact .some ⟨hpiece, hle, hle'⟩

/-- Expressions that are the same without parentheses, and have none around them, have the same form
and parts that are the same without parentheses. -/
inductive Expr.Parallel (limit limit' : Nat) : Expr → Expr → Prop
  | literal (kind : LiteralKind) (value : Value) :
    Parallel limit limit' (.literal kind value) (.literal kind value)
  | reference (name : String) : Parallel limit limit' (.reference name) (.reference name)
  | binary {left left' right right' : Expr} (op : BinaryOp)
    (hleft : Expr.SameBare limit limit' left left')
    (hright : Expr.SameBare limit limit' right right') :
    Parallel limit limit' (.binary left op right) (.binary left' op right')
  | unary {operand operand' : Expr} (op : UnaryOp)
    (hoperand : Expr.SameBare limit limit' operand operand') :
    Parallel limit limit' (.unary op operand) (.unary op operand')
  | input {prompt prompt' : Expr} (hprompt : Expr.SameBare limit limit' prompt prompt') :
    Parallel limit limit' (.input prompt) (.input prompt')
  | call {arguments arguments' : List Expr} (name : String)
    (harguments : List.Forall₂ (Expr.SameBare limit limit') arguments arguments') :
    Parallel limit limit' (.call name arguments) (.call name arguments')
  | unknown (node : Node) : Parallel limit limit' (.unknown node) (.unknown node)

theorem Expr.SameBare.parallel {e e' : Expr} (h : Expr.SameBare limit limit' e e')
    (he : ∀ inner, e ≠ .group inner) (he' : ∀ inner, e' ≠ .group inner) :
    Expr.Parallel limit limit' e e' := by
  obtain ⟨hsame, hle, hle'⟩ := h
  cases e with
  | literal kind value =>
    cases e' with
    | literal => cases hsame; exact .literal kind value
    | group inner => exact absurd rfl (he' inner)
    | _ => cases hsame
  | reference name =>
    cases e' with
    | reference => cases hsame; exact .reference name
    | group inner => exact absurd rfl (he' inner)
    | _ => cases hsame
  | binary left op right =>
    cases e' with
    | binary left' op' right' =>
      obtain ⟨hleft, rfl, hright⟩ := Expr.binary.inj hsame
      rw [Expr.groups] at hle hle'
      exact .binary _ ⟨hleft, by omega, by omega⟩ ⟨hright, by omega, by omega⟩
    | group inner => exact absurd rfl (he' inner)
    | _ => cases hsame
  | unary op operand =>
    cases e' with
    | unary op' operand' =>
      obtain ⟨rfl, hoperand⟩ := Expr.unary.inj hsame
      exact .unary _ ⟨hoperand, hle, hle'⟩
    | group inner => exact absurd rfl (he' inner)
    | _ => cases hsame
  | group inner => exact absurd rfl (he inner)
  | input prompt =>
    cases e' with
    | input prompt' => exact .input ⟨Expr.input.inj hsame, hle, hle'⟩
    | group inner => exact absurd rfl (he' inner)
    | _ => cases hsame
  | call name arguments =>
    cases e' with
    | call name' arguments' =>
      obtain ⟨rfl, harguments⟩ := Expr.call.inj hsame
      rw [Expr.groups, Expr.groupsAll_eq_sum] at hle hle'
      rw [Expr.ungroupAll_eq_map, Expr.ungroupAll_eq_map] at harguments
      exact .call _ (forall₂_sameBare harguments hle hle')
    | group inner => exact absurd rfl (he' inner)
    | _ => cases hsame
  | unknown node =>
    cases e' with
    | unknown => cases hsame; exact .unknown node
    | group inner => exact absurd rfl (he' inner)
    | _ => cases hsame

/-- Statements that are the same without parentheses have the same form and parts that are the same
without parentheses. -/
inductive Stmt.Parallel (limit limit' : Nat) : Stmt → Stmt → Prop
  | say {e e' : Expr} (he : Expr.SameBare limit limit' e e') :
    Parallel limit limit' (.say e) (.say e')
  | assign {e e' : Expr} (name : String) (he : Expr.SameBare limit limit' e e') :
    Parallel limit limit' (.assign name e) (.assign name e')
  | block {body body' : List Stmt} (hbody : List.Forall₂ (Stmt.SameBare limit limit') body body') :
    Parallel limit limit' (.block body) (.block body')
  | define {body body' : Stmt} (name : String) (parameters : List String)
    (hbody : Stmt.SameBare limit limit' body body') :
    Parallel limit limit' (.define name parameters body) (.define name parameters body')
  | give {e e' : Option Expr} (he : Option.Rel (Expr.SameBare limit limit') e e') :
    Parallel limit limit' (.give e) (.give e')
  | branch {condition condition' : Expr} {thenBranch thenBranch' : Stmt}
    {elseBranch elseBranch' : Option Stmt}
    (hcondition : Expr.SameBare limit limit' condition condition')
    (hthen : Stmt.SameBare limit limit' thenBranch thenBranch')
    (helse : Option.Rel (Stmt.SameBare limit limit') elseBranch elseBranch') :
    Parallel limit limit' (.branch condition thenBranch elseBranch)
      (.branch condition' thenBranch' elseBranch')
  | loop {condition condition' : Expr} {body body' : Stmt}
    (hcondition : Expr.SameBare limit limit' condition condition')
    (hbody : Stmt.SameBare limit limit' body body') :
    Parallel limit limit' (.loop condition body) (.loop condition' body')
  | count {start start' stop stop' : Expr} {step step' : Option Expr} {body body' : Stmt}
    (name : String) (hstart : Expr.SameBare limit limit' start start')
    (hstop : Expr.SameBare limit limit' stop stop')
    (hstep : Option.Rel (Expr.SameBare limit limit') step step')
    (hbody : Stmt.SameBare limit limit' body body') :
    Parallel limit limit' (.count name start stop step body) (.count name start' stop' step' body')
  | unknown (node : Node) : Parallel limit limit' (.unknown node) (.unknown node)

theorem Stmt.SameBare.parallel {s' : Stmt} (h : Stmt.SameBare limit limit' s s') :
    Stmt.Parallel limit limit' s s' := by
  obtain ⟨hsame, hle, hle'⟩ := h
  cases s with
  | say e =>
    cases s' with
    | say e' => exact .say ⟨Stmt.say.inj hsame, hle, hle'⟩
    | _ => cases hsame
  | assign name e =>
    cases s' with
    | assign name' e' =>
      obtain ⟨rfl, he⟩ := Stmt.assign.inj hsame
      exact .assign _ ⟨he, hle, hle'⟩
    | _ => cases hsame
  | block body =>
    cases s' with
    | block body' =>
      have hbody := Stmt.block.inj hsame
      rw [Stmt.ungroupAll_eq_map, Stmt.ungroupAll_eq_map] at hbody
      rw [Stmt.groups, Stmt.groupsAll_eq_sum] at hle hle'
      exact .block (forall₂_sameBare hbody hle hle')
    | _ => cases hsame
  | define name parameters body =>
    cases s' with
    | define name' parameters' body' =>
      obtain ⟨rfl, rfl, hbody⟩ := Stmt.define.inj hsame
      exact .define _ _ ⟨hbody, hle, hle'⟩
    | _ => cases hsame
  | give e =>
    cases s' with
    | give e' =>
      rw [Stmt.groups, Expr.groupsOption_eq_getD] at hle hle'
      exact .give (optionRel_sameBare (Stmt.give.inj hsame) hle hle')
    | _ => cases hsame
  | branch condition thenBranch elseBranch =>
    cases s' with
    | branch condition' thenBranch' elseBranch' =>
      obtain ⟨hcondition, hthen, helse⟩ := Stmt.branch.inj hsame
      rw [Stmt.ungroupOption_eq_map, Stmt.ungroupOption_eq_map] at helse
      rw [Stmt.groups, Stmt.groupsOption_eq_getD] at hle hle'
      exact .branch ⟨hcondition, by omega, by omega⟩ ⟨hthen, by omega, by omega⟩
        (optionRel_sameBare helse (by omega) (by omega))
    | _ => cases hsame
  | loop condition body =>
    cases s' with
    | loop condition' body' =>
      obtain ⟨hcondition, hbody⟩ := Stmt.loop.inj hsame
      rw [Stmt.groups] at hle hle'
      exact .loop ⟨hcondition, by omega, by omega⟩ ⟨hbody, by omega, by omega⟩
    | _ => cases hsame
  | count name start stop step body =>
    cases s' with
    | count name' start' stop' step' body' =>
      obtain ⟨rfl, hstart, hstop, hstep, hbody⟩ := Stmt.count.inj hsame
      rw [Stmt.groups, Expr.groupsOption_eq_getD] at hle hle'
      exact .count _ ⟨hstart, by omega, by omega⟩ ⟨hstop, by omega, by omega⟩
        (optionRel_sameBare hstep (by omega) (by omega)) ⟨hbody, by omega, by omega⟩
    | _ => cases hsame
  | unknown node =>
    cases s' with
    | unknown => cases hsame; exact .unknown node
    | _ => cases hsame

end

/-! ## Programs -/

/-- The program without its parentheses. -/
def Program.ungroup (program : Program) : Program := ⟨Stmt.ungroupAll program.statements⟩

/-- How many parentheses a program has. -/
def Program.groups (program : Program) : Nat := Stmt.groupsAll program.statements

theorem Program.forall₂_ungroup (program : Program) {limit : Nat} (h : program.groups ≤ limit) :
    List.Forall₂ (Stmt.SameBare limit 0) program.statements program.ungroup.statements := by
  show List.Forall₂ _ program.statements (Stmt.ungroupAll program.statements)
  rw [Stmt.ungroupAll_eq_map, List.forall₂_map_right_iff, List.forall₂_same]
  intro s hs
  have hle : s.groups ≤ program.groups := by
    rw [Program.groups, Stmt.groupsAll_eq_sum]
    exact List.le_sum_of_mem (List.mem_map_of_mem hs)
  exact Stmt.sameBare_ungroup (hle.trans h)

end ScriptStudio
