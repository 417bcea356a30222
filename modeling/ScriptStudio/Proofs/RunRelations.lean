import ScriptStudio.Proofs.Steps

/-!
# Relations between runs

A relation between steps holds between whole runs if sequencing keeps it and the few actions that
touch the machine are related: reading and binding a variable, defining a function, speaking,
asking and marking a return. A vocabulary says which of these actions a program and its functions
can take, so that a relation only has to answer for those.

* `Vocabulary`, `Expr.Within`, `Stmt.Within`: what a program names, calls and asks.
* `Stop.isFromInput`, `Value.Inward`: the stops that only a question can meet.
* `ExprRules`, `StmtRules`: what a relation between steps owes to a vocabulary.
* `EvalsRelated`, `RunsRelated`: what is related with two amounts of fuel. `ExprRules.succ` and
  `StmtRules.succ` add a unit to both. How calls are related is left open there.
-/

namespace ScriptStudio

/-- What a program may name, call and do. -/
structure Vocabulary where
  mayName : String → Prop
  mayCall : String → Prop
  mayAsk : Prop

/-- Nothing is ruled out. -/
def Vocabulary.full : Vocabulary := ⟨fun _ => True, fun _ => True, True⟩

mutual

/-- The expression keeps to a vocabulary. -/
def Expr.Within (vocabulary : Vocabulary) : Expr → Prop
  | .literal _ _ => True
  | .reference name => vocabulary.mayName name
  | .binary left _ right => left.Within vocabulary ∧ right.Within vocabulary
  | .unary _ operand => operand.Within vocabulary
  | .group inner => inner.Within vocabulary
  | .input prompt => vocabulary.mayAsk ∧ prompt.Within vocabulary
  | .call name arguments => vocabulary.mayCall name ∧ Expr.AllWithin vocabulary arguments
  | .unknown _ => True

/-- All expressions keep to a vocabulary. -/
def Expr.AllWithin (vocabulary : Vocabulary) : List Expr → Prop
  | [] => True
  | e :: rest => e.Within vocabulary ∧ Expr.AllWithin vocabulary rest

end

/-- An expression that may be left out keeps to a vocabulary. -/
def Expr.OptionWithin (vocabulary : Vocabulary) : Option Expr → Prop
  | none => True
  | some e => e.Within vocabulary

mutual

/-- The statement keeps to a vocabulary, with all that is in it. -/
def Stmt.Within (vocabulary : Vocabulary) : Stmt → Prop
  | .say e => e.Within vocabulary
  | .assign name e => vocabulary.mayName name ∧ e.Within vocabulary
  | .block body => Stmt.AllWithin vocabulary body
  | .define _ parameters body =>
    (∀ parameter ∈ parameters, vocabulary.mayName parameter) ∧ body.Within vocabulary
  | .give e => Expr.OptionWithin vocabulary e
  | .branch condition thenBranch elseBranch =>
    condition.Within vocabulary ∧ thenBranch.Within vocabulary ∧
      Stmt.OptionWithin vocabulary elseBranch
  | .loop condition body => condition.Within vocabulary ∧ body.Within vocabulary
  | .count name start stop step body =>
    vocabulary.mayName name ∧ start.Within vocabulary ∧ stop.Within vocabulary ∧
      Expr.OptionWithin vocabulary step ∧ body.Within vocabulary
  | .unknown _ => True

/-- All statements keep to a vocabulary. -/
def Stmt.AllWithin (vocabulary : Vocabulary) : List Stmt → Prop
  | [] => True
  | s :: rest => s.Within vocabulary ∧ Stmt.AllWithin vocabulary rest

/-- A statement that may be left out keeps to a vocabulary. -/
def Stmt.OptionWithin (vocabulary : Vocabulary) : Option Stmt → Prop
  | none => True
  | some s => s.Within vocabulary

end

/-- A function keeps to a vocabulary. -/
def Function.Within (vocabulary : Vocabulary) (function : Function) : Prop :=
  (∀ parameter ∈ function.parameters, vocabulary.mayName parameter) ∧
    function.body.Within vocabulary

mutual

theorem Expr.within_full : (e : Expr) → e.Within .full
  | .literal _ _ => trivial
  | .reference _ => trivial
  | .binary left _ right => ⟨left.within_full, right.within_full⟩
  | .unary _ operand => operand.within_full
  | .group inner => inner.within_full
  | .input prompt => ⟨trivial, prompt.within_full⟩
  | .call _ arguments => ⟨trivial, Expr.allWithin_full arguments⟩
  | .unknown _ => trivial

theorem Expr.allWithin_full : (es : List Expr) → Expr.AllWithin .full es
  | [] => trivial
  | e :: rest => ⟨e.within_full, Expr.allWithin_full rest⟩

end

theorem Expr.optionWithin_full : (e : Option Expr) → Expr.OptionWithin .full e
  | none => trivial
  | some e => e.within_full

mutual

theorem Stmt.within_full : (s : Stmt) → s.Within .full
  | .say e => e.within_full
  | .assign _ e => ⟨trivial, e.within_full⟩
  | .block body => Stmt.allWithin_full body
  | .define _ _ body => ⟨fun _ _ => trivial, body.within_full⟩
  | .give e => Expr.optionWithin_full e
  | .branch condition thenBranch elseBranch =>
    ⟨condition.within_full, thenBranch.within_full, Stmt.optionWithin_full elseBranch⟩
  | .loop condition body => ⟨condition.within_full, body.within_full⟩
  | .count _ start stop step body =>
    ⟨trivial, start.within_full, stop.within_full, Expr.optionWithin_full step,
      body.within_full⟩
  | .unknown _ => trivial

theorem Stmt.allWithin_full : (statements : List Stmt) → Stmt.AllWithin .full statements
  | [] => trivial
  | s :: rest => ⟨s.within_full, Stmt.allWithin_full rest⟩

theorem Stmt.optionWithin_full : (s : Option Stmt) → Stmt.OptionWithin .full s
  | none => trivial
  | some s => s.within_full

end

theorem Function.within_full (function : Function) : function.Within .full :=
  ⟨fun _ _ => trivial, function.body.within_full⟩

/-- The input has ended or the user has broken off. -/
def Stop.isFromInput : Stop → Bool
  | .endOfInput => true
  | .interrupted => true
  | _ => false

/-! ## Operators do not touch the input -/

namespace Value

/-- A result that is no stop from the input. -/
def Inward {α : Type} (result : Except Stop α) : Prop :=
  ∀ stop, result = .error stop → stop.isFromInput = false

theorem Inward.ok {α : Type} (a : α) : Inward (.ok a) := by
  rintro stop ⟨⟩

theorem Inward.error {α : Type} {stop : Stop} (h : stop.isFromInput = false) :
    Inward (.error stop : Except Stop α) := by
  rintro _ ⟨⟩
  exact h

theorem Inward.bind {α β : Type} {result : Except Stop α} {next : α → Except Stop β}
    (hresult : Inward result) (hnext : ∀ a, Inward (next a)) : Inward (result >>= next) := by
  cases result with
  | ok a => exact hnext a
  | error stop => exact Inward.error (hresult stop rfl)

theorem Inward.mapNumber {α : Type} (result : Except NumberError α) :
    Inward (result.mapError Stop.number) := by
  cases result with
  | ok a => exact Inward.ok a
  | error error => exact Inward.error rfl

theorem Inward.ofResult (result : Except NumberError Number) : Inward (ofResult result) := by
  cases result with
  | ok x => exact Inward.ok _
  | error error => exact Inward.error rfl

theorem Inward.plus (left right : Value) : Inward (plus left right) := by
  unfold Value.plus
  split
  · exact Inward.ofResult _
  · exact (Inward.mapNumber _).bind fun _ => (Inward.mapNumber _).bind fun _ => Inward.ok _

theorem Inward.arithmetic (op : BinaryOp) (left right : Value) :
    Inward (arithmetic op left right) := by
  unfold Value.arithmetic
  split
  · split
    · exact Inward.ofResult _
    · exact Inward.ofResult _
    · split
      · exact Inward.error rfl
      · exact Inward.ofResult _
    · split
      · exact Inward.error rfl
      · exact Inward.ofResult _
    · exact Inward.ok _
  · exact (Inward.mapNumber _).bind fun _ => (Inward.mapNumber _).bind fun _ => Inward.error rfl

theorem Inward.comparison (op : BinaryOp) (left right : Value) :
    Inward (comparison op left right) := by
  unfold Value.comparison
  split
  · exact Inward.ok _
  · split
    · exact Inward.ok _
    · exact Inward.ok _
    · exact Inward.ok _
    · exact Inward.error rfl

theorem Inward.binary (op : BinaryOp) (left right : Value) : Inward (binary op left right) := by
  cases op with
  | and | or | other _ => exact Inward.ok _
  | plus => exact Inward.plus left right
  | minus | times | divide | modulo =>
    rw [Value.binary]
    exact Inward.arithmetic _ left right
  | equal | notEqual | less | greater | lessEqual | greaterEqual =>
    exact Inward.comparison _ left right

theorem Inward.unary (op : UnaryOp) (operand : Value) : Inward (unary op operand) := by
  unfold Value.unary
  split
  · exact Inward.ok _
  · split
    · exact (Inward.mapNumber _).bind fun _ => Inward.error rfl
    · split
      · exact Inward.ok _
      · exact Inward.ok _
      · exact Inward.error rfl

theorem Inward.said (value : Value) : Inward value.saidOrStop := Inward.mapNumber _

end Value

namespace Machine

open Value (Inward)

/-! ## Relations that answer for a vocabulary -/

/-- Sequencing keeps a relation between steps, and the actions of expressions are related. An
expression may name more than the functions that it calls. -/
structure ExprRules (outer vocabulary : Vocabulary)
    (Related : {α : Type} → Exec α → Exec α → Prop) : Prop where
  pure : ∀ {α : Type} (a : α), Related (pure a) (pure a)
  throw : ∀ {α : Type} {stop : Stop}, stop.isFromInput = false →
    Related (throw stop : Exec α) (throw stop)
  bind : ∀ {α β : Type} {step step' : Exec α} {next next' : α → Exec β}, Related step step' →
    (∀ a, Related (next a) (next' a)) → Related (step >>= next) (step' >>= next')
  lookup : ∀ name, outer.mayName name → Related (lookup name) (lookup name)
  ask : outer.mayAsk → ∀ prompt, Related (ask prompt) (ask prompt)
  assign : ∀ name value, vocabulary.mayName name →
    Related (assign name value) (assign name value)

/-- The actions of statements are related too. -/
structure StmtRules (vocabulary : Vocabulary) (Related : {α : Type} → Exec α → Exec α → Prop) :
    Prop extends ExprRules vocabulary vocabulary Related where
  define : ∀ function : Function, function.Within vocabulary →
    Related (define function) (define function)
  say : ∀ line, Related (say line) (say line)
  give : ∀ value,
    Related (modify fun machine => { machine with returning := true, returned := value })
      (modify fun machine => { machine with returning := true, returned := value })
  unlessReturning : ∀ {step step' : Exec Unit}, Related step step' →
    Related (do if (← get).returning then return () else step)
      (do if (← get).returning then return () else step')

/-- What is related in the evaluation of expressions with two amounts of fuel. -/
structure EvalsRelated (outer vocabulary : Vocabulary)
    (Related : {α : Type} → Exec α → Exec α → Prop) (fuel fuel' : Nat) : Prop where
  eval : ∀ e : Expr, e.Within outer → Related (eval fuel e) (eval fuel' e)
  call : ∀ name arguments, outer.mayCall name → Expr.AllWithin outer arguments →
    Related (call fuel name arguments) (call fuel' name arguments)
  bindArguments : ∀ parameters arguments,
    (∀ parameter ∈ parameters, vocabulary.mayName parameter) → Expr.AllWithin outer arguments →
      Related (bindArguments fuel parameters arguments) (bindArguments fuel' parameters arguments)

/-- What is related in whole runs with two amounts of fuel. -/
structure RunsRelated (vocabulary : Vocabulary) (Related : {α : Type} → Exec α → Exec α → Prop)
    (fuel fuel' : Nat) : Prop extends EvalsRelated vocabulary vocabulary Related fuel fuel' where
  exec : ∀ s : Stmt, s.Within vocabulary → Related (exec fuel s) (exec fuel' s)
  execBlock : ∀ statements, Stmt.AllWithin vocabulary statements →
    Related (execBlock fuel statements) (execBlock fuel' statements)
  execLoop : ∀ condition body, condition.Within vocabulary → body.Within vocabulary →
    Related (execLoop fuel condition body) (execLoop fuel' condition body)
  execCount : ∀ (count : Count) body current, vocabulary.mayName count.name →
    body.Within vocabulary →
      Related (execCount fuel count body current) (execCount fuel' count body current)

variable {outer vocabulary : Vocabulary} {Related : {α : Type} → Exec α → Exec α → Prop}
  {fuel fuel' : Nat}

theorem ExprRules.lift (hrules : ExprRules outer vocabulary Related) {α : Type}
    {result : Except Stop α} (hresult : Inward result) :
    Related (lift result) (lift result) := by
  cases result with
  | ok a => exact hrules.pure a
  | error stop => exact hrules.throw (hresult stop rfl)

theorem ite_related {α : Type} {condition : Prop} [Decidable condition]
    {step step' other other' : Exec α} (hstep : Related step step')
    (hother : Related other other') :
    Related (if condition then step else other) (if condition then step' else other') := by
  split
  · exact hstep
  · exact hother

theorem EvalsRelated.evalOption (hevals : EvalsRelated outer vocabulary Related fuel fuel')
    (hrules : ExprRules outer vocabulary Related) (absent : Value) (e : Option Expr)
    (he : Expr.OptionWithin outer e) :
    Related (evalOption fuel absent e) (evalOption fuel' absent e) := by
  cases e with
  | none => exact hrules.pure absent
  | some e => exact hevals.eval e he

/-! ## No fuel -/

theorem ExprRules.zero (hrules : ExprRules outer vocabulary Related) :
    EvalsRelated outer vocabulary Related 0 0 where
  eval _ _ := hrules.throw rfl
  call _ _ _ _ := hrules.throw rfl
  bindArguments _ _ _ _ := hrules.throw rfl

theorem StmtRules.zero (hrules : StmtRules vocabulary Related) :
    RunsRelated vocabulary Related 0 0 where
  toEvalsRelated := hrules.toExprRules.zero
  exec _ _ := hrules.throw rfl
  execBlock _ _ := hrules.throw rfl
  execLoop _ _ _ _ := hrules.throw rfl
  execCount _ _ _ _ _ := hrules.throw rfl

/-! ## One more unit of fuel -/

section Expressions

variable (hrules : ExprRules outer vocabulary Related)
  (hevals : EvalsRelated outer vocabulary Related fuel fuel')

include hrules hevals

theorem ExprRules.eval_succ (e : Expr) (he : e.Within outer) :
    Related (eval (fuel + 1) e) (eval (fuel' + 1) e) := by
  cases e with
  | literal kind value => exact hrules.pure value
  | reference name => exact hrules.lookup name he
  | binary left op right =>
    exact hrules.bind (hevals.eval left he.1) fun _ => hrules.bind (hevals.eval right he.2)
      fun _ => hrules.lift (Inward.binary _ _ _)
  | unary op operand =>
    exact hrules.bind (hevals.eval operand he) fun _ => hrules.lift (Inward.unary _ _)
  | group inner => exact hevals.eval inner he
  | input prompt =>
    exact hrules.bind (hevals.eval prompt he.2) fun _ =>
      hrules.bind (hrules.lift (Inward.said _)) fun text => hrules.ask he.1 text
  | call name arguments => exact hevals.call name arguments he.1 he.2
  | unknown node => exact hrules.throw rfl

theorem ExprRules.bindArguments_succ (parameters : List String) (arguments : List Expr)
    (hparameters : ∀ parameter ∈ parameters, vocabulary.mayName parameter)
    (harguments : Expr.AllWithin outer arguments) :
    Related (bindArguments (fuel + 1) parameters arguments)
      (bindArguments (fuel' + 1) parameters arguments) := by
  cases parameters with
  | nil => exact hrules.pure ()
  | cons parameter parameters =>
    rw [List.forall_mem_cons] at hparameters
    cases arguments with
    | nil => exact hrules.pure ()
    | cons argument arguments =>
      exact hrules.bind (hevals.eval argument harguments.1) fun value =>
        hrules.bind (hrules.assign parameter value hparameters.1) fun _ =>
          hevals.bindArguments _ _ hparameters.2 harguments.2

theorem ExprRules.succ
    (hcall : ∀ name arguments, outer.mayCall name → Expr.AllWithin outer arguments →
      Related (call (fuel + 1) name arguments) (call (fuel' + 1) name arguments)) :
    EvalsRelated outer vocabulary Related (fuel + 1) (fuel' + 1) where
  eval := hrules.eval_succ hevals
  call := hcall
  bindArguments := hrules.bindArguments_succ hevals

end Expressions

section Statements

variable (hrules : StmtRules vocabulary Related) (hruns : RunsRelated vocabulary Related fuel fuel')

include hrules hruns

theorem StmtRules.countLoop {name : String} {body : Stmt} (hname : vocabulary.mayName name)
    (hbody : body.Within vocabulary) (start stop step : Value) :
    Related (countLoop fuel name body start stop step)
      (countLoop fuel' name body start stop step) := by
  unfold Machine.countLoop
  split
  · exact hrules.bind (hrules.assign name _ hname) fun _ =>
      ite_related (hruns.execCount _ body _ hname hbody) (hrules.throw rfl)
  · exact hrules.throw rfl

theorem StmtRules.exec_succ (s : Stmt) (hs : s.Within vocabulary) :
    Related (exec (fuel + 1) s) (exec (fuel' + 1) s) := by
  cases s with
  | say e =>
    exact hrules.bind (hruns.eval e hs) fun _ =>
      hrules.bind (hrules.lift (Inward.said _)) fun line => hrules.say line
  | assign name e =>
    exact hrules.bind (hruns.eval e hs.2) fun value => hrules.assign name value hs.1
  | block body => exact hruns.execBlock body hs
  | define name parameters body => exact hrules.define _ hs
  | give e =>
    rw [exec_give, exec_give]
    exact hrules.bind (hruns.evalOption hrules.toExprRules _ e hs) hrules.give
  | branch condition thenBranch elseBranch =>
    refine hrules.bind (hruns.eval condition hs.1) fun _ => ?_
    refine ite_related (hruns.exec thenBranch hs.2.1) ?_
    cases elseBranch with
    | none => exact hrules.pure ()
    | some elseBranch => exact hruns.exec elseBranch hs.2.2
  | loop condition body => exact hruns.execLoop condition body hs.1 hs.2
  | count name start stop step body =>
    obtain ⟨hname, hstart, hstop, hstep, hbody⟩ := hs
    rw [exec_count, exec_count]
    exact hrules.bind (hruns.eval start hstart) fun _ => hrules.bind (hruns.eval stop hstop)
      fun _ => hrules.bind (hruns.evalOption hrules.toExprRules _ step hstep) fun _ =>
        hrules.countLoop hruns hname hbody _ _ _
  | unknown node => exact hrules.throw rfl

theorem StmtRules.succ
    (hcall : ∀ name arguments, vocabulary.mayCall name → Expr.AllWithin vocabulary arguments →
      Related (call (fuel + 1) name arguments) (call (fuel' + 1) name arguments)) :
    RunsRelated vocabulary Related (fuel + 1) (fuel' + 1) where
  toEvalsRelated := hrules.toExprRules.succ hruns.toEvalsRelated hcall
  exec := hrules.exec_succ hruns
  execBlock statements hstatements := by
    cases statements with
    | nil => exact hrules.pure ()
    | cons statement rest =>
      exact hrules.unlessReturning (hrules.bind (hruns.exec statement hstatements.1) fun _ =>
        hruns.execBlock rest hstatements.2)
  execLoop condition body hcondition hbody :=
    hrules.bind (hruns.eval condition hcondition) fun _ => ite_related
      (hrules.bind (hruns.exec body hbody) fun _ => hruns.execLoop _ _ hcondition hbody)
      (hrules.pure ())
  execCount count body current hname hbody :=
    ite_related
      (hrules.bind (hruns.exec body hbody) fun _ =>
        hrules.bind (hrules.lift (Inward.mapNumber _)) fun _ =>
          hrules.bind (hrules.assign _ _ hname) fun _ => hruns.execCount _ _ _ hname hbody)
      (hrules.pure ())

end Statements

end Machine

end ScriptStudio
