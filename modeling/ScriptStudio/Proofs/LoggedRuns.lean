import ScriptStudio.Proofs.Steps

/-!
# Runs with a log

A logged run is a run that also writes down some of what it does. A recorder says which steps leave
an entry, and what is left of the entries of a call once the call is over. What is written down has
no influence on the run.

* `Log`: steps of the machine with entries of any type, one after the other.
* `Recorder`: what is written down.
* `logEval`, `logExec`: the evaluator with a log. Returns are written down with the number of loops
  around them.
* `logsNothingElse`: a log changes nothing.
-/

namespace ScriptStudio

namespace Machine

/-- How a logged run ended, and what it has written down. -/
structure Logged (ε α : Type) where
  entries : List ε
  result : EStateM.Result Stop Machine α

/-- A step of the machine that keeps a log. -/
def Log (ε α : Type) : Type := Machine → Logged ε α

namespace Log

variable {ε α β : Type}

/-- The step without its log. -/
def result (run : Log ε α) : Exec α := fun machine => (run machine).result

/-- What the step writes down. -/
def entries (run : Log ε α) (machine : Machine) : List ε := (run machine).entries

/-- A step that writes nothing down. -/
def act (step : Exec α) : Log ε α := fun machine => ⟨[], step machine⟩

/-- Writes entries down. -/
def note (entries : List ε) : Log ε Unit := fun machine => ⟨entries, .ok () machine⟩

/-- A step and what comes after it if it ends with a value. -/
def andThen (run : Log ε α) (next : α → Log ε β) : Log ε β := fun machine =>
  match (run machine).result with
  | .ok a after => ⟨run.entries machine ++ (next a).entries after, (next a).result after⟩
  | .error stop after => ⟨run.entries machine, .error stop after⟩

/-- One after the other: the second appends to what the first has logged. -/
instance : Monad (Log ε) where
  pure a := act (pure a)
  bind := andThen

@[simp]
theorem result_pure (a : α) : (pure a : Log ε α).result = pure a := rfl

@[simp]
theorem result_act (step : Exec α) : (act step : Log ε α).result = step := rfl

@[simp]
theorem result_note (entries : List ε) : (note entries).result = pure () := rfl

@[simp]
theorem result_bind (run : Log ε α) (next : α → Log ε β) :
    (run >>= next).result = run.result >>= fun a => (next a).result := by
  funext machine
  show (andThen run next machine).result = EStateM.bind run.result _ machine
  unfold andThen EStateM.bind result
  cases (run machine).result <;> rfl

theorem entries_bind_of_ok {run : Log ε α} {machine after : Machine} {a : α}
    (h : run.result machine = .ok a after) (next : α → Log ε β) :
    (run >>= next).entries machine = run.entries machine ++ (next a).entries after := by
  show (andThen run next machine).entries = _
  have hresult : (run machine).result = .ok a after := h
  rw [andThen, hresult]

theorem entries_bind_of_error {run : Log ε α} {machine after : Machine} {stop : Stop}
    (h : run.result machine = .error stop after) (next : α → Log ε β) :
    (run >>= next).entries machine = run.entries machine := by
  show (andThen run next machine).entries = _
  have hresult : (run machine).result = .error stop after := h
  rw [andThen, hresult]

theorem result_ite (condition : Prop) [Decidable condition] (run other : Log ε α) :
    (if condition then run else other).result =
      if condition then run.result else other.result :=
  apply_ite result condition run other

end Log

/-- What the steps of a run leave in a log. -/
structure Recorder (ε : Type) where
  /-- A statement begins. -/
  began : Stmt → List ε := fun _ => []
  /-- A loop looks whether it goes on. -/
  tested : List ε := []
  /-- A line is said. -/
  said : String → List ε := fun _ => []
  /-- A question is asked. -/
  asked : String → List ε := fun _ => []
  /-- A variable is bound. -/
  bound : String → Value → List ε := fun _ _ => []
  /-- A return with a number of loops around it has been executed. -/
  gave : Nat → Value → List ε := fun _ _ => []
  /-- A call begins. -/
  called : String → List ε := fun _ => []
  /-- A call has ended with a value. This is left, given what was there before its body began. -/
  ended : List ε → Value → List ε
  /-- A call has stopped in its body. This is left of the entries of the body. -/
  stopped : List ε → List ε

variable {ε : Type}

/-- Binds a variable and writes it down. -/
def Recorder.assign (recorder : Recorder ε) (name : String) (value : Value) : Log ε Unit :=
  fun machine => ⟨recorder.bound name value, Machine.assign name value machine⟩

@[simp]
theorem Recorder.result_assign (recorder : Recorder ε) (name : String) (value : Value) :
    (recorder.assign name value).result = Machine.assign name value := rfl

/-- A call: what comes before the body, the body, and the variables put back. -/
def Recorder.calling (recorder : Recorder ε) (before : Log ε Function)
    (body : Function → Log ε Unit) : Log ε Value := fun machine =>
  match (before machine).result with
  | .error stop after => ⟨before.entries machine, .error stop after⟩
  | .ok function start =>
    match (body function start).result with
    | .error stop after =>
      ⟨before.entries machine ++ recorder.stopped ((body function).entries start),
        .error stop after⟩
    | .ok _ after =>
      ⟨recorder.ended (before.entries machine) after.returned, leave machine.store after⟩

theorem Recorder.result_calling (recorder : Recorder ε) (before : Log ε Function)
    (body : Function → Log ε Unit) (machine : Machine) :
    (recorder.calling before body).result machine =
      (before.result >>= fun function => (body function).result >>= fun _ =>
        leave machine.store) machine := by
  show (recorder.calling before body machine).result = EStateM.bind before.result _ machine
  unfold calling EStateM.bind Log.result
  cases (before machine).result with
  | error stop after => rfl
  | ok function start =>
    show _ = EStateM.bind (body function).result _ start
    unfold EStateM.bind Log.result
    cases hended : (body function start).result <;> simp only [hended]

open Log

section

variable (recorder : Recorder ε)

mutual

/-- The value of an expression, with a log. -/
def logEval : (fuel : Nat) → Expr → Log ε Value
  | 0, _ => act (throw .exhausted)
  | fuel + 1, e =>
    match e with
    | .literal _ value => return value
    | .reference name => act (lookup name)
    | .binary left op right => do
      let leftValue ← logEval fuel left
      let rightValue ← logEval fuel right
      act (lift (Value.binary op leftValue rightValue))
    | .unary op operand => do
      let value ← logEval fuel operand
      act (lift (Value.unary op value))
    | .group inner => logEval fuel inner
    | .input prompt => do
      let value ← logEval fuel prompt
      let text ← act (textOf value)
      note (recorder.asked text)
      act (ask text)
    | .call name arguments => logCall fuel name arguments
    | .unknown node => act (throw (.fault (.unknownExpression node.kindName)))
termination_by structural fuel => fuel

/-- The value of a call, with a log. -/
def logCall : (fuel : Nat) → String → List Expr → Log ε Value
  | 0, _, _ => act (throw .exhausted)
  | fuel + 1, name, arguments =>
    recorder.calling (do
      note (recorder.called name)
      let function ← act (lookupFunction name)
      if arguments.length ≠ function.parameters.length then
        act (throw (.fault (.wrongArity name function.parameters.length arguments.length)))
      else
        logArguments fuel function.parameters arguments
        return function)
      fun function => do
        act (modify fun machine => { machine with returning := false, returned := .nothing })
        logExec fuel 0 function.body
termination_by structural fuel => fuel

/-- Evaluates arguments and binds parameters, with a log. -/
def logArguments : (fuel : Nat) → List String → List Expr → Log ε Unit
  | 0, _, _ => act (throw .exhausted)
  | fuel + 1, parameter :: parameters, argument :: arguments => do
    let value ← logEval fuel argument
    recorder.assign parameter value
    logArguments fuel parameters arguments
  | _ + 1, _, _ => return ()
termination_by structural fuel => fuel

/-- Executes a statement with a number of loops around it, with a log. -/
def logExec : (fuel depth : Nat) → Stmt → Log ε Unit
  | 0, _, _ => act (throw .exhausted)
  | fuel + 1, depth, statement => do
    note (recorder.began statement)
    match statement with
    | .say e =>
      let value ← logEval fuel e
      let line ← act (textOf value)
      act (say line)
      note (recorder.said line)
    | .assign name e =>
      let value ← logEval fuel e
      recorder.assign name value
    | .block body => logBlock fuel depth body
    | .define name parameters body => act (define ⟨name, parameters, body⟩)
    | .give e =>
      let value ←
        match e with
        | some e => logEval fuel e
        | none => pure .nothing
      act (modify fun machine => { machine with returning := true, returned := value })
      note (recorder.gave depth value)
    | .branch condition thenBranch elseBranch =>
      let value ← logEval fuel condition
      if value.isTruthy then logExec fuel depth thenBranch
      else
        match elseBranch with
        | some elseBranch => logExec fuel depth elseBranch
        | none => return ()
    | .loop condition body => logLoop fuel depth condition body
    | .count name start stop step body =>
      let start ← logEval fuel start
      let stop ← logEval fuel stop
      let step ←
        match step with
        | some step => logEval fuel step
        | none => pure (.int 1)
      match start.toNumeric.number?, stop.toNumeric.number?, step.toNumeric.number? with
      | some first, some last, some stride =>
        recorder.assign name start.toNumeric
        if stride.isPositive || stride.isNegative then
          logCount fuel depth ⟨name, last, stride⟩ body first
        else act (throw (.fault .loopStepZero))
      | _, _, _ => act (throw (.fault .loopNotNumeric))
    | .unknown node => act (throw (.fault (.unknownStatement node.kindName)))
termination_by structural fuel => fuel

/-- Executes statements until the mark of a return is set, with a log. -/
def logBlock : (fuel depth : Nat) → List Stmt → Log ε Unit
  | 0, _, _ => act (throw .exhausted)
  | _ + 1, _, [] => return ()
  | fuel + 1, depth, statement :: rest => do
    let machine ← act get
    if machine.returning then return ()
    else
      logExec fuel depth statement
      logBlock fuel depth rest
termination_by structural fuel => fuel

/-- Executes a body while a condition holds, with a log. -/
def logLoop : (fuel depth : Nat) → Expr → Stmt → Log ε Unit
  | 0, _, _, _ => act (throw .exhausted)
  | fuel + 1, depth, condition, body => do
    note recorder.tested
    let value ← logEval fuel condition
    if value.isTruthy then
      logExec fuel (depth + 1) body
      logLoop fuel depth condition body
    else return ()
termination_by structural fuel => fuel

/-- Executes a body for every value of the counter, with a log. -/
def logCount : (fuel depth : Nat) → Count → Stmt → Number → Log ε Unit
  | 0, _, _, _, _ => act (throw .exhausted)
  | fuel + 1, depth, count, body, current => do
    note recorder.tested
    if count.continues current then
      logExec fuel (depth + 1) body
      let next ← act (lift ((current.add count.step).mapError .number))
      recorder.assign count.name (.ofNumber next)
      logCount fuel depth count body next
    else return ()
termination_by structural fuel => fuel

end

/-- The value of an expression that may be left out, with a log. -/
def logOption (fuel : Nat) (absent : Value) : Option Expr → Log ε Value
  | none => pure absent
  | some e => logEval recorder fuel e

/-- A counting loop whose three numbers have their values, with a log. -/
def logCountLoop (fuel depth : Nat) (name : String) (body : Stmt) (start stop step : Value) :
    Log ε Unit :=
  match start.toNumeric.number?, stop.toNumeric.number?, step.toNumeric.number? with
  | some first, some last, some stride => do
    recorder.assign name start.toNumeric
    if stride.isPositive || stride.isNegative then
      logCount recorder fuel depth ⟨name, last, stride⟩ body first
    else act (throw (.fault .loopStepZero))
  | _, _, _ => act (throw (.fault .loopNotNumeric))

theorem logExec_give (fuel depth : Nat) (e : Option Expr) :
    logExec recorder (fuel + 1) depth (.give e) = (do
      note (recorder.began (.give e))
      let value ← logOption recorder fuel .nothing e
      act (modify fun machine => { machine with returning := true, returned := value })
      note (recorder.gave depth value)) := by
  cases e <;> rfl

theorem logExec_count (fuel depth : Nat) (name : String) (start stop : Expr)
    (step : Option Expr) (body : Stmt) :
    logExec recorder (fuel + 1) depth (.count name start stop step body) = (do
      note (recorder.began (.count name start stop step body))
      let first ← logEval recorder fuel start
      let last ← logEval recorder fuel stop
      let stride ← logOption recorder fuel (.int 1) step
      logCountLoop recorder fuel depth name body first last stride) := by
  cases step <;> rfl

/-! ## A log changes nothing -/

/-- What a log leaves as it is, with one amount of fuel. -/
structure LogsNothingElse (fuel : Nat) : Prop where
  eval : ∀ e, (logEval recorder fuel e).result = eval fuel e
  call : ∀ name arguments, (logCall recorder fuel name arguments).result = call fuel name arguments
  arguments : ∀ parameters arguments,
    (logArguments recorder fuel parameters arguments).result =
      bindArguments fuel parameters arguments
  exec : ∀ depth statement, (logExec recorder fuel depth statement).result = exec fuel statement
  block : ∀ depth statements,
    (logBlock recorder fuel depth statements).result = execBlock fuel statements
  loop : ∀ depth condition body,
    (logLoop recorder fuel depth condition body).result = execLoop fuel condition body
  count : ∀ depth count body current,
    (logCount recorder fuel depth count body current).result = execCount fuel count body current

end

variable {recorder : Recorder ε} {fuel : Nat}

theorem LogsNothingElse.call_succ (ih : LogsNothingElse recorder fuel) (name : String)
    (arguments : List Expr) :
    (logCall recorder (fuel + 1) name arguments).result =
      Machine.call (fuel + 1) name arguments := by
  funext machine
  rw [logCall, Recorder.result_calling, call_succ_apply, Machine.enter]
  simp only [result_bind, result_note, result_act, result_ite, result_pure, ih.arguments, ih.exec,
    pure_bind, bind_assoc]
  refine congrFun (congrArg (lookupFunction name >>= ·) (funext fun function => ?_)) machine
  split
  · rfl
  · simp only [bind_assoc, pure_bind]

theorem LogsNothingElse.exec_succ (ih : LogsNothingElse recorder fuel) (depth : Nat)
    (statement : Stmt) :
    (logExec recorder (fuel + 1) depth statement).result = Machine.exec (fuel + 1) statement := by
  have hoption (absent : Value) (e : Option Expr) :
      (logOption recorder fuel absent e).result = evalOption fuel absent e := by
    cases e <;> simp [logOption, evalOption, ih.eval]
  cases statement with
  | give e => simp [logExec_give, exec_give, hoption]
  | branch condition thenBranch elseBranch =>
    cases elseBranch <;> simp [logExec, Machine.exec, ih.eval, ih.exec, result_ite]
  | count name start stop step body =>
    have hcount (first last stride : Value) :
        (logCountLoop recorder fuel depth name body first last stride).result =
          countLoop fuel name body first last stride := by
      unfold logCountLoop countLoop
      cases first.toNumeric.number? <;> cases last.toNumeric.number? <;>
        cases stride.toNumeric.number? <;> simp [ih.count, result_ite]
    simp [logExec_count, exec_count, ih.eval, hoption, hcount]
  | _ => simp [logExec, Machine.exec, ih.eval, ih.block, ih.loop]

theorem logsNothingElse (recorder : Recorder ε) (fuel : Nat) : LogsNothingElse recorder fuel := by
  induction fuel with
  | zero =>
    constructor <;> intros <;> exact result_act _
  | succ fuel ih =>
    constructor
    · intro e
      cases e <;> simp [logEval, eval, ih.eval, ih.call]
    · exact ih.call_succ
    · intro parameters arguments
      cases parameters <;> cases arguments <;>
        simp [logArguments, bindArguments, ih.eval, ih.arguments]
    · exact ih.exec_succ
    · intro depth statements
      cases statements <;> simp [logBlock, execBlock, ih.exec, ih.block, result_ite]
    · intro depth condition body
      simp [logLoop, execLoop, ih.eval, ih.exec, ih.loop, result_ite]
    · intro depth count body current
      simp [logCount, execCount, ih.exec, ih.count, result_ite]

end Machine

end ScriptStudio
