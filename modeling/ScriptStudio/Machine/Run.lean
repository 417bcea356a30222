import ScriptStudio.Machine.Basic

/-!
# Running programs

Expressions are evaluated and statements are executed with a measure of fuel that bounds the depth
of recursion and the length of loops; running out of it is a stop of its own.

A return sets a mark and the value given. Only the list of statements in a block looks at the mark.
A call saves the variables, binds its parameters one by one while its arguments are evaluated, and
puts the variables back when the body has ended; a stop inside puts nothing back.

These are `Interpreter.interpret`, `execute_statement` with a function for each kind of statement,
`call_function` and `evaluate_expression`.
-/

namespace ScriptStudio

namespace Machine

/-- The values between which a loop counts. -/
structure Count where
  name : String
  stop : Number
  step : Number

/-- The counter has not passed the stop. A step up counts up to it and a step down counts down. -/
def Count.continues (count : Count) (current : Number) : Bool :=
  if count.step.isPositive then Value.holds .lessEqual (current.compare? count.stop)
  else Value.holds .greaterEqual (current.compare? count.stop)

mutual

/-- The value of an expression. -/
def eval : (fuel : Nat) → Expr → Exec Value
  | 0, _ => throw .exhausted
  | fuel + 1, e =>
    match e with
    | .literal _ value => return value
    | .reference name => lookup name
    | .binary left op right => do
      let leftValue ← eval fuel left
      let rightValue ← eval fuel right
      lift (Value.binary op leftValue rightValue)
    | .unary op operand => do
      let value ← eval fuel operand
      lift (Value.unary op value)
    | .group inner => eval fuel inner
    | .input prompt => do
      let value ← eval fuel prompt
      ask (← textOf value)
    | .call name arguments => call fuel name arguments
    | .unknown node => throw (.fault (.unknownExpression node.kindName))

/-- The value of a call. -/
def call : (fuel : Nat) → String → List Expr → Exec Value
  | 0, _, _ => throw .exhausted
  | fuel + 1, name, arguments => do
    let function ← lookupFunction name
    if arguments.length ≠ function.parameters.length then
      throw (.fault (.wrongArity name function.parameters.length arguments.length))
    let saved := (← get).store
    bindArguments fuel function.parameters arguments
    modify fun machine => { machine with returning := false, returned := .nothing }
    exec fuel function.body
    let result := (← get).returned
    modify fun machine => { machine with store := saved, returning := false }
    return result

/-- Evaluates arguments from left to right and binds each parameter as soon as it has its value. -/
def bindArguments : (fuel : Nat) → List String → List Expr → Exec Unit
  | 0, _, _ => throw .exhausted
  | fuel + 1, parameter :: parameters, argument :: arguments => do
    assign parameter (← eval fuel argument)
    bindArguments fuel parameters arguments
  | _ + 1, _, _ => return ()

/-- Executes a statement. -/
def exec : (fuel : Nat) → Stmt → Exec Unit
  | 0, _ => throw .exhausted
  | fuel + 1, statement =>
    match statement with
    | .say e => do
      let value ← eval fuel e
      say (← textOf value)
    | .assign name e => do assign name (← eval fuel e)
    | .block body => execBlock fuel body
    | .define name parameters body => define ⟨name, parameters, body⟩
    | .give e => do
      let value ←
        match e with
        | some e => eval fuel e
        | none => pure .nothing
      modify fun machine => { machine with returning := true, returned := value }
    | .branch condition thenBranch elseBranch => do
      if (← eval fuel condition).isTruthy then exec fuel thenBranch
      else
        match elseBranch with
        | some elseBranch => exec fuel elseBranch
        | none => return ()
    | .loop condition body => execLoop fuel condition body
    | .count name start stop step body => do
      let start ← eval fuel start
      let stop ← eval fuel stop
      let step ←
        match step with
        | some step => eval fuel step
        | none => pure (.int 1)
      match start.toNumeric.number?, stop.toNumeric.number?, step.toNumeric.number? with
      | some first, some last, some stride =>
        assign name start.toNumeric
        if stride.isPositive || stride.isNegative then
          execCount fuel ⟨name, last, stride⟩ body first
        else throw (.fault .loopStepZero)
      | _, _, _ => throw (.fault .loopNotNumeric)
    | .unknown node => throw (.fault (.unknownStatement node.kindName))

/-- Executes statements until the mark of a return is set. -/
def execBlock : (fuel : Nat) → List Stmt → Exec Unit
  | 0, _ => throw .exhausted
  | _ + 1, [] => return ()
  | fuel + 1, statement :: rest => do
    if (← get).returning then return ()
    exec fuel statement
    execBlock fuel rest

/-- Executes a body while a condition holds. -/
def execLoop : (fuel : Nat) → Expr → Stmt → Exec Unit
  | 0, _, _ => throw .exhausted
  | fuel + 1, condition, body => do
    if (← eval fuel condition).isTruthy then
      exec fuel body
      execLoop fuel condition body

/-- Executes a body for every value of the counter from the current one on. -/
def execCount : (fuel : Nat) → Count → Stmt → Number → Exec Unit
  | 0, _, _, _ => throw .exhausted
  | fuel + 1, count, body, current => do
    if count.continues current then
      exec fuel body
      let next ← lift ((current.add count.step).mapError .number)
      assign count.name (.ofNumber next)
      execCount fuel count body next

end

/-- Executes the statements of a program one after the other. -/
def execAll (fuel : Nat) : List Stmt → Exec Unit
  | [] => return ()
  | statement :: rest => do
    exec fuel statement
    execAll fuel rest

/-- The line that reports a fault. -/
def faultLine (fault : Fault) : String := "❌ Runtime error: " ++ fault.message

/-- Runs a program with a new record. A fault ends it with a line of its own; every other stop goes
on to the caller. -/
def interpret (fuel : Nat) (program : Program) : Exec (List String) := do
  modify fun machine => { machine with record := #[] }
  try
    execAll fuel program.statements
  catch
    | .fault cause => say (faultLine cause)
    | stop => throw stop
  return (← get).record.toList

/-- More fuel than any program that ends can use up. -/
def ampleFuel : Nat := Nat.pow 10 18

end Machine

end ScriptStudio
