import ScriptStudio.Number.Basic

/-!
# Why running stops

A fault is an error of the script itself; it has a wording of its own and ends the program that
makes it. Beside faults a run can meet a number out of bounds, the end of the input, a break by the
user, or the end of its fuel.

The faults are what `Interpreter` reports as a `RuntimeError`.
-/

namespace ScriptStudio

/-- An error of the script. -/
inductive Fault where
  | undefinedVariable (name : String)
  | undefinedFunction (name : String)
  | wrongArity (name : String) (expected got : Nat)
  | notNumeric (symbol left right : String)
  | unaryNotNumeric (symbol operand : String)
  | unknownUnary (symbol : String)
  | divisionByZero
  | moduloByZero
  | notComparable (leftType rightType symbol : String)
  | loopNotNumeric
  | loopStepZero
  | unknownStatement (kind : String)
  | unknownExpression (kind : String)
deriving DecidableEq

/-- The wording of a fault. -/
def Fault.message : Fault → String
  | .undefinedVariable name => s!"Undefined variable: '{name}'"
  | .undefinedFunction name => s!"Undefined function: '{name}'"
  | .wrongArity name expected got =>
    s!"Function '{name}' expects {expected} arguments, but got {got}"
  | .notNumeric symbol left right =>
    s!"Cannot apply '{symbol}' to non-numeric values ('{left}' and '{right}')"
  | .unaryNotNumeric symbol operand =>
    s!"Cannot apply unary '{symbol}' to non-numeric value '{operand}'"
  | .unknownUnary symbol => s!"Unknown unary operator: '{symbol}'"
  | .divisionByZero => "Division by zero"
  | .moduloByZero => "Modulo by zero"
  | .notComparable leftType rightType symbol =>
    s!"Cannot compare {leftType} and {rightType} with '{symbol}'"
  | .loopNotNumeric => "For loop requires numeric values for start, end, and step"
  | .loopStepZero => "For loop step cannot be zero"
  | .unknownStatement kind => s!"Unknown statement type: {kind}"
  | .unknownExpression kind => s!"Unknown expression type: {kind}"

/-- Why a run stopped before its end. -/
inductive Stop where
  | fault (cause : Fault)
  | number (error : NumberError)
  | endOfInput
  | interrupted
  | exhausted
deriving DecidableEq

/-- What is said about a stop. -/
def Stop.message : Stop → String
  | .fault cause => cause.message
  | .number error => error.message
  | .endOfInput => "EOF when reading a line"
  | .interrupted => ""
  | .exhausted => "out of fuel"

end ScriptStudio
