import ScriptStudio.Fault

/-!
# Values and their operators

A value is nothing, a truth value, an integer, a 64-bit number or a text. Truth values count as the
integers 0 and 1, and a text that reads as a number counts as that number in arithmetic and
comparison.

These are `_to_numeric`, `_is_truthy`, `apply_binary_operation` and `apply_unary_operation` of
`Interpreter`.
-/

namespace ScriptStudio

/-- A value of the scripting language. -/
inductive Value where
  | nothing
  | bool (b : Bool)
  | int (n : Int)
  | float (x : Binary64)
  | text (s : String)
deriving DecidableEq

/-- A binary operator. Trees built by hand may hold symbols that are no operator. -/
inductive BinaryOp where
  | or
  | and
  | equal
  | notEqual
  | less
  | greater
  | lessEqual
  | greaterEqual
  | plus
  | minus
  | times
  | divide
  | modulo
  | other (symbol : String)
deriving DecidableEq

/-- A unary operator. Trees built by hand may hold symbols that are no operator. -/
inductive UnaryOp where
  | minus
  | plus
  | not
  | other (symbol : String)
deriving DecidableEq

/-- How an operator is written. -/
def BinaryOp.symbol : BinaryOp → String
  | .or => "or"
  | .and => "and"
  | .equal => "=="
  | .notEqual => "!="
  | .less => "<"
  | .greater => ">"
  | .lessEqual => "<="
  | .greaterEqual => ">="
  | .plus => "+"
  | .minus => "-"
  | .times => "*"
  | .divide => "/"
  | .modulo => "%"
  | .other symbol => symbol

/-- The operators with a meaning. -/
def BinaryOp.all : List BinaryOp :=
  [.or, .and, .equal, .notEqual, .less, .greater, .lessEqual, .greaterEqual, .plus, .minus, .times,
    .divide, .modulo]

/-- The operator that is written so. -/
def BinaryOp.ofSymbol (symbol : String) : BinaryOp :=
  (BinaryOp.all.find? fun op => op.symbol == symbol).getD (.other symbol)

/-- How a unary operator is written. -/
def UnaryOp.symbol : UnaryOp → String
  | .minus => "-"
  | .plus => "+"
  | .not => "not"
  | .other symbol => symbol

/-- The unary operator that is written so. -/
def UnaryOp.ofSymbol (symbol : String) : UnaryOp :=
  ([.minus, .plus, .not].find? fun op : UnaryOp => op.symbol == symbol).getD (.other symbol)

namespace Value

/-- The value of a number. -/
def ofNumber : Number → Value
  | .int n => .int n
  | .float x => .float x

/-- The name of the value's type. -/
def typeName : Value → String
  | .nothing => "NoneType"
  | .bool _ => "bool"
  | .int _ => "int"
  | .float _ => "float"
  | .text _ => "str"

/-- The value as it is said. -/
def said : Value → Except NumberError String
  | .nothing => .ok "None"
  | .bool b => .ok (if b then "True" else "False")
  | .int n => integerText n
  | .float x => .ok x.text
  | .text s => .ok s

/-- The value as a part of a longer text, where truth values are written as in scripts. -/
def joined : Value → Except NumberError String
  | .bool b => .ok (if b then "true" else "false")
  | v => v.said

/-- A text that reads as a number becomes that number: with a point a 64-bit number, else an
integer. All other values stay. -/
def toNumeric : Value → Value
  | .text s =>
    if s.toList.contains '.' then
      match Binary64.ofText? s with
      | some x => .float x
      | none => .text s
    else
      match integerOfText? s with
      | some n => .int n
      | none => .text s
  | v => v

/-- The number that a value counts as without reading its text. -/
def number? : Value → Option Number
  | .bool b => some (.int (if b then 1 else 0))
  | .int n => some (.int n)
  | .float x => some (.float x)
  | _ => none

/-- The value counts as true: all values do but nothing, false, zero and the empty text. -/
def isTruthy : Value → Bool
  | .nothing => false
  | .bool b => b
  | .int n => n != 0
  | .float x => !x.isZero
  | .text s => s != ""

/-- A comparison holds of an ordering. Values that do not compare differ. -/
def holds (op : BinaryOp) (order : Option Ordering) : Bool :=
  match op with
  | .equal => order == some .eq
  | .notEqual => order != some .eq
  | .less => order == some .lt
  | .greater => order == some .gt
  | .lessEqual => order == some .lt || order == some .eq
  | .greaterEqual => order == some .gt || order == some .eq
  | _ => false

/-- A result of arithmetic as a value. -/
def ofResult : Except NumberError Number → Except Stop Value
  | .ok x => .ok (ofNumber x)
  | .error error => .error (.number error)

/-- The text of a value within a run. -/
def saidOrStop (v : Value) : Except Stop String :=
  v.said.mapError .number

/-- The text of a part within a run. -/
def joinedOrStop (v : Value) : Except Stop String :=
  v.joined.mapError .number

/-- Adds numbers and joins everything else as text. -/
def plus (left right : Value) : Except Stop Value :=
  match left.toNumeric.number?, right.toNumeric.number? with
  | some x, some y => ofResult (x.add y)
  | _, _ => do return .text ((← left.joinedOrStop) ++ (← right.joinedOrStop))

/-- Subtraction, multiplication, division or remainder, all of them on numbers only. -/
def arithmetic (op : BinaryOp) (left right : Value) : Except Stop Value :=
  match left.toNumeric.number?, right.toNumeric.number? with
  | some x, some y =>
    match op with
    | .minus => ofResult (x.sub y)
    | .times => ofResult (x.mul y)
    | .divide => if y.isZero then .error (.fault .divisionByZero) else ofResult (x.div y)
    | .modulo => if y.isZero then .error (.fault .moduloByZero) else ofResult (x.mod y)
    | _ => .ok .nothing
  | _, _ => do
    .error (.fault (.notNumeric op.symbol (← left.saidOrStop) (← right.saidOrStop)))

/-- Compares numbers with numbers and texts with texts. Across kinds values differ and have no
order. -/
def comparison (op : BinaryOp) (left right : Value) : Except Stop Value :=
  match left.toNumeric.number?, right.toNumeric.number? with
  | some x, some y => .ok (.bool (holds op (x.compare? y)))
  | _, _ =>
    match left.toNumeric, right.toNumeric, op with
    | .text l, .text r, _ => .ok (.bool (holds op (some (compare l r))))
    | _, _, .equal => .ok (.bool false)
    | _, _, .notEqual => .ok (.bool true)
    | _, _, _ => .error (.fault (.notComparable left.typeName right.typeName op.symbol))

/-- Applies a binary operator. A symbol that is no operator gives nothing. -/
def binary (op : BinaryOp) (left right : Value) : Except Stop Value :=
  match op with
  | .and => .ok (.bool (left.isTruthy && right.isTruthy))
  | .or => .ok (.bool (left.isTruthy || right.isTruthy))
  | .plus => plus left right
  | .minus | .times | .divide | .modulo => arithmetic op left right
  | .equal | .notEqual | .less | .greater | .lessEqual | .greaterEqual => comparison op left right
  | .other _ => .ok .nothing

/-- Applies a unary operator. -/
def unary (op : UnaryOp) (operand : Value) : Except Stop Value :=
  match op with
  | .not => .ok (.bool !operand.isTruthy)
  | _ =>
    match operand.toNumeric.number? with
    | none => do .error (.fault (.unaryNotNumeric op.symbol (← operand.saidOrStop)))
    | some x =>
      match op with
      | .minus => .ok (ofNumber x.neg)
      | .plus => .ok operand.toNumeric
      | _ => .error (.fault (.unknownUnary op.symbol))

end Value

end ScriptStudio
