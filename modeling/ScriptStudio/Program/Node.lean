import ScriptStudio.Value

/-!
# Nodes

A node is a piece of a syntax tree whose place has not been checked: any node may stand where the
grammar wants an expression or a statement, and a literal may hold any value. Trees that are built
by hand are made of nodes, and the texts of a tree are those of its nodes.

A node that may be left out is `absent` when it is.

Nodes are objects of `ASTNode`.
-/

namespace ScriptStudio

/-- How a literal is written. -/
inductive LiteralKind where
  | number
  | string
  | boolean
deriving DecidableEq

/-- A node of a syntax tree. -/
inductive Node where
  | literal (kind : LiteralKind) (value : Value)
  | reference (name : String)
  | binary (left : Node) (op : BinaryOp) (right : Node)
  | unary (op : UnaryOp) (operand : Node)
  /-- An expression in parentheses. -/
  | group (inner : Node)
  /-- A question to the user. -/
  | input (prompt : Node)
  | call (name : String) (arguments : List Node)
  | say (e : Node)
  | assign (name : String) (e : Node)
  | block (body : List Node)
  | define (name : String) (parameters : List String) (body : Node)
  /-- Ends a function, with a value or without. -/
  | give (e : Node)
  | branch (condition thenBranch elseBranch : Node)
  | loop (condition body : Node)
  /-- A loop that counts a variable from a start to a stop. -/
  | count (name : String) (start stop step body : Node)
  | program (statements : List Node)
  /-- No node at all. -/
  | absent
  /-- A node of some other kind, known by the kind's name only. -/
  | other (kind : String)
deriving Inhabited

namespace Node

/-- The name of a node's kind. -/
def kindName : Node → String
  | literal .number _ => "NumberLiteral"
  | literal .string _ => "StringLiteral"
  | literal .boolean _ => "BooleanLiteral"
  | reference _ => "Identifier"
  | binary _ _ _ => "BinaryOperation"
  | unary _ _ => "UnaryOperation"
  | group _ => "ParenthesizedExpression"
  | input _ => "InputCall"
  | call _ _ => "FunctionCall"
  | say _ => "SayStatement"
  | assign _ _ => "AssignmentStatement"
  | block _ => "BlockStatement"
  | define _ _ _ => "FunctionDefinition"
  | give _ => "ReturnStatement"
  | branch _ _ _ => "IfStatement"
  | loop _ _ => "WhileStatement"
  | count _ _ _ _ _ => "ForStatement"
  | program _ => "Program"
  | absent => "NoneType"
  | other kind => kind

/-- There is no node. -/
def isAbsent : Node → Bool
  | absent => true
  | _ => false

end Node

end ScriptStudio
