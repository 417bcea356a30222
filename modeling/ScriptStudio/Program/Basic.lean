import ScriptStudio.Program.Node

/-!
# Programs

A program is a list of statements, and statements hold expressions. The grammar makes only part of
them: a literal may hold any value, and a node that stands in the wrong place is kept as it is, for
a run to stop at.

Every program is a tree of nodes, and every node can be taken for an expression or a statement.

The kinds are those of `Expression`, `Statement` and `Program`.
-/

namespace ScriptStudio

/-- An expression. -/
inductive Expr where
  | literal (kind : LiteralKind) (value : Value)
  | reference (name : String)
  | binary (left : Expr) (op : BinaryOp) (right : Expr)
  | unary (op : UnaryOp) (operand : Expr)
  /-- An expression in parentheses. -/
  | group (inner : Expr)
  /-- A question to the user. -/
  | input (prompt : Expr)
  | call (name : String) (arguments : List Expr)
  /-- A node that is no expression. -/
  | unknown (node : Node)
deriving Inhabited

/-- A statement. -/
inductive Stmt where
  | say (e : Expr)
  | assign (name : String) (e : Expr)
  | block (body : List Stmt)
  | define (name : String) (parameters : List String) (body : Stmt)
  /-- Ends a function, with a value or without. -/
  | give (e : Option Expr)
  | branch (condition : Expr) (thenBranch : Stmt) (elseBranch : Option Stmt)
  | loop (condition : Expr) (body : Stmt)
  /-- A loop that counts a variable from a start to a stop. -/
  | count (name : String) (start stop : Expr) (step : Option Expr) (body : Stmt)
  /-- A node that is no statement. -/
  | unknown (node : Node)
deriving Inhabited

/-- A program. -/
structure Program where
  statements : List Stmt

/-! ## Programs as nodes -/

mutual

/-- The node of an expression. -/
def Expr.toNode : Expr → Node
  | .literal kind value => .literal kind value
  | .reference name => .reference name
  | .binary left op right => .binary left.toNode op right.toNode
  | .unary op operand => .unary op operand.toNode
  | .group inner => .group inner.toNode
  | .input prompt => .input prompt.toNode
  | .call name arguments => .call name (Expr.toNodes arguments)
  | .unknown node => node

/-- The nodes of several expressions. -/
def Expr.toNodes : List Expr → List Node
  | [] => []
  | e :: rest => e.toNode :: Expr.toNodes rest

end

/-- The node of an expression that may be left out. -/
def Expr.optionToNode : Option Expr → Node
  | none => .absent
  | some e => e.toNode

mutual

/-- The node of a statement. -/
def Stmt.toNode : Stmt → Node
  | .say e => .say e.toNode
  | .assign name e => .assign name e.toNode
  | .block body => .block (Stmt.toNodes body)
  | .define name parameters body => .define name parameters body.toNode
  | .give e => .give (Expr.optionToNode e)
  | .branch condition thenBranch elseBranch =>
    .branch condition.toNode thenBranch.toNode (Stmt.optionToNode elseBranch)
  | .loop condition body => .loop condition.toNode body.toNode
  | .count name start stop step body =>
    .count name start.toNode stop.toNode (Expr.optionToNode step) body.toNode
  | .unknown node => node

/-- The nodes of several statements. -/
def Stmt.toNodes : List Stmt → List Node
  | [] => []
  | s :: rest => s.toNode :: Stmt.toNodes rest

/-- The node of a statement that may be left out. -/
def Stmt.optionToNode : Option Stmt → Node
  | none => .absent
  | some s => s.toNode

end

/-- The node of a program. -/
def Program.toNode (program : Program) : Node := .program (Stmt.toNodes program.statements)

/-! ## Nodes taken for programs -/

mutual

/-- The node taken for an expression. -/
def Node.toExpr : Node → Expr
  | .literal kind value => .literal kind value
  | .reference name => .reference name
  | .binary left op right => .binary left.toExpr op right.toExpr
  | .unary op operand => .unary op operand.toExpr
  | .group inner => .group inner.toExpr
  | .input prompt => .input prompt.toExpr
  | .call name arguments => .call name (Node.toExprs arguments)
  | node => .unknown node

/-- Several nodes taken for expressions. -/
def Node.toExprs : List Node → List Expr
  | [] => []
  | node :: rest => node.toExpr :: Node.toExprs rest

end

/-- The node taken for an expression that may be left out. -/
def Node.toExpr? (node : Node) : Option Expr :=
  if node.isAbsent then none else some node.toExpr

mutual

/-- The node taken for a statement. -/
def Node.toStmt : Node → Stmt
  | .say e => .say e.toExpr
  | .assign name e => .assign name e.toExpr
  | .block body => .block (Node.toStmts body)
  | .define name parameters body => .define name parameters body.toStmt
  | .give e => .give e.toExpr?
  | .branch condition thenBranch elseBranch =>
    .branch condition.toExpr thenBranch.toStmt
      (if elseBranch.isAbsent then none else some elseBranch.toStmt)
  | .loop condition body => .loop condition.toExpr body.toStmt
  | .count name start stop step body =>
    .count name start.toExpr stop.toExpr step.toExpr? body.toStmt
  | node => .unknown node

/-- Several nodes taken for statements. -/
def Node.toStmts : List Node → List Stmt
  | [] => []
  | node :: rest => node.toStmt :: Node.toStmts rest

end

end ScriptStudio
