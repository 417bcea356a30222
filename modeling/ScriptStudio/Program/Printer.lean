import ScriptStudio.Program.Basic
import ScriptStudio.Text.Quoted

/-!
# Programs as text

Three texts of a tree. The summary is one line for every node but a program, which has a line for
each of its statements too. The constructor form shows every field; the summary of an expression in
parentheses falls back on it. The outline has a line for most nodes, indented by depth; definitions,
returns, calls and questions have none.

A literal may hold an integer of too many digits, so writing a tree can fail.

They are `__str__`, `__repr__` and `Parser.pretty_print_ast`.
-/

namespace ScriptStudio

/-- The value inside a constructor form, where texts are quoted. -/
def Value.constructorForm : Value → Except NumberError String
  | .text s => .ok (Text.quoted s)
  | v => v.said

/-- Texts with a comma and a space between them. -/
def commaSeparated (texts : List String) : String := ", ".intercalate texts

/-- Texts in brackets, with a comma and a space between them. -/
def bracketed (texts : List String) : String := "[" ++ commaSeparated texts ++ "]"

/-- The text of an absent node. -/
def absentText : String := "None"

/-- A constructor with its fields. -/
def constructorText (kind : String) (fields : List (String × String)) : String :=
  kind ++ "(" ++ commaSeparated (fields.map fun (name, text) => name ++ "=" ++ text) ++ ")"

/-- A function's name and parameters. -/
def functionSummary (name : String) (parameters : List String) : String :=
  "Function(" ++ name ++ "(" ++ commaSeparated parameters ++ "))"

/-- A line of an outline. -/
def outlineLine (indent : Int) (text : String) : String :=
  String.ofList (List.replicate (2 * indent).toNat ' ') ++ text

namespace Node

mutual

/-- The node with all its fields. A question shows none. -/
def constructorForm : Node → Except NumberError String
  | literal kind value => do
    return constructorText (literal kind value).kindName [("value", ← value.constructorForm)]
  | reference name => .ok (constructorText "Identifier" [("name", Text.quoted name)])
  | binary left op right => do
    return constructorText "BinaryOperation"
      [("left", ← left.constructorForm), ("operator", Text.quoted op.symbol),
        ("right", ← right.constructorForm)]
  | unary op operand => do
    return constructorText "UnaryOperation"
      [("operator", Text.quoted op.symbol), ("operand", ← operand.constructorForm)]
  | group inner => do
    return constructorText "ParenthesizedExpression" [("expression", ← inner.constructorForm)]
  | input _ => .ok (constructorText "InputCall" [])
  | call name arguments => do
    return constructorText "FunctionCall"
      [("name", Text.quoted name), ("arguments", bracketed (← constructorForms arguments))]
  | say e => do return constructorText "SayStatement" [("expression", ← e.constructorForm)]
  | assign name e => do
    return constructorText "AssignmentStatement"
      [("identifier", Text.quoted name), ("expression", ← e.constructorForm)]
  | block body => do
    return constructorText "BlockStatement" [("statements", bracketed (← constructorForms body))]
  | define name parameters body => do
    return constructorText "FunctionDefinition"
      [("name", Text.quoted name), ("parameters", bracketed (parameters.map Text.quoted)),
        ("body", ← body.constructorForm)]
  | give e => do return constructorText "ReturnStatement" [("expression", ← e.constructorForm)]
  | branch condition thenBranch elseBranch => do
    return constructorText "IfStatement"
      [("condition", ← condition.constructorForm), ("then_branch", ← thenBranch.constructorForm),
        ("else_branch", ← elseBranch.constructorForm)]
  | loop condition body => do
    return constructorText "WhileStatement"
      [("condition", ← condition.constructorForm), ("body", ← body.constructorForm)]
  | count name start stop step body => do
    return constructorText "ForStatement"
      [("variable", Text.quoted name), ("start", ← start.constructorForm),
        ("end", ← stop.constructorForm), ("step", ← step.constructorForm),
        ("body", ← body.constructorForm)]
  | program statements => do
    return constructorText "Program" [("statements", bracketed (← constructorForms statements))]
  | absent => .ok absentText
  | other kind => .ok kind

/-- The constructor forms of several nodes. -/
def constructorForms : List Node → Except NumberError (List String)
  | [] => .ok []
  | node :: rest => do return (← node.constructorForm) :: (← constructorForms rest)

end

mutual

/-- The node in one line. A program has a line for its head and one for every statement. -/
def summary : Node → Except NumberError String
  | literal .number value => do return "Number(" ++ (← value.said) ++ ")"
  | literal .string value => do return "String(\"" ++ (← value.said) ++ "\")"
  | literal .boolean value => do return "Boolean(" ++ (← value.said) ++ ")"
  | reference name => .ok ("Var(" ++ name ++ ")")
  | binary left op right => do
    let left ← left.summary
    let right ← right.summary
    return "(" ++ left ++ " " ++ op.symbol ++ " " ++ right ++ ")"
  | unary op operand => do return "(" ++ op.symbol ++ (← operand.summary) ++ ")"
  | group inner => (group inner).constructorForm
  | input prompt => do return "Input(" ++ (← prompt.summary) ++ ")"
  | call name arguments => do
    return "Call(" ++ name ++ "(" ++ commaSeparated (← summaries arguments) ++ "))"
  | say e => do return "Say(" ++ (← e.summary) ++ ")"
  | assign name e => do return "Assign(" ++ name ++ " = " ++ (← e.summary) ++ ")"
  | block body => .ok s!"Block({body.length} statements)"
  | define name parameters _ => .ok (functionSummary name parameters)
  | give e => do return "Return(" ++ (← e.summary) ++ ")"
  | branch condition _ elseBranch => do
    let ending := if elseBranch.isAbsent then "" else " with else"
    return "If(" ++ (← condition.summary) ++ ")" ++ ending
  | loop condition _ => do return "While(" ++ (← condition.summary) ++ ")"
  | count name start stop step _ => do
    let start ← start.summary
    let stop ← stop.summary
    let ending ← if step.isAbsent then pure "" else do pure (", step " ++ (← step.summary))
    return "For(" ++ name ++ " from " ++ start ++ " to " ++ stop ++ ending ++ ")"
  | program statements => do return "Program:\n  " ++ "\n  ".intercalate (← summaries statements)
  | absent => .ok absentText
  | other kind => .ok kind

/-- The summaries of several nodes. -/
def summaries : List Node → Except NumberError (List String)
  | [] => .ok []
  | node :: rest => do return (← node.summary) :: (← summaries rest)

end

mutual

/-- The node as indented lines. -/
def outline (indent : Int) : Node → Except NumberError (List String)
  | literal .number value => do return [outlineLine indent ("Number: " ++ (← value.said))]
  | literal .string value => do
    return [outlineLine indent ("String: \"" ++ (← value.said) ++ "\"")]
  | literal .boolean value => do return [outlineLine indent ("Boolean: " ++ (← value.said))]
  | reference name => .ok [outlineLine indent ("Variable: " ++ name)]
  | binary left op right => do
    let left ← left.outline (indent + 2)
    let right ← right.outline (indent + 2)
    return [outlineLine indent ("BinaryOp: '" ++ op.symbol ++ "'"), outlineLine indent "  Left:"] ++
      left ++ [outlineLine indent "  Right:"] ++ right
  | unary op operand => do
    return outlineLine indent ("UnaryOp: '" ++ op.symbol ++ "'") :: (← operand.outline (indent + 1))
  | group inner => do return outlineLine indent "Parentheses:" :: (← inner.outline (indent + 1))
  | input _ => .ok []
  | call _ _ => .ok []
  | say e => do return outlineLine indent "SayStatement:" :: (← e.outline (indent + 1))
  | assign name e => do
    return outlineLine indent ("Assignment: " ++ name ++ " =") :: (← e.outline (indent + 1))
  | block body => do return outlineLine indent "Block:" :: (← outlines (indent + 1) body)
  | define _ _ _ => .ok []
  | give _ => .ok []
  | branch condition thenBranch elseBranch => do
    let condition ← condition.outline (indent + 2)
    let thenLines ← thenBranch.outline (indent + 2)
    let elseLines ←
      if elseBranch.isAbsent then pure []
      else do pure (outlineLine indent "  Else:" :: (← elseBranch.outline (indent + 2)))
    return [outlineLine indent "IfStatement:", outlineLine indent "  Condition:"] ++ condition ++
      [outlineLine indent "  Then:"] ++ thenLines ++ elseLines
  | loop condition body => do
    let condition ← condition.outline (indent + 2)
    let body ← body.outline (indent + 2)
    return [outlineLine indent "WhileStatement:", outlineLine indent "  Condition:"] ++ condition ++
      [outlineLine indent "  Body:"] ++ body
  | count name start stop step body => do
    let start ← start.outline (indent + 2)
    let stop ← stop.outline (indent + 2)
    let step ←
      if step.isAbsent then pure []
      else do pure (outlineLine indent "  Step:" :: (← step.outline (indent + 2)))
    let body ← body.outline (indent + 2)
    return [outlineLine indent ("ForStatement: " ++ name), outlineLine indent "  Start:"] ++
      start ++ [outlineLine indent "  End:"] ++ stop ++ step ++
        [outlineLine indent "  Body:"] ++ body
  | program statements => do
    return outlineLine indent "Program:" :: (← outlines (indent + 1) statements)
  | absent => .ok []
  | other _ => .ok []

/-- Nodes one after the other as indented lines. -/
def outlines (indent : Int) : List Node → Except NumberError (List String)
  | [] => .ok []
  | node :: rest => do return (← node.outline indent) ++ (← outlines indent rest)

end

end Node

/-- The statement in one line. -/
def Stmt.summary (s : Stmt) : Except NumberError String := s.toNode.summary

/-- The program in one line for its head and one for every statement. -/
def Program.summary (program : Program) : Except NumberError String := program.toNode.summary

/-- The program as indented lines. -/
def Program.outline (indent : Int) (program : Program) : Except NumberError (List String) :=
  program.toNode.outline indent

mutual

/-- The statement and all statements inside it, outer ones first. -/
def Stmt.preorder : Stmt → List Stmt
  | .block body => .block body :: Stmt.preorderList body
  | .branch condition thenBranch elseBranch =>
    .branch condition thenBranch elseBranch ::
      (thenBranch.preorder ++ Stmt.preorderOption elseBranch)
  | .loop condition body => .loop condition body :: body.preorder
  | .count name start stop step body => .count name start stop step body :: body.preorder
  | .define name parameters body => .define name parameters body :: body.preorder
  | s => [s]

/-- The statements in a list and all statements inside them. -/
def Stmt.preorderList : List Stmt → List Stmt
  | [] => []
  | s :: rest => s.preorder ++ Stmt.preorderList rest

/-- The statement, if there is one, and all statements inside it. -/
def Stmt.preorderOption : Option Stmt → List Stmt
  | none => []
  | some s => s.preorder

end

end ScriptStudio
