import ScriptStudio.Machine.Run
import ScriptStudio.Program.Grammar
import ScriptStudio.Token.Scan

/-!
# Running a source text

A source text is scanned, read and run on a machine, and whatever goes wrong on the way becomes a
line on the screen. Only a break by the user and the end of fuel go on to the caller.

This is `DoroLang.run`.
-/

namespace ScriptStudio

/-- A row of one character. -/
def rule (c : Char) (width : Nat) : String := String.ofList (List.replicate width c)

namespace Machine

/-- Prints a report and gives it as the only line of output. -/
def report (line : String) : Exec (List String) := do
  printLine line
  return [line]

/-- The first five tokens as the details show them. -/
def tokenDetails (tokens : List Token) : List String :=
  let shown := (tokens.take 5).zipIdx.filterMap fun (token, i) =>
    if token.kind = .endOfFile then none
    else some s!"     {i}: {token.kind.name} '{token.text}'"
  let more := if 6 < tokens.length then [s!"     ... and {tokens.length - 5} more tokens"] else []
  s!"   Found {tokens.length} tokens" :: shown ++ more

/-- A variable with its value and the name of its type. -/
def variableLine (name : String) (value : Value) : Exec String := do
  return "   " ++ name ++ " = " ++ (← textOf value) ++ " (" ++ value.typeName ++ ")"

/-- Prints variables line by line. -/
def printVariables : List (String × Value) → Exec Unit
  | [] => return ()
  | (name, value) :: rest => do
    printLine (← variableLine name value)
    printVariables rest

/-- Prints the variables under a heading, if there are any. -/
def printFinalVariables : Exec Unit := do
  let bound := (← get).store.entries
  if !bound.isEmpty then
    printLine "\n📊 Final variables:"
    printVariables bound

/-- Prints lines when details are wanted. -/
def printDetails (details : Bool) (lines : List String) : Exec Unit :=
  if details then printLines lines else return ()

/-- Runs tokens: reads the program and interprets it. -/
def runTokens (fuel : Nat) (details : Bool) (tokens : List Token) : Exec (List String) := do
  printDetails details (tokenDetails tokens ++ ["🌳 Parsing..."])
  match Program.ofTokens tokens with
  | .error (.refused error) => report ("❌ Parse error: " ++ error.message)
  | .error failure => report ("❌ Unexpected error: " ++ failure.message)
  | .ok program =>
    printDetails details
      [s!"   Built AST with {program.statements.length} statements", "🚀 Executing...", rule '-' 30]
    let output ← interpret fuel program
    if details then
      printLines [rule '-' 30, "✅ Execution completed!"]
      printFinalVariables
    return output

/-- Runs a source text and gives the lines of its output. -/
def runSource (fuel : Nat) (details : Bool) (source : String) : Exec (List String) := do
  try
    printDetails details ["🔍 Lexical Analysis..."]
    match tokenize source with
    | .error error => report ("❌ Lexer error: " ++ error.message)
    | .ok tokens => runTokens fuel details tokens
  catch
    | .interrupted => throw .interrupted
    | .exhausted => throw .exhausted
    | .fault cause => report (faultLine cause)
    | stop => report ("❌ Unexpected error: " ++ stop.message)

end Machine

end ScriptStudio
