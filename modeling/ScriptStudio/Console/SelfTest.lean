import ScriptStudio.Console.SelfTestPrograms
import ScriptStudio.Console.Session
import ScriptStudio.Program.Printer

/-!
# Self tests

Each of the three stages, scanning, reading and running, shows its work on programs of its own.

The first is `run_lexer_test`; the others go on to `Parser.parse` and `Interpreter.interpret`.
-/

namespace ScriptStudio.SelfTest

open Machine

/-- Shows the tokens of a program. -/
def scanReport (name code : String) : List String :=
  let outcome :=
    match tokenize code with
    | .ok tokens =>
      Token.listing tokens ++
        ["\n✅ Test '" ++ name ++ "' passed! Found " ++ tokens.length.repr ++ " tokens."]
    | .error error => ["❌ Lexer error in test '" ++ name ++ "': " ++ error.message]
  ["\n===== RUNNING TEST: " ++ name ++ " =====", "Source code:", code, rule '-' 20] ++ outcome

/-- The self test of scanning. -/
def scanning : Exec Unit := do
  printLine (rule '=' 20 ++ " LEXER TESTING " ++ rule '=' 20)
  printLines (scanReport "Logical Operators" scanLogic)
  printLines (scanReport "String Parsing" scanStrings)
  printLines (scanReport "Input Function" scanInput)

/-- The program of a source text, with the failure as text. -/
def readSource (code : String) : Except String (List Token × Program) := do
  let tokens ← (tokenize code).mapError LexError.message
  let program ← (Program.ofTokens tokens).mapError ParseFailure.message
  return (tokens, program)

/-- The self test of reading. -/
def reading : Exec Unit := do
  printLines
    ["=== TESTING ENHANCED PARSER ===", "Source code:", parseSample, "\n" ++ rule '=' 40]
  match readSource parseSample with
  | .error message => printLine ("❌ Error: " ++ message)
  | .ok (tokens, program) =>
    printLines
      [s!"✅ Lexer: {tokens.length} tokens", s!"✅ Parser: {program.statements.length} statements",
        "\n=== AST ==="]
    match program.outline 0 with
    | .ok lines => printLines lines
    | .error error => printLine ("❌ Error: " ++ error.message)
    printLine "\n✅ Enhanced Parser test passed!"

/-- Lists variables the way the self test of running does. -/
def listVariables : List (String × Value) → Exec Unit
  | [] => return ()
  | (name, value) :: rest => do
    printLine ("  " ++ name ++ " = " ++ (← textOf value) ++ " (" ++ value.typeName ++ ")")
    listVariables rest

/-- The self test of running. -/
def running (fuel : Nat) : Exec Unit := do
  printLines
    ["=== TESTING ENHANCED INTERPRETER ===", "Source code:", runSample, "\n" ++ rule '=' 40]
  match readSource runSample with
  | .error message => printLine ("❌ Error: " ++ message)
  | .ok (tokens, program) =>
    printLines
      [s!"✅ Lexer: {tokens.length} tokens", s!"✅ Parser: {program.statements.length} statements"]
    let output ← interpret fuel program
    printLines ["✅ Interpreter: executed successfully", "\n=== VARIABLES ==="]
    listVariables (← get).store.entries
    printLines
      ["\n=== OUTPUT SUMMARY ===", s!"Total output lines: {output.length}",
        "\n✅ Enhanced Interpreter test passed!"]

end ScriptStudio.SelfTest
