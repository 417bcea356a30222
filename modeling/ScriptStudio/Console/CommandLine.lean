import ScriptStudio.Console.Checks
import ScriptStudio.Console.Interactive
import ScriptStudio.Disk.Basic

/-!
# The command line

Without an argument the samples run and the usage follows. With one argument it is a command, in any
case, or the path of a file to run. More arguments are refused.

This is `main`, with `show_usage`, `run_examples`, `run_tests` and `DoroLang.run_file`.
-/

namespace ScriptStudio.CommandLine

open Machine

/-- Runs a file and shows the details. -/
def runFile (fuel : Nat) (disk : Disk) (path : String) : Exec Unit :=
  match disk.readText path with
  | .ok code => do
    printLines ["🚀 Running file: " ++ path, rule '-' 50]
    let _ ← runSource fuel true code
  | .error (.refused .notFound _ _) => printLine ("❌ File not found: " ++ path)
  | .error error => printLine ("❌ Error reading file: " ++ error.message)

/-- Shows a sample and runs it on a fresh set of variables. -/
def runSample (fuel : Nat) (sample : Sample) : Exec Unit := do
  printLines
    ["\n" ++ rule '=' 70, "📝 Example: " ++ sample.title, rule '=' 70, "Source code:", sample.code,
      "\n🚀 Output:", rule '-' 40]
  reset
  let _ ← runSource fuel false sample.code
  printLine (rule '-' 40)

/-- Runs all samples. -/
def runSamples (fuel : Nat) : Exec Unit := Samples.all.forM (runSample fuel)

/-- How the program is called and what the language offers. -/
def usage : List String :=
  ["DoroLang Programming Language Interpreter v1.1.0", "Created by Dorofii Karnaukh", "", "Usage:",
    "  python main.py                    # Run examples",
    "  python main.py interactive        # Interactive mode (REPL)",
    "  python main.py examples           # Show all examples",
    "  python main.py test              # Run tests",
    "  python main.py <file.doro>        # Execute DoroLang file", "", "DoroLang Features:",
    "  ✅ Variables (kas x = value)", "  ✅ Print statements (say expression)",
    "  ✅ Arithmetic (+, -, *, /, %)", "  ✅ Comparison (==, !=, <, >, <=, >=)",
    "  ✅ Logical operators (and, or, not)", "  ✅ Boolean values (true, false)",
    "  ✅ Conditional statements (if/else)", "  ✅ Block statements (\x7b ... \x7d)",
    "  ✅ Unary operations (-x, +x, not x)", "  ✅ Parentheses for precedence",
    "  ✅ String concatenation", "  ✅ Type coercion", "  ✅ Comments (# comment)"]

/-- A line reports an error. -/
def reportsError (line : String) : Bool := line.toList.contains '❌'

/-- Runs a check and says whether it passed. -/
def runCheck (fuel : Nat) (check : Sample) : Exec Bool := do
  let shown := "; ".intercalate ((Text.splitLines check.code.toList).map String.ofList)
  printLines ["\n🧪 Test: " ++ check.title, "   Code: " ++ shown]
  reset
  let output ← runSource fuel false check.code
  let passed := !output.isEmpty && !output.any reportsError
  printLine (if passed then "   ✅ PASSED" else "   ❌ FAILED")
  return passed

/-- Runs checks and counts those that passed. -/
def countPassed (fuel : Nat) : List Sample → Exec Nat
  | [] => return 0
  | check :: rest => do
    let passed ← runCheck fuel check
    let later ← countPassed fuel rest
    return (if passed then 1 else 0) + later

/-- Runs the built-in checks and sums up. -/
def runChecks (fuel : Nat) : Exec Unit := do
  printLines ["🧪 Running Enhanced DoroLang tests...", rule '=' 50]
  let passed ← countPassed fuel builtInChecks
  let total := builtInChecks.length
  printLines ["\n" ++ rule '=' 50, s!"📊 Test Results: {passed}/{total} passed"]
  printLine (if passed = total then "🎉 All tests passed!" else s!"❌ {total - passed} tests failed")

/-- What an only argument asks for. -/
def runArgument (fuel : Nat) (disk : Disk) (argument : String) : Exec Unit :=
  match Text.lower argument with
  | "interactive" => Interactive.run fuel
  | "examples" => runSamples fuel
  | "test" => runChecks fuel
  | "help" => printLines usage
  | "--help" => printLines usage
  | "-h" => printLines usage
  | _ =>
    if disk.exists? argument then runFile fuel disk argument
    else
      printLines
        ["❌ File not found: " ++ argument, "Use 'python main.py help' for usage information"]

/-- The arguments call for something that may read lines: the interactive loop or a file. -/
def mayRead : List String → Bool
  | [argument] => !(["examples", "test", "help", "--help", "-h"].contains (Text.lower argument))
  | _ => false

/-- The whole command line. -/
def run (fuel : Nat) (disk : Disk) : List String → Exec Unit
  | [] => do
    printLines
      ["🎉 DoroLang Programming Language v1.1.0", "   Enhanced with Boolean Logic & Conditionals!"]
    runSamples fuel
    printLine ("\n" ++ rule '=' 70)
    printLines usage
  | [argument] => runArgument fuel disk argument
  | _ => printLines ("❌ Too many arguments" :: usage)

end ScriptStudio.CommandLine
