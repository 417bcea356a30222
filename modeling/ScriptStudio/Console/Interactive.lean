import ScriptStudio.Console.Session
import ScriptStudio.Text.Blank
import ScriptStudio.Text.Lowercase

/-!
# The interactive loop

The loop reads a line, trims it, and either carries out a command or runs the line as a program. It
ends at the exit command, at the end of the input, or at a break by the user.

This is `DoroLang.run_interactive`.
-/

namespace ScriptStudio.Interactive

open Machine

/-- What is shown at the start. -/
def banner : List String :=
  [rule '=' 60, "🎉 DoroLang Interactive Mode v1.1.0", "   Created by Dorofii Karnaukh", rule '-' 60,
    "Commands:", "  Type DoroLang code and press Enter to execute", "  'exit' or 'quit' - exit",
    "  'vars' - show variables", "  'clear' - clear variables", "  'help' - show this help",
    rule '=' 60]

/-- What the help command shows. -/
def helpLines : List String :=
  ["DoroLang syntax:", "  say \"text\"        - print text",
    "  kas var = value    - assign variable", "  if (condition) \x7b \x7d - conditional",
    "  true, false        - boolean values", "  and, or, not       - logical operators",
    "  Operators: +, -, *, /, %", "  Comparison: ==, !=, <, >, <=, >=",
    "  Parentheses: (expression)", "  Unary: -x, +x, not x"]

/-- A line of the loop. -/
inductive Command where
  | exit
  | showVariables
  | clear
  | help
  | nothing
  | code (source : String)

/-- What a line asks for. Commands are known in any case. -/
def Command.ofLine (line : String) : Command :=
  let trimmed := Text.trim line
  match Text.lower trimmed with
  | "exit" => .exit
  | "quit" => .exit
  | "vars" => .showVariables
  | "clear" => .clear
  | "help" => .help
  | "" => .nothing
  | _ => .code trimmed

/-- Carries out a command. The answer says whether the loop goes on. -/
def carryOut (fuel : Nat) : Command → Exec Bool
  | .exit => do
    printLine "👋 Goodbye!"
    return false
  | .showVariables => do
    let bound := (← get).store.entries
    if bound.isEmpty then printLine "📊 No variables defined"
    else
      printLine "📊 Variables:"
      printVariables bound
    return true
  | .clear => do
    reset
    printLine "🧹 Variables cleared"
    return true
  | .help => do
    printLines helpLines
    return true
  | .nothing => return true
  | .code source => do
    let _ ← runSource fuel false source
    return true

/-- Takes leave of a user who has broken off or has no more lines. The loop does not go on. -/
def farewell : Exec Bool := do
  printLine "\n👋 Goodbye!"
  return false

/-- Reads one line and carries it out. -/
def round (fuel : Nat) : Exec Bool := do
  try
    match ← ask "DoroLang> " with
    | .text line => carryOut fuel (Command.ofLine line)
    | _ => pure true
  catch
    | .interrupted => farewell
    | .endOfInput => farewell
    | stop => throw stop

/-- Goes round until a line ends the loop. Every round takes a line of the input, so that one round
more than there are lines is enough. -/
def loop (fuel : Nat) : (rounds : Nat) → Exec Unit
  | 0 => throw .exhausted
  | rounds + 1 => do
    if ← round fuel then loop fuel rounds

/-- The rounds that an input can last. -/
def roundsFor : Input → Nat
  | .lines pending => pending.length + 1
  | .replies pending => pending.length + 1

/-- The interactive mode. -/
def run (fuel : Nat) : Exec Unit := do
  printLines banner
  loop fuel (roundsFor (← get).input)

end ScriptStudio.Interactive
