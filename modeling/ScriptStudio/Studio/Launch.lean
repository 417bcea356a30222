import ScriptStudio.Console.Session
import ScriptStudio.Studio.Session

/-!
# Launching the studio

The studio is launched with a banner, and a start that fails is explained. Before that, the files
that the language is made of are looked for.

These are `main` and `check_and_import_dorolang`.
-/

namespace ScriptStudio

namespace Launch

/-- The files that the language is made of. -/
def parts : List String := ["lexer.py", "parser.py", "interpreter.py"]

/-- The parts that are missing on a disk. -/
def missingParts (disk : Disk) : List String := parts.filter fun part => !disk.exists? part

/-- What is printed about the parts. -/
def partsReport (disk : Disk) : List String :=
  ["Checking DoroLang modules...",
    match missingParts disk with
    | [] => "✅ All DoroLang modules successfully loaded!"
    | missing =>
      "❌ Error loading DoroLang modules: Missing files: " ++ ", ".intercalate missing]

/-- Prints lines. -/
def printLines : List String → Act Unit
  | [] => return ()
  | line :: rest => do
    Studio.printLine line
    printLines rest

/-- The banner. -/
def banner : List String :=
  [rule '=' 60, "🚀 LAUNCHING DOROLANG IDE", rule '=' 60, "✅ Tkinter available",
    "\nCreating Enhanced IDE instance..."]

/-- Advice after a start that failed. -/
def advice : List String :=
  ["\n💡 Possible solutions:",
    "1. Make sure lexer.py, parser.py, interpreter.py are in the same folder",
    "2. Check file permissions",
    "3. Try running from command line: python dorolang_ide.py",
    "4. Check Python version (3.6+ required)"]

/-- Starts the studio and stays with it as long as it runs. -/
def startAndStay (styles : List String) (mainLoop : Act Unit) : Act (Option Nat) := do
  Studio.start styles
  Studio.printLine "Enhanced IDE created successfully, starting..."
  Studio.printLine "Starting main application loop..."
  mainLoop
  Studio.printLine "Enhanced IDE finished."
  return none

/-- Explains why the studio did not start. The result is the code of the failure. -/
def explain (trouble : Trouble) : Act (Option Nat) := do
  Studio.printLine ("❌ CRITICAL ERROR: " ++ trouble.message)
  Studio.printLine "\nFull error traceback:"
  Studio.tell .error "Critical Error Enhanced DoroLang IDE"
    ("Critical error launching Enhanced IDE:\n\nError: " ++ trouble.message)
  printLines advice
  return some 1

/-- Launches the studio. The result is the code of a failure. -/
def run (styles : List String) (mainLoop : Act Unit) : Act (Option Nat) := do
  printLines banner
  Studio.attempt (startAndStay styles mainLoop) explain

end Launch

end ScriptStudio
