import ScriptStudio.Machine.Run
import ScriptStudio.Program.Grammar
import ScriptStudio.Studio.Tabs
import ScriptStudio.Token.Scan

/-!
# Running scripts in the studio

The text of an editor is run without the white space around it, and the line of an error counts from
the first line of what was run. A line of the interactive console is run as it stands if it begins
like a statement; otherwise it is taken for an expression to say.

These are `run_code`, `run_selection`, `execute_interactive_line`, `_execute_code`,
`_highlight_error_line`, `check_syntax`, `clear_console` and `reset_interpreter`.
-/

namespace ScriptStudio

namespace Running

/-- The sign of an error in the output of a script. -/
def errorSign : Char := '❌'

/-- The line bears the sign of an error. -/
def bearsError (line : String) : Bool := line.toList.contains errorSign

/-- Takes away every sign of an error that a space follows, with that space. -/
def withoutSigns : List Char → List Char
  | [] => []
  | [c] => [c]
  | c :: d :: rest =>
    if c == errorSign && d == ' ' then withoutSigns rest else c :: withoutSigns (d :: rest)

/-- Why a text could not be run: what is written about it, what is printed, and the line where it
was found. -/
structure Failure where
  written : String
  printed : String
  line : Option Nat

/-- A lexical error. -/
def Failure.ofLex (error : LexError) : Failure :=
  ⟨s!"Lexer error at line {error.place.line}, column {error.place.column}: " ++ error.detail,
    error.message, some error.place.line⟩

/-- A failure to read a program. -/
def Failure.ofParse : ParseFailure → Failure
  | .refused error =>
    let place := error.token.place
    ⟨s!"Syntax error at line {place.line}, column {place.column}: " ++ error.detail,
      error.message, some place.line⟩
  | failure => ⟨"Unexpected error: " ++ failure.message, failure.message, none⟩

/-- A stop of the machine. -/
def Failure.ofStop : Stop → Failure
  | .fault fault => ⟨"Runtime error: " ++ fault.message, fault.message, none⟩
  | stop => ⟨"Unexpected error: " ++ stop.message, stop.message, none⟩

/-- Reads a program. -/
def program (code : String) : Except Failure Program := do
  let tokens ← (tokenize code).mapError Failure.ofLex
  (Program.ofTokens tokens).mapError Failure.ofParse

/-- The words that a line must begin with to be taken for a statement. -/
def statementOpenings : List String := ["say", "kas", "if"]

/-- The line begins like a statement. -/
def looksLikeStatement (line : String) : Bool :=
  let chars := line.toList.dropWhile Text.isBlank
  statementOpenings.any fun word => word.toList.isPrefixOf chars

/-- The code for a line of the interactive console. -/
def codeOfLine (line : String) : String :=
  if looksLikeStatement line then line else "say " ++ line

end Running

namespace Studio

open Running

/-- Marks the line of an error in the current editor. -/
def markErrorLine (line : Nat) : Act Unit := do
  match (← get).current? with
  | some (id, _) => changeEditor id (·.markError line)
  | none => return ()

/-- Reports a failure. -/
def reportFailure (failure : Failure) : Act Unit := do
  write (·.error failure.written)
  match failure.line with
  | some line => markErrorLine line
  | none => return ()

/-- Writes a line of output. -/
def writeOutput (interactive : Bool) (line : String) : Act Unit :=
  if bearsError line && !interactive then write (·.write (line ++ "\n") "error")
  else write (·.write (String.ofList (withoutSigns line.toList) ++ "\n") Transcript.plainTag)

/-- Writes lines of output. -/
def writeOutputs (interactive : Bool) : List String → Act Unit
  | [] => return ()
  | line :: rest => do
    writeOutput interactive line
    writeOutputs interactive rest

/-- Writes what is left in memory after a run. -/
def writeSummary : Act Unit := do
  let count := (← get).machine.store.entries.length
  if count != 0 then write (·.info s!"Variables in memory: {count}")
  write (·.success "Execution completed!")

/-- Reports a failure of a run, which is also printed. -/
def reportRun (failure : Failure) : Act Unit := do
  reportFailure failure
  printLine ("Error executing code: " ++ failure.printed)

/-- Runs a program. -/
def runProgram (interactive : Bool) (program : Program) : Act Unit := do
  match ← onMachine (Machine.interpret Machine.ampleFuel program) with
  | .error .interrupted => throw .interrupted
  | .error .exhausted => throw .endless
  | .error stop => reportRun (.ofStop stop)
  | .ok output =>
    writeOutputs interactive output
    if !interactive then writeSummary

/-- Runs code. In a demonstration only the length of the code is told. -/
def execute (interactive : Bool) (code : String) : Act Unit := do
  if (← get).isDemo then
    write (·.write s!"DEMO MODE: Received code {code.length} characters long\n" "warning")
  else
    match program code with
    | .error failure => reportRun failure
    | .ok program => runProgram interactive program

/-- Saves an editor to its file before its text is run. -/
def saveTo (id : Nat) (editor : Editor) (file : FileName) : Act Unit :=
  attempt (do
    writeEditor editor file.path
    changeEditor id fun editor => { editor with isModified := false }
    updateTitle)
  fun trouble => write (·.warning ("Auto-save failed: " ++ trouble.message))

/-- Saves what is modified and has a file. -/
def saveBeforeRun (id : Nat) (editor : Editor) : Act Unit :=
  match editor.file with
  | none => return ()
  | some file => if editor.isModified then saveTo id editor file else return ()

/-- Lets the text of the current editor be run. -/
def run : Act Unit := do
  match (← get).current? with
  | none => write (·.warning "No open files to run!")
  | some (id, editor) =>
    let code := Text.trim editor.text
    if code == "" then write (·.warning "No code to execute!")
    else
      write (·.clear)
      write (·.info "Running program...")
      saveBeforeRun id editor
      enqueue (.execute code)

/-- Runs the selected text. -/
def runSelection : Act Unit := do
  match (← get).current? with
  | none => write (·.warning "No open files to run!")
  | some (_, editor) =>
    match editor.buffer.selection with
    | none => write (·.warning "No selected text!")
    | some (first, last) =>
      let code := String.ofList (editor.buffer.slice first last)
      if Text.trim code == "" then write (·.warning "No selected text!")
      else
        write (·.clear)
        write (·.info "Running selected code...")
        execute false code

/-- Reads the text of the current editor as a program and reports what comes of it. -/
def checkProgram : Act Unit := do
  if (← get).isDemo then write (·.warning "Syntax check unavailable in demo mode")
  else
    match (← get).current? with
    | none => return ()
    | some (id, editor) =>
      let code := Text.trim editor.text
      if code == "" then write (·.warning "No code to check!")
      else
        changeEditor id (·.clearError)
        write (·.info "Checking syntax...")
        match program code with
        | .ok program =>
          write (·.success s!"Syntax correct! Found {program.statements.length} statements")
        | .error failure => reportFailure failure

/-- Empties the output pane. -/
def clearConsole : Act Unit := do
  write (·.clear)
  write (·.info "Console cleared")

/-- Forgets what scripts have left in memory. -/
def resetMachine : Act Unit := do
  discard (onMachine Machine.reset)
  write (·.clear)
  write (·.info "Interpreter variables reset")

/-- Runs a line of the interactive console. -/
def runLine (line : String) : Act Unit := do
  if (← get).isDemo then write (·.warning "Interactive console unavailable in demo mode.")
  else
    write (·.write (">>> " ++ line ++ "\n") "input")
    match Text.lower (Text.trim line) with
    | "clear" => clearConsole
    | "reset" => resetMachine
    | _ => execute true (codeOfLine line)

end Studio

end ScriptStudio
