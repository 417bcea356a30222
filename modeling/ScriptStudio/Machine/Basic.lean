import ScriptStudio.Program.Basic

/-!
# The machine

A machine holds what a script can change: variables and functions in the order of their first
definition, the record of the lines said, the screen, the input that is still to come, and the two
marks that a return leaves. A run is a step of the machine that ends with a result or with a stop,
and the machine is there in either case.

Variables and functions are those of `Environment`, and input is that of `dorolang_input`.
-/

namespace ScriptStudio

/-- Names with what they are bound to, in the order in which they were first bound. -/
structure Bindings (α : Type) where
  entries : List (String × α)

namespace Bindings

variable {α : Type}

/-- No names. -/
def empty : Bindings α := ⟨[]⟩

/-- What a name is bound to. -/
def get? (bindings : Bindings α) (name : String) : Option α := bindings.entries.lookup name

/-- Binds a name in a list of entries: in place if it is bound, else at the end. -/
def setEntry (name : String) (value : α) : List (String × α) → List (String × α)
  | [] => [(name, value)]
  | entry :: rest =>
    if entry.1 = name then (name, value) :: rest else entry :: setEntry name value rest

/-- Binds a name. -/
def set (bindings : Bindings α) (name : String) (value : α) : Bindings α :=
  ⟨setEntry name value bindings.entries⟩

/-- The names. -/
def names (bindings : Bindings α) : List String := bindings.entries.map (·.1)

/-- No name is bound. -/
def isEmpty (bindings : Bindings α) : Bool := bindings.entries.isEmpty

end Bindings

/-- A function of a script. -/
structure Function where
  name : String
  parameters : List String
  body : Stmt

/-- Where answers to questions come from. -/
inductive Input where
  /-- Lines of a terminal. The question is printed. -/
  | lines (pending : List String)
  /-- Replies in a dialog. The question is shown there, and nothing is the reply when none is
  left. -/
  | replies (pending : List Value)

/-- The state of a machine. -/
structure Machine where
  store : Bindings Value := Bindings.empty
  functions : Bindings Function := Bindings.empty
  /-- The lines said by the program that runs. -/
  record : Array String := #[]
  /-- All that was printed. -/
  screen : String := ""
  input : Input := .lines []
  /-- The questions shown in dialogs. -/
  asked : Array String := #[]
  /-- A return was executed and its function has not ended yet. -/
  returning : Bool := false
  /-- What the last return gave. -/
  returned : Value := .nothing

/-- A step of the machine. -/
abbrev Exec := EStateM Stop Machine

namespace Machine

/-- A machine that reads the lines of a text. -/
def ofInput (pending : List String) : Machine := { input := .lines pending }

/-- Prints a text. -/
def print (text : String) : Exec Unit :=
  modify fun machine => { machine with screen := machine.screen ++ text }

/-- Prints a line. -/
def printLine (line : String) : Exec Unit := do
  print line
  print "\n"

/-- Prints lines. -/
def printLines : List String → Exec Unit
  | [] => pure ()
  | line :: rest => do
    printLine line
    printLines rest

/-- Prints a line and records it. -/
def say (line : String) : Exec Unit := do
  printLine line
  modify fun machine => { machine with record := machine.record.push line }

/-- The line that stands for a break by the user. -/
def breakLine : String := "\x03"

/-- Asks a question. -/
def ask (prompt : String) : Exec Value := do
  match (← get).input with
  | .lines pending =>
    print prompt
    match pending with
    | [] => throw .endOfInput
    | line :: rest =>
      modify fun machine => { machine with input := .lines rest }
      if line = breakLine then throw .interrupted else return .text line
  | .replies pending =>
    modify fun machine => { machine with
      asked := machine.asked.push prompt
      input := .replies pending.tail }
    return pending.headD .nothing

/-- The value of a variable. -/
def lookup (name : String) : Exec Value := do
  match (← get).store.get? name with
  | some value => return value
  | none => throw (.fault (.undefinedVariable name))

/-- The function of a name. -/
def lookupFunction (name : String) : Exec Function := do
  match (← get).functions.get? name with
  | some function => return function
  | none => throw (.fault (.undefinedFunction name))

/-- Binds a variable. -/
def assign (name : String) (value : Value) : Exec Unit :=
  modify fun machine => { machine with store := machine.store.set name value }

/-- Defines a function. -/
def define (function : Function) : Exec Unit :=
  modify fun machine =>
    { machine with functions := machine.functions.set function.name function }

/-- Forgets variables, functions, the record and the marks of a return. -/
def reset : Exec Unit :=
  modify fun machine => { machine with
    store := Bindings.empty
    functions := Bindings.empty
    record := #[]
    returning := false
    returned := .nothing }

/-- A result or a stop as a step. -/
def lift {α : Type} : Except Stop α → Exec α
  | .ok a => pure a
  | .error stop => throw stop

/-- The text of a value. -/
def textOf (value : Value) : Exec String := lift value.saidOrStop

/-- Lists variables and functions. -/
def environmentText (machine : Machine) : Except NumberError String := do
  if machine.store.isEmpty && machine.functions.isEmpty then return "Environment: (empty)"
  let bound ← machine.store.entries.mapM fun (name, value) => do
    return name ++ "=" ++ (← value.said)
  return "Environment: vars=[" ++ ", ".intercalate bound ++ "], funcs=[" ++
    ", ".intercalate machine.functions.names ++ "]"

end Machine

end ScriptStudio
