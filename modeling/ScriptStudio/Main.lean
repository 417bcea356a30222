import ScriptStudio.Console.CommandLine

/-!
# The program

Standard input, the file named on the command line and the screen are all that the program touches.

This is `main`.
-/

namespace ScriptStudio

/-- The lines of a stream, without their line feeds. -/
partial def readLines (stream : IO.FS.Stream) (before : Array String) : IO (List String) := do
  let line ← stream.getLine
  if line.isEmpty then return before.toList
  else readLines stream (before ++ (Text.inputLines line).toArray)

/-- What lies at a path of the file system. What is there but cannot be read counts as a closed file
if that is not permitted and as a directory otherwise. -/
def readEntry (path : String) : IO (Option DiskEntry) := do
  try
    let octets ← IO.FS.readBinFile path
    return some (.file octets.toList)
  catch
    | .noFileOrDirectory _ _ _ => return none
    | .permissionDenied _ _ _ => return some (.closed false)
    | _ => return some .directory

/-- The disk as far as the arguments name it. -/
def diskFor : List String → IO Disk
  | [path] => do return ((← readEntry path).map (Disk.ofEntry path)).getD {}
  | _ => return {}

end ScriptStudio

open ScriptStudio in
/-- Runs the command line. -/
def main (args : List String) : IO Unit := do
  let disk ← diskFor args
  let lines ← if CommandLine.mayRead args then readLines (← IO.getStdin) #[] else pure []
  match (CommandLine.run Machine.ampleFuel disk args).run (Machine.ofInput lines) with
  | .ok _ machine => IO.print machine.screen
  | .error stop machine =>
    IO.print machine.screen
    IO.eprintln stop.message
