/-!
# Paths

A path is names with slashes between them. Its tidy form has no empty names, no single dots and no
slash at the end; two dots stay, and so do exactly two slashes at the start.

These are `basename`, and of a `Path` the text, `/`, `name`, `parent`, `suffix` and `with_name`.
-/

namespace ScriptStudio

namespace Path

/-- The pieces of a text between its slashes. -/
def pieces (path : String) : List String :=
  (path.toList.splitOnP (· == '/')).map String.ofList

/-- The path begins at the root of all paths. -/
def isAbsolute (path : String) : Bool := path.toList.head? == some '/'

/-- The steps of a path: its pieces without the empty ones. -/
def steps (path : String) : List String := (pieces path).filter (· != "")

/-- The names of a path: its steps without the single dots. -/
def names (path : String) : List String := (steps path).filter (· != ".")

/-- A slash ends the path. -/
def endsWithSlash (path : String) : Bool := path.toList.getLast? == some '/'

/-- How many slashes a path begins with. More than two count as one. -/
def slashes (path : String) : Nat :=
  let count := (path.toList.takeWhile (· == '/')).length
  if count ≤ 2 then count else 1

/-- The text of names behind slashes. -/
def ofNames (slashes : Nat) (names : List String) : String :=
  if slashes = 0 && names.isEmpty then "."
  else String.ofList (List.replicate slashes '/') ++ "/".intercalate names

/-- The tidy form of a path. -/
def tidy (path : String) : String := ofNames (slashes path) (names path)

/-- One path below another. A path that begins at the root stands for itself. -/
def join (folder path : String) : String :=
  if isAbsolute path then tidy path
  else ofNames (slashes folder) (names folder ++ names path)

/-- What follows the last slash. -/
def baseName (path : String) : String := (pieces path).getLastD ""

/-- The last name. -/
def lastName (path : String) : String := (names path).getLastD ""

/-- The path without its last name. -/
def parent (path : String) : String := ofNames (slashes path) (names path).dropLast

/-- The ending of the last name from its last dot on. A dot at the start or at the end begins no
ending. -/
def ending (path : String) : String :=
  let name := (lastName path).toList
  let after := (name.reverse.takeWhile (· != '.')).reverse
  let before := name.take (name.length - after.length - 1)
  if name.contains '.' && !before.isEmpty && !after.isEmpty then String.ofList ('.' :: after)
  else ""

/-- The name may take the place of a last name: it is one name and has no slash at its end. -/
def isSingleName (name : String) : Bool :=
  !isAbsolute name && (names name).length == 1 && !endsWithSlash name

/-- The path with its last name replaced. -/
def withName (path name : String) : String :=
  let before := (names path).dropLast
  if before.isEmpty then String.ofList (List.replicate (slashes path) '/') ++ name
  else ofNames (slashes path) before ++ "/" ++ name

end Path

end ScriptStudio
