import ScriptStudio.Editor.Transcript
import ScriptStudio.Studio.Basic

/-!
# Recent files

The recent files are a list of names with the latest first. They come from the settings file as they
stand there, so that in place of a list there can be any datum, and each kind of datum fails in its
own way.

These are `update_recent_files_menu` and the part of `_create_new_tab` that notes the file.
-/

namespace ScriptStudio

namespace Recent

/-- How many names are kept. -/
def limit : Nat := 20

/-- How many names the menu looks at. -/
def menuLimit : Nat := 10

/-- A list without the first occurrence of a name. -/
def withoutFirst (name : Datum) : List Datum → List Datum
  | [] => []
  | item :: rest => if item.sameName name then rest else item :: withoutFirst name rest

/-- The trouble of a datum that has members but cannot be changed like a list. -/
def fixed (typeName : String) (isMember : Bool) : Trouble :=
  .noAttribute typeName (if isMember then "remove" else "insert")

/-- Puts a name at the front. -/
def remember (name : FileName) : Datum → Except Trouble Datum
  | .list items => .ok (.list ((name.datum :: withoutFirst name.datum items).take limit))
  | .text text =>
    match name with
    | .typed path => .error (fixed "str" (Transcript.mentions path.toList text.toList))
    | .built _ => .error (.notInText "PosixPath")
  | .object fields =>
    match name with
    | .typed path => .error (fixed "dict" (fields.any (·.1 == path)))
    | .built _ => .error (fixed "dict" false)
  | other => .error (.notIterable other.typeName)

/-- The first names for the menu. -/
def front : Datum → Except Trouble (List Datum)
  | .list items => .ok (items.take menuLimit)
  | .text text => .ok ((text.toList.take menuLimit).map fun c => .text (String.ofList [c]))
  | .object _ => .error (.unhashable "slice")
  | other => .error (.notSubscriptable other.typeName)

/-- A number is that of an open channel of the process: its input, its output or its error
output. -/
def isChannel (n : Int) : Except Trouble Bool :=
  if 2147483647 < n then .error (.noChannel true)
  else if n < -2147483648 then .error (.noChannel false)
  else .ok (0 ≤ n && n ≤ 2)

/-- Something exists under a name. Numbers stand for channels. -/
def doesExist (disk : Disk) : Datum → Except Trouble Bool
  | .text path => .ok (disk.exists? path)
  | .path path => .ok (disk.exists? path)
  | .int n => isChannel n
  | .bool _ => .ok true
  | other => .error (.noFileName other.typeName)

/-- The names under which something exists. -/
def existing (disk : Disk) : List Datum → Except Trouble (List Datum)
  | [] => .ok []
  | name :: rest => do
    let here ← doesExist disk name
    let others ← existing disk rest
    return if here then name :: others else others

/-- The entries for names, as far as they are names of files, and the trouble with the first that is
none. -/
def entries : List Datum → List RecentItem × Option Trouble
  | [] => ([], none)
  | item :: rest =>
    match FileName.ofDatum? item with
    | none => ([], some (.notPath item.typeName))
    | some name =>
      let (others, trouble) := entries rest
      (.file name :: others, trouble)

/-- The menu of recent files, and what went wrong with it. -/
def menu (disk : Disk) (recent : Datum) : List RecentItem × Option Trouble :=
  if recent.isTruthy then
    match front recent >>= existing disk with
    | .error trouble => ([], some trouble)
    | .ok [] => ([.nothing], none)
    | .ok names => entries names
  else ([.nothing], none)

end Recent

namespace Studio

/-- Brings the menu of recent files up to date. -/
def refreshRecentMenu : Act Unit := do
  let studio ← get
  let (items, trouble) := Recent.menu studio.site.disk studio.recentFiles
  modify fun studio => { studio with recentMenu := items }
  match trouble with
  | some trouble => printLine ("Error updating recent files menu: " ++ trouble.message)
  | none => return ()

/-- Puts a file at the front of the recent files. -/
def rememberFile (name : FileName) : Act Unit := do
  let recent ← orTrouble (Recent.remember name (← get).recentFiles)
  modify fun studio => { studio with recentFiles := recent }

end Studio

end ScriptStudio
