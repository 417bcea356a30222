import ScriptStudio.Disk.Path
import ScriptStudio.Settings.Datum

/-!
# Names of files

The studio gets the name of a file as a text from the user, or puts it together from a folder and a
name. The two kinds are kept apart: a typed name and a built name are never taken for the same file,
even if they lead to the same place.

They are the values of `current_file` and of `recent_files`.
-/

namespace ScriptStudio

/-- The name of a file. -/
inductive FileName where
  | typed (path : String)
  | built (path : String)
deriving DecidableEq

namespace FileName

/-- Where the name leads. -/
def path : FileName → String
  | .typed path => path
  | .built path => path

/-- The last part of the name. -/
def base (name : FileName) : String := Path.baseName name.path

/-- The name among the settings. -/
def datum : FileName → Datum
  | .typed path => .text path
  | .built path => .path path

/-- The setting that is a name of a file. -/
def ofDatum? : Datum → Option FileName
  | .text path => some (.typed path)
  | .path path => some (.built path)
  | _ => none

end FileName

end ScriptStudio
