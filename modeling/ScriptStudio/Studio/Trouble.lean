import ScriptStudio.Disk.Basic
import ScriptStudio.Settings.Datum

/-!
# What can go wrong in the studio

Most troubles are reported where they arise and end only the action they arise in. Two end
everything: an action that never ends, and a break by the user.
-/

namespace ScriptStudio

/-- Why an action fails. -/
inductive Trouble where
  | disk (error : DiskError)
  /-- The settings file cannot be read. -/
  | settings (message : String)
  | unknownTheme (name : Datum)
  | unhashable (typeName : String)
  | noAttribute (typeName member : String)
  | notIterable (typeName : String)
  | notSubscriptable (typeName : String)
  /-- Something that is no text is sought in a text. -/
  | notInText (typeName : String)
  /-- Something that cannot name a file is looked up. -/
  | noFileName (typeName : String)
  /-- A number is too great, or else too small, to be that of a channel. -/
  | noChannel (tooGreat : Bool)
  /-- Something that is no path is taken for one. -/
  | notPath (typeName : String)
  /-- A built path is to be written. -/
  | unwritablePath
  | invalidName (name : String)
  | emptyName (path : String)
  /-- There is no character on the side of the cursor that is looked at. -/
  | noCharacter
  /-- The cursor is out of view. -/
  | cursorHidden
  /-- A position of the view is asked for and none is given. -/
  | noScrollPosition
  /-- A place in a text is given in a way that has no meaning. -/
  | noPlace
  /-- There is no open editor to act on. -/
  | noEditor
  /-- There is no window to act on. -/
  | noWindow
  | endless
  | interrupted
deriving Inhabited

namespace Trouble

/-- What is said about a trouble. -/
def message : Trouble → String
  | .disk error => error.message
  | .settings message => message
  | .unknownTheme name => name.shown
  | .unhashable typeName => s!"unhashable type: '{typeName}'"
  | .noAttribute typeName member => s!"'{typeName}' object has no attribute '{member}'"
  | .notIterable typeName => s!"argument of type '{typeName}' is not iterable"
  | .notSubscriptable typeName => s!"'{typeName}' object is not subscriptable"
  | .notInText typeName => s!"'in <string>' requires string as left operand, not {typeName}"
  | .noFileName typeName =>
    s!"stat: path should be string, bytes, os.PathLike or integer, not {typeName}"
  | .noChannel tooGreat =>
    if tooGreat then "fd is greater than maximum" else "fd is less than minimum"
  | .notPath typeName => s!"expected str, bytes or os.PathLike object, not {typeName}"
  | .unwritablePath => "Object of type PosixPath is not JSON serializable"
  | .invalidName name => "Invalid name " ++ Text.quoted name
  | .emptyName path => "PosixPath(" ++ Text.quoted path ++ ") has an empty name"
  | .noCharacter => "''"
  | .cursorHidden => "cannot unpack non-iterable NoneType object"
  | .noScrollPosition => "tuple index out of range"
  | .noPlace => "bad text index"
  | .noEditor => "'NoneType' object has no attribute 'text_area'"
  | .noWindow => "list index out of range"
  | .endless => ""
  | .interrupted => ""

/-- Nothing catches the trouble. -/
def isFinal : Trouble → Bool
  | .endless => true
  | .interrupted => true
  | _ => false

end Trouble

end ScriptStudio
