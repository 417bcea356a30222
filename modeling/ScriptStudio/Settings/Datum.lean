import ScriptStudio.Number.Basic
import ScriptStudio.Number.Format
import ScriptStudio.Text.Quoted

/-!
# Data of a settings file

A datum is what a settings file can hold. The studio trusts the file, so that a setting may be a
datum of any kind. A path that the studio has built itself is a datum too, but has no written form.
-/

namespace ScriptStudio

/-- A value in a settings file, or a path built by the studio. -/
inductive Datum where
  | null
  | bool (b : Bool)
  | int (n : Int)
  | float (x : Binary64)
  | text (s : String)
  | list (items : List Datum)
  | object (fields : List (String × Datum))
  | path (built : String)

namespace Datum

/-- The name of the type of a datum in messages. -/
def typeName : Datum → String
  | .null => "NoneType"
  | .bool _ => "bool"
  | .int _ => "int"
  | .float _ => "float"
  | .text _ => "str"
  | .list _ => "list"
  | .object _ => "dict"
  | .path _ => "PosixPath"

/-- The datum counts as something: it is not null, false, zero or empty. -/
def isTruthy : Datum → Bool
  | .null => false
  | .bool b => b
  | .int n => n != 0
  | .float x => !x.isZero
  | .text s => s != ""
  | .list items => !items.isEmpty
  | .object fields => !fields.isEmpty
  | .path _ => true

/-- A scalar as it stands in messages. -/
def shown : Datum → String
  | .null => "None"
  | .bool b => if b then "True" else "False"
  | .int n => (integerText n).toOption.getD ""
  | .float x => x.text
  | .text s => Text.quoted s
  | .list _ => "[...]"
  | .object _ => "\x7b...\x7d"
  | .path built => built

/-- Both are the same text, or both are the same path. A text is never a path. -/
def sameName : Datum → Datum → Bool
  | .text a, .text b => a == b
  | .path a, .path b => a == b
  | _, _ => false

/-- Sets a field in a list of fields: in place if it is there, else at the end. -/
def setField (name : String) (value : Datum) : List (String × Datum) → List (String × Datum)
  | [] => [(name, value)]
  | field :: rest =>
    if field.1 = name then (name, value) :: rest else field :: setField name value rest

end Datum

end ScriptStudio
