import ScriptStudio.Settings.Datum

/-!
# Writing settings

Lists and objects are written with one item on a line, two blanks deeper than their brackets. Texts
stand in double quotes; quotes, backslashes and control characters in them are escaped. A built path
has no written form: writing stops there, and what was written before it stays.

This is `dump`, which `save_settings` uses.
-/

namespace ScriptStudio

namespace SettingsWriter

/-- One character inside quotes. -/
def escape (c : Char) : List Char :=
  if c == '"' || c == '\\' then ['\\', c]
  else if c == '\n' then ['\\', 'n']
  else if c == '\r' then ['\\', 'r']
  else if c == '\t' then ['\\', 't']
  else if c == '\x0c' then ['\\', 'f']
  else if c == '\x08' then ['\\', 'b']
  else if c.toNat < 32 then '\\' :: 'u' :: Text.hexDigits 4 c.toNat
  else [c]

/-- A text in quotes. -/
def quoted (text : String) : String :=
  String.ofList ('"' :: text.toList.flatMap escape ++ ['"'])

/-- A 64-bit number. Those that are not finite are words. -/
def number (x : Binary64) : String :=
  match x with
  | .nan => "NaN"
  | .infinite true => "-Infinity"
  | .infinite false => "Infinity"
  | _ => x.text

/-- The start of a line at a depth. -/
def newLine (depth : Nat) : String := "\n" ++ String.ofList (List.replicate (2 * depth) ' ')

/-- What was written in front of a part and the part. -/
def after (before : String) : Except String String → Except String String
  | .ok written => .ok (before ++ written)
  | .error written => .error (before ++ written)

/-- One part and then another. -/
def followedBy (first second : Except String String) : Except String String :=
  match first with
  | .ok written => after written second
  | .error written => .error written

mutual

/-- The written form of a datum at a depth, or what is written of it before a path in it. -/
def datum (depth : Nat) : Datum → Except String String
  | .null => .ok "null"
  | .bool b => .ok (if b then "true" else "false")
  | .int n => .ok ((integerText n).toOption.getD "")
  | .float x => .ok (number x)
  | .text s => .ok (quoted s)
  | .list [] => .ok "[]"
  | .list (first :: rest) =>
    followedBy (after ("[" ++ newLine (depth + 1)) (items (depth + 1) (first :: rest)))
      (.ok (newLine depth ++ "]"))
  | .object [] => .ok "\x7b\x7d"
  | .object (first :: rest) =>
    followedBy (after ("\x7b" ++ newLine (depth + 1)) (fields (depth + 1) (first :: rest)))
      (.ok (newLine depth ++ "\x7d"))
  | .path _ => .error ""

/-- Items with a comma and a new line between them. -/
def items (depth : Nat) : List Datum → Except String String
  | [] => .ok ""
  | [last] => datum depth last
  | first :: second :: rest =>
    followedBy (datum depth first) (after ("," ++ newLine depth) (items depth (second :: rest)))

/-- Fields with a comma and a new line between them. -/
def fields (depth : Nat) : List (String × Datum) → Except String String
  | [] => .ok ""
  | [(name, value)] => after (quoted name ++ ": ") (datum depth value)
  | (name, value) :: second :: rest =>
    followedBy (after (quoted name ++ ": ") (datum depth value))
      (after ("," ++ newLine depth) (fields depth (second :: rest)))

end

end SettingsWriter

/-- The written form of a datum, or what is written of it before a path in it. -/
def Datum.written (datum : Datum) : Except String String := SettingsWriter.datum 0 datum

end ScriptStudio
