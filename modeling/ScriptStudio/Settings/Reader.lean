import ScriptStudio.Number.Reading
import ScriptStudio.Settings.Datum

/-!
# Reading settings

The text of a settings file is one value: a literal word, a number, a text in double quotes, a list
in square brackets, or an object in braces whose names are texts. White space may stand between the
parts. A text that is none is refused with the fault met first and its place.

The reader goes along what is left of the text. A fault carries how much was left when it was met.

This is `load`, which `load_settings` uses.
-/

namespace ScriptStudio

/-- What is wrong with the text of a settings file. -/
inductive ReadFault where
  | expectingValue
  | expectingName
  | expectingColon
  | expectingComma
  | unterminated
  | controlCharacter
  | badEscape
  | badUnicodeEscape
  | extraData
  | byteOrderMark
  | tooManyDigits (count : Nat)
deriving DecidableEq

/-- The wording of a fault. -/
def ReadFault.wording : ReadFault → String
  | .expectingValue => "Expecting value"
  | .expectingName => "Expecting property name enclosed in double quotes"
  | .expectingColon => "Expecting ':' delimiter"
  | .expectingComma => "Expecting ',' delimiter"
  | .unterminated => "Unterminated string starting at"
  | .controlCharacter => "Invalid control character at"
  | .badEscape => "Invalid \\escape"
  | .badUnicodeEscape => "Invalid \\uXXXX escape"
  | .extraData => "Extra data"
  | .byteOrderMark => "Unexpected UTF-8 BOM (decode using utf-8-sig)"
  | .tooManyDigits count =>
    s!"Exceeds the limit ({integerDigitLimit} digits) for integer string conversion: value has " ++
      s!"{count} digits; use sys.set_int_max_str_digits() to increase the limit"

/-- A fault and how many characters were left where it was met. -/
structure ReadError where
  fault : ReadFault
  left : Nat
deriving DecidableEq

/-- The message about an error in a text. All but one name the line, the column and the offset. -/
def ReadError.message (text : List Char) (error : ReadError) : String :=
  match error.fault with
  | .tooManyDigits _ => error.fault.wording
  | fault =>
    let offset := text.length - error.left
    let before := text.take offset
    let line := 1 + before.count '\n'
    let column := 1 + (before.reverse.takeWhile (· != '\n')).length
    fault.wording ++ s!": line {line} column {column} (char {offset})"

namespace SettingsReader

/-- White space between the parts of a value. -/
def isSpace (c : Char) : Bool := c == ' ' || c == '\t' || c == '\n' || c == '\r'

/-- Drops white space. -/
def skip (chars : List Char) : List Char := chars.dropWhile isSpace

/-- Fails where the given characters are left. -/
def fail {α : Type} (fault : ReadFault) (chars : List Char) : Except ReadError α :=
  .error ⟨fault, chars.length⟩

/-- The value of a hexadecimal digit. -/
def hexValue? (c : Char) : Option Nat :=
  if c.isDigit then some (c.toNat - 48)
  else if 'a' ≤ c && c ≤ 'f' then some (c.toNat - 87)
  else if 'A' ≤ c && c ≤ 'F' then some (c.toNat - 55)
  else none

/-- The number of four hexadecimal digits at the start. -/
def hexUnit? : List Char → Option Nat
  | a :: b :: c :: d :: _ => do
    return 4096 * (← hexValue? a) + 256 * (← hexValue? b) + 16 * (← hexValue? c) + (← hexValue? d)
  | _ => none

/-- What a character stands for after a backslash. -/
def escaped? (c : Char) : Option Char :=
  match c with
  | '"' => some '"'
  | '\\' => some '\\'
  | '/' => some '/'
  | 'b' => some '\x08'
  | 'f' => some '\x0c'
  | 'n' => some '\n'
  | 'r' => some '\r'
  | 't' => some '\t'
  | _ => none

/-- The unit begins a pair of surrogates. -/
def isHighSurrogate (unit : Nat) : Bool := 0xd800 ≤ unit && unit ≤ 0xdbff

/-- The unit ends a pair of surrogates. -/
def isLowSurrogate (unit : Nat) : Bool := 0xdc00 ≤ unit && unit ≤ 0xdfff

/-- The character of a unit. A surrogate alone is none and becomes the replacement character. -/
def unitChar (unit : Nat) : Char :=
  if 0xd800 ≤ unit && unit ≤ 0xdfff then Char.ofNat 0xfffd else Char.ofNat unit

/-- The second half of a pair of surrogates, written as an escape with something after it. -/
def secondUnit? (chars : List Char) : Option (Except ReadError Nat) :=
  match chars with
  | '\\' :: 'u' :: rest =>
    if rest.length < 5 then none
    else
      match hexUnit? rest with
      | some unit => some (.ok unit)
      | none => some (fail .badUnicodeEscape ('u' :: rest))
  | _ => none

/-- The character of an escape with four hexadecimal digits, and what follows it. The argument
begins after the letter `u`, and something has to follow the digits. -/
def unicodeEscape (rest : List Char) : Except ReadError (Char × List Char) :=
  if rest.length < 5 then fail .badUnicodeEscape ('u' :: rest)
  else
    match hexUnit? rest with
    | none => fail .badUnicodeEscape ('u' :: rest)
    | some unit =>
      let after := rest.drop 4
      if isHighSurrogate unit then
        match secondUnit? after with
        | none => .ok (unitChar unit, after)
        | some (.error error) => .error error
        | some (.ok second) =>
          if isLowSurrogate second then
            .ok (Char.ofNat (0x10000 + (unit - 0xd800) * 0x400 + (second - 0xdc00)), after.drop 6)
          else .ok (unitChar unit, after)
      else .ok (unitChar unit, after)

/-- The rest of a text in quotes, and what follows the closing quote. `opened` is how much was left
at the opening quote, and `read` holds the characters so far in reverse. -/
def stringTail (opened : Nat) :
    (fuel : Nat) → (read : List Char) → List Char → Except ReadError (String × List Char)
  | 0, _, _ => .error ⟨.unterminated, opened⟩
  | _ + 1, _, [] => .error ⟨.unterminated, opened⟩
  | fuel + 1, read, c :: rest =>
    if c == '"' then .ok (String.ofList read.reverse, rest)
    else if c == '\\' then
      match rest with
      | [] => .error ⟨.unterminated, opened⟩
      | 'u' :: after => do
        let (char, after) ← unicodeEscape after
        stringTail opened fuel (char :: read) after
      | e :: after =>
        match escaped? e with
        | some char => stringTail opened fuel (char :: read) after
        | none => fail .badEscape (c :: rest)
    else if c.toNat < 32 then fail .controlCharacter (c :: rest)
    else stringTail opened fuel (c :: read) rest

/-- The whole part of a number: one zero, or digits that do not begin with one. -/
def wholeLength : List Char → Nat
  | '0' :: _ => 1
  | chars => (chars.takeWhile Char.isDigit).length

/-- The length of a point with digits after it. -/
def fractionLength : List Char → Nat
  | '.' :: rest =>
    match (rest.takeWhile Char.isDigit).length with
    | 0 => 0
    | digits => digits + 1
  | _ => 0

/-- The length of an exponent with its mark, perhaps a sign, and digits. -/
def exponentLength (chars : List Char) : Nat :=
  match chars with
  | mark :: rest =>
    if mark == 'e' || mark == 'E' then
      let signed :=
        match rest with
        | '+' :: _ => 1
        | '-' :: _ => 1
        | _ => 0
      match ((rest.drop signed).takeWhile Char.isDigit).length with
      | 0 => 0
      | digits => 1 + signed + digits
    else 0
  | [] => 0

/-- A number at the start of a text, and what follows it. -/
def number (chars : List Char) : Except ReadError (Datum × List Char) :=
  let signed :=
    match chars with
    | '-' :: _ => 1
    | _ => 0
  let unsigned := chars.drop signed
  let whole := wholeLength unsigned
  if whole == 0 then fail .expectingValue chars
  else
    let fraction := fractionLength (unsigned.drop whole)
    let exponent := exponentLength (unsigned.drop (whole + fraction))
    let length := signed + whole + fraction + exponent
    let written := String.ofList (chars.take length)
    let rest := chars.drop length
    if fraction == 0 && exponent == 0 then
      match integerOfText? written with
      | some n => .ok (.int n, rest)
      | none => fail (.tooManyDigits whole) chars
    else .ok (.float ((Binary64.ofText? written).getD .nan), rest)

/-- The literal words with what they stand for. -/
def words : List (String × Datum) :=
  [("null", .null), ("true", .bool true), ("false", .bool false), ("NaN", .float .nan),
    ("Infinity", .float (.infinite false)), ("-Infinity", .float (.infinite true))]

/-- A literal word at the start of a text, and what follows it. -/
def word? (chars : List Char) : Option (Datum × List Char) :=
  (words.find? fun (word, _) => word.toList.isPrefixOf chars).map fun (word, datum) =>
    (datum, chars.drop word.length)

mutual

/-- A value at the start of a text, and what follows it. -/
def value : (fuel : Nat) → List Char → Except ReadError (Datum × List Char)
  | 0, chars => fail .expectingValue chars
  | _ + 1, [] => fail .expectingValue []
  | fuel + 1, c :: rest =>
    if c == '"' then do
      let (text, rest) ← stringTail (rest.length + 1) (rest.length + 1) [] rest
      return (.text text, rest)
    else if c == '[' then
      match skip rest with
      | ']' :: after => .ok (.list [], after)
      | inner => do
        let (items, after) ← items fuel inner
        return (.list items, after)
    else if c == '\x7b' then
      match skip rest with
      | '\x7d' :: after => .ok (.object [], after)
      | inner => do
        let (fields, after) ← fields fuel [] inner
        return (.object fields, after)
    else
      match word? (c :: rest) with
      | some result => .ok result
      | none => number (c :: rest)

/-- The items of a list up to its closing bracket. -/
def items : (fuel : Nat) → List Char → Except ReadError (List Datum × List Char)
  | 0, chars => fail .expectingValue chars
  | fuel + 1, chars => do
    let (first, rest) ← value fuel chars
    match skip rest with
    | ']' :: after => return ([first], after)
    | ',' :: after =>
      let (more, rest) ← items fuel (skip after)
      return (first :: more, rest)
    | other => fail .expectingComma other

/-- The fields of an object up to its closing brace, added to those before. A name that comes again
keeps its place and takes the later value. -/
def fields : (fuel : Nat) → List (String × Datum) → List Char →
    Except ReadError (List (String × Datum) × List Char)
  | 0, _, chars => fail .expectingName chars
  | fuel + 1, before, chars =>
    match chars with
    | '"' :: rest => do
      let (name, rest) ← stringTail (rest.length + 1) (rest.length + 1) [] rest
      match skip rest with
      | ':' :: rest =>
        let (datum, rest) ← value fuel (skip rest)
        let known := Datum.setField name datum before
        match skip rest with
        | '\x7d' :: after => return (known, after)
        | ',' :: after => fields fuel known (skip after)
        | other => fail .expectingComma other
      | other => fail .expectingColon other
    | other => fail .expectingName other

end

/-- The value that a whole text is. -/
def document (chars : List Char) : Except ReadError Datum :=
  if chars.head? == some (Char.ofNat 0xfeff) then fail .byteOrderMark chars
  else do
    let (datum, rest) ← value (2 * chars.length + 2) (skip chars)
    match skip rest with
    | [] => return datum
    | extra => fail .extraData extra

end SettingsReader

/-- Reads the text of a settings file. The failure is the message about it. -/
def Datum.ofText (text : String) : Except String Datum :=
  (SettingsReader.document text.toList).mapError (·.message text.toList)

end ScriptStudio
