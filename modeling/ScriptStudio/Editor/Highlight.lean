import ScriptStudio.Text.Digit
import ScriptStudio.Text.Lines
import ScriptStudio.Text.Word

/-!
# Syntax highlighting

The text is cut into lines in the wide sense, and every line is cut into lexemes from left to right.
At each character the kinds of lexeme are tried in a fixed order; a character that begins none of
them stands alone and is not highlighted, and neither are names.

These are the patterns of `SyntaxHighlighter.compile_regex` and the loop of `apply_highlight`.
-/

namespace ScriptStudio

/-- What a highlighted lexeme is. -/
inductive HighlightKind where
  | comment
  | string
  | number
  | boolean
  | logical
  | input
  | keyword
  | operator
  | delimiter
deriving DecidableEq

/-- The name of the kind. -/
def HighlightKind.name : HighlightKind → String
  | .comment => "comment"
  | .string => "string"
  | .number => "number"
  | .boolean => "boolean"
  | .logical => "logical"
  | .input => "input"
  | .keyword => "keyword"
  | .operator => "operator"
  | .delimiter => "delimiter"

/-- Every kind. -/
def HighlightKind.all : List HighlightKind :=
  [.comment, .string, .number, .boolean, .logical, .input, .keyword, .operator, .delimiter]

/-- A highlighted stretch of a line: columns count from zero and `stop` is the first one after
it. -/
structure Highlight where
  kind : HighlightKind
  line : Nat
  start : Nat
  stop : Nat
deriving DecidableEq

namespace Highlight

/-- The characters begin with one that is part of a word. -/
def beginsWord : List Char → Bool
  | [] => false
  | c :: _ => Text.isWord c

/-- The length of a quoted text on the line. Nothing escapes a quote. -/
def stringLength? : List Char → Option Nat
  | [] => none
  | quote :: rest =>
    if quote == '"' || quote == '\'' then
      let inner := rest.takeWhile (· != quote)
      if inner.length < rest.length then some (inner.length + 2) else none
    else none

/-- The length of a number: digits, then perhaps a point, then perhaps digits, such that a word ends
or begins where the number ends. Of several lengths the greatest counts. -/
def numberLength? (afterWord : Bool) (chars : List Char) : Option Nat :=
  let whole := (chars.takeWhile Text.isDecimal).length
  let rest := chars.drop whole
  if afterWord || whole == 0 then none
  else
    match rest with
    | '.' :: afterPoint =>
      let fraction := (afterPoint.takeWhile Text.isDecimal).length
      if 0 < fraction && !beginsWord (afterPoint.drop fraction) then some (whole + 1 + fraction)
      else if beginsWord afterPoint then some (whole + 1)
      else some whole
    | _ => if beginsWord rest then none else some whole

/-- The length of the word that stands here, if it is one of the list and stands alone. -/
def wordLength? (afterWord : Bool) (words : List String) (chars : List Char) : Option Nat :=
  let word := chars.takeWhile Text.isWord
  if !afterWord && words.contains (String.ofList word) then some word.length else none

/-- The words for truth values. -/
def booleanWords : List String := ["true", "false"]

/-- The words for logical operations. -/
def logicalWords : List String := ["and", "or", "not"]

/-- The words that begin or join statements. -/
def keywords : List String :=
  ["say", "kas", "if", "else", "while", "for", "function", "return", "to", "step"]

/-- The length of an operator. -/
def operatorLength? : List Char → Option Nat
  | a :: '=' :: _ => if "=!<>".toList.contains a then some 2 else single a
  | a :: _ => single a
  | [] => none
where
  /-- An operator of one character. -/
  single (a : Char) : Option Nat := if "+-*/%=<>".toList.contains a then some 1 else none

/-- The length of a bracket. -/
def delimiterLength? : List Char → Option Nat
  | c :: _ => if "()\x7b\x7d".toList.contains c then some 1 else none
  | [] => none

/-- The length of a comment, which is all that is left of the line. -/
def commentLength? : List Char → Option Nat
  | '#' :: rest => some (rest.length + 1)
  | _ => none

/-- The kind and the length of the highlighted lexeme that stands here. `afterWord` says that the
character before is part of a word. -/
def lexeme? (afterWord : Bool) (chars : List Char) : Option (HighlightKind × Nat) :=
  (commentLength? chars).map (HighlightKind.comment, ·) <|>
  (stringLength? chars).map (HighlightKind.string, ·) <|>
  (numberLength? afterWord chars).map (HighlightKind.number, ·) <|>
  (wordLength? afterWord booleanWords chars).map (HighlightKind.boolean, ·) <|>
  (wordLength? afterWord logicalWords chars).map (HighlightKind.logical, ·) <|>
  (wordLength? afterWord ["input"] chars).map (HighlightKind.input, ·) <|>
  (wordLength? afterWord keywords chars).map (HighlightKind.keyword, ·) <|>
  (operatorLength? chars).map (HighlightKind.operator, ·) <|>
  (delimiterLength? chars).map (HighlightKind.delimiter, ·)

/-- How many characters to pass where no highlighted lexeme stands: a whole name or one
character. -/
def plainLength : List Char → Nat
  | [] => 1
  | c :: rest => if Text.startsName c then 1 + (rest.takeWhile Text.continuesName).length else 1

/-- The last of the next `length` characters is part of a word. -/
def endsWord (chars : List Char) (length : Nat) : Bool :=
  match (chars.take length).getLast? with
  | some c => Text.isWord c
  | none => false

/-- The highlights of a line from a column on. The fuel bounds the number of lexemes. -/
def lineFrom (line : Nat) : (fuel column : Nat) → (afterWord : Bool) → List Char → List Highlight
  | 0, _, _, _ => []
  | _ + 1, _, _, [] => []
  | fuel + 1, column, afterWord, c :: rest =>
    let chars := c :: rest
    match lexeme? afterWord chars with
    | some (kind, length) =>
      ⟨kind, line, column, column + length⟩ ::
        lineFrom line fuel (column + length) (endsWord chars length) (chars.drop length)
    | none =>
      let length := plainLength chars
      lineFrom line fuel (column + length) (endsWord chars length) (chars.drop length)

/-- The highlights of a line. -/
def ofLine (line : Nat) (chars : List Char) : List Highlight :=
  lineFrom line (chars.length + 1) 0 false chars

/-- The highlights of lines, the first of which has the given number. -/
def ofLines : (line : Nat) → List (List Char) → List Highlight
  | _, [] => []
  | line, chars :: rest => ofLine line chars ++ ofLines (line + 1) rest

/-- The highlights of a text. -/
def ofContent (content : List Char) : List Highlight := ofLines 1 (Text.wideLines content)

end Highlight

end ScriptStudio
