import ScriptStudio.Text.Digit
import ScriptStudio.Text.Word
import ScriptStudio.Token.Basic

/-!
# Lexical patterns

A pattern looks at the first character of a text and at what follows it, and says how many of the
following characters belong to its lexeme. The patterns are tried in order and the first that
matches decides: reserved words before names, and symbols of two characters before symbols of one.

The table of them is `token_patterns` of `Lexer`.
-/

namespace ScriptStudio

/-- A kind of token and how its lexemes begin a text. -/
structure Pattern where
  kind : TokenKind
  /-- How many characters after the first belong to the lexeme, if there is one. -/
  tail? : Char → List Char → Option Nat

namespace Pattern

/-- A fixed spelling. -/
def spelled (word : List Char) (c : Char) (rest : List Char) : Option Nat :=
  match word with
  | [] => none
  | first :: more => if first = c && more.isPrefixOf rest then some more.length else none

/-- No word character stands at the front. -/
def atBoundary : List Char → Bool
  | [] => true
  | c :: _ => !Text.isWord c

/-- A fixed spelling with no word character after it. -/
def reserved (word : List Char) (c : Char) (rest : List Char) : Option Nat :=
  match spelled word c rest with
  | some length => if atBoundary (rest.drop length) then some length else none
  | none => none

/-- Digits, then an optional point and more digits. -/
def numeral (c : Char) (rest : List Char) : Option Nat :=
  if Text.isDecimal c then
    let whole := (rest.takeWhile Text.isDecimal).length
    match rest.dropWhile Text.isDecimal with
    | '.' :: more => some (whole + 1 + (more.takeWhile Text.isDecimal).length)
    | _ => some whole
  else none

/-- The length of a quoted text after its opening quote, closing quote included. A backslash takes
the next character with it, and that character is no line feed. -/
def closing? (quote : Char) : List Char → Option Nat
  | [] => none
  | '\\' :: escaped :: rest =>
    if escaped = '\n' then none else (closing? quote rest).map (· + 2)
  | c :: rest =>
    if c = quote then some 1
    else if c = '\\' then none
    else (closing? quote rest).map (· + 1)

/-- A text between two quotes. -/
def quotation (quote : Char) (c : Char) (rest : List Char) : Option Nat :=
  if c = quote then closing? quote rest else none

/-- A name of ASCII letters, digits and underscores. -/
def name (c : Char) (rest : List Char) : Option Nat :=
  if Text.startsName c then some (rest.takeWhile Text.continuesName).length else none

end Pattern

/-- The reserved words. -/
def reservedWords : List (String × TokenKind) :=
  [("say", .sayKw), ("kas", .kasKw), ("if", .ifKw), ("while", .whileKw), ("for", .forKw),
    ("function", .functionKw), ("return", .returnKw), ("input", .inputKw), ("else", .elseKw),
    ("true", .trueKw), ("false", .falseKw), ("and", .andKw), ("or", .orKw), ("not", .notKw)]

/-- The symbols, the longer ones first. -/
def symbols : List (String × TokenKind) :=
  [("==", .equal), ("!=", .notEqual), ("<=", .lessEqual), (">=", .greaterEqual), ("=", .assign),
    ("+", .plus), ("-", .minus), ("*", .times), ("/", .divide), ("%", .modulo), ("<", .less),
    (">", .greater), ("(", .leftParen), (")", .rightParen), ("\x7b", .leftBrace),
    ("\x7d", .rightBrace), (",", .comma), ("\n", .newline)]

/-- All patterns in the order in which they are tried. -/
def patterns : List Pattern :=
  (reservedWords.map fun (word, kind) => ⟨kind, Pattern.reserved word.toList⟩) ++
    [⟨.number, Pattern.numeral⟩, ⟨.string, Pattern.quotation '"'⟩,
      ⟨.string, Pattern.quotation '\''⟩, ⟨.identifier, Pattern.name⟩] ++
    symbols.map fun (word, kind) => ⟨kind, Pattern.spelled word.toList⟩

/-- The kind of the lexeme at the front of a text and its length after the first character. -/
def lexeme? (c : Char) (rest : List Char) : Option (TokenKind × Nat) :=
  patterns.findSome? fun pattern => (pattern.tail? c rest).map (pattern.kind, ·)

end ScriptStudio
