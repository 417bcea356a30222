/-!
# Tokens

A token is a lexeme with its kind and the place where it starts. Lines and columns count from one,
and columns count code points.

Tokens are those of `TokenType` and `Token`.
-/

namespace ScriptStudio

/-- What a token is. -/
inductive TokenKind where
  | number
  | string
  | identifier
  | sayKw
  | kasKw
  | ifKw
  | whileKw
  | forKw
  | functionKw
  | returnKw
  | inputKw
  | elseKw
  | trueKw
  | falseKw
  | andKw
  | orKw
  | notKw
  | assign
  | plus
  | minus
  | times
  | divide
  | modulo
  | equal
  | notEqual
  | less
  | greater
  | lessEqual
  | greaterEqual
  | leftParen
  | rightParen
  | leftBrace
  | rightBrace
  | comma
  | newline
  | endOfFile
  | unknown
deriving DecidableEq

/-- The name of a kind in listings and messages. -/
def TokenKind.name : TokenKind → String
  | .number => "NUMBER"
  | .string => "STRING"
  | .identifier => "IDENTIFIER"
  | .sayKw => "SAY"
  | .kasKw => "KAS"
  | .ifKw => "IF"
  | .whileKw => "WHILE"
  | .forKw => "FOR"
  | .functionKw => "FUNCTION"
  | .returnKw => "RETURN"
  | .inputKw => "INPUT"
  | .elseKw => "ELSE"
  | .trueKw => "TRUE"
  | .falseKw => "FALSE"
  | .andKw => "AND"
  | .orKw => "OR"
  | .notKw => "NOT"
  | .assign => "ASSIGN"
  | .plus => "PLUS"
  | .minus => "MINUS"
  | .times => "MULTIPLY"
  | .divide => "DIVIDE"
  | .modulo => "MODULO"
  | .equal => "EQ"
  | .notEqual => "NEQ"
  | .less => "LT"
  | .greater => "GT"
  | .lessEqual => "LTE"
  | .greaterEqual => "GTE"
  | .leftParen => "LPAREN"
  | .rightParen => "RPAREN"
  | .leftBrace => "LBRACE"
  | .rightBrace => "RBRACE"
  | .comma => "COMMA"
  | .newline => "NEWLINE"
  | .endOfFile => "EOF"
  | .unknown => "UNKNOWN"

/-- All kinds. -/
def TokenKind.all : List TokenKind :=
  [.number, .string, .identifier, .sayKw, .kasKw, .ifKw, .whileKw, .forKw, .functionKw, .returnKw,
    .inputKw, .elseKw, .trueKw, .falseKw, .andKw, .orKw, .notKw, .assign, .plus, .minus, .times,
    .divide, .modulo, .equal, .notEqual, .less, .greater, .lessEqual, .greaterEqual, .leftParen,
    .rightParen, .leftBrace, .rightBrace, .comma, .newline, .endOfFile, .unknown]

/-- The kind of a name. -/
def TokenKind.ofName? (name : String) : Option TokenKind :=
  TokenKind.all.find? fun kind => kind.name == name

/-- A line and a column, both counted from one. -/
structure Place where
  line : Nat
  column : Nat
deriving DecidableEq

/-- The first place of a text. -/
def Place.start : Place := ⟨1, 1⟩

/-- The place after one character. -/
def Place.next (place : Place) (c : Char) : Place :=
  if c = '\n' then ⟨place.line + 1, 1⟩ else ⟨place.line, place.column + 1⟩

/-- The place after a text. -/
def Place.advance (place : Place) (text : List Char) : Place := text.foldl Place.next place

/-- A lexeme, its kind and its place. -/
structure Token where
  kind : TokenKind
  text : String
  place : Place
deriving DecidableEq

/-- The token in a listing. -/
def Token.listed (token : Token) : String :=
  s!"{token.kind.name}({token.text}) at {token.place.line}:{token.place.column}"

/-- A number with blanks in front up to two characters. -/
def padIndex (n : Nat) : String := if n < 10 then " " ++ n.repr else n.repr

/-- The lines of a listing of tokens. -/
def Token.listing (tokens : List Token) : List String :=
  "=== TOKENS ===" :: tokens.zipIdx.map fun (token, i) => padIndex i ++ ": " ++ token.listed

end ScriptStudio
