import ScriptStudio.Program.Basic
import ScriptStudio.Program.Literal
import ScriptStudio.Text.Quoted
import ScriptStudio.Token.Basic

/-!
# From tokens to programs

The grammar is read by recursive descent over the tokens that are left. Every function takes what is
left and gives a tree with what is left after it, or a failure with what was left when it arose. The
last token is never taken off, so that there is always a token to look at.

The functions carry a measure of fuel that bounds the depth of recursion. `fuelFor` gives enough
for every list of tokens that ends with its only end-of-file token.

There is a function for each of `Parser`: `parse`, `parse_statement` with those for the kinds of
statement, and `parse_expression` down to `parse_primary`.
-/

namespace ScriptStudio

/-- Something the grammar asks for at one place only. -/
inductive Missing where
  | keyword (word : String)
  | counterKeyword
  | variableName
  | assignSign
  | toWord
  | functionName
  | openAfterFunctionName
  | parameterName
  | closeAfterParameters
  | closeBlock
  | openAfterInput
  | closeAfterPrompt
  | closeAfterGroup
  | closeAfterArguments
deriving DecidableEq

/-- The wording of what is missing. -/
def Missing.message : Missing → String
  | .keyword word => s!"Expected '{word}'"
  | .counterKeyword => "Expected 'kas' after 'for'"
  | .variableName => "Expected variable name after 'kas'"
  | .assignSign => "Expected '=' after variable name"
  | .toWord => "Expected 'to' after start value"
  | .functionName => "Expected function name"
  | .openAfterFunctionName => "Expected '(' after function name"
  | .parameterName => "Expected parameter name"
  | .closeAfterParameters => "Expected ')' after parameters"
  | .closeBlock => "Expected '\x7d' to close block"
  | .openAfterInput => "Expected '(' after input"
  | .closeAfterPrompt => "Expected ')' after input prompt"
  | .closeAfterGroup => "Expected ')' after expression"
  | .closeAfterArguments => "Expected ')' after function arguments"

/-- Why a token is refused. -/
inductive Refusal where
  /-- Another kind of token is asked for. -/
  | otherKind (wanted : TokenKind)
  | missing (what : Missing)
  /-- No statement begins with the token. -/
  | noStatement
  /-- No expression begins with the token. -/
  | noExpression
  /-- A wording from outside the grammar. -/
  | worded (message : String)
deriving DecidableEq

/-- A refused token. -/
structure ParseError where
  refusal : Refusal
  token : Token
deriving DecidableEq

/-- What is wrong, without the place. -/
def ParseError.detail (error : ParseError) : String :=
  let text := error.token.text
  match error.refusal with
  | .otherKind wanted => s!"Expected {wanted.name}, got {error.token.kind.name} '{text}'"
  | .missing what => what.message
  | .noStatement => s!"Unexpected token: '{text}'"
  | .noExpression => s!"Unexpected token in expression: '{text}'"
  | .worded message => message

/-- What is wrong and where. -/
def ParseError.message (error : ParseError) : String :=
  let place := error.token.place
  s!"Parse Error: {error.detail} at line {place.line}:{place.column}"

/-- Why reading a program failed. -/
inductive ParseFailure where
  | refused (error : ParseError)
  /-- A number token that is no number. The scanner makes none. -/
  | badNumber (text : String)
  /-- There is no token at all. -/
  | noTokens
  | exhausted
deriving DecidableEq

/-- What is said about a failure. -/
def ParseFailure.message : ParseFailure → String
  | .refused error => error.message
  | .badNumber text => "could not convert string to float: " ++ Text.quoted text
  | .noTokens => "list index out of range"
  | .exhausted => "out of fuel"

/-- A failure and the tokens that were left when it arose. -/
structure ParseStop where
  failure : ParseFailure
  rest : List Token

namespace Grammar

/-- The token to look at. -/
def peek (tokens : List Token) : Token := tokens.headD ⟨.endOfFile, "", ⟨0, 0⟩⟩

/-- Takes one token off, but never the last. -/
def advance : List Token → List Token
  | [] => []
  | [token] => [token]
  | _ :: token :: rest => token :: rest

/-- The token to look at is of one of the kinds. -/
def isAt (kinds : List TokenKind) (tokens : List Token) : Bool :=
  kinds.contains (peek tokens).kind

/-- The token to look at is the given name. Some words are reserved at some places only. -/
def isAtWord (word : String) (tokens : List Token) : Bool :=
  isAt [.identifier] tokens && (peek tokens).text == word

/-- Refuses the token to look at. -/
def refuse {α : Type} (refusal : Refusal) (tokens : List Token) : Except ParseStop α :=
  .error ⟨.refused ⟨refusal, peek tokens⟩, tokens⟩

/-- Takes a token of a kind. -/
def take (kind : TokenKind) (refusal : Refusal) (tokens : List Token) :
    Except ParseStop (Token × List Token) :=
  if (peek tokens).kind = kind then .ok (peek tokens, advance tokens) else refuse refusal tokens

/-- Drops line ends. At most `fuel` of them. -/
def skipNewlines : (fuel : Nat) → List Token → List Token
  | 0, tokens => tokens
  | fuel + 1, tokens =>
    if isAt [.newline] tokens then skipNewlines fuel (advance tokens) else tokens

/-- The levels of binary operators, from loose to tight. -/
inductive Level where
  | disjunction
  | conjunction
  | equality
  | comparison
  | addition
  | multiplication
deriving DecidableEq

/-- The operators of a level. -/
def Level.kinds : Level → List TokenKind
  | .disjunction => [.orKw]
  | .conjunction => [.andKw]
  | .equality => [.equal, .notEqual]
  | .comparison => [.less, .greater, .lessEqual, .greaterEqual]
  | .addition => [.plus, .minus]
  | .multiplication => [.times, .divide, .modulo]

/-- The next tighter level. Tighter than multiplication there are only unary operators. -/
def Level.tighter? : Level → Option Level
  | .disjunction => some .conjunction
  | .conjunction => some .equality
  | .equality => some .comparison
  | .comparison => some .addition
  | .addition => some .multiplication
  | .multiplication => none

/-- The kinds of the unary operators. -/
def unaryKinds : List TokenKind := [.minus, .plus, .notKw]

mutual

/-- An expression whose loosest operator is of the level or tighter. Operators of one level group to
the left. -/
def binary : (fuel : Nat) → Level → List Token → Except ParseStop (Expr × List Token)
  | 0, _, tokens => .error ⟨.exhausted, tokens⟩
  | fuel + 1, level, tokens => do
    let (left, rest) ← operand fuel level tokens
    binaryTail fuel level left rest

/-- An operand of the level. -/
def operand : (fuel : Nat) → Level → List Token → Except ParseStop (Expr × List Token)
  | 0, _, tokens => .error ⟨.exhausted, tokens⟩
  | fuel + 1, level, tokens =>
    match level.tighter? with
    | some tighter => binary fuel tighter tokens
    | none => unary fuel tokens

/-- The operators of the level that follow a left operand, with their right operands. -/
def binaryTail :
    (fuel : Nat) → Level → Expr → List Token → Except ParseStop (Expr × List Token)
  | 0, _, _, tokens => .error ⟨.exhausted, tokens⟩
  | fuel + 1, level, left, tokens =>
    if isAt level.kinds tokens then do
      let op := BinaryOp.ofSymbol (peek tokens).text
      let (right, rest) ← operand fuel level (advance tokens)
      binaryTail fuel level (.binary left op right) rest
    else .ok (left, tokens)

/-- A unary operator with its operand, or a primary expression. -/
def unary : (fuel : Nat) → List Token → Except ParseStop (Expr × List Token)
  | 0, tokens => .error ⟨.exhausted, tokens⟩
  | fuel + 1, tokens =>
    if isAt unaryKinds tokens then do
      let op := UnaryOp.ofSymbol (peek tokens).text
      let (operand, rest) ← unary fuel (advance tokens)
      return (.unary op operand, rest)
    else primary fuel tokens

/-- A literal, a name, a call, a question or an expression in parentheses. -/
def primary : (fuel : Nat) → List Token → Except ParseStop (Expr × List Token)
  | 0, tokens => .error ⟨.exhausted, tokens⟩
  | fuel + 1, tokens =>
    let token := peek tokens
    let rest := advance tokens
    match token.kind with
    | .inputKw => do
      let (_, rest) ← take .leftParen (.missing .openAfterInput) rest
      if isAt [.rightParen] rest then
        return (.input (.literal .string (.text "")), advance rest)
      let (prompt, rest) ← binary fuel .disjunction rest
      let (_, rest) ← take .rightParen (.missing .closeAfterPrompt) rest
      return (.input prompt, rest)
    | .leftParen => do
      let (inner, rest) ← binary fuel .disjunction rest
      let (_, rest) ← take .rightParen (.missing .closeAfterGroup) rest
      return (.group inner, rest)
    | .number =>
      match Binary64.ofText? token.text with
      | some x => .ok (.literal .number (.float x), rest)
      | none => .error ⟨.badNumber token.text, rest⟩
    | .string => .ok (.literal .string (.text (literalText token.text)), rest)
    | .trueKw => .ok (.literal .boolean (.bool true), rest)
    | .falseKw => .ok (.literal .boolean (.bool false), rest)
    | .identifier =>
      if isAt [.leftParen] rest then do
        let rest := advance rest
        let (arguments, rest) ←
          if isAt [.rightParen] rest then .ok ([], rest) else arguments fuel rest
        let (_, rest) ← take .rightParen (.missing .closeAfterArguments) rest
        return (.call token.text arguments, rest)
      else .ok (.reference token.text, rest)
    | _ => refuse .noExpression tokens

/-- One expression or more with commas between them. -/
def arguments : (fuel : Nat) → List Token → Except ParseStop (List Expr × List Token)
  | 0, tokens => .error ⟨.exhausted, tokens⟩
  | fuel + 1, tokens => do
    let (first, rest) ← binary fuel .disjunction tokens
    if isAt [.comma] rest then
      let (more, rest) ← arguments fuel (advance rest)
      return (first :: more, rest)
    else return ([first], rest)

end

/-- An expression. -/
def expression (fuel : Nat) (tokens : List Token) : Except ParseStop (Expr × List Token) :=
  binary fuel .disjunction tokens

/-- One parameter name or more with commas between them. -/
def parameters : (fuel : Nat) → List Token → Except ParseStop (List String × List Token)
  | 0, tokens => .error ⟨.exhausted, tokens⟩
  | fuel + 1, tokens => do
    let (first, rest) ← take .identifier (.missing .parameterName) tokens
    if isAt [.comma] rest then
      let (more, rest) ← parameters fuel (advance rest)
      return (first.text :: more, rest)
    else return ([first.text], rest)

/-- The word `say` and an expression. -/
def sayStatement (fuel : Nat) (tokens : List Token) : Except ParseStop (Stmt × List Token) := do
  let (_, rest) ← take .sayKw (.otherKind .sayKw) tokens
  let (e, rest) ← expression fuel rest
  return (.say e, rest)

/-- The word `kas`, a name, an equals sign and an expression. -/
def assignStatement (fuel : Nat) (tokens : List Token) : Except ParseStop (Stmt × List Token) := do
  let (_, rest) ← take .kasKw (.otherKind .kasKw) tokens
  let (name, rest) ← take .identifier (.missing .variableName) rest
  let (_, rest) ← take .assign (.missing .assignSign) rest
  let (e, rest) ← expression fuel rest
  return (.assign name.text e, rest)

/-- The word `return` and, unless a line, a block or the text ends there, an expression. -/
def giveStatement (fuel : Nat) (tokens : List Token) : Except ParseStop (Stmt × List Token) := do
  let (_, rest) ← take .returnKw (.missing (.keyword "return")) tokens
  if isAt [.newline, .rightBrace, .endOfFile] rest then return (.give none, rest)
  let (e, rest) ← expression fuel rest
  return (.give (some e), rest)

mutual

/-- A statement. Its first token decides which. -/
def statement : (fuel : Nat) → List Token → Except ParseStop (Stmt × List Token)
  | 0, tokens => .error ⟨.exhausted, tokens⟩
  | fuel + 1, tokens =>
    match (peek tokens).kind with
    | .functionKw => defineStatement fuel tokens
    | .ifKw => branchStatement fuel tokens
    | .whileKw => loopStatement fuel tokens
    | .forKw => countStatement fuel tokens
    | .returnKw => giveStatement fuel tokens
    | .sayKw => sayStatement fuel tokens
    | .kasKw => assignStatement fuel tokens
    | .leftBrace => blockStatement fuel tokens
    | _ => refuse .noStatement tokens

/-- Statements between braces. Line ends may stand between them. -/
def blockStatement : (fuel : Nat) → List Token → Except ParseStop (Stmt × List Token)
  | 0, tokens => .error ⟨.exhausted, tokens⟩
  | fuel + 1, tokens => do
    let (_, rest) ← take .leftBrace (.otherKind .leftBrace) tokens
    let (body, rest) ← blockItems fuel (skipNewlines rest.length rest)
    let (_, rest) ← take .rightBrace (.missing .closeBlock) rest
    return (.block body, rest)

/-- Statements up to a closing brace or the end. -/
def blockItems : (fuel : Nat) → List Token → Except ParseStop (List Stmt × List Token)
  | 0, tokens => .error ⟨.exhausted, tokens⟩
  | fuel + 1, tokens =>
    if isAt [.rightBrace, .endOfFile] tokens then .ok ([], tokens)
    else do
      let (first, rest) ← statement fuel tokens
      let (more, rest) ← blockItems fuel (skipNewlines rest.length rest)
      return (first :: more, rest)

/-- The word `if`, a condition, a block, and perhaps `else` with a statement. -/
def branchStatement : (fuel : Nat) → List Token → Except ParseStop (Stmt × List Token)
  | 0, tokens => .error ⟨.exhausted, tokens⟩
  | fuel + 1, tokens => do
    let (_, rest) ← take .ifKw (.missing (.keyword "if")) tokens
    let (condition, rest) ← expression fuel rest
    let (thenBranch, rest) ← blockStatement fuel rest
    if isAt [.elseKw] rest then
      let (elseBranch, rest) ← statement fuel (advance rest)
      return (.branch condition thenBranch (some elseBranch), rest)
    else return (.branch condition thenBranch none, rest)

/-- The word `while`, a condition and a block. -/
def loopStatement : (fuel : Nat) → List Token → Except ParseStop (Stmt × List Token)
  | 0, tokens => .error ⟨.exhausted, tokens⟩
  | fuel + 1, tokens => do
    let (_, rest) ← take .whileKw (.missing (.keyword "while")) tokens
    let (condition, rest) ← expression fuel rest
    let (body, rest) ← blockStatement fuel rest
    return (.loop condition body, rest)

/-- The words `for kas`, a name, an equals sign, a start, `to`, a stop, perhaps `step` and a step,
and a block. -/
def countStatement : (fuel : Nat) → List Token → Except ParseStop (Stmt × List Token)
  | 0, tokens => .error ⟨.exhausted, tokens⟩
  | fuel + 1, tokens => do
    let (_, rest) ← take .forKw (.missing (.keyword "for")) tokens
    let (_, rest) ← take .kasKw (.missing .counterKeyword) rest
    let (name, rest) ← take .identifier (.missing .variableName) rest
    let (_, rest) ← take .assign (.missing .assignSign) rest
    let (start, rest) ← expression fuel rest
    if !isAtWord "to" rest then refuse (.missing .toWord) rest
    else
      let (stop, rest) ← expression fuel (advance rest)
      if isAtWord "step" rest then
        let (step, rest) ← expression fuel (advance rest)
        let (body, rest) ← blockStatement fuel rest
        return (.count name.text start stop (some step) body, rest)
      else
        let (body, rest) ← blockStatement fuel rest
        return (.count name.text start stop none body, rest)

/-- The word `function`, a name, parameters in parentheses and a block. -/
def defineStatement : (fuel : Nat) → List Token → Except ParseStop (Stmt × List Token)
  | 0, tokens => .error ⟨.exhausted, tokens⟩
  | fuel + 1, tokens => do
    let (_, rest) ← take .functionKw (.missing (.keyword "function")) tokens
    let (name, rest) ← take .identifier (.missing .functionName) rest
    let (_, rest) ← take .leftParen (.missing .openAfterFunctionName) rest
    let (names, rest) ←
      if isAt [.rightParen] rest then .ok ([], rest) else parameters fuel rest
    let (_, rest) ← take .rightParen (.missing .closeAfterParameters) rest
    let (body, rest) ← blockStatement fuel rest
    return (.define name.text names body, rest)

end

/-- Statements up to the end of the text, with line ends anywhere between them. -/
def programItems : (fuel : Nat) → List Token → Except ParseStop (List Stmt × List Token)
  | 0, tokens => .error ⟨.exhausted, tokens⟩
  | fuel + 1, tokens =>
    if isAt [.endOfFile] tokens then .ok ([], tokens)
    else if isAt [.newline] tokens then programItems fuel (advance tokens)
    else do
      let (first, rest) ← statement fuel tokens
      let (more, rest) ← programItems fuel rest
      return (first :: more, rest)

/-- A program. -/
def program (fuel : Nat) (tokens : List Token) : Except ParseStop (Program × List Token) := do
  let (statements, rest) ← programItems fuel tokens
  return (⟨statements⟩, rest)

/-- Enough fuel for a list of tokens. -/
def fuelFor (tokens : List Token) : Nat := 20 * (tokens.length + 2)

end Grammar

/-- The program that tokens spell. -/
def Program.ofTokens (tokens : List Token) : Except ParseFailure Program :=
  if tokens.isEmpty then .error .noTokens
  else
    match Grammar.program (Grammar.fuelFor tokens) tokens with
    | .ok (found, _) => .ok found
    | .error stop => .error stop.failure

end ScriptStudio
