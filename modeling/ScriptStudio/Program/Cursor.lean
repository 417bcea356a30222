import ScriptStudio.Program.Grammar
import ScriptStudio.Token.Reader

/-!
# Reading tokens step by step

A cursor holds a list of tokens and a position in it. It looks at tokens, takes them, and reads one
piece of the grammar from where it stands. A failure leaves it at the token where it arose.

The operations are those of `Parser`: `current_token`, `peek_token`, `advance`, `match`, `consume`,
`skip_newlines` and the functions that parse.
-/

namespace ScriptStudio

/-- A list of tokens and a position in it. -/
structure TokenCursor where
  tokens : List Token
  position : Nat

namespace TokenCursor

/-- A cursor at the first token. -/
def ofTokens (tokens : List Token) : TokenCursor := ⟨tokens, 0⟩

/-- What lies ahead. -/
def ahead (cursor : TokenCursor) : List Token := cursor.tokens.drop cursor.position

/-- Stands where the given tokens are left. -/
def withAhead (cursor : TokenCursor) (rest : List Token) : TokenCursor :=
  { cursor with position := cursor.tokens.length - rest.length }

/-- The token at the position. -/
def current (cursor : TokenCursor) : Except ParseFailure Token :=
  match cursor.ahead with
  | [] => .error .noTokens
  | token :: _ => .ok token

/-- The token at a distance. Past the end it is the last one; before the start the look wraps around
to the end, once. -/
def peek (cursor : TokenCursor) (offset : Int) : Except ParseFailure Token :=
  let index : Int := cursor.position + offset
  let found :=
    if cursor.tokens.length ≤ index then cursor.tokens.getLast?
    else indexFromEnd? cursor.tokens index
  match found with
  | some token => .ok token
  | none => .error .noTokens

/-- The token at the position is of one of the kinds. -/
def isAt (cursor : TokenCursor) (kinds : List TokenKind) : Except ParseFailure Bool := do
  return kinds.contains (← cursor.current).kind

/-- Reads one piece of the grammar. -/
def read {α : Type} (cursor : TokenCursor)
    (rule : (fuel : Nat) → List Token → Except ParseStop (α × List Token)) :
    Except ParseFailure α × TokenCursor :=
  if cursor.tokens.isEmpty then (.error .noTokens, cursor)
  else
    match rule (Grammar.fuelFor cursor.tokens) cursor.ahead with
    | .ok (found, rest) => (.ok found, cursor.withAhead rest)
    | .error stop => (.error stop.failure, cursor.withAhead stop.rest)

/-- Takes one token, whatever it is. -/
def advance (cursor : TokenCursor) : Except ParseFailure Token × TokenCursor :=
  cursor.read fun _ tokens => .ok (Grammar.peek tokens, Grammar.advance tokens)

/-- Takes a token of a kind. The wording of a refusal may be chosen. -/
def consume (cursor : TokenCursor) (kind : TokenKind) (message : String) :
    Except ParseFailure Token × TokenCursor :=
  let refusal := if message == "" then .otherKind kind else .worded message
  cursor.read fun _ tokens => Grammar.take kind refusal tokens

/-- Moves over line ends. -/
def skipNewlines (cursor : TokenCursor) : Except ParseFailure Unit × TokenCursor :=
  cursor.read fun _ tokens => .ok ((), Grammar.skipNewlines tokens.length tokens)

end TokenCursor

end ScriptStudio
