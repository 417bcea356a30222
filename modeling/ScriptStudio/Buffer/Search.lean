import ScriptStudio.Buffer.Basic
import ScriptStudio.Text.Lowercase

/-!
# Searching a buffer

A search looks for the first position from a start on and before a stop at which the text, with the
line feed that closes it, goes on with the query. Without regard to case both are lowered first.

This is `search` of a text area.
-/

namespace ScriptStudio

namespace Buffer

/-- The text goes on with the query. -/
def startsWith (matchCase : Bool) (query chars : List Char) : Bool :=
  if matchCase then query.isPrefixOf chars
  else (Text.lowerChars query).isPrefixOf (Text.lowerChars chars)

/-- How many characters to skip until the text goes on with the query, of the first `limit`
positions. -/
def offset? (matchCase : Bool) (query : List Char) : (limit : Nat) → List Char → Option Nat
  | 0, _ => none
  | limit + 1, chars =>
    if startsWith matchCase query chars then some 0
    else
      match chars with
      | [] => none
      | _ :: rest => (offset? matchCase query limit rest).map (· + 1)

/-- The first position from `start` on and before `stop` at which the query stands. -/
def search? (buffer : Buffer) (matchCase : Bool) (query : List Char) (start stop : Nat) :
    Option Nat :=
  (offset? matchCase query (stop - start) (buffer.content.drop start)).map (start + ·)

end Buffer

end ScriptStudio
