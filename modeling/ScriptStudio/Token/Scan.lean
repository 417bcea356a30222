import ScriptStudio.Token.Pattern

/-!
# Scanning

Scanning goes through a text once. Blanks and comments between lexemes are skipped, and scanning
ends at the end of the text or at the first character where no pattern matches.

This is `Lexer.tokenize`.
-/

namespace ScriptStudio

/-- The characters that may stand between lexemes, comments apart. -/
def isGap (c : Char) : Bool := c == ' ' || c == '\t' || c == '\r'

/-- What scanning found: the tokens, the place where it ended, and what it left. Nothing is left
exactly if the whole text was scanned. -/
structure Scan where
  tokens : List Token
  place : Place
  rest : List Char

/-- Scans a text that starts at a place. -/
def scan (place : Place) (source : List Char) : Scan :=
  match source with
  | [] => ⟨[], place, []⟩
  | c :: rest =>
    if isGap c then scan (place.next c) rest
    else if c = '#' then
      scan ((place.next c).advance (rest.takeWhile (· ≠ '\n'))) (rest.dropWhile (· ≠ '\n'))
    else
      match lexeme? c rest with
      | none => ⟨[], place, c :: rest⟩
      | some (kind, length) =>
        let text := c :: rest.take length
        let later := scan (place.advance text) (rest.drop length)
        { later with tokens := ⟨kind, String.ofList text, place⟩ :: later.tokens }
termination_by source.length
decreasing_by
  all_goals simp only [List.length_cons, List.length_drop]
  · omega
  · have := (List.dropWhile_suffix (l := rest) (fun c : Char => decide (c ≠ '\n'))).length_le
    omega
  · omega

/-- A character with which no lexeme begins. -/
structure LexError where
  char : Char
  place : Place
deriving DecidableEq

/-- What is wrong, without the place. -/
def LexError.detail (error : LexError) : String :=
  "Unknown character '" ++ String.ofList [error.char] ++ "'"

/-- What is wrong and where. -/
def LexError.message (error : LexError) : String :=
  s!"Lexer Error: {error.detail} at line {error.place.line}:{error.place.column}"

/-- The tokens of a scan that reached the end, closed by an end-of-file token. -/
def Scan.result (found : Scan) : Except LexError (List Token) :=
  match found.rest with
  | [] => .ok (found.tokens ++ [⟨.endOfFile, "", found.place⟩])
  | c :: _ => .error ⟨c, found.place⟩

/-- The tokens of a source text. -/
def tokenize (source : String) : Except LexError (List Token) :=
  (scan Place.start source.toList).result

end ScriptStudio
