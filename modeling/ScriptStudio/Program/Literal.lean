/-!
# String literals

A string literal loses its first and last character, and then its escapes are replaced one kind
after the other: line feed, tab, carriage return, backslash, quotation mark, apostrophe. A backslash
that an earlier replacement left behind can begin an escape of a later kind.

This is `Parser._process_string_literal`.
-/

namespace ScriptStudio

/-- Replaces every backslash followed by `letter` by `meaning`, from left to right. -/
def replaceEscape (letter meaning : Char) : List Char → List Char
  | [] => []
  | [c] => [c]
  | c :: d :: rest =>
    if c = '\\' && d = letter then meaning :: replaceEscape letter meaning rest
    else c :: replaceEscape letter meaning (d :: rest)

/-- The escapes and what they stand for, in the order of their replacement. -/
def escapes : List (Char × Char) :=
  [('n', '\n'), ('t', '\t'), ('r', '\r'), ('\\', '\\'), ('"', '"'), ('\'', '\'')]

/-- Replaces the escapes. -/
def unescape (text : List Char) : List Char :=
  escapes.foldl (fun text escape => replaceEscape escape.1 escape.2 text) text

/-- The text that a string literal stands for. -/
def literalText (raw : String) : String :=
  String.ofList (unescape (raw.toList.tail.dropLast))

end ScriptStudio
