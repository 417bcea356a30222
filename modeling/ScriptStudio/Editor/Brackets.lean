import ScriptStudio.Buffer.Basic

/-!
# Matching brackets

From an opening bracket the search goes forward to the end of the text, from a closing bracket back
to its start. A bracket of the same kind raises the balance and a partner lowers it, and the partner
that brings it to zero is the match.

Going back stops at the first character and does not leave it: that character is counted again and
again, so the search ends there only if it is the partner sought.

This is `CodeEditor._find_bracket_match`, which `highlight_matching_bracket` uses.
-/

namespace ScriptStudio

/-- The end of a search for a bracket. -/
inductive BracketSearch where
  | found (position : Nat)
  | missing
  /-- The search never ends. -/
  | endless
deriving DecidableEq

/-- Why brackets at the cursor cannot be looked up. -/
inductive BracketError where
  /-- There is no character on the side of the cursor that is looked at. -/
  | noCharacter
  | endless
deriving DecidableEq

namespace Brackets

/-- The bracket begins a pair. -/
def opens (c : Char) : Bool := c == '(' || c == '[' || c == '\x7b'

/-- The bracket ends a pair. -/
def closes (c : Char) : Bool := c == ')' || c == ']' || c == '\x7d'

/-- The other bracket of the pair. -/
def partner? (c : Char) : Option Char :=
  match c with
  | '(' => some ')'
  | '[' => some ']'
  | '\x7b' => some '\x7d'
  | ')' => some '('
  | ']' => some '['
  | '\x7d' => some '\x7b'
  | _ => none

/-- The balance after one more character. -/
def weigh (bracket partner : Char) (balance : Nat) (c : Char) : Nat :=
  if c == bracket then balance + 1 else if c == partner then balance - 1 else balance

/-- How many characters to pass until the balance is zero. -/
def distance? (bracket partner : Char) : (balance : Nat) → List Char → Option Nat
  | _, [] => none
  | balance, c :: rest =>
    let balance := weigh bracket partner balance c
    if balance = 0 then some 0 else (distance? bracket partner balance rest).map (· + 1)

/-- The match of an opening bracket after the position. -/
def searchForward (buffer : Buffer) (start : Nat) (bracket partner : Char) : BracketSearch :=
  match distance? bracket partner 1 (buffer.content.drop (start + 1)) with
  | some distance => .found (start + 1 + distance)
  | none => .missing

/-- The match of a closing bracket before the position. -/
def searchBack (buffer : Buffer) (start : Nat) (bracket partner : Char) : BracketSearch :=
  match distance? bracket partner 1 (buffer.content.take start).reverse with
  | some distance => .found (start - 1 - distance)
  | none =>
    if buffer.charAt? 0 == some partner && partner != bracket then .found 0 else .endless

/-- The match of the bracket at a position. -/
def search (buffer : Buffer) (start : Nat) (partner : Char) : BracketSearch :=
  match buffer.charAt? start with
  | none => .missing
  | some c =>
    if opens c then searchForward buffer start c partner
    else if closes c then searchBack buffer start c partner
    else .missing

/-- Tags the bracket at a position and its match. -/
def tagPair (buffer : Buffer) (start : Nat) (partner : Char) : Except BracketError Buffer :=
  match search buffer start partner with
  | .found position => .ok ((buffer.addTag "match" start (buffer.forward start 1)).addTag "match"
      position (buffer.forward position 1))
  | .missing => .ok buffer
  | .endless => .error .endless

/-- Tags the bracket before the cursor, else the one after it, together with its match. -/
def tagAtCursor (buffer : Buffer) : Except BracketError Buffer :=
  match buffer.cursor with
  | 0 => .error .noCharacter
  | before + 1 =>
    match buffer.charAt? before with
    | none => .error .noCharacter
    | some left =>
      match partner? left with
      | some partner => tagPair buffer before partner
      | none =>
        match buffer.charAt? (before + 1) with
        | none => .error .noCharacter
        | some right =>
          match partner? right with
          | some partner => tagPair buffer (before + 1) partner
          | none => .ok buffer

/-- The tags of brackets are made anew. -/
def refresh (buffer : Buffer) : Buffer × Option BracketError :=
  let cleared := buffer.removeTag "match"
  match tagAtCursor cleared with
  | .ok tagged => (tagged, none)
  | .error error => (cleared, some error)

end Brackets

end ScriptStudio
