import ScriptStudio.Text.Quoted

/-!
# UTF-8

Encoding writes a character in one to four octets. Decoding is strict: the first octet of a
character says how many follow and between which bounds the next one lies, and the first octets that
break this are reported with their position.

These are `encode` and `decode`.
-/

namespace ScriptStudio.Text

/-- An octet. -/
abbrev Octet := UInt8

/-- The octets of a character. -/
def encodeChar (c : Char) : List Octet :=
  let code := c.toNat
  if code < 0x80 then [code.toUInt8]
  else if code < 0x800 then [(0xc0 + code / 64).toUInt8, (0x80 + code % 64).toUInt8]
  else if code < 0x10000 then
    [(0xe0 + code / 4096).toUInt8, (0x80 + code / 64 % 64).toUInt8, (0x80 + code % 64).toUInt8]
  else
    [(0xf0 + code / 262144).toUInt8, (0x80 + code / 4096 % 64).toUInt8,
      (0x80 + code / 64 % 64).toUInt8, (0x80 + code % 64).toUInt8]

/-- The octets of a text. -/
def encodeUtf8 (text : List Char) : List Octet := text.flatMap encodeChar

/-- What is wrong with octets. -/
inductive OctetFault where
  /-- No character begins with the octet. -/
  | start
  /-- The octets begin a character and the next one does not go on with it. -/
  | continuation
  /-- The octets begin a character and there is no next one. -/
  | truncated
deriving DecidableEq

/-- Octets that are no character: the first of them, its position and their number. -/
structure DecodeError where
  fault : OctetFault
  first : Octet
  position : Nat
  count : Nat
deriving DecidableEq

/-- What is wrong with the octets. -/
def DecodeError.message (error : DecodeError) : String :=
  let reason :=
    match error.fault with
    | .start => "invalid start byte"
    | .continuation => "invalid continuation byte"
    | .truncated => "unexpected end of data"
  let octets :=
    if error.count = 1 then
      "byte 0x" ++ String.ofList (hexDigits 2 error.first.toNat) ++
        s!" in position {error.position}"
    else s!"bytes in position {error.position}-{error.position + error.count - 1}"
  "'utf-8' codec can't decode " ++ octets ++ ": " ++ reason

/-- What the first octet of a character says of the others. -/
structure Lead where
  /-- How many octets follow. -/
  count : Nat
  /-- The bounds of the next octet. -/
  low : Nat
  high : Nat
  /-- The leading bits of the character. -/
  bits : Nat

/-- Reads the first octet of a character. -/
def lead? (octet : Octet) : Option Lead :=
  let n := octet.toNat
  if n < 0x80 then some ⟨0, 0, 0, n⟩
  else if 0xc2 ≤ n && n ≤ 0xdf then some ⟨1, 0x80, 0xbf, n - 0xc0⟩
  else if n == 0xe0 then some ⟨2, 0xa0, 0xbf, 0⟩
  else if n == 0xed then some ⟨2, 0x80, 0x9f, 13⟩
  else if 0xe1 ≤ n && n ≤ 0xef then some ⟨2, 0x80, 0xbf, n - 0xe0⟩
  else if n == 0xf0 then some ⟨3, 0x90, 0xbf, 0⟩
  else if 0xf1 ≤ n && n ≤ 0xf3 then some ⟨3, 0x80, 0xbf, n - 0xf0⟩
  else if n == 0xf4 then some ⟨3, 0x80, 0x8f, 4⟩
  else none

/-- The octets, at most `count`, that go on with a character: the first between the bounds and the
others between 0x80 and 0xbf. -/
def continuing : (count low high : Nat) → List Octet → List Octet
  | 0, _, _, _ => []
  | _, _, _, [] => []
  | count + 1, low, high, octet :: rest =>
    if low ≤ octet.toNat && octet.toNat ≤ high then octet :: continuing count 0x80 0xbf rest
    else []

/-- Decodes octets of which the first has the given position. -/
def decodeFrom (position : Nat) (octets : List Octet) : Except DecodeError (List Char) :=
  match octets with
  | [] => .ok []
  | octet :: rest =>
    match lead? octet with
    | none => .error ⟨.start, octet, position, 1⟩
    | some lead =>
      let more := continuing lead.count lead.low lead.high rest
      if more.length < lead.count then
        if rest.length ≤ more.length then .error ⟨.truncated, octet, position, 1 + rest.length⟩
        else .error ⟨.continuation, octet, position, 1 + more.length⟩
      else do
        let code := more.foldl (fun code next => code * 64 + (next.toNat - 0x80)) lead.bits
        let later ← decodeFrom (position + 1 + lead.count) (rest.drop lead.count)
        return Char.ofNat code :: later
termination_by octets.length
decreasing_by
  simp only [List.length_cons, List.length_drop]
  omega

/-- The text that octets encode. -/
def decodeUtf8 (octets : List Octet) : Except DecodeError (List Char) := decodeFrom 0 octets

end ScriptStudio.Text
