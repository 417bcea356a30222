import ScriptStudio.Text.Lowercase

/-!
# Capitalized text

A capitalized text has its first character in title case and all others in lower case.

This is `capitalize`.
-/

namespace ScriptStudio.Text

/-- The characters beyond ASCII whose title case is more than one character, or another one than the
capital that has them as its lower case. -/
def titleSequences : List (Nat × List Nat) := [
    (0xb5, [0x39c]), (0xdf, [0x53, 0x73]), (0x131, [0x49]), (0x149, [0x2bc, 0x4e]), (0x17f, [0x53]),
    (0x1c4, [0x1c5]), (0x1c6, [0x1c5]), (0x1c7, [0x1c8]), (0x1c9, [0x1c8]), (0x1ca, [0x1cb]),
    (0x1cc, [0x1cb]), (0x1f0, [0x4a, 0x30c]), (0x1f1, [0x1f2]), (0x1f3, [0x1f2]), (0x345, [0x399]),
    (0x390, [0x399, 0x308, 0x301]), (0x3b0, [0x3a5, 0x308, 0x301]), (0x3c2, [0x3a3]),
    (0x3d0, [0x392]), (0x3d1, [0x398]), (0x3d5, [0x3a6]), (0x3d6, [0x3a0]), (0x3f0, [0x39a]),
    (0x3f1, [0x3a1]), (0x3f5, [0x395]), (0x587, [0x535, 0x582]), (0x1c80, [0x412]),
    (0x1c81, [0x414]), (0x1c82, [0x41e]), (0x1c83, [0x421]), (0x1c84, [0x422]), (0x1c85, [0x422]),
    (0x1c86, [0x42a]), (0x1c87, [0x462]), (0x1c88, [0xa64a]), (0x1e96, [0x48, 0x331]),
    (0x1e97, [0x54, 0x308]), (0x1e98, [0x57, 0x30a]), (0x1e99, [0x59, 0x30a]),
    (0x1e9a, [0x41, 0x2be]), (0x1e9b, [0x1e60]), (0x1f50, [0x3a5, 0x313]),
    (0x1f52, [0x3a5, 0x313, 0x300]), (0x1f54, [0x3a5, 0x313, 0x301]),
    (0x1f56, [0x3a5, 0x313, 0x342]), (0x1fb2, [0x1fba, 0x345]), (0x1fb4, [0x386, 0x345]),
    (0x1fb6, [0x391, 0x342]), (0x1fb7, [0x391, 0x342, 0x345]), (0x1fbe, [0x399]),
    (0x1fc2, [0x1fca, 0x345]), (0x1fc4, [0x389, 0x345]), (0x1fc6, [0x397, 0x342]),
    (0x1fc7, [0x397, 0x342, 0x345]), (0x1fd2, [0x399, 0x308, 0x300]),
    (0x1fd3, [0x399, 0x308, 0x301]), (0x1fd6, [0x399, 0x342]), (0x1fd7, [0x399, 0x308, 0x342]),
    (0x1fe2, [0x3a5, 0x308, 0x300]), (0x1fe3, [0x3a5, 0x308, 0x301]), (0x1fe4, [0x3a1, 0x313]),
    (0x1fe6, [0x3a5, 0x342]), (0x1fe7, [0x3a5, 0x308, 0x342]), (0x1ff2, [0x1ffa, 0x345]),
    (0x1ff4, [0x38f, 0x345]), (0x1ff6, [0x3a9, 0x342]), (0x1ff7, [0x3a9, 0x342, 0x345]),
    (0xfb00, [0x46, 0x66]), (0xfb01, [0x46, 0x69]), (0xfb02, [0x46, 0x6c]),
    (0xfb03, [0x46, 0x66, 0x69]), (0xfb04, [0x46, 0x66, 0x6c]), (0xfb05, [0x53, 0x74]),
    (0xfb06, [0x53, 0x74]), (0xfb13, [0x544, 0x576]), (0xfb14, [0x544, 0x565]),
    (0xfb15, [0x544, 0x56b]), (0xfb16, [0x54e, 0x576]), (0xfb17, [0x544, 0x56d])]

/-- The run of capitals that has the character among its lower case. -/
def loweredBy? (c : Char) : Option CaseRun :=
  caseRuns.find? fun run =>
    let capital := Int.toNat (c.toNat - run.shift)
    run.first ≤ capital && capital ≤ run.last && (capital - run.first) % run.stride == 0

/-- Title case of one character. Georgian letters keep theirs. -/
def titleChar (c : Char) : List Char :=
  if c.toNat < 128 then [c.toUpper]
  else
    match titleSequences.lookup c.toNat with
    | some codes => codes.map Char.ofNat
    | none =>
      if 0x10d0 ≤ c.toNat && c.toNat ≤ 0x10ff then [c]
      else
        match loweredBy? c with
        | some run => [Char.ofNat (Int.toNat (c.toNat - run.shift))]
        | none => [c]

/-- The text with its first character in title case and the others in lower case. -/
def capitalize (text : String) : String :=
  match text.toList with
  | [] => ""
  | c :: rest => String.ofList (titleChar c ++ lowerFrom [c] rest)

end ScriptStudio.Text
