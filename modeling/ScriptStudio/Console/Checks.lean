import ScriptStudio.Console.Samples

/-!
# Built-in checks

Short programs that the test command runs. A check passes if its program says something and reports
no error.

The command is `run_tests`.
-/

namespace ScriptStudio

/-- The checks in their order. -/
def builtInChecks : List Sample :=
  [
    ⟨"Basic arithmetic", "kas x = 2 + 3 * 4\nsay x"⟩,
    ⟨"Parentheses", "kas x = (2 + 3) * 4\nsay x"⟩,
    ⟨"Unary minus", "kas x = -5\nsay x"⟩,
    ⟨"Modulo", "kas x = 17 % 5\nsay x"⟩,
    ⟨"String concat", "say \"Hello, \" + \"World!\""⟩,
    ⟨"Mixed types", "say \"Result: \" + (2 + 3)"⟩,
    ⟨"Complex expression", "kas x = -(2 + 3) * 4 % 7\nsay x"⟩,
    ⟨"Boolean literals", "kas a = true\nkas b = false\nsay a\nsay b"⟩,
    ⟨"Logical AND", "kas result = true and false\nsay result"⟩,
    ⟨"Logical OR", "kas result = true or false\nsay result"⟩,
    ⟨"Logical NOT", "kas result = not true\nsay result"⟩,
    ⟨"Complex logic", "kas x = 5 > 3 and 2 < 4\nsay x"⟩,
    ⟨"Simple if-true", "if (true) \x7b\nsay \"true branch\"\n\x7d"⟩,
    ⟨"Simple if-false",
      "if (false) \x7b\nsay \"true branch\"\n\x7d else \x7b\nsay \"false branch\"\n\x7d"⟩,
    ⟨"Comparison in if", "kas x = 10\nif (x > 5) \x7b\nsay \"x is big\"\n\x7d"⟩,
    ⟨"Complex condition",
      "kas x = 5\nkas y = 3\nif (x > y and x < 10) \x7b\nsay \"condition met\"\n\x7d"⟩,
    ⟨"Zero truthiness", "if (not 0) \x7b\nsay \"zero is falsy\"\n\x7d"⟩,
    ⟨"String truthiness", "if (\"hello\") \x7b\nsay \"string is truthy\"\n\x7d"⟩,
    ⟨"Empty string", "if (not \"\") \x7b\nsay \"empty string is falsy\"\n\x7d"⟩,
    ⟨"Boolean to string", "say \"Value: \" + true"⟩,
    ⟨"Number comparison", "say 10 > 5"⟩,
    ⟨"String equality", "say \"hello\" == \"hello\""⟩]

end ScriptStudio
