import ScriptStudio.Text.Lines

/-!
# Programs of the self tests

The programs that `run_lexer_test` and the tests of the other two stages are given.
-/

namespace ScriptStudio.SelfTest

/-- Logical operators, comments and strings. -/
def scanLogic : String := Text.ofLines [
    "",
    "# Comment - test logical operators",
    "say \"Hello, DoroLang!\"",
    "kas x = 42",
    "kas y = (x + 10) % 3",
    "",
    "# Test boolean values and logical operators",
    "kas is_big = x > 30",
    "kas is_small = y < 5",
    "kas result = is_big and is_small",
    "",
    "if (result) \x7b",
    "    say \"Both conditions are true!\"",
    "\x7d else \x7b",
    "    say \"At least one condition is false\"",
    "\x7d",
    "",
    "# Test not operator",
    "kas negative_result = not result",
    "say \"Negative result: \" + negative_result",
    "",
    "# Test or operator",
    "if (is_big or is_small) \x7b",
    "    say \"At least one is true\"",
    "\x7d",
    ""]

/-- Quotes and escapes. -/
def scanStrings : String := Text.ofLines [
    "",
    "say \"simple string\"",
    "say 'and in single quotes'",
    "say \"string with \\\"escaped quote\\\"\"",
    "say 'and in single \\'too\\''",
    "say \"empty string: \"\"\"",
    "kas my_string=\"stringwithoutspace\"",
    ""]

/-- A question to the user. -/
def scanInput : String := Text.ofLines [
    "",
    "# Test new input function",
    "kas user_name = input(\"What is your name? \")",
    "say \"Hello, \" + user_name + \"!\"",
    ""]

/-- Conditions and logic. -/
def parseSample : String := Text.ofLines [
    "",
    "say \"Enhanced Parser test!\"",
    "kas x = 5",
    "kas y = 3",
    "kas z = true",
    "",
    "# Test logical operators",
    "kas result1 = x > y and z",
    "kas result2 = x < y or not z",
    "kas complex = (x + y) > 5 and (not z or y == 3)",
    "",
    "say \"result1 = \" + result1",
    "say \"result2 = \" + result2",
    "say \"complex = \" + complex",
    "",
    "# Test if-else with logical expressions",
    "if (x > y and z) \x7b",
    "    say \"Both conditions are true!\"",
    "    kas message = \"Success!\"",
    "\x7d else \x7b",
    "    say \"Conditions not met\"",
    "    kas message = \"Failed\"",
    "\x7d",
    "",
    "# Nested if-else",
    "if (x > 10) \x7b",
    "    say \"x is big\"",
    "\x7d else \x7b",
    "    if (x > 3) \x7b",
    "        say \"x is medium\"  ",
    "    \x7d else \x7b",
    "        say \"x is small\"",
    "    \x7d",
    "\x7d",
    ""]

/-- Truth values of all kinds. -/
def runSample : String := Text.ofLines [
    "",
    "say \"Enhanced Interpreter test!\"",
    "",
    "# Test boolean values",
    "kas is_true = true",
    "kas is_false = false",
    "say \"is_true = \" + is_true",
    "say \"is_false = \" + is_false",
    "",
    "# Test logical operators",
    "kas x = 10",
    "kas y = 5",
    "kas result_and = x > 5 and y < 10",
    "kas result_or = x < 5 or y < 10",
    "kas result_not = not is_false",
    "",
    "say \"x > 5 and y < 10 = \" + result_and",
    "say \"x < 5 or y < 10 = \" + result_or  ",
    "say \"not false = \" + result_not",
    "",
    "# Test if-else with logical expressions",
    "if (x > y and is_true) \x7b",
    "    say \"Complex condition is true!\"",
    "    kas status = \"success\"",
    "\x7d else \x7b",
    "    say \"Complex condition is false\"",
    "    kas status = \"failed\"",
    "\x7d",
    "",
    "# Test nested conditionals",
    "if (x > 15) \x7b",
    "    say \"x is very big\"",
    "\x7d else \x7b",
    "    if (x > 8) \x7b",
    "        say \"x is big enough\"",
    "    \x7d else \x7b",
    "        say \"x is too small\"",
    "    \x7d",
    "\x7d",
    "",
    "# Test complex logical expressions",
    "kas complex_result = (x + y) > 10 and not is_false or y == 5",
    "say \"Complex logical result: \" + complex_result",
    "",
    "# Test truthiness of various types",
    "kas empty_string = \"\"",
    "kas non_empty_string = \"hello\"",
    "kas zero = 0",
    "kas non_zero = 42",
    "",
    "say \"Empty string is truthy: \" + (not not empty_string)",
    "say \"Non-empty string is truthy: \" + (not not non_empty_string)",
    "say \"Zero is truthy: \" + (not not zero)",
    "say \"Non-zero is truthy: \" + (not not non_zero)",
    ""]

end ScriptStudio.SelfTest
