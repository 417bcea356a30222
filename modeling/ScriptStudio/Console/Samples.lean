import ScriptStudio.Text.Lines

/-!
# Sample programs

The programs that the examples command runs one after the other.

The command is `run_examples`.
-/

namespace ScriptStudio

/-- A program with a title. -/
structure Sample where
  title : String
  code : String

namespace Samples

/-- Hello World. -/
def helloWorld : Sample := ⟨"Hello World", Text.ofLines [
    "say \"Hello, DoroLang!\"",
    "say \"Created by Dorofii Karnaukh\""]⟩

/-- Variables and Arithmetic. -/
def variablesAndArithmetic : Sample := ⟨"Variables and Arithmetic", Text.ofLines [
    "kas name = \"DoroLang\"",
    "kas version = 1.1",
    "say \"Language: \" + name",
    "say \"Version: \" + version",
    "",
    "kas a = 10",
    "kas b = 3",
    "say \"a = \" + a + \", b = \" + b",
    "say \"a + b = \" + (a + b)",
    "say \"a - b = \" + (a - b)",
    "say \"a * b = \" + (a * b)",
    "say \"a / b = \" + (a / b)",
    "say \"a % b = \" + (a % b)"]⟩

/-- Boolean Values and Logic. -/
def booleanValuesAndLogic : Sample := ⟨"Boolean Values and Logic", Text.ofLines [
    "kas is_sunny = true",
    "kas is_weekend = false",
    "kas temperature = 25",
    "",
    "say \"Is sunny: \" + is_sunny",
    "say \"Is weekend: \" + is_weekend",
    "say \"Temperature: \" + temperature",
    "",
    "# Логические операции",
    "kas good_weather = is_sunny and temperature > 20",
    "kas can_relax = is_weekend or good_weather",
    "kas stay_inside = not (good_weather and is_weekend)",
    "",
    "say \"Good weather: \" + good_weather",
    "say \"Can relax: \" + can_relax",
    "say \"Stay inside: \" + stay_inside"]⟩

/-- Conditional Statements. -/
def conditionalStatements : Sample := ⟨"Conditional Statements", Text.ofLines [
    "kas age = 25",
    "kas has_license = true",
    "",
    "say \"Age: \" + age",
    "say \"Has license: \" + has_license",
    "",
    "if (age >= 18 and has_license) \x7b",
    "    say \"Can drive a car!\"",
    "    kas status = \"eligible\"",
    "\x7d else \x7b",
    "    say \"Cannot drive yet\"",
    "    kas status = \"not eligible\"  ",
    "\x7d",
    "",
    "# Вложенные условия",
    "if (age >= 65) \x7b",
    "    say \"Senior citizen discount available\"",
    "\x7d else \x7b",
    "    if (age >= 18) \x7b",
    "        say \"Regular adult pricing\"",
    "    \x7d else \x7b",
    "        say \"Child discount available\"",
    "    \x7d",
    "\x7d"]⟩

/-- Complex Logic. -/
def complexLogic : Sample := ⟨"Complex Logic", Text.ofLines [
    "kas score = 85",
    "kas attendance = 90",
    "kas has_extra_credit = true",
    "",
    "say \"Score: \" + score",
    "say \"Attendance: \" + attendance + \"%\"",
    "say \"Extra credit: \" + has_extra_credit",
    "",
    "# Сложное условие для оценки",
    "kas excellent = score >= 90 and attendance >= 85",
    "kas good = (score >= 80 and attendance >= 80) or has_extra_credit",
    "kas needs_improvement = not (good or excellent)",
    "",
    "if (excellent) \x7b",
    "    say \"Grade: A - Excellent work!\"",
    "\x7d else \x7b",
    "    if (good) \x7b",
    "        say \"Grade: B - Good job!\"",
    "    \x7d else \x7b",
    "        say \"Grade: C - Needs improvement\"",
    "    \x7d",
    "\x7d"]⟩

/-- String Operations. -/
def stringOperations : Sample := ⟨"String Operations", Text.ofLines [
    "kas first_name = \"Dorofii\"",
    "kas last_name = \"Karnaukh\"",
    "kas full_name = first_name + \" \" + last_name",
    "",
    "say \"First name: \" + first_name",
    "say \"Last name: \" + last_name  ",
    "say \"Full name: \" + full_name",
    "",
    "kas age = 25",
    "kas is_student = true",
    "kas message = full_name + \" is \" + age + \" years old\"",
    "",
    "if (is_student) \x7b",
    "    kas student_info = message + \" and is a student\"",
    "    say student_info",
    "\x7d else \x7b",
    "    say message + \" and is not a student\"",
    "\x7d"]⟩

/-- Advanced Expressions. -/
def advancedExpressions : Sample := ⟨"Advanced Expressions", Text.ofLines [
    "kas x = 5",
    "kas y = 3",
    "kas z = 2",
    "kas flag = true",
    "",
    "say \"Variables: x=\" + x + \", y=\" + y + \", z=\" + z + \", flag=\" + flag",
    "",
    "# Сложные арифметические выражения",
    "kas result1 = -(x + y) * z % (x - y)",
    "kas result2 = -((x + y) * z) + (x % y)",
    "",
    "say \"-(x + y) * z % (x - y) = \" + result1",
    "say \"-((x + y) * z) + (x % y) = \" + result2",
    "",
    "# Сложные логические выражения  ",
    "kas complex_logic = (x > y or flag) and not (z == 0) or (x + y) >= 8",
    "say \"Complex logic result: \" + complex_logic",
    "",
    "# Комбинированные условия",
    "if ((x + y + z) > 9 and flag) or (x * y) > 10) \x7b",
    "    say \"Complex condition met!\"",
    "    kas final_result = \"success\"",
    "\x7d else \x7b",
    "    say \"Complex condition not met\"",
    "    kas final_result = \"failure\"",
    "\x7d",
    "",
    "say \"Final result: \" + final_result"]⟩

/-- Type Coercion Demo. -/
def typeCoercionDemo : Sample := ⟨"Type Coercion Demo", Text.ofLines [
    "kas number = 42",
    "kas text = \"The answer is: \"",
    "kas is_correct = true",
    "kas zero = 0",
    "kas empty = \"\"",
    "",
    "say \"Demonstrating type coercion:\"",
    "say text + number",
    "say \"Is correct: \" + is_correct",
    "say \"Number + boolean: \" + (number + is_correct)",
    "",
    "# Демонстрация истинности",
    "say \"Truthiness demo:\"",
    "say \"42 is truthy: \" + (not not number)",
    "say \"0 is truthy: \" + (not not zero) ",
    "say \"true is truthy: \" + (not not is_correct)",
    "say \"Empty string is truthy: \" + (not not empty)",
    "say \"Non-empty string is truthy: \" + (not not text)",
    "",
    "if (number and text and is_correct) \x7b",
    "    say \"All values are truthy!\"",
    "\x7d",
    "",
    "if (not zero and not empty) \x7b",
    "    say \"Zero and empty string are falsy!\"",
    "\x7d"]⟩

/-- All samples in their order. -/
def all : List Sample :=
  [helloWorld, variablesAndArithmetic, booleanValuesAndLogic, conditionalStatements,
    complexLogic, stringOperations, advancedExpressions, typeCoercionDemo]

end Samples

end ScriptStudio
