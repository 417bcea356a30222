import ScriptStudio.Text.Lines

/-!
# Code templates

Programs that can fill an editor, each under the title by which it is chosen.

This is `TemplateManager.get_templates`.
-/

namespace ScriptStudio

/-- A program with the title by which it is chosen. -/
structure Template where
  title : String
  code : String

namespace Template

/-- Hello World. -/
def helloWorld : Template := ⟨"Hello World", Text.ofLines [
    "# Hello World in DoroLang",
    "say \"Hello, DoroLang!\"",
    "say \"Welcome to the world of programming!\""]⟩

/-- Variables. -/
def namesAndValues : Template := ⟨"Variables", Text.ofLines [
    "# Working with variables",
    "kas name = \"Your name\"",
    "kas age = 25",
    "kas is_student = true",
    "",
    "say \"Name: \" + name",
    "say \"Age: \" + age",
    "say \"Student: \" + is_student"]⟩

/-- Conditional Logic. -/
def conditionalLogic : Template := ⟨"Conditional Logic", Text.ofLines [
    "# Conditional logic",
    "kas score = 85",
    "kas passed = score >= 60",
    "",
    "if (passed) \x7b",
    "    say \"Congratulations! You passed the test!\"",
    "    kas grade = \"Pass\"",
    "\x7d else \x7b",
    "    say \"Unfortunately, the test was not passed\"",
    "    kas grade = \"Fail\"",
    "\x7d",
    "",
    "say \"Final grade: \" + grade"]⟩

/-- Complex Logic. -/
def complexLogic : Template := ⟨"Complex Logic", Text.ofLines [
    "# Complex logic",
    "kas temperature = 22",
    "kas is_sunny = true",
    "kas is_weekend = false",
    "",
    "kas good_weather = temperature > 20 and is_sunny",
    "kas can_go_out = good_weather and (is_weekend or temperature > 25)",
    "",
    "if (can_go_out) \x7b",
    "    say \"Great weather for a walk!\"",
    "\x7d else \x7b",
    "    if (not good_weather) \x7b",
    "        say \"Weather is not very good\"",
    "    \x7d else \x7b",
    "        say \"Weather is good, but today is a workday\"",
    "    \x7d",
    "\x7d"]⟩

/-- Calculator. -/
def calculator : Template := ⟨"Calculator", Text.ofLines [
    "# Simple calculator",
    "kas a = 15",
    "kas b = 7",
    "",
    "say \"Number A: \" + a",
    "say \"Number B: \" + b",
    "say \"Sum: \" + (a + b)",
    "say \"Difference: \" + (a - b)",
    "say \"Product: \" + (a * b)",
    "say \"Quotient: \" + (a / b)",
    "say \"Remainder: \" + (a % b)",
    "",
    "# Comparisons",
    "say \"A greater than B: \" + (a > b)",
    "say \"A equals B: \" + (a == b)",
    "say \"A not equal to B: \" + (a != b)"]⟩

/-- Input Example. -/
def inputExample : Template := ⟨"Input Example", Text.ofLines [
    "# Interactive input example",
    "kas name = input(\"What is your name? \")",
    "kas age = input(\"How old are you? \")",
    "",
    "say \"Hello, \" + name + \"!\"",
    "say \"You are \" + age + \" years old\"",
    "",
    "kas age_num = age",
    "if (age_num >= 18) \x7b",
    "    say \"You are an adult\"",
    "\x7d else \x7b",
    "    say \"You are a minor\"",
    "\x7d"]⟩

/-- Nested Conditionals. -/
def nestedConditionals : Template := ⟨"Nested Conditionals", Text.ofLines [
    "# Nested if-else example",
    "kas score = 85",
    "kas attendance = 90",
    "",
    "if (score >= 90) \x7b",
    "    if (attendance >= 90) \x7b",
    "        say \"Excellent! Grade: A+\"",
    "    \x7d else \x7b",
    "        say \"Good score! Grade: A\"",
    "    \x7d",
    "\x7d else \x7b",
    "    if (score >= 80) \x7b",
    "        say \"Good work! Grade: B\"",
    "    \x7d else \x7b",
    "        if (score >= 70) \x7b",
    "            say \"Passing grade: C\"",
    "        \x7d else \x7b",
    "            say \"Needs improvement: D\"",
    "        \x7d",
    "    \x7d",
    "\x7d"]⟩

/-- Logical Operators. -/
def logicalOperators : Template := ⟨"Logical Operators", Text.ofLines [
    "# Logical operators demonstration",
    "kas x = 10",
    "kas y = 5",
    "kas z = 15",
    "",
    "kas result1 = x > y and x < z",
    "kas result2 = x < y or z > x",
    "kas result3 = not (x == y)",
    "",
    "say \"x > y and x < z: \" + result1",
    "say \"x < y or z > x: \" + result2",
    "say \"not (x == y): \" + result3",
    "",
    "if (result1 and result2) \x7b",
    "    say \"Both conditions are true!\"",
    "\x7d",
    "",
    "if (result1 or result3) \x7b",
    "    say \"At least one condition is true\"",
    "\x7d"]⟩

/-- String Operations. -/
def stringOperations : Template := ⟨"String Operations", Text.ofLines [
    "# String operations",
    "kas first_name = \"John\"",
    "kas last_name = \"Doe\"",
    "kas full_name = first_name + \" \" + last_name",
    "",
    "say \"First name: \" + first_name",
    "say \"Last name: \" + last_name",
    "say \"Full name: \" + full_name",
    "",
    "kas greeting = \"Hello, \" + full_name + \"!\"",
    "say greeting",
    "",
    "kas age = 25",
    "kas info = full_name + \" is \" + age + \" years old\"",
    "say info"]⟩

/-- While Loop. -/
def whileLoop : Template := ⟨"While Loop", Text.ofLines [
    "# While loop example",
    "kas counter = 1",
    "",
    "while (counter <= 5) \x7b",
    "    say \"Count: \" + counter",
    "    kas counter = counter + 1",
    "\x7d",
    "",
    "say \"Loop finished!\""]⟩

/-- For Loop. -/
def forLoop : Template := ⟨"For Loop", Text.ofLines [
    "# For loop example",
    "say \"Counting from 1 to 10:\"",
    "",
    "for kas i = 1 to 10 \x7b",
    "    say \"Number: \" + i",
    "\x7d",
    "",
    "say \"Counting backwards:\"",
    "for kas j = 10 to 1 step -1 \x7b",
    "    say \"Number: \" + j",
    "\x7d"]⟩

/-- Nested Loops. -/
def nestedLoops : Template := ⟨"Nested Loops", Text.ofLines [
    "# Nested loops example",
    "say \"Multiplication table:\"",
    "",
    "for kas i = 1 to 5 \x7b",
    "    for kas j = 1 to 5 \x7b",
    "        kas result = i * j",
    "        say i + \" x \" + j + \" = \" + result",
    "    \x7d",
    "    say \"---\"",
    "\x7d"]⟩

/-- Loop with Conditionals. -/
def loopWithConditionals : Template := ⟨"Loop with Conditionals", Text.ofLines [
    "# Loops with conditionals",
    "say \"Even numbers from 1 to 20:\"",
    "",
    "for kas i = 1 to 20 \x7b",
    "    kas remainder = i % 2",
    "    if (remainder == 0) \x7b",
    "        say i + \" is even\"",
    "    \x7d",
    "\x7d",
    "",
    "say \"Numbers divisible by 3:\"",
    "kas num = 1",
    "while (num <= 30) \x7b",
    "    if (num % 3 == 0) \x7b",
    "        say num + \" is divisible by 3\"",
    "    \x7d",
    "    kas num = num + 1",
    "\x7d"]⟩

/-- Simple Function. -/
def simpleFunction : Template := ⟨"Simple Function", Text.ofLines [
    "# Simple function example",
    "function greet(name) \x7b",
    "    return \"Hello, \" + name + \"!\"",
    "\x7d",
    "",
    "say greet(\"Alice\")",
    "say greet(\"Bob\")",
    "say greet(\"Charlie\")"]⟩

/-- Function with Parameters. -/
def functionWithParameters : Template := ⟨"Function with Parameters", Text.ofLines [
    "# Function with multiple parameters",
    "function add(a, b) \x7b",
    "    return a + b",
    "\x7d",
    "",
    "function multiply(x, y) \x7b",
    "    return x * y",
    "\x7d",
    "",
    "say \"5 + 3 = \" + add(5, 3)",
    "say \"4 * 7 = \" + multiply(4, 7)",
    "say \"10 + 20 = \" + add(10, 20)"]⟩

/-- Function with Conditionals. -/
def functionWithConditionals : Template := ⟨"Function with Conditionals", Text.ofLines [
    "# Function using conditionals",
    "function max(a, b) \x7b",
    "    if (a > b) \x7b",
    "        return a",
    "    \x7d else \x7b",
    "        return b",
    "    \x7d",
    "\x7d",
    "",
    "function min(x, y) \x7b",
    "    if (x < y) \x7b",
    "        return x",
    "    \x7d else \x7b",
    "        return y",
    "    \x7d",
    "\x7d",
    "",
    "say \"Max of 10 and 5: \" + max(10, 5)",
    "say \"Min of 10 and 5: \" + min(10, 5)"]⟩

/-- Recursive Function. -/
def recursiveFunction : Template := ⟨"Recursive Function", Text.ofLines [
    "# Recursive function - factorial",
    "function factorial(n) \x7b",
    "    if (n <= 1) \x7b",
    "        return 1",
    "    \x7d else \x7b",
    "        return n * factorial(n - 1)",
    "    \x7d",
    "\x7d",
    "",
    "say \"Factorial of 5: \" + factorial(5)",
    "say \"Factorial of 7: \" + factorial(7)"]⟩

/-- Function with Loops. -/
def functionWithLoops : Template := ⟨"Function with Loops", Text.ofLines [
    "# Function using loops",
    "function count_to_n(n) \x7b",
    "    for kas i = 1 to n \x7b",
    "        say i",
    "    \x7d",
    "\x7d",
    "",
    "function sum_numbers(n) \x7b",
    "    kas total = 0",
    "    for kas i = 1 to n \x7b",
    "        kas total = total + i",
    "    \x7d",
    "    return total",
    "\x7d",
    "",
    "count_to_n(5)",
    "say \"Sum of 1 to 10: \" + sum_numbers(10)"]⟩

/-- Complete Program. -/
def completeProgram : Template := ⟨"Complete Program", Text.ofLines [
    "# Complete program using all features",
    "function calculate_grade(score) \x7b",
    "    if (score >= 90) \x7b",
    "        return \"A\"",
    "    \x7d else \x7b",
    "        if (score >= 80) \x7b",
    "            return \"B\"",
    "        \x7d else \x7b",
    "            if (score >= 70) \x7b",
    "                return \"C\"",
    "            \x7d else \x7b",
    "                return \"F\"",
    "            \x7d",
    "        \x7d",
    "    \x7d",
    "\x7d",
    "",
    "function print_grades() \x7b",
    "    say \"Student Grades:\"",
    "    for kas i = 1 to 5 \x7b",
    "        kas score = 60 + (i * 8)",
    "        kas grade = calculate_grade(score)",
    "        say \"Student \" + i + \": Score \" + score + \" = Grade \" + grade",
    "    \x7d",
    "\x7d",
    "",
    "print_grades()"]⟩

/-- Interactive Function. -/
def interactiveFunction : Template := ⟨"Interactive Function", Text.ofLines [
    "# Interactive program with functions",
    "function greet_user(name, age) \x7b",
    "    kas greeting = \"Hello, \" + name + \"! You are \" + age + \" years old.\"",
    "    return greeting",
    "\x7d",
    "",
    "kas user_name = input(\"Enter your name: \")",
    "kas user_age = input(\"Enter your age: \")",
    "",
    "say greet_user(user_name, user_age)",
    "",
    "if (user_age >= 18) \x7b",
    "    say \"You are an adult\"",
    "\x7d else \x7b",
    "    say \"You are a minor\"",
    "\x7d"]⟩

/-- Calculator Functions. -/
def calculatorFunctions : Template := ⟨"Calculator Functions", Text.ofLines [
    "# Calculator using functions",
    "function add(a, b) \x7b",
    "    return a + b",
    "\x7d",
    "",
    "function subtract(a, b) \x7b",
    "    return a - b",
    "\x7d",
    "",
    "function multiply(a, b) \x7b",
    "    return a * b",
    "\x7d",
    "",
    "function divide(a, b) \x7b",
    "    return a / b",
    "\x7d",
    "",
    "say \"10 + 5 = \" + add(10, 5)",
    "say \"10 - 5 = \" + subtract(10, 5)",
    "say \"10 * 5 = \" + multiply(10, 5)",
    "say \"10 / 5 = \" + divide(10, 5)"]⟩

/-- Function Examples. -/
def functionExamples : Template := ⟨"Function Examples", Text.ofLines [
    "# Multiple function examples",
    "function is_even(n) \x7b",
    "    kas remainder = n % 2",
    "    return remainder == 0",
    "\x7d",
    "",
    "function is_positive(x) \x7b",
    "    return x > 0",
    "\x7d",
    "",
    "function power(base, exponent) \x7b",
    "    kas result = 1",
    "    for kas i = 1 to exponent \x7b",
    "        kas result = result * base",
    "    \x7d",
    "    return result",
    "\x7d",
    "",
    "say \"Is 8 even? \" + is_even(8)",
    "say \"Is 7 even? \" + is_even(7)",
    "say \"Is 5 positive? \" + is_positive(5)",
    "say \"2 to the power of 3: \" + power(2, 3)"]⟩

/-- All templates in the order in which they are offered. -/
def all : List Template :=
  [helloWorld, namesAndValues, conditionalLogic, complexLogic, calculator, inputExample,
    nestedConditionals, logicalOperators, stringOperations, whileLoop, forLoop,
    nestedLoops, loopWithConditionals, simpleFunction, functionWithParameters,
    functionWithConditionals, recursiveFunction, functionWithLoops, completeProgram,
    interactiveFunction, calculatorFunctions, functionExamples]

/-- The template with a title. -/
def find? (title : String) : Option Template := all.find? (·.title == title)

end Template

end ScriptStudio
