import ScriptStudio.Text.Lines

/-!
# Texts of the studio

The program in a new tab and the texts that the help menu shows.

They are shown by `apply_welcome_template`, `show_syntax_help`, `show_shortcuts` and `show_about`.
-/

namespace ScriptStudio

namespace StudioText

/-- The program in a new tab. -/
def welcome : String := Text.ofLines [
    "# Welcome to DoroLang!",
    "# New features: boolean values, logic, conditionals",
    "",
    "say \"Hello, DoroLang!\"",
    "",
    "# Try the new features:",
    "kas name = \"Programmer\"",
    "kas is_learning = true",
    "",
    "if (is_learning) \x7b",
    "    say name + \" is learning DoroLang!\"",
    "\x7d else \x7b",
    "    say name + \" already knows DoroLang\"",
    "\x7d",
    ""]

/-- The help on the language. -/
def languageHelp : String := Text.ofLines [
    "DoroLang v1.3 - Syntax Help",
    "",
    "BASIC CONSTRUCTS:",
    "• say \"text\"              - output text",
    "• kas variable = value    - declare variable",
    "• input(\"prompt\")         - get user input",
    "",
    "DATA TYPES:",
    "• Numbers: 42, 3.14",
    "• Strings: \"hello\", 'world'",
    "• Booleans: true, false",
    "",
    "OPERATORS:",
    "• Arithmetic: +, -, *, /, %",
    "• Comparison: ==, !=, <, >, <=, >=",
    "• Logical: and, or, not",
    "",
    "CONDITIONAL CONSTRUCTS:",
    "if (condition) \x7b",
    "    # code if true",
    "\x7d else \x7b",
    "    # code if false",
    "\x7d",
    "",
    "COMMENTS:",
    "# This is a comment",
    "",
    "EXAMPLES:",
    "kas age = 25",
    "if (age >= 18) \x7b",
    "    say \"Adult\"",
    "\x7d else \x7b",
    "    say \"Minor\"",
    "\x7d",
    "",
    "kas result = (age > 20) and (age < 30)",
    "say \"Age between 20 and 30: \" + result",
    "",
    "kas name = input(\"What is your name? \")",
    "say \"Hello, \" + name + \"!\"",
    ""]

/-- The help on the keyboard. -/
def shortcuts : String := Text.ofLines [
    "DoroLang IDE Keyboard Shortcuts",
    "",
    "FILES:",
    "Ctrl+N        - New file",
    "Ctrl+T        - New from template",
    "Ctrl+O        - Open file",
    "Ctrl+S        - Save",
    "Ctrl+Shift+S  - Save as",
    "",
    "EDITING:",
    "Ctrl+Z        - Undo",
    "Ctrl+Y        - Redo",
    "Ctrl+X        - Cut",
    "Ctrl+C        - Copy",
    "Ctrl+V        - Paste",
    "Ctrl+A        - Select all",
    "Ctrl+/        - Comment",
    "Ctrl+Space    - Autocomplete",
    "",
    "EXECUTION:",
    "F5            - Run code",
    "F9            - Run selection",
    ""]

/-- What is said about the studio in a mode. -/
def about (mode : String) : String := Text.ofLines [
    "DoroLang IDE",
    "Mode: " ++ mode,
    "",
    "Integrated Development Environment ",
    "for DoroLang Programming Language",
    "",
    "Author: Dorofii Karnaukh",
    "Year: 2024-2025",
    "",
    "Key Features:",
    "✅ Full-featured editor with syntax highlighting",
    "✅ Multi-file support with tabs",
    "✅ File explorer with management (create/delete)",
    "✅ Light and dark themes",
    "✅ Interactive output console",
    "",
    "DoroLang - simple and powerful programming ",
    "language for learning!"]

end StudioText

end ScriptStudio
