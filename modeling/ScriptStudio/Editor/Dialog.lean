import ScriptStudio.Value

/-!
# Boxes

A box shows a message or asks a question. Questions take the replies of the user one after the
other; when none is left, a box is closed without a reply.

The boxes are those of `showinfo`, `showwarning`, `showerror`, `askyesno`, `askyesnocancel`,
`askstring`, `askinteger`, `askdirectory`, `askopenfilename` and `asksaveasfilename`.
-/

namespace ScriptStudio

/-- What a box is for. -/
inductive BoxKind where
  | info
  | warning
  | error
  | yesNo
  | yesNoCancel
  | text
  | number
  | openFile
  | saveFile
  | folder
deriving DecidableEq

/-- The name of the kind. -/
def BoxKind.name : BoxKind → String
  | .info => "showinfo"
  | .warning => "showwarning"
  | .error => "showerror"
  | .yesNo => "askyesno"
  | .yesNoCancel => "askyesnocancel"
  | .text => "askstring"
  | .number => "askinteger"
  | .openFile => "askopenfilename"
  | .saveFile => "asksaveasfilename"
  | .folder => "askdirectory"

/-- A box. Those that choose a path have no message. -/
structure Box where
  kind : BoxKind
  title : String
  message : Option String
deriving DecidableEq

/-- The replies to come and the boxes shown so far. -/
structure Desk where
  replies : List Value := []
  shown : Array Box := #[]

namespace Desk

/-- Shows a box. -/
def tell (desk : Desk) (kind : BoxKind) (title message : String) : Desk :=
  { desk with shown := desk.shown.push ⟨kind, title, some message⟩ }

/-- Shows a box and takes the next reply, if there is one. -/
def ask (desk : Desk) (kind : BoxKind) (title : String) (message : Option String) :
    Option Value × Desk :=
  (desk.replies.head?, ⟨desk.replies.tail, desk.shown.push ⟨kind, title, message⟩⟩)

/-- Asks for a yes or a no. No reply is a no. -/
def askYesNo (desk : Desk) (title message : String) : Bool × Desk :=
  let (reply, desk) := desk.ask .yesNo title (some message)
  ((reply.map Value.isTruthy).getD false, desk)

end Desk

end ScriptStudio
