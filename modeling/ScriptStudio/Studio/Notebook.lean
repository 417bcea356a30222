/-!
# The notebook of tabs

Tabs stand in the order in which they were added, and no number is used for two of them. One tab is
selected as long as there is any.
-/

namespace ScriptStudio

/-- A tab with what is written on it. -/
structure Tab where
  id : Nat
  label : String
deriving DecidableEq

/-- Tabs and the selected one. -/
structure Notebook where
  tabs : List Tab := []
  selected : Option Nat := none
  nextId : Nat := 1

namespace Notebook

/-- The numbers of the tabs. -/
def ids (notebook : Notebook) : List Nat := notebook.tabs.map (·.id)

/-- Adds a tab at the end. The first tab is selected. -/
def add (notebook : Notebook) (label : String) : Notebook :=
  { tabs := notebook.tabs ++ [⟨notebook.nextId, label⟩]
    selected := if notebook.tabs.isEmpty then some notebook.nextId else notebook.selected
    nextId := notebook.nextId + 1 }

/-- Selects a tab. -/
def select (notebook : Notebook) (id : Nat) : Notebook :=
  if notebook.ids.contains id then { notebook with selected := some id } else notebook

/-- Takes a tab away. When it was selected, the tab that takes its place is, or else the last
one. -/
def forget (notebook : Notebook) (id : Nat) : Notebook :=
  let rest := notebook.tabs.filter (·.id != id)
  let heir := rest[notebook.ids.idxOf id]? <|> rest.getLast?
  { notebook with
    tabs := rest
    selected := if notebook.selected == some id then heir.map (·.id) else notebook.selected }

/-- Writes something else on a tab. -/
def relabel (notebook : Notebook) (id : Nat) (label : String) : Notebook :=
  { notebook with
    tabs := notebook.tabs.map fun tab => if tab.id == id then { tab with label } else tab }

/-- The place of the selected tab. -/
def selectedPlace? (notebook : Notebook) : Option Nat :=
  notebook.selected.bind fun id => notebook.ids.findIdx? (· == id)

end Notebook

end ScriptStudio
