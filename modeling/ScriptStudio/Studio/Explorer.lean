import ScriptStudio.Disk.Basic
import ScriptStudio.Editor.Dialog
import ScriptStudio.Studio.Trouble

/-!
# The file explorer

The explorer shows a folder and all below it as a tree of rows. Rows are made anew whenever the tree
is filled, and their numbers are never used again, so that a selection made before then means no
row.

The explorer acts on a site: the disk, the boxes that it shows, and the screen that it reports to.

This is `FileExplorer`: `populate_tree`, `process_directory`, `on_double_click`,
`show_context_menu`, `get_selected_path`, `new_file`, `new_folder`, `delete_item`, `rename_item` and
`refresh_tree`.
-/

namespace ScriptStudio

/-- A row of the tree. -/
structure Row where
  id : Nat
  parent : Option Nat
  text : String
  image : String
  isOpen : Bool
  path : String

/-- The tree with the folder that it shows. -/
structure Explorer where
  rows : List Row := []
  nextId : Nat := 1
  root : Option String := none
  selected : Option Nat := none
  /-- The image of script files; empty for none. -/
  icon : String := ""
  /-- Renaming and deleting are offered. -/
  allowsChange : Bool := true
  /-- How often the menu was shown. -/
  posted : Nat := 0

/-- What the explorer works on. -/
structure Site where
  disk : Disk := {}
  desk : Desk := {}
  explorer : Explorer := {}
  screen : String := ""

/-- An action on a site. -/
abbrev SiteAct := EStateM Trouble Site

namespace Explorer

/-- The row of a number. -/
def rowOf? (explorer : Explorer) (id : Nat) : Option Row := explorer.rows.find? (·.id == id)

/-- The first row of a path. -/
def rowAt? (explorer : Explorer) (path : String) : Option Row :=
  explorer.rows.find? (·.path == path)

/-- The place of a row in the tree. -/
def placeOf? (explorer : Explorer) (id : Nat) : Option Nat :=
  explorer.rows.findIdx? (·.id == id)

/-- The text and the image of a path in the tree. -/
def label (icon path : String) (isFolder : Bool) : String × String :=
  if isFolder then ("📁 " ++ path, "")
  else if Path.ending path == ".doro" && icon != "" then (" " ++ Path.lastName path, icon)
  else ("📄 " ++ path, "")

/-- What the row of a note says in a folder that is closed. -/
def closedNote : String := "🚫 Access denied"

/-- What becomes of a folder that cannot be gone through to its end: a row of a number with a note,
or something that is printed. -/
def stopped (parent next : Nat) (folder : String) : DiskError → List Row × List String
  | .refused .denied _ _ => ([⟨next, some parent, closedNote, "", false, ""⟩], [])
  | error => ([], [s!"Error processing directory {folder}: " ++ error.message])

/-- The rows for names in a folder, each followed by the rows below it, and what is printed about
folders. Rows are numbered from `next` on, and `below` makes those of a folder with a number. A name
that cannot be looked up ends the rows. -/
def rowsAmong (disk : Disk) (icon : String)
    (below : (folder : String) → (id : Nat) → List Row × List String) (parent : Nat)
    (folder : String) : (names : List String) → (next : Nat) → List Row × List String
  | [], _ => ([], [])
  | name :: rest, next =>
    let path := Path.join folder name
    match disk.lookUp path with
    | .error error => stopped parent next folder error
    | .ok entry =>
      let isFolder := entry.any DiskEntry.isFolder
      let (text, image) := label icon path isFolder
      let inside := if isFolder then below path next else ([], [])
      let later := rowsAmong disk icon below parent folder rest (next + 1 + inside.1.length)
      (⟨next, some parent, text, image, false, path⟩ :: (inside.1 ++ later.1), inside.2 ++ later.2)

/-- The rows below a folder whose row has a number, so many folders deep, and what is printed about
folders. A folder that cannot be listed has no rows of paths below it. -/
def rowsBelow (disk : Disk) (icon : String) :
    (depth : Nat) → (folder : String) → (id : Nat) → List Row × List String
  | 0, _, _ => ([], [])
  | depth + 1, folder, id =>
    match disk.list (Path.tidy folder) with
    | .error error => stopped id (id + 1) folder error
    | .ok names => rowsAmong disk icon (rowsBelow disk icon depth) id folder names (id + 1)

/-- The rows of a folder and of all below it, and what is printed about folders. -/
def rowsOf (disk : Disk) (icon path : String) (next : Nat) : List Row × List String :=
  let below := rowsBelow disk icon (disk.depth + 1) path next
  (⟨next, none, "🗂️ " ++ Path.baseName path, "", true, path⟩ :: below.1, below.2)

/-- The explorer showing a folder. -/
def filled (explorer : Explorer) (disk : Disk) (path : String) : Explorer :=
  let rows := (rowsOf disk explorer.icon path explorer.nextId).1
  { explorer with rows, root := some path, nextId := explorer.nextId + rows.length }

/-- What is printed when the explorer is filled with a folder. -/
def complaints (explorer : Explorer) (disk : Disk) (path : String) : List String :=
  (rowsOf disk explorer.icon path explorer.nextId).2

end Explorer

namespace Site

/-- Prints a line. -/
def printLine (line : String) : SiteAct Unit :=
  modify fun site => { site with screen := site.screen ++ line ++ "\n" }

/-- Shows a box. -/
def tell (kind : BoxKind) (title message : String) : SiteAct Unit :=
  modify fun site => { site with desk := site.desk.tell kind title message }

/-- Shows a box and takes the reply. -/
def ask (kind : BoxKind) (title : String) (message : Option String) : SiteAct (Option Value) := do
  let (reply, desk) := (← get).desk.ask kind title message
  modify fun site => { site with desk }
  return reply

/-- Asks for a text. No reply, and the empty one, are none. -/
def askText (title message : String) : SiteAct (Option String) := do
  match ← ask .text title (some message) with
  | some (.text "") => return none
  | some (.text reply) => return some reply
  | _ => return none

/-- Asks for a yes or a no. -/
def askYesNo (title message : String) : SiteAct Bool := do
  let (agreed, desk) := (← get).desk.askYesNo title message
  modify fun site => { site with desk }
  return agreed

/-- Fills the tree with a folder. -/
def populate (path : String) : SiteAct Unit :=
  modify fun site =>
    { site with
      explorer := site.explorer.filled site.disk path
      screen := site.screen ++
        String.join ((site.explorer.complaints site.disk path).map (· ++ "\n")) }

/-- What lies at a path. That the system cannot tell is a trouble. -/
def lookUp (path : String) : SiteAct (Option DiskEntry) := do
  match (← get).disk.lookUp path with
  | .ok entry => return entry
  | .error error => throw (.disk error)

/-- Fills the tree anew if its folder is still there. -/
def refresh : SiteAct Unit := do
  match (← get).explorer.root with
  | some "" => return ()
  | some root => if (← lookUp (Path.tidy root)).any DiskEntry.isFolder then populate root
  | none => return ()

/-- The path of the selected row, if the row is there and is not that of a note. -/
def selectedPath? : SiteAct (Option String) := do
  let explorer := (← get).explorer
  let row := explorer.selected.bind explorer.rowOf?
  return (row.filter (·.text != Explorer.closedNote)).map (·.path)

/-- The folder that takes new entries: the selected one, the one around the selected file, or the
folder that is shown. -/
def targetFolder? : SiteAct (Option String) := do
  let site ← get
  match site.explorer.selected with
  | none => return site.explorer.root.filter (· != "")
  | some _ =>
    match ← selectedPath? with
    | none => throw (.notPath "NoneType")
    | some path =>
      let path := Path.tidy path
      return some (if (← lookUp path).any DiskEntry.isFolder then path else Path.parent path)

/-- Does something to the disk. A refusal by the system is reported with a box and is `false`; what
is no refusal is a trouble. -/
def changeDisk (report : DiskError → Box) (change : Disk → Disk × Option DiskError) :
    SiteAct Bool := do
  let (disk, error) := change (← get).disk
  modify fun site => { site with disk }
  match error with
  | none => return true
  | some (.refused fault path target) =>
    modify fun site =>
      { site with
        desk := { site.desk with
          shown := site.desk.shown.push (report (.refused fault path target)) } }
    return false
  | some error => throw (.disk error)

/-- A change that leaves the disk as it was when it fails. -/
def orUnchanged (change : Disk → Except DiskError Disk) (disk : Disk) : Disk × Option DiskError :=
  match change disk with
  | .ok changed => (changed, none)
  | .error error => (disk, some error)

/-- The box that reports a failure. -/
def failureBox (opening : String) (error : DiskError) : Box :=
  ⟨.error, "Error", some (opening ++ error.message)⟩

/-- Asks for a name and makes an empty file of it. The result is the path of the new file. -/
def createFile : SiteAct (Option String) := do
  match ← targetFolder? with
  | none => return none
  | some folder =>
    match ← askText "New File" "Enter file name:" with
    | none => return none
    | some name =>
      let path := Path.join folder name
      if (← get).disk.exists? path then
        tell .warning "Error" "File with this name already exists."
        return none
      else
        let made ← changeDisk (failureBox "Failed to create file: ") (orUnchanged (·.touch path))
        return if made then some path else none

/-- The box that reports why a folder was not made. -/
def folderFailureBox (error : DiskError) : Box :=
  match error with
  | .refused .exists _ _ => ⟨.warning, "Error", some "Folder with this name already exists."⟩
  | _ => failureBox "Failed to create folder: " error

/-- Asks for a name and makes a folder of it. -/
def createFolder : SiteAct Unit := do
  match ← targetFolder? with
  | none => return ()
  | some folder =>
    match ← askText "New Folder" "Enter folder name:" with
    | none => return ()
    | some name =>
      if ← changeDisk folderFailureBox (orUnchanged (·.makeDirectory (Path.join folder name))) then
        refresh

/-- Deletes what lies at a path, if anything does. -/
def deleteAt (path : String) (disk : Disk) : Disk × Option DiskError :=
  match disk.lookUp path with
  | .ok (some _) => disk.remove path
  | .ok none => (disk, none)
  | .error error => (disk, some error)

/-- Deletes what the selected row shows, if the user agrees. -/
def deleteSelected : SiteAct Unit := do
  match ← selectedPath? with
  | none => return ()
  | some "" => return ()
  | some path =>
    let path := Path.tidy path
    let name := Path.lastName path
    if ← askYesNo "Confirmation" s!"Are you sure you want to delete '{name}'?" then
      if ← changeDisk (failureBox "Failed to delete: ") (deleteAt path) then refresh

/-- Gives what the selected row shows a new name. -/
def renameSelected : SiteAct Unit := do
  match ← selectedPath? with
  | none => return ()
  | some "" => return ()
  | some path =>
    let path := Path.tidy path
    let oldName := Path.lastName path
    match ← askText "Rename" "Enter new name:" with
    | none => return ()
    | some name =>
      if name != oldName then
        if oldName == "" then throw (.emptyName path)
        if !Path.isSingleName name then throw (.invalidName name)
        if ← changeDisk (failureBox "Failed to rename: ")
            (orUnchanged (·.rename path (Path.withName path name))) then
          refresh

/-- The file to open after a double click on the row of a path. -/
def fileAtRow? (path : String) : SiteAct (Option String) := do
  let site ← get
  match site.explorer.rowAt? path with
  | some row =>
    match row.path, site.disk.lookUp (Path.tidy row.path) with
    | "", _ => return none
    | path, .ok entry => return if entry.any (!·.isFolder) then some path else none
    | _, .error error =>
      printLine ("Error opening file from explorer: " ++ error.message)
      return none
  | none => return none

/-- Selects the row of a path, or nothing. -/
def select (path : String) : SiteAct Unit :=
  modify fun site =>
    { site with explorer := { site.explorer with
        selected := (site.explorer.rowAt? path).map (·.id) } }

/-- Shows the menu for the row of a path. The folder that is shown can be neither renamed nor
deleted. -/
def showMenu (path : String) : SiteAct Unit :=
  modify fun site =>
    match site.explorer.rowAt? path with
    | some row =>
      { site with explorer := { site.explorer with
          selected := some row.id
          allowsChange := row.parent.isSome
          posted := site.explorer.posted + 1 } }
    | none => site

end Site

end ScriptStudio
