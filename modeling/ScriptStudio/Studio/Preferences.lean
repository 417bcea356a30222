import ScriptStudio.Settings.Reader
import ScriptStudio.Settings.Writer
import ScriptStudio.Studio.Basic

/-!
# The settings file

The settings file keeps the recent files, the theme and the last folder from one session to the
next. What it holds is taken as it is. A file that cannot be read leaves the settings at their
defaults.

These are `load_settings` and `save_settings`.
-/

namespace ScriptStudio

namespace Preferences

/-- The name of the settings file. -/
def path : String := "dorolang_ide_settings.json"

/-- The field of an object, or a default. -/
def fieldOr (fields : List (String × Datum)) (name : String) (default : Datum) : Datum :=
  (fields.lookup name).getD default

/-- What a settings file is about. -/
structure Values where
  recentFiles : Datum
  theme : Datum
  lastFolder : Datum

/-- The settings as one datum. -/
def Values.datum (values : Values) : Datum :=
  .object [("recent_files", values.recentFiles), ("theme", values.theme),
    ("last_opened_folder", values.lastFolder)]

/-- The settings that a datum holds. Only an object has any. -/
def Values.ofDatum : Datum → Except Trouble Values
  | .object fields =>
    .ok ⟨fieldOr fields "recent_files" (.list []), fieldOr fields "theme" (.text Theme.light.name),
      fieldOr fields "last_opened_folder" .null⟩
  | other => .error (.noAttribute other.typeName "get")

/-- Reads the settings from a disk; `none` if there is no settings file. -/
def read (disk : Disk) : Except Trouble (Option Values) :=
  if disk.exists? path then do
    let text ← (disk.readText path).mapError .disk
    let datum ← (Datum.ofText text).mapError .settings
    return some (← Values.ofDatum datum)
  else .ok none

/-- Writes the settings to a disk. What cannot be written ends the file where it stands. -/
def save (values : Values) (disk : Disk) : Disk × Option Trouble :=
  let (text, trouble) : String × Option Trouble :=
    match values.datum.written with
    | .ok text => (text, none)
    | .error text => (text, some .unwritablePath)
  match disk.writeText path text with
  | .ok disk => (disk, trouble)
  | .error error => (disk, some (.disk error))

end Preferences

namespace Studio

/-- The settings in force. -/
def preferences (studio : Studio) : Preferences.Values :=
  ⟨studio.recentFiles, studio.theme, studio.lastFolder⟩

/-- Takes the settings from the settings file. -/
def loadSettings : Act Unit := do
  match Preferences.read (← get).site.disk with
  | .ok none => return ()
  | .ok (some values) =>
    modify fun studio => { studio with
      recentFiles := values.recentFiles
      theme := values.theme
      lastFolder := values.lastFolder }
  | .error trouble =>
    printLine ("Error loading settings: " ++ trouble.message)
    modify fun studio => { studio with recentFiles := .list [], lastFolder := .null }

/-- Writes the settings to the settings file. -/
def saveSettings : Act Unit := do
  let studio ← get
  let (disk, trouble) := Preferences.save studio.preferences studio.site.disk
  modify fun studio => { studio with site := { studio.site with disk } }
  match trouble with
  | some trouble => printLine ("Error saving settings: " ++ trouble.message)
  | none => return ()

end Studio

end ScriptStudio
