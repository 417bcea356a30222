import ScriptStudio.Disk.Basic

/-!
# What changed on a disk

Two states of a disk are compared by what they show at each path. The path of a directory ends with
a slash and shows no text, and nothing can be seen of what a closed file holds.
-/

namespace ScriptStudio

namespace Disk

/-- The location does not lie below the working directory. -/
def isOutside (location : List String) : Bool :=
  root.isPrefixOf location || [".."].isPrefixOf location

/-- Every path below the working directory with what it shows. -/
def view (disk : Disk) : List (String × List Text.Octet) :=
  (disk.entries.filter fun entry => !isOutside entry.1).map fun (location, entry) =>
    match entry with
    | .directory | .closed true => ("/".intercalate location ++ "/", [])
    | .closed false => ("/".intercalate location, [])
    | .file octets => ("/".intercalate location, octets)

/-- The paths that show something new, with it, and the paths that are gone. -/
def changes (before after : Disk) : List (String × Option (List Text.Octet)) :=
  let old := before.view
  let new := after.view
  let changed := new.filter fun (path, octets) => old.lookup path != some octets
  let gone := old.filter fun (path, _) => (new.lookup path).isNone
  changed.map (fun (path, octets) => (path, some octets)) ++ gone.map fun (path, _) => (path, none)

end Disk

end ScriptStudio
