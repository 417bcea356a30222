import ScriptStudio.Disk.Path
import ScriptStudio.Text.Lines
import ScriptStudio.Text.Utf8

/-!
# The disk

A disk is what lies below the working directory: a list of locations, each a file with its octets or
a directory. A location is a list of names, and the working directory itself is the empty one. The
directories above it are locations of two dots each, and what lies below the root of all paths has
locations that begin with a slash.

A path is followed step by step. Every step starts at a directory, also one that is a single dot, so
that a file cannot be followed by a dot.

A file or a directory may be closed to the user. It is there, and it can be given another name, but
it can be neither read nor written, neither listed nor gone through.

Text files hold UTF-8. Reading one turns every kind of line end into a line feed, and writing one
leaves line feeds as they are.

The operations are `open`, `exists`, `isdir`, `is_dir`, `iterdir`, `touch`, `mkdir`, `rename`,
`unlink` and `rmtree`.
-/

namespace ScriptStudio

/-- A file or a directory. -/
inductive DiskEntry where
  | file (octets : List Text.Octet)
  | directory
  /-- A file or a directory that may not be opened. -/
  | closed (isFolder : Bool)
deriving DecidableEq

/-- The entry is a directory, closed or not. -/
def DiskEntry.isFolder : DiskEntry → Bool
  | .file _ => false
  | .directory => true
  | .closed isFolder => isFolder

/-- Files and directories with their locations, in the order of their making. -/
structure Disk where
  entries : List (List String × DiskEntry) := []

/-- Why the system refuses an operation on a path. -/
inductive DiskFault where
  | notFound
  | denied
  | exists
  | notDirectory
  | isDirectory
  | notEmpty
  | nameTooLong
  | invalidArgument
  | busy
deriving DecidableEq

/-- The number and the wording of a refusal. -/
def DiskFault.description : DiskFault → Nat × String
  | .notFound => (2, "No such file or directory")
  | .denied => (13, "Permission denied")
  | .busy => (16, "Device or resource busy")
  | .exists => (17, "File exists")
  | .notDirectory => (20, "Not a directory")
  | .isDirectory => (21, "Is a directory")
  | .invalidArgument => (22, "Invalid argument")
  | .nameTooLong => (36, "File name too long")
  | .notEmpty => (39, "Directory not empty")

/-- Why an operation on files failed. -/
inductive DiskError where
  | refused (fault : DiskFault) (path : String) (target : Option String)
  | undecodable (error : Text.DecodeError)
  | nulInPath
deriving DecidableEq

/-- What is said about a failure. -/
def DiskError.message : DiskError → String
  | .refused fault path target =>
    let (number, wording) := fault.description
    let ending :=
      match target with
      | some target => " -> " ++ Text.quoted target
      | none => ""
    s!"[Errno {number}] {wording}: " ++ Text.quoted path ++ ending
  | .undecodable error => error.message
  | .nulInPath => "embedded null byte"

namespace Disk

/-- The location of the root of all paths. -/
def root : List String := ["/"]

/-- The location is the working directory or lies above it. -/
def isAbove (location : List String) : Bool := location.all (· == "..")

/-- What lies at a location. -/
def entryAt (disk : Disk) (location : List String) : Option DiskEntry :=
  if isAbove location || location = root then some .directory else disk.entries.lookup location

/-- The location around a location. Nothing lies around the root. -/
def outward (location : List String) : List String :=
  if isAbove location then location ++ [".."]
  else if location = root then root
  else location.dropLast

/-- Where a step leads. -/
def step (location : List String) (name : String) : List String :=
  if name == "." then location else if name == ".." then outward location else location ++ [name]

/-- Where the names of a path begin. -/
def startOf (path : String) : List String := if Path.isAbsolute path then root else []

/-- The location can be entered: a directory lies there that is not closed. -/
def enter (disk : Disk) (location : List String) : Except DiskFault Unit :=
  match disk.entryAt location with
  | none => .error .notFound
  | some (.file _) | some (.closed false) => .error .notDirectory
  | some (.closed true) => .error .denied
  | some .directory => .ok ()

/-- Goes from a location along steps. Every step starts at a directory. -/
def walk (disk : Disk) (location : List String) : List String → Except DiskFault (List String)
  | [] => .ok location
  | name :: rest =>
    match disk.enter location with
    | .error fault => .error fault
    | .ok () =>
      if 255 < name.utf8ByteSize then .error .nameTooLong
      else walk disk (step location name) rest

/-- The system takes the path: it is not empty and not too long. -/
def checkLength (path : String) : Except DiskFault Unit :=
  if path == "" then .error .notFound
  else if 4096 ≤ path.utf8ByteSize then .error .nameTooLong
  else .ok ()

/-- The location of a path. All but its last step exist. -/
def locate (disk : Disk) (path : String) : Except DiskFault (List String) := do
  checkLength path
  let location ← disk.walk (startOf path) (Path.steps path)
  match Path.endsWithSlash path, (disk.entryAt location).map DiskEntry.isFolder with
  | true, some false => throw .notDirectory
  | _, _ => return location

/-- The location of a path to write to. A path that a slash ends is one of a directory, whatever
lies there. -/
def locateForWriting (disk : Disk) (path : String) : Except DiskFault (List String) := do
  if Path.endsWithSlash path then
    checkLength path
    let _ ← disk.walk (startOf path) ((Path.steps path).dropLast ++ ["."])
    throw .isDirectory
  else disk.locate path

/-- What is found for a path, with the failure that the path causes. -/
def orFail (path : String) (found : Except DiskFault (List String)) :
    Except DiskError (List String) :=
  if path.toList.contains '\x00' then .error .nulInPath
  else found.mapError fun fault => .refused fault path none

/-- The location of a path, with the failure that the path causes. -/
def locateOrFail (disk : Disk) (path : String) : Except DiskError (List String) :=
  orFail path (disk.locate path)

/-- What lies at a path. -/
def find? (disk : Disk) (path : String) : Option DiskEntry :=
  match disk.locateOrFail path with
  | .ok location => disk.entryAt location
  | .error _ => none

/-- What lies at a path, if the system can tell. It cannot for a path that is too long or that leads
through a closed directory. -/
def lookUp (disk : Disk) (path : String) : Except DiskError (Option DiskEntry) :=
  match disk.locateOrFail path with
  | .ok location => .ok (disk.entryAt location)
  | .error (.refused .nameTooLong path target) => .error (.refused .nameTooLong path target)
  | .error (.refused .denied path target) => .error (.refused .denied path target)
  | .error _ => .ok none

/-- Something lies at the path. -/
def exists? (disk : Disk) (path : String) : Bool := (disk.find? path).isSome

/-- A directory lies at the path. -/
def isDirectory (disk : Disk) (path : String) : Bool := (disk.find? path).any DiskEntry.isFolder

/-- Puts an entry at a location in a list: in place, or at the end. -/
def putEntry (location : List String) (entry : DiskEntry) :
    List (List String × DiskEntry) → List (List String × DiskEntry)
  | [] => [(location, entry)]
  | first :: rest =>
    if first.1 = location then (location, entry) :: rest
    else first :: putEntry location entry rest

/-- Puts an entry at a location. -/
def put (disk : Disk) (location : List String) (entry : DiskEntry) : Disk :=
  ⟨putEntry location entry disk.entries⟩

/-- Takes away all that lies at a location and below it. -/
def dropBelow (disk : Disk) (location : List String) : Disk :=
  ⟨disk.entries.filter fun entry => !location.isPrefixOf entry.1⟩

/-- The names of what lies directly in a directory. -/
def namesIn (disk : Disk) (location : List String) : List String :=
  disk.entries.filterMap fun entry =>
    if entry.1.length = location.length + 1 && location.isPrefixOf entry.1 then entry.1.getLast?
    else none

/-- How many names the longest location has. -/
def depth (disk : Disk) : Nat :=
  disk.entries.foldr (fun entry longest => max entry.1.length longest) 0

/-- The octets of a file. -/
def readOctets (disk : Disk) (path : String) : Except DiskError (List Text.Octet) := do
  let location ← disk.locateOrFail path
  match disk.entryAt location with
  | none => throw (.refused .notFound path none)
  | some .directory => throw (.refused .isDirectory path none)
  | some (.closed _) => throw (.refused .denied path none)
  | some (.file octets) => return octets

/-- The text of a file. -/
def readText (disk : Disk) (path : String) : Except DiskError String := do
  let octets ← disk.readOctets path
  let text ← (Text.decodeUtf8 octets).mapError .undecodable
  return String.ofList (Text.unifyNewlines text)

/-- Writes octets to a file, which is made if there is none. -/
def writeOctets (disk : Disk) (path : String) (octets : List Text.Octet) :
    Except DiskError Disk := do
  let location ← orFail path (disk.locateForWriting path)
  match disk.entryAt location with
  | some .directory | some (.closed true) => throw (.refused .isDirectory path none)
  | some (.closed false) => throw (.refused .denied path none)
  | _ => return disk.put location (.file octets)

/-- Writes a text to a file. -/
def writeText (disk : Disk) (path text : String) : Except DiskError Disk :=
  disk.writeOctets path (Text.encodeUtf8 text.toList)

/-- Makes an empty file where there is nothing. -/
def touch (disk : Disk) (path : String) : Except DiskError Disk :=
  if disk.exists? path then .ok disk else disk.writeOctets path []

/-- Makes a directory. -/
def makeDirectory (disk : Disk) (path : String) : Except DiskError Disk := do
  let location ← disk.locateOrFail path
  match disk.entryAt location with
  | some _ => throw (.refused .exists path none)
  | none => return disk.put location .directory

/-- Moves an entry and all below it. A file may take the place of a file, and a directory the place
of an empty directory. -/
def rename (disk : Disk) (path target : String) : Except DiskError Disk := do
  let refuse {α : Type} (fault : DiskFault) : Except DiskError α :=
    .error (.refused fault path (some target))
  if path.toList.contains '\x00' || target.toList.contains '\x00' then throw .nulInPath
  if Path.lastName target == ".." then refuse .busy
  match disk.locate path, disk.locate target with
  | .error fault, _ => refuse fault
  | _, .error fault => refuse fault
  | .ok source, .ok goal =>
    match (disk.entryAt source).map DiskEntry.isFolder,
        (disk.entryAt goal).map DiskEntry.isFolder with
    | none, _ => refuse .notFound
    | some false, some true => refuse .isDirectory
    | some true, some false => refuse .notDirectory
    | some isFolder, occupied =>
      if source = goal then return disk
      else if isFolder && source.isPrefixOf goal then refuse .invalidArgument
      else if occupied = some true && !(disk.namesIn goal).isEmpty then refuse .notEmpty
      else
        let kept := (disk.dropBelow goal).entries
        return ⟨kept.map fun (location, entry) =>
          if source.isPrefixOf location then (goal ++ location.drop source.length, entry)
          else (location, entry)⟩

/-- A closed directory lies at a location or below it. -/
def hasClosed (disk : Disk) (location : List String) : Bool :=
  disk.entries.any fun entry => entry.2 = .closed true && location.isPrefixOf entry.1

/-- Takes away a file, or a directory with all below it. A closed directory stays, with those around
it. The working directory can be emptied but stays too, and each of these is a failure. -/
def remove (disk : Disk) (path : String) : Disk × Option DiskError :=
  match disk.locateOrFail path with
  | .error error => (disk, some error)
  | .ok location =>
    match disk.entryAt location with
    | none => (disk, some (.refused .notFound path none))
    | some _ =>
      if disk.hasClosed location then (disk, some (.refused .denied path none))
      else
        (disk.dropBelow location,
          if location.isEmpty then some (.refused .invalidArgument path none) else none)

/-- The locations along steps. -/
def visited (location : List String) : List String → List (List String)
  | [] => []
  | name :: rest => step location name :: visited (step location name) rest

/-- A disk with an entry at a path and directories on the way to it. -/
def ofEntry (path : String) (entry : DiskEntry) : Disk :=
  let locations := visited (startOf path) (Path.steps path)
  let directories := locations.dropLast.foldl (fun disk location => disk.put location .directory) {}
  match locations.getLast? with
  | some location => directories.put location entry
  | none => directories

/-- The names in a directory by code points. -/
def list (disk : Disk) (path : String) : Except DiskError (List String) := do
  let location ← disk.locateOrFail path
  (disk.enter location).mapError (.refused · path none)
  return (disk.namesIn location).mergeSort fun a b => !(b < a)

end Disk

end ScriptStudio
