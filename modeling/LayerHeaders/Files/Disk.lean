import LayerHeaders.Files.Path
import LayerHeaders.Files.System

/-!
# Disks

A disk is a tree of files and directories in memory, known by the names on the way from the root, with a
working directory that relative paths start from. There are no links. A disk may be told to fail: each
operation that changes it takes one entry off a list of faults, and fails if that is an error.

* `Disk.locate`: the place of a path.
* `Disk.system`: the operations.
-/

namespace LayerHeaders.Files

/-! ## Entries -/

/-- What has a path. -/
inductive Entry where
  /-- A file and its content. -/
  | file (content : ByteArray)
  /-- A directory. -/
  | directory

/-- The names on the way from the root. -/
abbrev Place :=
  List String

/-- A tree of files and directories. -/
structure Disk where
  /-- The entries below the root. -/
  entries : List (Place × Entry)
  /-- The working directory. -/
  workingDirectory : Place
  /-- What happens to the next operations that change the disk: none stands for no fault. -/
  faults : List (Option FileError)

namespace Disk

/-- The entry at a place. The root is a directory. -/
def entry? (d : Disk) (place : Place) : Option Entry :=
  if place.isEmpty then some .directory else d.entries.lookup place

/-- The disk with an entry at a place, instead of one that is there. -/
def insert (d : Disk) (place : Place) (entry : Entry) : Disk :=
  { d with entries := (place, entry) :: d.entries.filter (·.1 != place) }

/-- The disk without an entry at a place. -/
def erase (d : Disk) (place : Place) : Disk :=
  { d with entries := d.entries.filter (·.1 != place) }

/-- The disk with one empty directory, in which it works. -/
def empty (workingDirectory : Place) : Disk where
  entries := (List.range workingDirectory.length).map fun n =>
    (workingDirectory.take (n + 1), .directory)
  workingDirectory := workingDirectory
  faults := []

/-! ## Paths -/

/-- The longest name. -/
def maxName : Nat := 255

/-- The longest path. -/
def maxPath : Nat := 4095

/-- The place of a name in a directory. -/
def child (d : Disk) (place : Place) (name : String) : Except FileError Place :=
  match d.entry? place with
  | none => .error .notFound
  | some (.file _) => .error .notDirectory
  | some .directory =>
    if name = "." then .ok place
    else if name = ".." then .ok place.dropLast
    else if maxName < name.utf8ByteSize then .error .nameTooLong
    else .ok (place ++ [name])

/-- The place that names lead to. All but the last one lead to directories. -/
def locateNames (d : Disk) (place : Place) (names : List String) : Except FileError Place :=
  names.foldlM d.child place

/-- The place of a path. -/
def locate (d : Disk) (path : String) : Except FileError Place :=
  if path = "" then .error .notFound
  else if maxPath < path.utf8ByteSize then .error .nameTooLong
  else d.locateNames (if Path.isAbsolute path then [] else d.workingDirectory) (Path.segments path)

/-- The entry of a path. Only a directory has a slash after its name. -/
def find (d : Disk) (path : String) : Except FileError Entry := do
  let place ← d.locate path
  match d.entry? place with
  | none => throw .notFound
  | some (.file content) =>
    if Path.endsInSlash path then throw .notDirectory else return .file content
  | some .directory => return .directory

/-- Whether a path ends in a name, and not in dots or at the root. -/
def endsInName (path : String) : Bool :=
  match (Path.segments path).getLast? with
  | none => false
  | some name => name != "." && name != ".."

/-! ## Operations -/

/-- The content of a file. -/
def read (d : Disk) (path : String) : Except FileError ByteArray := do
  match ← d.find path with
  | .file content => return content
  | .directory => throw .isDirectory

/-- Whether a path is that of a directory. -/
def isDirectory (d : Disk) (path : String) : Bool :=
  match d.find path with
  | .ok .directory => true
  | _ => false

/-- The disk with one more directory. -/
def createDirectory (d : Disk) (path : String) : Except FileError Disk := do
  let place ← d.locate path
  if (d.entry? place).isSome then throw .alreadyExists
  return d.insert place .directory

/-- The name of a temporary file, by number. -/
def temporaryName (n : Nat) : String :=
  ".tmp" ++ toString n

/-- The disk with an empty file in a directory, at a place that had nothing, and that place. -/
def createTemporary (d : Disk) (path : String) : Except FileError (Place × Disk) := do
  let place ← d.locate path
  match d.entry? place with
  | none => throw .notFound
  | some (.file _) => throw .notDirectory
  | some .directory =>
    let isFree (n : Nat) : Bool := (d.entry? (place ++ [temporaryName n])).isNone
    match (List.range (d.entries.length + 1)).find? isFree with
    | none => throw .alreadyExists
    | some n =>
      let file := place ++ [temporaryName n]
      return (file, d.insert file (.file .empty))

/-- The disk with a content at a place. -/
def write (d : Disk) (file : Place) (text : String) : Disk :=
  d.insert file (.file text.toUTF8)

/-- The disk with the file at `file` moved to a path, in place of a file there. -/
def rename (d : Disk) (file : Place) (path : String) : Except FileError Disk := do
  let place ← d.locate path
  if !endsInName path then throw .busy
  if Path.endsInSlash path then throw .notDirectory
  match d.entry? place, d.entry? file with
  | some .directory, _ => throw .isDirectory
  | _, none => throw .notFound
  | _, some entry => return (d.erase file).insert place entry

/-! ## The file system -/

/-- Runs an operation that changes the disk, unless the next fault prevents it. -/
def change {α : Type} (f : Disk → Except FileError (α × Disk)) :
    ExceptT FileError (StateM Disk) α := do
  let d ← get
  let fault? := d.faults.head?.join
  let d := { d with faults := d.faults.tail }
  set d
  match fault? with
  | some e => throw e
  | none =>
    match f d with
    | .error e => throw e
    | .ok (a, d) =>
      set d
      return a

/-- The operations on a disk. -/
def system : FileSystem (StateM Disk) Place where
  isDirectory path := do return (← get).isDirectory path
  read path := do
    match (← get).read path with
    | .ok content => return content
    | .error e => throw e
  createDirectory path := change fun d => do return ((), ← d.createDirectory path)
  createTemporary path := change fun d => d.createTemporary path
  write file text := change fun d => .ok ((), d.write file text)
  sync _ := change fun d => .ok ((), d)
  rename file path := change fun d => do return ((), ← d.rename file path)
  discard file := modify fun d => d.erase file

/-- The paths of all entries below the working directory, with a slash after a directory. -/
def paths (d : Disk) : List String :=
  d.entries.filterMap fun (place, entry) =>
    match place.drop d.workingDirectory.length with
    | [] => none
    | names =>
      if d.workingDirectory.isPrefixOf place then
        some (Path.ofNames false names ++ match entry with
          | .file _ => ""
          | .directory => "/")
      else none

end Disk

end LayerHeaders.Files
