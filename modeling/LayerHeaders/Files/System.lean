import LayerHeaders.Files.Error

/-!
# File systems

What the program asks of a file system: to look at paths, to read files, to create directories, and to
write a temporary file that is then given its path or discarded. The operations run in any monad, so that
the disk of a machine and a tree in memory answer the same questions.

* `readText`: the text of a file.
-/

namespace LayerHeaders.Files

/-- The operations on a file system whose temporary files are known by `Temporary`. -/
structure FileSystem (m : Type → Type) (Temporary : Type) where
  /-- Whether a path is that of a directory. -/
  isDirectory : String → m Bool
  /-- The content of a file. -/
  read : String → ExceptT FileError m ByteArray
  /-- Creates a directory in an existing one. -/
  createDirectory : String → ExceptT FileError m Unit
  /-- Creates an empty temporary file in a directory. -/
  createTemporary : String → ExceptT FileError m Temporary
  /-- Writes the content of a temporary file. -/
  write : Temporary → String → ExceptT FileError m Unit
  /-- Makes sure that the content of a temporary file lasts. -/
  sync : Temporary → ExceptT FileError m Unit
  /-- Gives a temporary file a path, in place of a file that has it. -/
  rename : Temporary → String → ExceptT FileError m Unit
  /-- Removes a temporary file. -/
  discard : Temporary → m Unit

/-- The text of a file. -/
def FileSystem.readText {m : Type → Type} {Temporary : Type} [Monad m]
    (fs : FileSystem m Temporary) (path : String) : ExceptT FileError m String := do
  let bytes ← fs.read path
  match String.fromUTF8? bytes with
  | some text => return text
  | none => throw .invalidText

end LayerHeaders.Files
