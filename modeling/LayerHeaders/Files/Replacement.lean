import LayerHeaders.Files.Path
import LayerHeaders.Files.System

/-!
# Replacing a file

A file is written as a temporary file beside its path, which is then given the path. Whatever fails before
that, the path keeps what it had, and the temporary file is discarded.

* `createDirectories`: creates a directory and those around it.
* `replace`: writes a file.
-/

namespace LayerHeaders.Files.FileSystem

variable {m : Type → Type} {Temporary : Type} [Monad m]

/-- Passes over a failure to create a directory if there is one all the same. -/
def passOver (fs : FileSystem m Temporary) (path : String) (e : FileError) :
    ExceptT FileError m Unit := do
  if ← fs.isDirectory path then return else throw e

/-- Creates a directory, unless it is there already. -/
def ensureDirectory (fs : FileSystem m Temporary) (path : String) : ExceptT FileError m Unit :=
  tryCatch (fs.createDirectory path) (fs.passOver path)

/-- Creates the directory with these names, the innermost first, and those around it as far as they are
missing. -/
def createNames (fs : FileSystem m Temporary) (absolute : Bool) :
    List String → ExceptT FileError m Unit
  | [] => return
  | name :: outer =>
    let path := Path.ofNames absolute (name :: outer).reverse
    tryCatch (fs.createDirectory path) fun e => do
      if e == .notFound then
        fs.createNames absolute outer
        fs.ensureDirectory path
      else fs.passOver path e

/-- Creates a directory and those around it. -/
def createDirectories (fs : FileSystem m Temporary) (path : String) : ExceptT FileError m Unit :=
  fs.createNames (Path.isAbsolute path) (Path.names path).reverse

/-- Writes a temporary file and gives it the path. -/
def fill (fs : FileSystem m Temporary) (file : Temporary) (path text : String) :
    ExceptT FileError m Unit := do
  fs.write file text
  fs.sync file
  fs.rename file path

/-- Writes a file, in place of one that has the path. -/
def replace (fs : FileSystem m Temporary) (path text : String) : ExceptT FileError m Unit := do
  let directory := Path.directory path
  fs.createDirectories directory
  let file ← fs.createTemporary directory
  tryCatch (fs.fill file path text) fun e => do
    fs.discard file
    throw e

end LayerHeaders.Files.FileSystem
