import LayerHeaders.Files.Replacement
import LayerHeaders.Header.Kind
import LayerHeaders.Header.LayerSettings

/-!
# Output

A header is made in full before anything is written. It goes to the path that is asked for, or under its
default name into a directory.

* `outputPath`: the path that a header goes to.
* `writeHeader`, `writeSettings`: make a header and write it.
-/

namespace LayerHeaders

open Files

variable {m : Type → Type} {Temporary : Type} [Monad m]

/-- The path that a header goes to: the path asked for, or a default name in it if it is a directory or
ends in a slash. -/
def outputPath (fs : FileSystem m Temporary) (output fileName : String) : m String := do
  if Path.endsInSlash output || (← fs.isDirectory output) then
    return Path.join output fileName
  else return output

/-- Writes a text to a path. -/
def writeText (fs : FileSystem m Temporary) (path text : String) : ExceptT HeaderError m Unit := do
  match ← (fs.replace path text).run with
  | .ok () => return
  | .error e => throw (.unwritable path e)

/-- Writes a text, if it is made, to where it is asked for; the path comes out. -/
def writeOutput (fs : FileSystem m Temporary) (text? : Except HeaderError String)
    (fileName output : String) : ExceptT HeaderError m String := do
  let text ← text?
  let path ← ExceptT.lift (outputPath fs output fileName)
  writeText fs path text
  return path

/-- Makes a header from a registry and writes it; its path comes out. -/
def writeHeader (fs : FileSystem m Temporary) (kind : HeaderKind) (r : Registry) (output : String) :
    ExceptT HeaderError m String :=
  writeOutput fs (kind.text r) kind.fileName output

/-- Makes the header of layer settings and writes it; its path comes out. -/
def writeSettings (fs : FileSystem m Temporary) (manifest : Manifest) (output : String) :
    ExceptT HeaderError m String :=
  writeOutput fs (LayerSettings.text manifest) LayerSettings.fileName output

end LayerHeaders
