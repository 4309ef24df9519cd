import LayerHeaders.Dialect.Reading
import LayerHeaders.Files.Path
import LayerHeaders.Files.System
import LayerHeaders.Header.Error
import LayerHeaders.Manifest.Reading
import LayerHeaders.Registry.Reading

/-!
# Input

Dialects, registries and manifests are read from files.

* `readDialect`, `readRegistry`, `readManifest`: read a file of each kind.
* `registryPath`: where a directory of headers keeps its registry.
-/

namespace LayerHeaders

open Files

/-- Why a dialect is not read from a file. -/
inductive DialectError where
  /-- The file cannot be read. -/
  | unreadable (cause : FileError)
  /-- The text describes no dialect. -/
  | malformed
deriving DecidableEq, Repr

/-- The wording of a failure. -/
def DialectError.message : DialectError → String
  | unreadable cause => cause.message
  | malformed => "the configuration is malformed"

variable {m : Type → Type} {Temporary : Type} [Monad m]

/-- The dialect in a file. -/
def readDialect (fs : FileSystem m Temporary) (path : String) : ExceptT DialectError m Dialect := do
  match ← (fs.readText path).run with
  | .error e => throw (.unreadable e)
  | .ok text =>
    match Dialect.ofYaml? text with
    | some d => return d
    | none => throw .malformed

/-- The registry in a file. -/
def readRegistry (fs : FileSystem m Temporary) (d : Dialect) (path : String) :
    ExceptT RegistryError m Registry := do
  match ← (fs.readText path).run with
  | .error e => throw (.unreadable path e)
  | .ok text => Registry.read d text

/-- Where a directory of headers keeps its registry. -/
def registryPath (directory : String) : String :=
  Path.join (Path.join directory "registry") "vk.xml"

/-- The manifest in a file. -/
def readManifest (fs : FileSystem m Temporary) (path : String) : ExceptT HeaderError m Manifest := do
  match ← (fs.readText path).run with
  | .error e => throw (.unwritable path e)
  | .ok text =>
    match Manifest.ofJson text with
    | .ok manifest => return manifest
    | .error e => throw (.manifest e)

end LayerHeaders
