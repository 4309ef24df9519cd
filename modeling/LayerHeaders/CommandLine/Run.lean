import LayerHeaders.CommandLine.Arguments
import LayerHeaders.Input
import LayerHeaders.Output

/-!
# Running

A command line is read and its task performed. The report says how the program ends and what it prints: a
failure is told with everything that lies below it.

* `run`: the report of a command line.
-/

namespace LayerHeaders.CommandLine

open Files

/-! ## Failures -/

/-- Why a task fails. -/
inductive Failure where
  /-- The configuration file is not read. -/
  | configuration (path : String) (cause : DialectError)
  /-- The registry is not read. -/
  | registry (source : Source) (cause : RegistryError)
  /-- The header of a registry is not made or not written. -/
  | header (kind : HeaderKind) (cause : HeaderError)
  /-- The manifest is not read. -/
  | manifest (path : String) (cause : HeaderError)
  /-- The layer settings are not made. -/
  | settings (cause : HeaderError)
  /-- The layer settings are not written. -/
  | output (cause : HeaderError)
deriving DecidableEq, Repr

/-- The wordings of a failure and of what lies below it. -/
def Failure.chain : Failure → List String
  | configuration path cause => [s!"failed to load config {path}", cause.message]
  | registry (.file path) cause => s!"failed to load registry {path}" :: cause.chain
  | registry (.directory path) cause => s!"failed to load registry from {path}" :: cause.chain
  | header kind cause => s!"failed to generate {kind.fileName}" :: cause.chain
  | manifest path cause => s!"failed to load layer manifest {path}" :: cause.chain
  | settings cause => s!"failed to generate {LayerSettings.fileName}" :: cause.chain
  | output cause => cause.chain

/-- The failure of layer settings that are not made or not written. -/
def Failure.ofSettings : HeaderError → Failure
  | .unwritable path cause => .output (.unwritable path cause)
  | cause => .settings cause

/-! ## Tasks -/

variable {m : Type → Type} {Temporary : Type} [Monad m]

/-- The path of a registry. -/
def Source.path : Source → String
  | file path => path
  | directory path => registryPath path

/-- Performs a task; the path that is written comes out. -/
def Task.perform (fs : FileSystem m Temporary) (configuration? : Option String) :
    Task → ExceptT Failure m String
  | .header kind source output => do
    let d ← match configuration? with
      | some path => (readDialect fs path).adapt (Failure.configuration path)
      | none => pure {}
    let r ← (readRegistry fs d source.path).adapt (Failure.registry source)
    (writeHeader fs kind r output).adapt (Failure.header kind)
  | .settings path output => do
    let manifest ← (readManifest fs path).adapt (Failure.manifest path)
    (writeSettings fs manifest output).adapt Failure.ofSettings

/-! ## Reports -/

/-- How the program ends, and what it prints. -/
structure Report where
  /-- The status: zero for success, one for a failure, two for a command line that is not well formed. -/
  status : UInt32
  /-- What is printed. -/
  output : String
  /-- What is printed about a failure. -/
  problem : String
deriving DecidableEq, Repr

/-- The name of the program. -/
def programName : String :=
  "vk-layer-codegen"

/-- The version of the program. -/
def version : String :=
  "0.1.0"

/-- How the program is used. -/
def usage : String :=
  "\n".intercalate [
    "Generate profiler layer headers from the Vulkan registry",
    "",
    s!"Usage: {programName} [OPTIONS] <COMMAND>",
    "",
    "Commands:",
    "  dispatch-tables  Instance and device dispatch tables (vk_dispatch_tables.h)",
    "  icd              Test ICD interfaces and entry points (vk_icd.h)",
    "  serialization    Stream insertion operators for API structures (vk_serialization.h)",
    "  layer-settings   Layer settings loader from the layer manifest (profiler_layer_settings.h)",
    "  help             Print this message or the help of the given subcommand(s)",
    "",
    "Options:",
    "      --config <FILE>  YAML file overriding registry interpretation settings",
    "  -v, --verbose        Log debug output to stderr",
    "  -h, --help           Print help",
    "  -V, --version        Print version",
    ""]

/-- Runs a command line, where the environment may name a configuration file. -/
def run (fs : FileSystem m Temporary) (environment? : Option String) (args : List String) :
    m Report := do
  match Request.read? environment? args with
  | none => return ⟨2, "", usage⟩
  | some .version => return ⟨0, s!"{programName} {version}\n", ""⟩
  | some .help => return ⟨0, usage, ""⟩
  | some (.perform task configuration?) =>
    match ← (task.perform fs configuration?).run with
    | .ok _ => return ⟨0, "", ""⟩
    | .error e => return ⟨1, "", "error: " ++ ": ".intercalate e.chain ++ "\n"⟩

end LayerHeaders.CommandLine
