import LayerHeaders.Json.Error
import LayerHeaders.Registry.Error

/-!
# Why a header is not made

The causes that building, checking and writing a header can meet, with their wording.
-/

namespace LayerHeaders

open Files (FileError)

/-- How a guard is unbalanced. -/
inductive GuardDefect where
  /-- It closes while another one is open. -/
  | closesOther (token current : String)
  /-- It closes while none is open. -/
  | notOpen (token : String)
  /-- It is open at the end. -/
  | neverClosed (token : String)
deriving DecidableEq, Repr

/-- Why a layer setting is refused. -/
inductive SettingDefect where
  /-- The key is no identifier. -/
  | keyNotIdentifier
  /-- The type is not known. -/
  | unsupportedType (type : String)
  /-- The default, as it is written, is no value of the type. -/
  | defaultMismatch (default type : String)
  /-- An enumeration has no flags. -/
  | noFlags
  /-- The key of a flag is no identifier. -/
  | flagNotIdentifier (flag : String)
  /-- The default of an enumeration is none of its flags. -/
  | defaultNotFlag (name : String)
  /-- A platform is not known. -/
  | unknownPlatform (name : String)
deriving DecidableEq, Repr

/-- Why a header is not made. -/
inductive HeaderError where
  /-- A guard is closed without being open, or is never closed. -/
  | unbalancedGuard (header : String) (defect : GuardDefect)
  /-- A guard is opened inside another one. -/
  | nestedGuard (header outer inner : String)
  /-- The line at `index` contains a line break. -/
  | embeddedNewline (header : String) (index : Nat)
  /-- The command that a table forwards unknown names to is not in the table's chain. -/
  | missingResolver (table resolver : String)
  /-- The commands cannot be classified. -/
  | registry (cause : RegistryError)
  /-- The layer manifest cannot be read. -/
  | manifest (cause : Json.Error)
  /-- A layer setting is refused. -/
  | setting (key : String) (defect : SettingDefect)
  /-- A file cannot be written, or the manifest's file cannot be read. -/
  | unwritable (path : String) (cause : FileError)
deriving DecidableEq, Repr

/-- The wording of an unbalanced guard. -/
def GuardDefect.message : GuardDefect → String
  | closesOther token current => s!"#endif for {token} closes {current}"
  | notOpen token => s!"#endif for {token} without #ifdef"
  | neverClosed token => s!"#ifdef {token} is never closed"

/-- The wording of a refused setting. -/
def SettingDefect.message : SettingDefect → String
  | keyNotIdentifier => "key is not a valid identifier"
  | unsupportedType type => s!"unsupported type {type}"
  | defaultMismatch default type => s!"default {default} does not match type {type}"
  | noFlags => "ENUM setting declares no flags"
  | flagNotIdentifier flag => s!"flag {flag} is not a valid identifier"
  | defaultNotFlag name => s!"default {name} is not one of its flags"
  | unknownPlatform name => s!"unknown platform {name}"

namespace HeaderError

/-- The wording of a failure. -/
def message : HeaderError → String
  | unbalancedGuard header defect => s!"unbalanced guard in {header}: {defect.message}"
  | nestedGuard header outer inner => s!"nested guard {inner} inside {outer} in {header}"
  | embeddedNewline header index => s!"line {index} of {header} contains an embedded newline"
  | missingResolver table resolver =>
    s!"{table} needs {resolver} in its chain to forward unknown names"
  | registry cause => cause.message
  | manifest cause => "invalid layer manifest: " ++ cause.message
  | setting key defect => s!"invalid layer setting {key}: {defect.message}"
  | unwritable path cause => s!"failed to write {path}: {cause.message}"

/-- The wordings of a failure and of what lies below it. -/
def chain (e : HeaderError) : List String :=
  e.message ::
    match e with
    | registry cause => cause.chain
    | manifest cause => [cause.message]
    | unwritable _ cause => [cause.message]
    | _ => []

end HeaderError

end LayerHeaders
