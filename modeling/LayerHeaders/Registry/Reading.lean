import LayerHeaders.Registry.Declarations
import LayerHeaders.Registry.Index
import LayerHeaders.Xml.Document

/-!
# Reading a registry

A registry is read from a document with the sections `types`, `commands` and `extensions`, and with
features beside them. Features and extensions decide what is core, what is restricted to the
safety-critical profile, and which extension owns the rest.
-/

namespace LayerHeaders

/-! ## Ownership and restriction -/

/-- Whether a feature belongs to the safety-critical API alone. -/
def Feature.isSafetyCritical (d : Dialect) (f : Feature) : Bool :=
  d.onlySafetyCritical f.apis

/-- What the blocks of features that satisfy `p` require. -/
def requiredBy (p : Feature → Bool) (names : RequireBlock → List String) (features : List Feature) :
    List String :=
  (features.filter p).flatMap fun f => f.requires.flatMap names

/-- The owners of what extensions require: a pair for each mention, in document order, core names
left out. -/
def owners (core : List String) (names : RequireBlock → List String) (extensions : List Extension) :
    List (String × Extension) :=
  extensions.flatMap fun e =>
    ((e.requires.flatMap names).filter (!core.contains ·)).map fun name => (name, e)

/-- The types that extensions require in blocks of the safety-critical API. -/
def restrictedByBlocks (d : Dialect) (extensions : List Extension) : List String :=
  extensions.flatMap fun e =>
    (e.requires.filter fun block => d.isSafetyCritical block.api?).flatMap (·.types)

/-! ## Registries -/

/-- A registry from its declarations. -/
def Registry.ofDeclarations (d : Dialect) (handles : List String) (structs : List Struct)
    (commands index : List Command) (extensions : List Extension) (features : List Feature) :
    Registry where
  dialect := d
  handles := handles
  structs := structs
  commands := commands
  index := index
  extensions := extensions
  commandOwners := owners (requiredBy (!·.isSafetyCritical d) (·.commands) features) (·.commands)
    extensions
  typeOwners := owners (requiredBy (!·.isSafetyCritical d) (·.types) features) (·.types) extensions
  restrictedCommands := requiredBy (·.isSafetyCritical d) (·.commands) features
  restrictedTypes :=
    requiredBy (·.isSafetyCritical d) (·.types) features ++ restrictedByBlocks d extensions

/-- The registry whose root element this is. -/
def Registry.ofElement (d : Dialect) (root : Xml.Element) : Except RegistryError Registry := do
  let typesSection ← requiredSection root "types"
  let commandsSection ← requiredSection root "commands"
  let extensionsSection ← requiredSection root "extensions"
  let handles ← readHandles d typesSection
  let structs ← readStructs d typesSection
  let commands ← readCommands d commandsSection
  let index ← indexCommands d commands
  let extensions ← (extensionsSection.childrenNamed "extension").mapM (Extension.read d)
  let features ← (root.childrenNamed "feature").mapM Feature.read
  return .ofDeclarations d handles structs commands index extensions features

/-- The registry in a document. -/
def Registry.read (d : Dialect) (document : String) : Except RegistryError Registry := do
  let root ← (Xml.parse document).mapError RegistryError.ofDocument
  Registry.ofElement d root

end LayerHeaders
