import LayerHeaders.Dialect

/-!
# Registries

What a registry declares: dispatchable handles, structures, commands, and the extensions and features
that require them. A `Registry` also holds what is looked up by name: the index of commands, and which
extension owns a name.

* `name_of_command?`: a command found under a name has that name.
-/

namespace LayerHeaders

/-! ## Declarations -/

/-- A parameter of a command. -/
structure Param where
  /-- Type and name, as they are written. -/
  declaration : String
  /-- The name. -/
  name : String
  /-- The base type, without qualifiers. -/
  type : String
  /-- Whether it exists in the safety-critical profile only. -/
  safetyCritical : Bool
deriving DecidableEq, Repr

/-- The result and the parameters of a command. -/
structure Signature where
  /-- The type of the result. -/
  result : String
  /-- The parameters of every profile. -/
  params : List Param
deriving DecidableEq, Repr

/-- The base type of the first parameter. -/
def Signature.receiver? (s : Signature) : Option String :=
  s.params.head?.map (·.type)

/-- What a command stands for. -/
inductive CommandBody where
  /-- A command of its own. -/
  | definition (signature : Signature)
  /-- Another name of the command `target`. -/
  | sameAs (target : String)
deriving DecidableEq, Repr

/-- A declaration of a command. -/
structure Command where
  /-- The name. -/
  name : String
  /-- The `api` attribute. -/
  api? : Option String
  /-- What it stands for. -/
  body : CommandBody
deriving DecidableEq, Repr

/-- The command that this one is an alias of. -/
def Command.target? (c : Command) : Option String :=
  match c.body with
  | .definition _ => none
  | .sameAs target => some target

/-- A member of a structure. -/
structure Member where
  /-- The name. -/
  name : String
  /-- The base type, without qualifiers. -/
  type : String
  /-- Type and name, as they are written. -/
  declaration : String
  /-- The `len` attribute: which members hold the lengths of its dimensions. -/
  len? : Option String
  /-- The `altlen` attribute: the length as an expression. -/
  altlen? : Option String
  /-- Whether it exists in the safety-critical profile only. -/
  safetyCritical : Bool
deriving DecidableEq, Repr

/-- A declaration of a structure. -/
structure Struct where
  /-- The name. -/
  name : String
  /-- The structure that this one is an alias of. -/
  alias? : Option String
  /-- The `api` attribute. -/
  api? : Option String
  /-- The members, in order. -/
  members : List Member
deriving DecidableEq, Repr

/-- A list of commands and types that an extension or a feature requires together. -/
structure RequireBlock where
  /-- The `api` attribute. -/
  api? : Option String
  /-- The commands. -/
  commands : List String
  /-- The types. -/
  types : List String
deriving DecidableEq, Repr

/-- An extension. Its name is the preprocessor token that guards what it owns. -/
structure Extension where
  /-- The name. -/
  name : String
  /-- The APIs that support it. -/
  supported : List String
  /-- What it requires. -/
  requires : List RequireBlock
  /-- Whether only the safety-critical API supports it. Its commands are not restricted by that. -/
  safetyCritical : Bool
deriving DecidableEq, Repr

/-- A version of the core API, or of the safety-critical one. -/
structure Feature where
  /-- The name. -/
  name : String
  /-- The APIs that it belongs to. -/
  apis : List String
  /-- What it requires. -/
  requires : List RequireBlock
deriving DecidableEq, Repr

/-! ## Registries -/

/-- A registry, with the tables that its look-ups use. -/
structure Registry where
  /-- The dialect it was read in. -/
  dialect : Dialect
  /-- The dispatchable handles. -/
  handles : List String
  /-- The structures, in document order. -/
  structs : List Struct
  /-- Every declaration of a command, in document order. -/
  commands : List Command
  /-- The declarations that are found by name. -/
  index : List Command
  /-- The extensions, in document order. -/
  extensions : List Extension
  /-- The owners of commands that are not core; of several the first counts. -/
  commandOwners : List (String × Extension)
  /-- The owners of types that are not core; of several the first counts. -/
  typeOwners : List (String × Extension)
  /-- The commands that a safety-critical feature requires. -/
  restrictedCommands : List String
  /-- The types that a safety-critical feature or block requires. -/
  restrictedTypes : List String
deriving DecidableEq, Repr

namespace Registry

/-- The declaration of a command: the standard one, if there is one. -/
def command? (r : Registry) (name : String) : Option Command :=
  r.index.find? (·.name = name)

/-- The dispatchable handle of this name. -/
def handle? (r : Registry) (name : String) : Option String :=
  r.handles.find? (· = name)

/-- The extension that owns a command: the first that requires it, unless it is core. -/
def commandOwner? (r : Registry) (name : String) : Option Extension :=
  r.commandOwners.lookup name

/-- The extension that owns a type: the first that requires it, unless it is core. -/
def typeOwner? (r : Registry) (name : String) : Option Extension :=
  r.typeOwners.lookup name

/-- Whether a command exists in the safety-critical profile only. -/
def isRestricted (r : Registry) (c : Command) : Bool :=
  r.dialect.isSafetyCritical c.api? || r.restrictedCommands.contains c.name

/-- Whether a structure exists in the safety-critical profile only. -/
def isRestrictedStruct (r : Registry) (s : Struct) : Bool :=
  r.dialect.isSafetyCritical s.api? || r.restrictedTypes.contains s.name

theorem name_of_command? {r : Registry} {name : String} {c : Command} (h : r.command? name = some c) :
    c.name = name := by
  simpa using List.find?_some h

theorem mem_index_of_command? {r : Registry} {name : String} {c : Command}
    (h : r.command? name = some c) : c ∈ r.index :=
  List.mem_of_find?_eq_some h

end Registry

end LayerHeaders
