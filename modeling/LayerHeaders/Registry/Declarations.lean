import LayerHeaders.Registry.Basic
import LayerHeaders.Registry.Error
import LayerHeaders.Xml.Element

/-!
# Declarations from elements

Each declaration of a registry is read from one element. Attributes and children that a declaration
needs are demanded in a fixed order; the first that is absent is reported.
-/

namespace LayerHeaders

open Xml (Element)

/-! ## Required parts -/

/-- The value of an attribute that must be there. -/
def requiredAttribute (e : Element) (key : String) : Except RegistryError String :=
  match e.attribute? key with
  | some value => .ok value
  | none => .error (.malformed s!"<{e.name}>" s!"attribute {key}")

/-- The text of a child that must be there; `owner` says where. -/
def requiredChildText (e : Element) (child owner : String) : Except RegistryError String :=
  match e.childText? child with
  | some text => .ok text
  | none => .error (.malformed owner s!"<{child}>")

/-- The first child of this name, which must be there. -/
def requiredSection (root : Element) (name : String) : Except RegistryError Element :=
  match root.child? name with
  | some e => .ok e
  | none => .error (.missingSection name)

/-- The entries of a comma-separated attribute; none if it is absent. -/
def listAttribute (e : Element) (key : String) : List String :=
  ((e.attribute? key).map Text.entries).getD []

/-! ## Types -/

/-- Whether an element declares a dispatchable handle that is no alias. -/
def declaresHandle (d : Dialect) (e : Element) : Bool :=
  e.attribute? "category" == some "handle" && (e.attribute? "alias").isNone &&
    e.childText? "type" == some d.dispatchableHandleMacro

/-- The dispatchable handles of the section of types. -/
def readHandles (d : Dialect) (types : Element) : Except RegistryError (List String) :=
  ((types.childrenNamed "type").filter (declaresHandle d)).mapM fun e =>
    requiredChildText e "name" "handle <type>"

/-- A member of the structure `owner`. -/
def Member.read (d : Dialect) (owner : String) (e : Element) : Except RegistryError Member := do
  let name ← requiredChildText e "name" s!"member of {owner}"
  let type ← requiredChildText e "type" s!"member of {owner}"
  return {
    name, type
    declaration := Text.trim e.text
    len? := e.attribute? "len"
    altlen? := e.attribute? "altlen"
    safetyCritical := d.isSafetyCritical (e.attribute? "api") }

/-- A structure. -/
def Struct.read (d : Dialect) (e : Element) : Except RegistryError Struct := do
  let name ← requiredAttribute e "name"
  let members ← (e.childrenNamed "member").mapM (Member.read d name)
  return { name, members, alias? := e.attribute? "alias", api? := e.attribute? "api" }

/-- The structures of the section of types. -/
def readStructs (d : Dialect) (types : Element) : Except RegistryError (List Struct) :=
  ((types.childrenNamed "type").filter (·.attribute? "category" == some "struct")).mapM
    (Struct.read d)

/-! ## Commands -/

/-- A parameter of the command `owner`. -/
def Param.read (d : Dialect) (owner : String) (e : Element) : Except RegistryError Param := do
  let name ← requiredChildText e "name" s!"parameter of {owner}"
  let type ← requiredChildText e "type" s!"parameter of {owner}"
  return {
    name, type
    declaration := Text.trim e.text
    safetyCritical := d.isSafetyCritical (e.attribute? "api") }

/-- A command: an alias if it says of what, and a definition otherwise. -/
def Command.read (d : Dialect) (e : Element) : Except RegistryError Command := do
  match e.attribute? "alias" with
  | some target =>
    let name ← requiredAttribute e "name"
    return { name, api? := e.attribute? "api", body := .sameAs target }
  | none =>
    let some proto := e.child? "proto" | throw (.malformed "<command>" "<proto>")
    let name ← requiredChildText proto "name" "<proto>"
    let result ← requiredChildText proto "type" s!"<proto> of {name}"
    let params ← (e.childrenNamed "param").mapM (Param.read d name)
    return { name, api? := e.attribute? "api", body := .definition { result, params } }

/-- The commands of the section of commands. -/
def readCommands (d : Dialect) (commands : Element) : Except RegistryError (List Command) :=
  (commands.childrenNamed "command").mapM (Command.read d)

/-! ## Extensions and features -/

/-- A list of required commands and types. -/
def RequireBlock.read (e : Element) : Except RegistryError RequireBlock := do
  let commands ← (e.childrenNamed "command").mapM (requiredAttribute · "name")
  let types ← (e.childrenNamed "type").mapM (requiredAttribute · "name")
  return { api? := e.attribute? "api", commands, types }

/-- An extension. -/
def Extension.read (d : Dialect) (e : Element) : Except RegistryError Extension := do
  let supported := listAttribute e "supported"
  let name ← requiredAttribute e "name"
  let requires ← (e.childrenNamed "require").mapM RequireBlock.read
  return { name, supported, requires, safetyCritical := d.onlySafetyCritical supported }

/-- A feature. -/
def Feature.read (e : Element) : Except RegistryError Feature := do
  let name ← requiredAttribute e "name"
  let requires ← (e.childrenNamed "require").mapM RequireBlock.read
  return { name, apis := listAttribute e "api", requires }

end LayerHeaders
