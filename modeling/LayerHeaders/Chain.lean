import LayerHeaders.Registry.Alias

/-!
# Dispatch chains

A layer keeps two tables of commands: one for the top level and one for each device. The type of a
command's first parameter decides between them, and both tables keep document order.

* `Registry.chain`: the chain of one command.
* `Registry.classify`: the chains of all commands of the standard profile; the first that cannot be
  resolved is reported.
-/

namespace LayerHeaders

/-- The two tables of commands that a layer keeps. -/
inductive Chain where
  /-- Commands of instances and physical devices, and those that are dispatched on no handle. -/
  | topLevel
  /-- Commands of handles below a device. -/
  | perDevice
deriving DecidableEq, Repr

/-- The commands of both chains, each in document order. -/
structure Classification where
  /-- The commands of the top level. -/
  topLevel : List Resolved
  /-- The commands of devices. -/
  perDevice : List Resolved
deriving DecidableEq, Repr

namespace Classification

/-- The commands of one chain. -/
def commands (k : Classification) : Chain → List Resolved
  | .topLevel => k.topLevel
  | .perDevice => k.perDevice

/-- The number of commands. -/
def size (k : Classification) : Nat :=
  k.topLevel.length + k.perDevice.length

/-- The chain that a command is in. -/
def chain? (k : Classification) (name : String) : Option Chain :=
  if k.topLevel.any (·.name = name) then some .topLevel
  else if k.perDevice.any (·.name = name) then some .perDevice
  else none

end Classification

namespace Registry

/-- The chain of a command: the top level, unless its first parameter is a dispatchable handle that is
not designated for the top level. -/
def chain (r : Registry) (c : Resolved) : Chain :=
  match c.signature.receiver? with
  | none => .topLevel
  | some type =>
    if type ∈ r.dialect.topLevelHandles then .topLevel
    else if type ∈ r.handles then .perDevice
    else .topLevel

/-- The chains of the commands of the standard profile. -/
def classify (r : Registry) : Except RegistryError Classification := do
  let commands ← r.resolveStandard
  return {
    topLevel := commands.filter (r.chain · = .topLevel)
    perDevice := commands.filter (r.chain · = .perDevice) }

end Registry

end LayerHeaders
