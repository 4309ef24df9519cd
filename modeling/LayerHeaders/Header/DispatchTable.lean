import LayerHeaders.Chain
import LayerHeaders.Group
import LayerHeaders.Header.Basic

/-!
# Dispatch tables

The header of dispatch tables holds one structure for each chain. A structure has a field for each
command of its chain, `Initialize` fills the fields through the next layer's resolver, and `Get`
answers a name from the fields before it does what the caller asked for unknown names.

* `structLines`: fields, assignments and matches are written from the same groups of commands.
-/

namespace LayerHeaders.DispatchTable

/-- The default file name. -/
def fileName : String :=
  "vk_dispatch_tables.h"

/-! ## Unknown names -/

/-- What `Get` does with a name that is no field of its table. -/
inductive NotFound where
  /-- It asks the next layer through the table's own resolver. -/
  | nextLayer
  /-- It returns a null pointer. -/
  | nullPointer
  /-- It says that the name is unknown here. -/
  | notPresent
deriving DecidableEq, Repr

namespace NotFound

/-- Every choice, in the order of the values. -/
def all : List NotFound :=
  [nextLayer, nullPointer, notPresent]

/-- The enumerator of a choice. -/
def enumerator : NotFound → String
  | nextLayer => "eReturnNextLayer"
  | nullPointer => "eReturnNullptr"
  | notPresent => "eReturnNullopt"

/-- The value of a choice. -/
def value : NotFound → Nat
  | nextLayer => 0
  | nullPointer => 1
  | notPresent => 2

/-- The name of the enumeration. -/
def enumName : String :=
  "VkLayerFunctionNotFoundBehavior"

end NotFound

/-- The enumerators, separated by commas. -/
def enumeratorLines : List NotFound → List Instruction
  | [] => []
  | [p] => [.line 1 s!"{p.enumerator} = {p.value}"]
  | p :: ps => .line 1 s!"{p.enumerator} = {p.value}," :: enumeratorLines ps

/-! ## Tables -/

/-- Which structure stands for a chain. -/
structure Layout where
  /-- The name of the structure. -/
  structName : String
  /-- The chain. -/
  chain : Chain
  /-- The command that resolves names in the next layer. -/
  resolver : String
deriving DecidableEq, Repr

/-- The table of the top level. -/
def instanceLayout (d : Dialect) : Layout :=
  ⟨"VkLayerInstanceDispatchTable", .topLevel, d.instanceResolver⟩

/-- The table of devices. -/
def deviceLayout (d : Dialect) : Layout :=
  ⟨"VkLayerDeviceDispatchTable", .perDevice, d.deviceResolver⟩

/-- The two tables of a dialect. -/
def layouts (d : Dialect) : List Layout :=
  [instanceLayout d, deviceLayout d]

/-- What a structure is written from. -/
structure Table where
  /-- Which structure it is. -/
  layout : Layout
  /-- The type of the handle. -/
  handleType : String
  /-- The commands of the chain, by owner. -/
  groups : List (Group (Option String) Resolved)
deriving DecidableEq, Repr

/-- The table of a layout. Its resolver must be a command of its chain, and decides the type of the
handle. -/
def table (r : Registry) (k : Classification) (t : Layout) : Except HeaderError Table := do
  if k.chain? t.resolver ≠ some t.chain then
    throw (.missingResolver t.structName t.resolver)
  let resolver ← (r.resolveNamed t.resolver).mapError .registry
  return {
    layout := t
    handleType := resolver.signature.receiver?.getD "void*"
    groups := groupBy (·.guard?) (k.commands t.chain) }

/-- The two tables. -/
def tables (r : Registry) (k : Classification) : Except HeaderError (List Table) :=
  (layouts r.dialect).mapM (table r k)

/-! ## Structures -/

/-- The field of a command. -/
def fieldLine (d : Dialect) (c : Resolved) : Instruction :=
  .line 1 s!"PFN_{c.name} {d.commandStem c.name};"

/-- The assignment to the field of a command. -/
def assignmentLine (d : Dialect) (c : Resolved) : Instruction :=
  .line 2 s!"{d.commandStem c.name} = (PFN_{c.name}) gpa( handle, \"{c.name}\" );"

/-- The match of the name of a command. -/
def matchLine (d : Dialect) (c : Resolved) : Instruction :=
  .line 2
    s!"if( !strcmp( \"{c.name}\", pName ) ) return (PFN_vkVoidFunction) {d.commandStem c.name};"

/-- A line for each command, guarded by groups. -/
def sectionLines (groups : List (Group (Option String) Resolved)) (line : Resolved → Instruction) :
    List Instruction :=
  groups.flatMap fun g => guarded 1 g.key .plain (g.items.map line)

/-- What `Get` does under one choice. -/
def fallbackLines (resolverField : String) (p : NotFound) : List Instruction :=
  .line 2 s!"case {NotFound.enumName}::{p.enumerator}:" ::
    match p with
    | .nextLayer =>
      [.line 2 "default:",
        .line 3 "// Function not found in the cache, invoke next layer.",
        .line 3 "// The function could have been added in the newer Vulkan version, so this layer may be unaware of it.",
        .line 3 s!"return {resolverField}( handle, pName );"]
    | .nullPointer => [.line 3 "return nullptr;"]
    | .notPresent => [.line 3 "return std::nullopt;"]

/-- The start of the structure, before the fields. -/
def structOpening (t : Table) : List Instruction :=
  [.line 0 s!"struct {t.layout.structName} \x7b"]

/-- The start of `Initialize`, before the assignments. -/
def initializeOpening (t : Table) : List Instruction :=
  [.blank,
    .line 1 s!"void Initialize( {t.handleType} handle, PFN_{t.layout.resolver} gpa ) \x7b"]

/-- The end of `Initialize` and the start of `Get`, before the matches. -/
def getOpening (t : Table) : List Instruction :=
  [.line 1 "\x7d", .blank,
    .line 1 s!"std::optional<PFN_vkVoidFunction> Get( {t.handleType} handle, const char* pName, {NotFound.enumName} notFoundBehavior ) const \x7b",
    .line 2 "// Try to return the loaded function address first to avoid unnecessary calls to the next layer."]

/-- The end of `Get`, which answers unknown names, and of the structure. -/
def structClosing (d : Dialect) (t : Table) : List Instruction :=
  [.line 2 "switch( notFoundBehavior ) \x7b"] ++
    NotFound.all.flatMap (fallbackLines (d.commandStem t.layout.resolver)) ++
    [.line 2 "\x7d", .line 1 "\x7d", .line 0 "\x7d;", .blank]

/-- The structure of a table. -/
def structLines (d : Dialect) (t : Table) : List Instruction :=
  structOpening t ++ sectionLines t.groups (fieldLine d) ++
    initializeOpening t ++ sectionLines t.groups (assignmentLine d) ++
    getOpening t ++ sectionLines t.groups (matchLine d) ++
    structClosing d t

/-! ## The header -/

/-- What stands before the tables. -/
def prologue : List Instruction :=
  [.line 0 "#pragma once",
    .line 0 "#include <vulkan/vulkan.h>",
    .line 0 "#include <vulkan/vk_layer.h>",
    .line 0 "#include <string.h>",
    .line 0 "#include <optional>",
    .blank,
    .line 0 s!"enum class {NotFound.enumName} \x7b"] ++
    enumeratorLines NotFound.all ++
    [.line 0 "\x7d;", .blank]

/-- The header of dispatch tables, from the chains of the commands. -/
def build (r : Registry) (k : Classification) : Except HeaderError Header := do
  let tables ← tables r k
  return ⟨fileName, prologue ++ tables.flatMap (structLines r.dialect)⟩

/-- The header of dispatch tables. -/
def header (r : Registry) : Except HeaderError Header := do
  let k ← r.classify.mapError .registry
  build r k

end LayerHeaders.DispatchTable
