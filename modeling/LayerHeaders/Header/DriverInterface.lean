import LayerHeaders.Chain
import LayerHeaders.Group
import LayerHeaders.Header.Basic

/-!
# The interface of a driver

The header of a driver declares, for each dispatchable handle, a base interface with a virtual method
for each command, and a wrapper that calls it; then free functions that dispatch on their first
parameter; then the two resolvers of names. Commands without a handle get a prototype instead.

* `Registry.forwardTarget?`: where the default body of an alias forwards to.
* `groups`: commands by handle, and by owner within a handle.
-/

namespace LayerHeaders

/-- The first command on the alias chain that is not restricted and is visible wherever the alias is:
core, or under the alias's own guard. -/
def Registry.forwardTarget? (r : Registry) (c : Resolved) : Option String :=
  let visible (link : Command) : Bool :=
    let guard? := (r.commandOwner? link.name).map (·.name)
    !r.isRestricted link && (guard? == none || guard? == c.guard?)
  ((r.aliasChain c.command).links.find? visible).map (·.name)

namespace DriverInterface

/-- The default file name. -/
def fileName : String :=
  "vk_icd.h"

/-! ## Groups -/

/-- The commands of one handle, or of none, by owner. -/
structure HandleGroup where
  /-- The handle. -/
  handle? : Option String
  /-- The commands by guard. -/
  byOwner : List (Group (Option String) Resolved)
deriving DecidableEq, Repr

/-- The commands of the standard profile by handle, and by owner within a handle. -/
def groups (r : Registry) : Except RegistryError (List HandleGroup) := do
  let commands ← r.resolveStandard
  return (groupBy (·.handle?) commands).map fun g => ⟨g.key, groupBy (·.guard?) g.items⟩

/-- Whether a command is one of the two resolvers, which are written out by themselves. -/
def isResolver (d : Dialect) (name : String) : Bool :=
  name == d.instanceResolver || name == d.deviceResolver

/-- The lines of each command of a handle but the resolvers, guarded by owner. -/
def commandLines (d : Dialect) (g : HandleGroup) (lines : Resolved → List Instruction) :
    List Instruction :=
  g.byOwner.flatMap fun owned =>
    let body := (owned.items.filter (!isResolver d ·.name)).flatMap lines
    match owned.key with
    | some token => guarded 0 (some token) .annotated (.blank :: body) ++ [.blank]
    | none => body

/-! ## Declarations of one command -/

/-- The declarations of the parameters of the standard profile. -/
def declarations (params : List Param) : List String :=
  params.map (·.declaration)

/-- The names of the parameters of the standard profile, as arguments of a call. -/
def arguments (params : List Param) : String :=
  ", ".intercalate (params.map (·.name))

/-- The default body of a virtual method: it forwards to the target of an alias, or returns a default
value. -/
def defaultBody (r : Registry) (c : Resolved) : String :=
  match r.forwardTarget? c with
  | some target => s!"\x7b return {target}({arguments (c.params.drop 1)}); \x7d"
  | none => if c.result ≠ "void" then "\x7b return \x7b\x7d; \x7d" else "\x7b \x7d"

/-- The virtual method of a command. The handle is no parameter of it. -/
def methodLines (r : Registry) (c : Resolved) : List Instruction :=
  signatureLines 1 s!"virtual {c.result} {c.name}" (declarations (c.params.drop 1)) "" ++
    [.line 1 (defaultBody r c), .blank]

/-- The method of a wrapper, which calls the virtual one. -/
def wrapperMethodLines (c : Resolved) : List Instruction :=
  signatureLines 1 s!"{c.result} {c.name}" (declarations (c.params.drop 1)) "" ++
    [.line 1 "\x7b",
      .line 2 s!"return m_pImpl->{c.name}({arguments (c.params.drop 1)});",
      .line 1 "\x7d",
      .blank]

/-- The prototype of a command without a handle. -/
def prototypeLines (c : Resolved) : List Instruction :=
  signatureLines 0 s!"{c.result} {c.name}" (declarations c.params) ";" ++ [.blank]

/-- The free function of a command, which calls the method of its first parameter. -/
def functionLines (c : Resolved) : List Instruction :=
  let receiver := (c.params.head?.map (·.name)).getD ""
  signatureLines 0 s!"inline {c.result} {c.name}" (declarations c.params) "" ++
    [.line 0 "\x7b",
      .line 1 s!"return {receiver}->{c.name}({arguments (c.params.drop 1)});",
      .line 0 "\x7d",
      .blank]

/-- The arm of the resolver for a command. -/
def resolverArm (c : Resolved) : Instruction :=
  .line 1
    s!"if( !strcmp( \"{c.name}\", name ) ) return reinterpret_cast<PFN_vkVoidFunction>(&{c.name});"

/-! ## Sections -/

/-- What stands before the interfaces. -/
def prologue : List Instruction :=
  [.line 0 "#pragma once",
    .line 0 "#define VK_NO_PROTOTYPES",
    .line 0 "#include <vulkan/vulkan.h>",
    .line 0 "#include <vulkan/vk_icd.h>",
    .line 0 "#include <string.h>",
    .blank]

/-- The name of the base interface of a handle. -/
def interfaceName (d : Dialect) (handle : String) : String :=
  d.typeStem handle ++ "Base"

/-- The start of a base interface, before its methods. -/
def interfaceOpening (d : Dialect) (handle : String) : List Instruction :=
  [.line 0 s!"struct {interfaceName d handle}", .line 0 "\x7b"]

/-- The end of a structure. -/
def structClosing : List Instruction :=
  [.line 0 "\x7d;", .blank]

/-- The base interface of a handle. -/
def interfaceLines (r : Registry) (g : HandleGroup) : List Instruction :=
  match g.handle? with
  | none => []
  | some handle =>
    interfaceOpening r.dialect handle ++ commandLines r.dialect g (methodLines r) ++ structClosing

/-- The start of the namespace of the base interfaces. -/
def namespaceOpening (d : Dialect) : List Instruction :=
  [.line 0 s!"namespace {d.driverNamespace}",
    .line 0 "\x7b",
    .line 0 "struct VkObjectBase \x7b",
    .line 1 "uintptr_t m_LoaderMagic = ICD_LOADER_MAGIC;",
    .line 0 "\x7d;",
    .blank]

/-- The end of the namespace. -/
def namespaceClosing : List Instruction :=
  [.line 0 "\x7d", .blank]

/-- The namespace of the base interfaces. -/
def interfacesLines (r : Registry) (gs : List HandleGroup) : List Instruction :=
  namespaceOpening r.dialect ++ gs.flatMap (interfaceLines r) ++ namespaceClosing

/-- The start of a wrapper, before its methods. -/
def wrapperOpening (d : Dialect) (handle : String) : List Instruction :=
  let wrapper := handle ++ "_T"
  let base := d.driverNamespace ++ "::" ++ interfaceName d handle
  [.line 0 s!"struct {wrapper} : {d.driverNamespace}::VkObjectBase \x7b",
    .line 1 s!"{base}* m_pImpl = nullptr;",
    .blank,
    .line 1 s!"{wrapper}( {base}* pImpl ) : m_pImpl( pImpl ) \x7b\x7d",
    .blank,
    .line 1 s!"{wrapper}( const {wrapper}& ) = delete;",
    .line 1 s!"{wrapper}& operator=( const {wrapper}& ) = delete;",
    .blank,
    .line 1 s!"{wrapper}( {wrapper}&& other ) noexcept : m_pImpl( other.m_pImpl ) \x7b other.m_pImpl = nullptr; \x7d",
    .line 1 s!"{wrapper}& operator=( {wrapper}&& other ) noexcept \x7b delete m_pImpl; m_pImpl = other.m_pImpl; other.m_pImpl = nullptr; return *this; \x7d",
    .blank,
    .line 1 s!"~{wrapper}() \x7b delete m_pImpl; \x7d",
    .blank]

/-- The wrapper of a handle, or the prototypes of the commands without one. -/
def wrapperLines (d : Dialect) (g : HandleGroup) : List Instruction :=
  match g.handle? with
  | none => commandLines d g prototypeLines
  | some handle => wrapperOpening d handle ++ commandLines d g wrapperMethodLines ++ structClosing

/-- The free functions of a handle. -/
def functionsLines (d : Dialect) (g : HandleGroup) : List Instruction :=
  match g.handle? with
  | none => []
  | some _ => commandLines d g functionLines

/-- The arms of the resolver for the commands of a handle, resolvers included. -/
def armsLines (g : HandleGroup) : List Instruction :=
  g.byOwner.flatMap fun owned => guarded 0 owned.key .annotated (owned.items.map resolverArm)

/-- The declaration of the device's resolver and the start of the instance's, before its arms. -/
def resolversOpening (d : Dialect) : List Instruction :=
  [.line 0 s!"inline PFN_vkVoidFunction {d.deviceResolver}(VkDevice device, const char* name);",
    .blank,
    .line 0 s!"inline PFN_vkVoidFunction {d.instanceResolver}(VkInstance instance, const char* name)",
    .line 0 "\x7b"]

/-- The end of the instance's resolver, and the device's. -/
def resolversClosing (d : Dialect) : List Instruction :=
  [.line 1 "return nullptr;",
    .line 0 "\x7d",
    .blank,
    .line 0 s!"inline PFN_vkVoidFunction {d.deviceResolver}(VkDevice device, const char* name)",
    .line 0 "\x7b",
    .line 1 s!"return {d.instanceResolver}( nullptr, name );",
    .line 0 "\x7d",
    .blank]

/-- The two resolvers. -/
def resolversLines (d : Dialect) (gs : List HandleGroup) : List Instruction :=
  resolversOpening d ++ gs.flatMap armsLines ++ resolversClosing d

/-- The header of a driver's interface. -/
def header (r : Registry) : Except HeaderError Header := do
  let gs ← (groups r).mapError .registry
  return ⟨fileName,
    prologue ++ interfacesLines r gs ++ gs.flatMap (wrapperLines r.dialect) ++
      gs.flatMap (functionsLines r.dialect) ++ resolversLines r.dialect gs⟩

end DriverInterface

end LayerHeaders
