import LayerHeaders.Text.Blank
import LayerHeaders.Text.Start

/-!
# Dialects

A dialect holds the names that a registry treats specially: prefixes, the API of the safety-critical
profile, the handles and commands with a role of their own. The default is the dialect of Vulkan.

* `Dialect.isSafetyCritical`: an `api` attribute restricts an entry when it lists something and nothing
  but the safety-critical API.
-/

namespace LayerHeaders

/-- The names that the reading of a registry and the writing of headers treat specially. -/
structure Dialect where
  /-- What the names of commands start with; the fields of dispatch tables drop it. -/
  commandPrefix : String := "vk"
  /-- What the names of types start with; the interfaces of a driver drop it. -/
  typePrefix : String := "Vk"
  /-- The API of the safety-critical profile. -/
  safetyCriticalApi : String := "vulkansc"
  /-- The macro that declares dispatchable handles. -/
  dispatchableHandleMacro : String := "VK_DEFINE_HANDLE"
  /-- The handles whose commands are always dispatched at the top level. -/
  topLevelHandles : List String := ["VkInstance", "VkPhysicalDevice"]
  /-- The command that resolves names for an instance. -/
  instanceResolver : String := "vkGetInstanceProcAddr"
  /-- The command that resolves names for a device. -/
  deviceResolver : String := "vkGetDeviceProcAddr"
  /-- The member that chains structures; it is never streamed. -/
  chainMember : String := "pNext"
  /-- The namespace of the driver's base interfaces. -/
  driverNamespace : String := "Profiler::ICD"
deriving DecidableEq, Repr

namespace Dialect

/-- The text without `start`, if it starts with that, and the whole text otherwise. -/
def dropStart (start s : String) : String :=
  match Text.dropStart? start.toList s.toList with
  | some rest => String.ofList rest
  | none => s

/-- The name of a command without the prefix of commands. -/
def commandStem (d : Dialect) (command : String) : String :=
  dropStart d.commandPrefix command

/-- The name of a type without the prefix of types. -/
def typeStem (d : Dialect) (type : String) : String :=
  dropStart d.typePrefix type

/-- Whether a list of APIs has an entry and no entry but the safety-critical API. -/
def onlySafetyCritical (d : Dialect) (apis : List String) : Bool :=
  !apis.isEmpty && apis.all (· == d.safetyCriticalApi)

/-- Whether an `api` attribute restricts an entry to the safety-critical profile. -/
def isSafetyCritical (d : Dialect) (api? : Option String) : Bool :=
  match api? with
  | none => false
  | some api => d.onlySafetyCritical (Text.entries api)

end Dialect

end LayerHeaders
