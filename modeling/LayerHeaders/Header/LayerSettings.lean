import LayerHeaders.Header.Basic
import LayerHeaders.Manifest.Typing
import LayerHeaders.Text.Blank
import LayerHeaders.Text.Literal

/-!
# Layer settings

The header of layer settings holds one structure with a field for each setting, which starts out with
its default, and a function that loads the fields. An enumeration is a structure of its own, made from
the names of its flags. Descriptions become comments.

* `header`: the header of a manifest whose settings are typed.
-/

namespace LayerHeaders.LayerSettings

/-- The default file name. -/
def fileName : String :=
  "profiler_layer_settings.h"

/-- The text on one line. -/
def oneLine (s : String) : String :=
  " ".intercalate (Text.words s)

/-! ## Settings -/

/-- Doubles are written positionally from `0.0001` up to 16 digits before the point. -/
def numberStyle : Style where
  plainFrom := -4
  plainBelow := 16
  exponentPlus := false
  tie := .up

/-- The name of a setting's type in the header. -/
def typeName (t : TypedSetting) : String :=
  match t.type with
  | .bool => "bool"
  | .int32 => "int32_t"
  | .uint32 => "uint32_t"
  | .int64 => "int64_t"
  | .uint64 => "uint64_t"
  | .float => "float"
  | .double => "double"
  | .text => "std::string"
  | .enumeration => t.setting.key ++ "_t"

/-- A setting's default in the header. -/
def defaultText (t : TypedSetting) : String :=
  match t.default with
  | .bool b => if b then "true" else "false"
  | .integer n => toString n
  | .number bits => numberStyle.render bits ++ if t.type = .float then "f" else ""
  | .text s => Text.Literal.quote s
  | .flag name => s!"{typeName t}::{name}"

/-- A description as a comment. -/
def commentText (description : String) : String :=
  "// " ++ oneLine description

/-- The field of a setting, after its description. -/
def fieldLines (t : TypedSetting) : List Instruction :=
  [.line 1 (commentText t.setting.description),
    .line 1 s!"{typeName t} {t.setting.key} = {defaultText t};"]

/-! ## Enumerations -/

/-- The enumerator of a flag, after its description. -/
def flagLines (f : Flag) : List Instruction :=
  [.line 2 (commentText f.description), .line 2 (f.key ++ ",")]

/-- How a flag is recognised by its name. -/
def flagTest (f : Flag) : Instruction :=
  .line 2 s!"if(!strcmp(\"{f.key}\", pName)) \x7b value = {f.key}; return; \x7d"

/-- The structure of an enumeration. -/
def enumerationLines (t : TypedSetting) : List Instruction :=
  let name := typeName t
  [.line 0 s!"struct {name} \x7b", .line 1 "enum value_t \x7b"] ++
    t.setting.flags.flatMap flagLines ++
    [.line 1 "\x7d value;",
      .blank,
      .line 1 s!"{name}(int v) : value(static_cast<value_t>(v)) \x7b\x7d",
      .line 1 s!"{name}(const std::string& name) : {name}(name.c_str()) \x7b\x7d",
      .line 1 s!"{name}(const char* pName) : value({defaultText t}) \x7b"] ++
    t.setting.flags.map flagTest ++
    [.line 1 "\x7d", .line 0 "\x7d;", .blank]

/-! ## Loading -/

/-- The lines that read the value of a setting. -/
def valueLines (t : TypedSetting) : List Instruction :=
  let key := t.setting.key
  if t.type = .enumeration then
    [.line 3 "std::string value;",
      .line 3 s!"vkuGetLayerSettingValue(layerSettingSet, \"{key}\", value);",
      .line 3 s!"{key} = {typeName t}(value);"]
  else [.line 3 s!"vkuGetLayerSettingValue(layerSettingSet, \"{key}\", {key});"]

/-- The lines, inside a guard for the condition if there is one. -/
def conditional (condition? : Option String) (body : List Instruction) : List Instruction :=
  match condition? with
  | some condition =>
    .openGuard 0 condition .expression :: body ++ [.closeGuard 0 condition .plain]
  | none => body

/-- The lines that load a setting. -/
def loaderLines (t : TypedSetting) : List Instruction :=
  conditional t.condition?
    ([.line 2 s!"if(vkuHasLayerSetting(layerSettingSet, \"{t.setting.key}\")) \x7b"] ++
      valueLines t ++ [.line 2 "\x7d"])

/-! ## The header -/

/-- The lines before the enumerations. -/
def opening : List Instruction :=
  [.line 0 "#pragma once",
    .line 0 "#include <vulkan/layer/vk_layer_settings.hpp>",
    .line 0 "#include <string.h>",
    .line 0 "#include <string>",
    .blank,
    .line 0 "namespace Profiler \x7b",
    .blank]

/-- The lines between the fields and what loads them. -/
def loaderOpening (layer : String) : List Instruction :=
  [.blank,
    .line 1 "// Support Vulkan layer settings",
    .line 1 <| "void LoadFromVulkanLayerSettings(const VkInstanceCreateInfo* pCreateInfo, " ++
      "const VkAllocationCallbacks* pAllocator) \x7b",
    .line 2 <| "const VkLayerSettingsCreateInfoEXT* pLayerSettingsCreateInfo = " ++
      "vkuFindLayerSettingsCreateInfo(pCreateInfo);",
    .blank,
    .line 2 "VkuLayerSettingSet layerSettingSet = VK_NULL_HANDLE;",
    .line 2 <| "vkuCreateLayerSettingSet(" ++ Text.Literal.quote layer ++
      ", pLayerSettingsCreateInfo, pAllocator, nullptr, &layerSettingSet);",
    .blank]

/-- The lines at the end. -/
def closing : List Instruction :=
  [.line 2 "vkuDestroyLayerSettingSet(layerSettingSet, pAllocator);",
    .line 1 "\x7d",
    .line 0 "\x7d;",
    .blank,
    .line 0 "\x7d"]

/-- The lines of typed settings. -/
def lines (layer : String) (settings : List TypedSetting) : List Instruction :=
  opening ++ (settings.filter (·.type = .enumeration)).flatMap enumerationLines ++
    [.line 0 "struct ProfilerLayerSettings \x7b"] ++ settings.flatMap fieldLines ++
    loaderOpening layer ++ settings.flatMap loaderLines ++ closing

/-- The header of a manifest, if its settings are typed. -/
def header (m : Manifest) : Except HeaderError Header := do
  let settings ← m.settings.mapM Setting.typed
  return ⟨fileName, lines m.name settings⟩

/-- The text of the header of a manifest. -/
def text (m : Manifest) : Except HeaderError String := do
  let header ← header m
  header.render

end LayerHeaders.LayerSettings
