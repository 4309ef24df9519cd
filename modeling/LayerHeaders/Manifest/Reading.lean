import LayerHeaders.Json.Record
import LayerHeaders.Manifest.Basic

/-!
# Reading a manifest

A manifest is a JSON text: a record of the layer, which has a name and a record of features, which has
the settings.

* `Manifest.ofJson`: reads a manifest.
-/

namespace LayerHeaders

open Json (Field Record readList readString)

/-- How a flag is read. -/
def Flag.record : Record Flag where
  name := "struct SettingFlag"
  defaults := ⟨"", "", ""⟩
  fields := [
    .of "key" true readString fun v flag => { flag with key := v },
    .of "label" false readString fun v flag => { flag with label := v },
    .of "description" false readString fun v flag => { flag with description := v }]

/-- How a setting is read. -/
def Setting.record : Record Setting where
  name := "struct LayerSetting"
  defaults := ⟨"", "", "", "", .null, [], []⟩
  fields := [
    .of "key" true readString fun v setting => { setting with key := v },
    .of "label" false readString fun v setting => { setting with label := v },
    .of "description" false readString fun v setting => { setting with description := v },
    .of "type" true readString fun v setting => { setting with type := v },
    .of "default" true Json.Value.read fun v setting => { setting with default := v },
    .of "platforms" false (readList readString) fun v setting => { setting with platforms := v },
    .of "flags" false (readList Flag.record.read) fun v setting => { setting with flags := v }]

namespace Manifest

/-- How the features of a layer are read. -/
def featuresRecord : Record (List Setting) where
  name := "struct LayerFeatures"
  defaults := []
  fields := [.of "settings" false (readList Setting.record.read) fun v _ => v]

/-- How a layer is read. -/
def layerRecord : Record Manifest where
  name := "struct LayerInfo"
  defaults := ⟨"", []⟩
  fields := [
    .of "name" true readString fun v layer => { layer with name := v },
    .of "features" false featuresRecord.read fun v layer => { layer with settings := v }]

/-- How a manifest is read. -/
def record : Record Manifest where
  name := "struct LayerManifest"
  defaults := ⟨"", []⟩
  fields := [.of "layer" true layerRecord.read fun v _ => v]

/-- Reads a manifest. -/
def ofJson (text : String) : Except Json.Error Manifest :=
  Json.readText record.read text

end Manifest

end LayerHeaders
