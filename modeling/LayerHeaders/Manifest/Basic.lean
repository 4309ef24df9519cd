import LayerHeaders.Json.Value

/-!
# Layer manifests

A manifest names a layer and declares its settings. A setting has a key, a type and a default of that
type; an enumeration has flags besides. Types, platforms and defaults are kept as they are declared.
-/

namespace LayerHeaders

/-- A value of an enumeration. -/
structure Flag where
  /-- The name of the value. -/
  key : String
  /-- A short text for users. -/
  label : String
  /-- A longer text. -/
  description : String
deriving Repr

/-- A setting of a layer. -/
structure Setting where
  /-- The name of the setting. -/
  key : String
  /-- A short text for users. -/
  label : String
  /-- A longer text. -/
  description : String
  /-- The name of the type. -/
  type : String
  /-- The default. -/
  default : Json.Value
  /-- The platforms that the setting applies to; none stands for all. -/
  platforms : List String
  /-- The values of an enumeration. -/
  flags : List Flag
deriving Repr

/-- A layer and its settings. -/
structure Manifest where
  /-- The name of the layer. -/
  name : String
  /-- The settings, in order. -/
  settings : List Setting
deriving Repr

end LayerHeaders
