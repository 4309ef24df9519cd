import LayerHeaders.Header.Error
import LayerHeaders.Manifest.Basic

/-!
# Typing settings

A setting is typed if its key is an identifier, its type is known, its default is a value of the type
and its platforms are known. An enumeration needs flags that are identifiers, and its default is one of
them. The first of these that fails is the defect.

* `Setting.typed`: the typed setting.
-/

namespace LayerHeaders

/-! ## Types -/

/-- The type of a setting. -/
inductive SettingType where
  /-- A truth value. -/
  | bool
  /-- An integer of 32 bits. -/
  | int32
  /-- An integer of 32 bits without sign. -/
  | uint32
  /-- An integer of 64 bits. -/
  | int64
  /-- An integer of 64 bits without sign. -/
  | uint64
  /-- A number of single precision. -/
  | float
  /-- A number of double precision. -/
  | double
  /-- A text, or the name of a file or a folder. -/
  | text
  /-- One of the setting's flags. -/
  | enumeration
deriving DecidableEq, Repr

/-- The type that a manifest calls by this name. -/
def SettingType.ofName? (name : String) : Option SettingType :=
  match name with
  | "BOOL" => some bool
  | "INT32" => some int32
  | "UINT32" => some uint32
  | "INT64" => some int64
  | "UINT64" => some uint64
  | "FLOAT" => some float
  | "DOUBLE" => some double
  | "STRING" | "FILE" | "FOLDER" | "SAVE_FILE" | "LOAD_FILE" => some text
  | "ENUM" => some enumeration
  | _ => none

/-! ## Identifiers -/

/-- Whether a character may start an identifier. -/
def isIdentifierStart (c : Char) : Bool :=
  c.isAlpha || c == '_'

/-- Whether a character may stand in an identifier. -/
def isIdentifierChar (c : Char) : Bool :=
  c.isAlphanum || c == '_'

/-- Whether a text is an identifier of letters, digits and underscores. -/
def isIdentifier (s : String) : Bool :=
  match s.toList with
  | [] => false
  | c :: cs => isIdentifierStart c && cs.all isIdentifierChar

/-! ## Typed settings -/

/-- A default that is a value of its setting's type. -/
inductive TypedDefault where
  /-- A truth value. -/
  | bool (b : Bool)
  /-- An integer. -/
  | integer (n : Int)
  /-- A number, by the bits of the double. -/
  | number (bits : UInt64)
  /-- A text. -/
  | text (s : String)
  /-- The name of a flag. -/
  | flag (name : String)
deriving DecidableEq, Repr

/-- A setting with its type, its default and the condition under which it exists. -/
structure TypedSetting where
  /-- The setting as it is declared. -/
  setting : Setting
  /-- The type. -/
  type : SettingType
  /-- The default. -/
  default : TypedDefault
  /-- The condition on the platform, if there is one. -/
  condition? : Option String
deriving Repr

/-- The condition that holds on a platform. -/
def platformCondition (name : String) : Except SettingDefect String :=
  match name with
  | "WINDOWS" => .ok "defined( WIN32 )"
  | "LINUX" => .ok "defined( __linux__ )"
  | "ANDROID" => .ok "defined( __ANDROID__ )"
  | "MACOS" => .ok "defined( __APPLE__ )"
  | _ => .error (.unknownPlatform name)

/-- The condition that holds on any of the platforms; none stands for all. -/
def platformsCondition (platforms : List String) : Except SettingDefect (Option String) := do
  let conditions ← platforms.mapM platformCondition
  return if conditions.isEmpty then none else some (" || ".intercalate conditions)

namespace Setting

/-- The default, if it is a truth value. -/
def boolDefault? (s : Setting) : Option TypedDefault :=
  match s.default with
  | .bool b => some (.bool b)
  | _ => none

/-- The default, if it is an integer of 64 bits. -/
def signedDefault? (s : Setting) : Option TypedDefault :=
  match s.default with
  | .number n => n.signed?.map .integer
  | _ => none

/-- The default, if it is an integer of 64 bits without sign. -/
def unsignedDefault? (s : Setting) : Option TypedDefault :=
  match s.default with
  | .number n => n.unsigned?.map fun n => .integer n
  | _ => none

/-- The default, if it is a number. -/
def numberDefault? (s : Setting) : Option TypedDefault :=
  match s.default with
  | .number n => some (.number n.bits)
  | _ => none

/-- The default, if it is a text. -/
def textDefault? (s : Setting) : Option String :=
  match s.default with
  | .string text => some text
  | _ => none

/-- The defect of a default that is no value of the type. -/
def mismatch (s : Setting) : SettingDefect :=
  .defaultMismatch s.default.render s.type

/-- The default, if it is a value of the type. -/
def typedDefault (s : Setting) (type : SettingType) : Except SettingDefect TypedDefault :=
  let orMismatch {α : Type} (d? : Option α) : Except SettingDefect α :=
    match d? with
    | some d => .ok d
    | none => .error s.mismatch
  match type with
  | .bool => orMismatch s.boolDefault?
  | .int32 | .int64 => orMismatch s.signedDefault?
  | .uint32 | .uint64 => orMismatch s.unsignedDefault?
  | .float | .double => orMismatch s.numberDefault?
  | .text => orMismatch (s.textDefault?.map .text)
  | .enumeration => do
    if s.flags.isEmpty then throw .noFlags
    match s.flags.find? fun f => !isIdentifier f.key with
    | some f => throw (.flagNotIdentifier f.key)
    | none =>
      let name ← orMismatch s.textDefault?
      if s.flags.any fun f => f.key == name then return .flag name else throw (.defaultNotFlag name)

/-- The typed setting, or the first defect. -/
def typed? (s : Setting) : Except SettingDefect TypedSetting := do
  if !isIdentifier s.key then throw .keyNotIdentifier
  match SettingType.ofName? s.type with
  | none => throw (.unsupportedType s.type)
  | some type =>
    let default ← s.typedDefault type
    let condition? ← platformsCondition s.platforms
    return ⟨s, type, default, condition?⟩

/-- The typed setting, or the first defect under the setting's key. -/
def typed (s : Setting) : Except HeaderError TypedSetting :=
  s.typed?.mapError (.setting s.key)

end Setting

end LayerHeaders
