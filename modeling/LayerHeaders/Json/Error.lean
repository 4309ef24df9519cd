/-!
# Why a JSON text is refused

The causes that reading a JSON text as records and values can meet, with their wording.
-/

namespace LayerHeaders.Json

/-- What a text was found to be where something else was expected. -/
inductive Found where
  /-- The word `null`. -/
  | null
  /-- A truth value. -/
  | bool (b : Bool)
  /-- An integer. -/
  | integer (n : Int)
  /-- A number with a fraction or an exponent, as it is written. -/
  | float (text : String)
  /-- A string, as it is quoted. -/
  | string (quoted : String)
  /-- An array. -/
  | sequence
  /-- An object. -/
  | map
deriving DecidableEq, Repr

/-- Why a JSON text is refused. -/
inductive Error where
  /-- The text ends where a value should be. -/
  | endInValue
  /-- The text ends inside an object. -/
  | endInObject
  /-- The text ends inside an array. -/
  | endInList
  /-- The text ends inside a string. -/
  | endInString
  /-- No value starts here. -/
  | expectedValue
  /-- A word is misspelt. -/
  | expectedWord
  /-- A key is not followed by a colon. -/
  | expectedColon
  /-- A member of an object is followed by something else than a comma or the end. -/
  | expectedCommaOrBrace
  /-- An item of an array is followed by something else than a comma or the end. -/
  | expectedCommaOrBracket
  /-- A key is no string. -/
  | keyNotString
  /-- A comma is followed by the end. -/
  | trailingComma
  /-- Something follows the end. -/
  | trailingCharacters
  /-- A number lacks a digit or has a leading zero. -/
  | invalidNumber
  /-- A number is too large. -/
  | numberOutOfRange
  /-- An escape is not known. -/
  | invalidEscape
  /-- A control character stands in a string. -/
  | controlCharacter
  /-- A low surrogate has no high one before it, or a high one no low one after it. -/
  | loneSurrogate
  /-- A high surrogate is not followed by an escape. -/
  | unfinishedSurrogate
  /-- Arrays and objects are nested too deeply. -/
  | tooDeep
  /-- A value has another type than `expected`. -/
  | invalidType (found : Found) (expected : String)
  /-- An array that stands for a record ends after `length` items. -/
  | invalidLength (length : Nat) (expected : String)
  /-- A field is absent. -/
  | missingField (name : String)
  /-- A field occurs twice. -/
  | duplicateField (name : String)
deriving DecidableEq, Repr

/-- The wording of what was found. -/
def Found.message : Found → String
  | null => "null"
  | bool true => "boolean `true`"
  | bool false => "boolean `false`"
  | integer n => s!"integer `{n}`"
  | float text => s!"floating point `{text}`"
  | string quoted => "string " ++ quoted
  | sequence => "sequence"
  | map => "map"

/-- The wording of a defect. -/
def Error.message : Error → String
  | endInValue => "EOF while parsing a value"
  | endInObject => "EOF while parsing an object"
  | endInList => "EOF while parsing a list"
  | endInString => "EOF while parsing a string"
  | expectedValue => "expected value"
  | expectedWord => "expected ident"
  | expectedColon => "expected `:`"
  | expectedCommaOrBrace => "expected `,` or `\x7d`"
  | expectedCommaOrBracket => "expected `,` or `]`"
  | keyNotString => "key must be a string"
  | trailingComma => "trailing comma"
  | trailingCharacters => "trailing characters"
  | invalidNumber => "invalid number"
  | numberOutOfRange => "number out of range"
  | invalidEscape => "invalid escape"
  | controlCharacter => "control character (\\u0000-\\u001F) found while parsing a string"
  | loneSurrogate => "lone leading surrogate in hex escape"
  | unfinishedSurrogate => "unexpected end of hex escape"
  | tooDeep => "recursion limit exceeded"
  | invalidType found expected => s!"invalid type: {found.message}, expected {expected}"
  | invalidLength length expected => s!"invalid length {length}, expected {expected}"
  | missingField name => s!"missing field `{name}`"
  | duplicateField name => s!"duplicate field `{name}`"

end LayerHeaders.Json
