import LayerHeaders.Decimal.Style

/-!
# JSON values

A value, and its compact form: no spaces, the members of an object sorted by their keys, and strings
with the escapes that they need. Integers of 64 bits are kept exactly, every other number is a double.
-/

namespace LayerHeaders.Json

/-! ## Numbers -/

/-- A number. -/
inductive Number where
  /-- An integer of 64 bits, signed or unsigned. -/
  | integer (n : Int) (fits : -0x8000000000000000 ≤ n ∧ n < 0x10000000000000000)
  /-- A finite double, by its bits. -/
  | double (bits : UInt64)
deriving DecidableEq, Repr

namespace Number

/-- Doubles are written positionally from `0.00001` up to 16 digits before the point. -/
def style : Style where
  plainFrom := -5
  plainBelow := 16
  exponentPlus := true
  tie := .toEven

/-- The number, if it is an integer of 64 bits with sign. -/
def signed? : Number → Option Int
  | integer n _ => if n < 0x8000000000000000 then some n else none
  | double _ => none

/-- The number, if it is an integer that is not negative. -/
def unsigned? : Number → Option Nat
  | integer n _ => if 0 ≤ n then some n.toNat else none
  | double _ => none

/-- The bits of the nearest double. -/
def bits : Number → UInt64
  | integer n _ =>
    let magnitude := (UInt64.ofNat n.natAbs).toFloat
    if n < 0 then (-magnitude).toBits else magnitude.toBits
  | double b => b

/-- The text of a number. -/
def render : Number → String
  | integer n _ => toString n
  | double b => style.render b

end Number

/-! ## Values -/

/-- A JSON value. -/
inductive Value where
  /-- The word `null`. -/
  | null
  /-- A truth value. -/
  | bool (b : Bool)
  /-- A number. -/
  | number (n : Number)
  /-- A string. -/
  | string (s : String)
  /-- An array. -/
  | array (items : List Value)
  /-- An object, its members sorted by key. -/
  | object (members : List (String × Value))
deriving Repr

/-- Sets a member of a list that is sorted by key. -/
def setMember {α : Type} (key : String) (value : α) : List (String × α) → List (String × α)
  | [] => [(key, value)]
  | (k, v) :: rest =>
    if key = k then (key, value) :: rest
    else if key < k then (key, value) :: (k, v) :: rest
    else (k, v) :: setMember key value rest

/-! ## Compact form -/

/-- A hexadecimal digit, in lower case. -/
def hexDigit (n : Nat) : Char :=
  if n < 10 then Char.ofNat (48 + n) else Char.ofNat (87 + n)

/-- A character as it stands in a string. -/
def escapeChar (c : Char) : List Char :=
  if c = '\x22' then ['\\', '\x22']
  else if c = '\\' then ['\\', '\\']
  else if c = '\n' then ['\\', 'n']
  else if c = '\r' then ['\\', 'r']
  else if c = '\t' then ['\\', 't']
  else if c = '\x08' then ['\\', 'b']
  else if c = '\x0c' then ['\\', 'f']
  else if c.toNat < 0x20 then ['\\', 'u', '0', '0', hexDigit (c.toNat / 16), hexDigit (c.toNat % 16)]
  else [c]

/-- A string in quotes. -/
def quoteString (s : String) : String :=
  String.ofList ('\x22' :: s.toList.flatMap escapeChar ++ ['\x22'])

mutual

/-- The compact form of a value. -/
def Value.render : Value → String
  | .null => "null"
  | .bool b => if b then "true" else "false"
  | .number n => n.render
  | .string s => quoteString s
  | .array items => "[" ++ ",".intercalate (Value.renderItems items) ++ "]"
  | .object members => "\x7b" ++ ",".intercalate (Value.renderMembers members) ++ "\x7d"

/-- The compact forms of items. -/
def Value.renderItems : List Value → List String
  | [] => []
  | v :: vs => v.render :: Value.renderItems vs

/-- The compact forms of members. -/
def Value.renderMembers : List (String × Value) → List String
  | [] => []
  | (k, v) :: ms => (quoteString k ++ ":" ++ v.render) :: Value.renderMembers ms

end

end LayerHeaders.Json
