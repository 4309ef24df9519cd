import LayerHeaders.Json.Numeral
import LayerHeaders.Json.Quoted
import LayerHeaders.Text.Visible

/-!
# Reading values

Readers of whole values, of strings and of lists. Each is given the number of brackets that may still be
opened inside one another.

* `Value.read`: reads any value.
* `readString`, `readList`: read a value of one type, and refuse the others by what they are.
* `readText`: reads a text that holds one value and blanks.
-/

namespace LayerHeaders.Json

/-- Reads a value that may contain others, given how many brackets may still be opened. -/
abbrev NestedReader (α : Type) :=
  (depth : Nat) → Reader α

/-! ## Values -/

/-- Reads a value that is neither an array nor an object. -/
def readScalar (c : Char) (rest : List Char) : Except Error (Step Value (c :: rest)) :=
  if c = '\x22' then do
    let s ← quoted rest
    return (s.map Value.string).after c
  else if c = 'n' then do
    let s ← word 'n' ['u', 'l', 'l'] (c :: rest)
    return s.map fun _ => .null
  else if c = 't' then do
    let s ← word 't' ['r', 'u', 'e'] (c :: rest)
    return s.map fun _ => .bool true
  else if c = 'f' then do
    let s ← word 'f' ['a', 'l', 's', 'e'] (c :: rest)
    return s.map fun _ => .bool false
  else if c = '-' ∨ c.isDigit then do
    let s ← Numeral.read .endInValue (c :: rest)
    match s.value.number? with
    | some n => return s.map fun _ => .number n
    | none => throw .numberOutOfRange
  else .error .expectedValue

/-- Reads the items that follow in an array, up to its closing bracket. -/
def readItems {α : Type} (item : Reader α) (first : Bool) (text : List Char) :
    Except Error (Step (List α) text) := do
  match ← Frame.array.next first text with
  | .done rest h => return ⟨[], rest, h⟩
  | .more rest h =>
    let v ← item rest
    let v := v.widen h
    let vs ← readItems item false v.rest
    return (v.trans vs).map (v.value :: ·)
termination_by text.length
decreasing_by exact v.shorter

/-- Reads the members that follow in an object, up to its closing bracket, into the members before
them. -/
def readMembers {α : Type} (member : Reader α) (first : Bool) (before : List (String × α))
    (text : List Char) : Except Error (Step (List (String × α)) text) := do
  match ← Frame.object.next first text with
  | .done rest h => return ⟨before, rest, h⟩
  | .more rest h =>
    let key ← quoted rest
    let separator ← colon key.rest
    let v ← member separator.rest
    let v := (key.trans (separator.trans v)).widen h
    let s ← readMembers member false (setMember key.value v.value before) v.rest
    return v.trans s
termination_by text.length
decreasing_by exact v.shorter

/-- Reads a value. -/
def Value.read (depth : Nat) : Reader Value := fun text =>
  match h : skipBlanks text with
  | [] => .error .endInValue
  | c :: rest =>
    if c = '[' then
      match depth with
      | 0 => .error .tooDeep
      | depth + 1 => do
        let s ← readItems (Value.read depth) true rest
        return (s.map Value.array).widen (length_le_of_skipBlanks h)
    else if c = '\x7b' then
      match depth with
      | 0 => .error .tooDeep
      | depth + 1 => do
        let s ← readMembers (Value.read depth) true [] rest
        return (s.map Value.object).widen (length_le_of_skipBlanks h)
    else do
      let s ← readScalar c rest
      return s.widen (length_lt_of_skipBlanks h)

/-! ## Values of one type -/

/-- What a value is found to be. -/
def Found.ofValue : Value → Found
  | .null => .null
  | .bool b => .bool b
  | .number (.integer n _) => .integer n
  | .number (.double bits) => .float (Number.style.render bits)
  | .string s => .string (Text.visibleQuote s)
  | .array _ => .sequence
  | .object _ => .map

/-- Why the value that starts here is not of the expected type. Arrays and objects are not read, and a
defect of any other value comes first. -/
def refuse (expected : String) (c : Char) (rest : List Char) : Error :=
  if c = '[' then .invalidType .sequence expected
  else if c = '\x7b' then .invalidType .map expected
  else
    match readScalar c rest with
    | .ok s => .invalidType (.ofValue s.value) expected
    | .error e => e

/-- Reads a string. -/
def readString : NestedReader String := fun _ text =>
  match h : skipBlanks text with
  | [] => .error .endInValue
  | c :: rest =>
    if c = '\x22' then do
      let s ← quoted rest
      return s.widen (length_le_of_skipBlanks h)
    else .error (refuse "a string" c rest)

/-- Reads an array of items of one type. -/
def readList {α : Type} (item : NestedReader α) : NestedReader (List α) := fun depth text =>
  match h : skipBlanks text with
  | [] => .error .endInValue
  | c :: rest =>
    if c = '[' then
      match depth with
      | 0 => .error .tooDeep
      | depth + 1 => do
        let s ← readItems (item depth) true rest
        return s.widen (length_le_of_skipBlanks h)
    else .error (refuse "a sequence" c rest)

/-! ## Texts -/

/-- How many brackets may be open inside one another. -/
def maxDepth : Nat := 127

/-- Reads a text that holds one value, with blanks around it. -/
def readText {α : Type} (reader : NestedReader α) (text : String) : Except Error α := do
  let s ← reader maxDepth text.toList
  if (skipBlanks s.rest).isEmpty then return s.value else throw .trailingCharacters

end LayerHeaders.Json
