import LayerHeaders.Json.Reading
import LayerHeaders.Json.Skip

/-!
# Records

A record has fields with names. It is written as an object, where members without a field are passed
over, or as an array of the fields in their order. Fields are read one after the other into a value that
starts out with the defaults.

* `Record.read`: reads a record in either form.
-/

namespace LayerHeaders.Json

/-- A field of a record. -/
structure Field (ρ : Type) where
  /-- The key. -/
  name : String
  /-- Whether the field must be present. -/
  required : Bool
  /-- Reads the value, and sets it. -/
  read : NestedReader (ρ → ρ)

/-- A field with a value that `reader` reads and `set` sets. -/
def Field.of {α ρ : Type} (name : String) (required : Bool) (reader : NestedReader α)
    (set : α → ρ → ρ) : Field ρ where
  name := name
  required := required
  read depth text := do
    let s ← reader depth text
    return s.map set

/-- How a record is read. -/
structure Record (ρ : Type) where
  /-- What the record is called in messages. -/
  name : String
  /-- The fields, in order. -/
  fields : List (Field ρ)
  /-- The record with all defaults. -/
  defaults : ρ

namespace Record

variable {ρ : Type}

/-! ## Objects -/

/-- Reads the members that follow in an object, where the fields `seen` are read into `current`. -/
def readMembers (r : Record ρ) (depth : Nat) (first : Bool) (seen : List String) (current : ρ)
    (text : List Char) : Except Error (Step ρ text) := do
  match ← Frame.object.next first text with
  | .done rest h =>
    match r.fields.find? fun f => f.required && !seen.contains f.name with
    | some f => throw (.missingField f.name)
    | none => return ⟨current, rest, h⟩
  | .more rest h =>
    let key ← quoted rest
    match r.fields.find? fun f => f.name == key.value with
    | some f =>
      if seen.contains f.name then throw (.duplicateField f.name)
      let separator ← colon key.rest
      let update ← f.read depth separator.rest
      let update := (key.trans (separator.trans update)).widen h
      let s ← readMembers r depth false (f.name :: seen) (update.value current) update.rest
      return update.trans s
    | none =>
      let separator ← colon key.rest
      let after ← skip separator.rest
      let passed := (key.trans (separator.leave after)).widen h
      let s ← readMembers r depth false seen current passed.rest
      return passed.trans s
termination_by text.length
decreasing_by
  · exact update.shorter
  · exact passed.shorter

/-! ## Arrays -/

/-- What an array in place of a record should be. -/
def expectedItems (r : Record ρ) : String :=
  let count := r.fields.length
  s!"{r.name} with {count} element" ++ if count = 1 then "" else "s"

/-- The position of the first required field, counted from `index`. -/
def firstRequired? (index : Nat) : List (Field ρ) → Option Nat
  | [] => none
  | f :: fs => if f.required then some index else firstRequired? (index + 1) fs

/-- Reads the closing bracket of an array after the last field. -/
def readEnd : Reader Unit := fun text =>
  match h : skipBlanks text with
  | [] => .error .endInList
  | c :: rest =>
    if c = ']' then .ok ⟨(), rest, length_lt_of_skipBlanks h⟩
    else if c = ',' ∧ (skipBlanks rest).head? = some ']' then .error .trailingComma
    else .error .trailingCharacters

/-- Reads the items that follow in an array, for the fields from `index` on. -/
def readItems (r : Record ρ) (depth : Nat) (first : Bool) (index : Nat) (current : ρ)
    (fields : List (Field ρ)) (text : List Char) : Except Error (Step ρ text) :=
  match fields with
  | [] => do
    let s ← readEnd text
    return s.map fun _ => current
  | f :: fs => do
    match ← Frame.array.next first text with
    | .done rest h =>
      match firstRequired? index (f :: fs) with
      | some i => throw (.invalidLength i r.expectedItems)
      | none => return ⟨current, rest, h⟩
    | .more rest h =>
      let update ← f.read depth rest
      let update := update.widen h
      let s ← readItems r depth false (index + 1) (update.value current) fs update.rest
      return update.trans s

/-! ## Either form -/

/-- Reads a record. -/
def read (r : Record ρ) : NestedReader ρ := fun depth text =>
  match h : skipBlanks text with
  | [] => .error .endInValue
  | c :: rest =>
    if c = '[' then
      match depth with
      | 0 => .error .tooDeep
      | depth + 1 => do
        let s ← r.readItems depth true 0 r.defaults r.fields rest
        return s.widen (length_le_of_skipBlanks h)
    else if c = '\x7b' then
      match depth with
      | 0 => .error .tooDeep
      | depth + 1 => do
        let s ← r.readMembers depth true [] r.defaults rest
        return s.widen (length_le_of_skipBlanks h)
    else .error (refuse r.name c rest)

end Record

end LayerHeaders.Json
