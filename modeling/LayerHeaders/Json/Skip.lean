import LayerHeaders.Json.Numeral
import LayerHeaders.Json.Quoted

/-!
# Passing over a value

A value that nobody asks for is checked for its form only: numbers may be too large, surrogates need
not be paired, and arrays and objects may be nested to any depth. The frames around the current place
are kept in a list.

* `skip`: passes over a value.
-/

namespace LayerHeaders.Json

/-- Passes over a value that is neither an array nor an object, from its first character on. -/
def skipScalar (c : Char) (rest : List Char) : Except Error (Step Unit (c :: rest)) :=
  if c = '\x22' then do
    let s ← skipQuoted rest
    return s.after c
  else if c = 'n' then word 'n' ['u', 'l', 'l'] (c :: rest)
  else if c = 't' then word 't' ['r', 'u', 'e'] (c :: rest)
  else if c = 'f' then word 'f' ['a', 'l', 's', 'e'] (c :: rest)
  else if c = '-' ∨ c.isDigit then do
    let s ← Numeral.read .invalidNumber (c :: rest)
    return s.map fun _ => ()
  else .error .expectedValue

/-- Passes over a key and its colon, from the key's quotation mark on. -/
def skipKey : Reader Unit := fun text =>
  match h : skipBlanks text with
  | [] => .error .endInObject
  | c :: rest =>
    if c = '\x22' then do
      let key ← skipQuoted rest
      let s ← colon key.rest
      return (key.trans s).widen (length_le_of_skipBlanks h)
    else .error .keyNotString

/-- A place among values. -/
inductive Place where
  /-- Where a value starts. -/
  | value
  /-- After the opening bracket of the innermost frame. -/
  | opened
  /-- Where an item or a member of the innermost frame starts. -/
  | item
  /-- After a value. -/
  | ended

namespace Place

/-- How many places may follow one another before a character is read. -/
def rank : Place → Nat
  | value => 0
  | opened => 2
  | item => 1
  | ended => 0

end Place

theorem length_le_bound_of_lt {bound : Nat} {text rest : List Char} (hb : text.length ≤ bound)
    (h : rest.length < text.length) : rest.length ≤ bound :=
  Nat.le_of_lt (Nat.lt_of_lt_of_le h hb)

/-- Passes over what is left of the value that the frames enclose, the innermost frame first. The text
is no longer than `bound`, nor is what follows the value. -/
def skipFrom (bound : Nat) (place : Place) (frames : List Frame) (text : List Char)
    (hb : text.length ≤ bound) : Except Error { rest : List Char // rest.length ≤ bound } :=
  match place, frames with
  | .value, frames =>
    match h : skipBlanks text with
    | [] => .error .endInValue
    | c :: rest =>
      have hrest := length_lt_of_skipBlanks h
      if c = '[' then
        skipFrom bound .opened (.array :: frames) rest (length_le_bound_of_lt hb hrest)
      else if c = '\x7b' then
        skipFrom bound .opened (.object :: frames) rest (length_le_bound_of_lt hb hrest)
      else
        match skipScalar c rest with
        | .error e => .error e
        | .ok s =>
          have hs := (s.widen hrest).shorter
          skipFrom bound .ended frames s.rest (length_le_bound_of_lt hb hs)
  | .opened, frame :: outer =>
    match h : skipBlanks text with
    | [] => .error frame.endError
    | c :: rest =>
      have hrest := length_lt_of_skipBlanks h
      if c = frame.closer then skipFrom bound .ended outer rest (length_le_bound_of_lt hb hrest)
      else skipFrom bound .item (frame :: outer) text hb
  | .item, .array :: outer => skipFrom bound .value (.array :: outer) text hb
  | .item, .object :: outer =>
    match skipKey text with
    | .error e => .error e
    | .ok s =>
      have hs := s.shorter
      skipFrom bound .value (.object :: outer) s.rest (length_le_bound_of_lt hb hs)
  | .ended, frame :: outer =>
    match h : skipBlanks text with
    | [] => .error frame.endError
    | c :: rest =>
      have hrest := length_lt_of_skipBlanks h
      if c = frame.closer then skipFrom bound .ended outer rest (length_le_bound_of_lt hb hrest)
      else if c = ',' then
        skipFrom bound .item (frame :: outer) rest (length_le_bound_of_lt hb hrest)
      else .error frame.separatorError
  | _, [] => .ok ⟨text, hb⟩
termination_by (text.length, place.rank)
decreasing_by
  all_goals first
    | exact Prod.Lex.left _ _ hrest
    | exact Prod.Lex.left _ _ hs
    | exact Prod.Lex.right _ (by decide)

/-- Passes over a value; the rest of the text comes out. -/
def skip (text : List Char) : Except Error { rest : List Char // rest.length ≤ text.length } :=
  skipFrom text.length .value [] text (Nat.le_refl _)

end LayerHeaders.Json
