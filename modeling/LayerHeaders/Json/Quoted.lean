import LayerHeaders.Json.Reader

/-!
# Quoted strings

A string stands in quotation marks. A backslash starts an escape: of one character, or of a 16-bit
unit in four hexadecimal digits, where a high and a low surrogate make one character. Control
characters have to be escaped.

* `quoted`: reads what follows the opening quotation mark.
* `skipQuoted`: passes over it, without a look at how surrogates are paired.
-/

namespace LayerHeaders.Json

/-! ## Escapes -/

/-- The value of a hexadecimal digit. -/
def hexValue? (c : Char) : Option Nat :=
  if '0' ≤ c ∧ c ≤ '9' then some (c.toNat - 48)
  else if 'a' ≤ c ∧ c ≤ 'f' then some (c.toNat - 87)
  else if 'A' ≤ c ∧ c ≤ 'F' then some (c.toNat - 55)
  else none

/-- Reads four hexadecimal digits. A rest of fewer than four bytes is no end of a string. -/
def hexUnit : Reader Nat := fun text =>
  match text with
  | a :: b :: c :: d :: rest =>
    match hexValue? a, hexValue? b, hexValue? c, hexValue? d with
    | some i, some j, some k, some l =>
      .ok ((((Step.one (((i * 16 + j) * 16 + k) * 16 + l) d rest).after c).after b).after a)
    | _, _, _, _ => .error .invalidEscape
  | cs => .error (if (String.ofList cs).utf8ByteSize < 4 then .endInString else .invalidEscape)

/-- The character that an escape of one letter stands for. -/
def letterEscape? (c : Char) : Option Char :=
  if c = '\x22' ∨ c = '\\' ∨ c = '/' then some c
  else if c = 'b' then some '\x08'
  else if c = 'f' then some '\x0c'
  else if c = 'n' then some '\n'
  else if c = 'r' then some '\r'
  else if c = 't' then some '\t'
  else none

/-- Whether a unit is the first one of two. -/
def isHighSurrogate (n : Nat) : Bool :=
  0xD800 ≤ n && n ≤ 0xDBFF

/-- Whether a unit is the second one of two. -/
def isLowSurrogate (n : Nat) : Bool :=
  0xDC00 ≤ n && n ≤ 0xDFFF

/-- Reads the escape of a low surrogate, which makes a character with `high` before it. -/
def lowSurrogate (high : Nat) : Reader Char := fun text =>
  match text with
  | [] => .error .endInString
  | ['\\'] => .error .endInString
  | '\\' :: 'u' :: rest => do
    let low ← hexUnit rest
    if isLowSurrogate low.value then
      let character (unit : Nat) : Char :=
        Char.ofNat (0x10000 + (high - 0xD800) * 0x400 + (unit - 0xDC00))
      return ((low.map character).after 'u').after '\\'
    else throw .loneSurrogate
  | _ => .error .unfinishedSurrogate

/-- Reads what follows a backslash. -/
def escape : Reader Char := fun text =>
  match text with
  | [] => .error .endInString
  | c :: rest =>
    match letterEscape? c with
    | some d => .ok (.one d c rest)
    | none =>
      if c = 'u' then do
        let unit ← hexUnit rest
        if isLowSurrogate unit.value then throw .loneSurrogate
        else if isHighSurrogate unit.value then
          let s ← lowSurrogate unit.value unit.rest
          return (unit.trans s).after c
        else return (unit.map Char.ofNat).after c
      else .error .invalidEscape

/-- Passes over what follows a backslash. -/
def skipEscape : Reader Unit := fun text =>
  match text with
  | [] => .error .endInString
  | c :: rest =>
    if (letterEscape? c).isSome then .ok (.one () c rest)
    else if c = 'u' then do
      let unit ← hexUnit rest
      return (unit.map fun _ => ()).after c
    else .error .invalidEscape

/-! ## Strings -/

/-- Reads the characters of a string up to its closing quotation mark. -/
def quotedChars (text : List Char) : Except Error (Step (List Char) text) :=
  match text with
  | [] => .error .endInString
  | c :: rest =>
    if c = '\x22' then .ok (.one [] c rest)
    else if c = '\\' then do
      let e ← escape rest
      let s ← quotedChars e.rest
      return ((e.trans s).map (e.value :: ·)).after c
    else if c.toNat < 0x20 then .error .controlCharacter
    else do
      let s ← quotedChars rest
      return (s.map (c :: ·)).after c
termination_by text.length
decreasing_by
  · exact (e.after c).shorter
  · exact Nat.lt_succ_self rest.length

/-- Reads a string after its opening quotation mark. -/
def quoted : Reader String := fun text => do
  let s ← quotedChars text
  return s.map String.ofList

/-- Passes over a string after its opening quotation mark. -/
def skipQuoted (text : List Char) : Except Error (Step Unit text) :=
  match text with
  | [] => .error .endInString
  | c :: rest =>
    if c = '\x22' then .ok (.one () c rest)
    else if c = '\\' then do
      let e ← skipEscape rest
      let s ← skipQuoted e.rest
      return (e.trans s).after c
    else if c.toNat < 0x20 then .error .controlCharacter
    else do
      let s ← skipQuoted rest
      return s.after c
termination_by text.length
decreasing_by
  · exact (e.after c).shorter
  · exact Nat.lt_succ_self rest.length

end LayerHeaders.Json
