import LayerHeaders.Xml.Error

/-!
# References in texts and values

A text is written with references in place of some of its characters: five named ones and numeric
ones. `unescape` replaces them, `escape` writes the five characters that have a name.

* `unescape` scans from left to right; from an `&` on, the next `&` or `;` decides whether it is
  terminated.
-/

namespace LayerHeaders.Xml

/-! ## Reading -/

/-- The number of bytes of a text. -/
def byteLength (cs : List Char) : Nat :=
  cs.foldl (fun n c => n + c.utf8Size) 0

/-- The characters that have a name. -/
def namedCharacter? : List Char → Option Char
  | ['l', 't'] => some '<'
  | ['g', 't'] => some '>'
  | ['a', 'm', 'p'] => some '&'
  | ['a', 'p', 'o', 's'] => some '\x27'
  | ['q', 'u', 'o', 't'] => some '\x22'
  | _ => none

/-- The value of a digit in a base of at most sixteen. -/
def digitValue? (base : Nat) (c : Char) : Option Nat :=
  let value? :=
    if '0' ≤ c ∧ c ≤ '9' then some (c.toNat - 48)
    else if 'a' ≤ c ∧ c ≤ 'f' then some (c.toNat - 87)
    else if 'A' ≤ c ∧ c ≤ 'F' then some (c.toNat - 55)
    else none
  value?.filter (· < base)

/-- Continues a 32 bit number by further digits; the first that does not fit decides. -/
def continueNumber (base : Nat) : Nat → List Char → Except ReferenceError Nat
  | n, [] => .ok n
  | n, c :: cs =>
    match digitValue? base c with
    | none => .error .invalidDigit
    | some d => if base * n + d < UInt32.size then continueNumber base (base * n + d) cs else .error .tooLarge

/-- An unsigned 32 bit number. -/
def number (base : Nat) : List Char → Except ReferenceError Nat
  | [] => .error .noDigits
  | c :: cs => if c = '+' ∨ c = '-' then .error .signed else continueNumber base 0 (c :: cs)

/-- The character that a numeric reference stands for, from what follows the `#`. -/
def numberedCharacter (digits : List Char) : Except ReferenceError Char := do
  let code ← match digits with
    | 'x' :: ds => number 16 ds
    | ds => number 10 ds
  if code = 0 then throw .zero
  if code.isValidChar then return Char.ofNat code else throw (.notScalar code)

/-- The character that a reference stands for, from what stands between `&` and `;`. The name starts
at byte `start`. -/
def referenced (start : Nat) : List Char → Except EntityError Char
  | '#' :: digits => (numberedCharacter digits).mapError .reference
  | name =>
    match namedCharacter? name with
    | some c => .ok c
    | none => .error (.unknown start (start + byteLength name) (String.ofList name))

/-- Replaces the references in the rest of a text of `length` bytes. `out` is what was read so far, in
reverse; within a reference, `name?` holds the offset of its `&` and what follows that, in reverse. -/
def unescapeFrom (length : Nat) (out : List Char) (name? : Option (Nat × List Char)) (pos : Nat) :
    List Char → Except EntityError (List Char)
  | [] =>
    match name? with
    | none => .ok out.reverse
    | some (start, _) => .error (.unterminated start length)
  | c :: cs =>
    match name? with
    | none =>
      if c = '&' then unescapeFrom length out (some (pos, [])) (pos + c.utf8Size) cs
      else unescapeFrom length (c :: out) none (pos + c.utf8Size) cs
    | some (start, name) =>
      if c = '&' then .error (.unterminated start length)
      else if c = ';' then
        match referenced (start + 1) name.reverse with
        | .ok d => unescapeFrom length (d :: out) none (pos + c.utf8Size) cs
        | .error e => .error e
      else unescapeFrom length out (some (start, c :: name)) (pos + c.utf8Size) cs

/-- The text with its references replaced. -/
def unescape (cs : List Char) : Except EntityError (List Char) :=
  unescapeFrom (byteLength cs) [] none 0 cs

/-! ## Writing -/

/-- The written form of a character: a reference for the five that have a name. -/
def escapeChar (c : Char) : List Char :=
  match c with
  | '<' => "&lt;".toList
  | '>' => "&gt;".toList
  | '&' => "&amp;".toList
  | '\x27' => "&apos;".toList
  | '\x22' => "&quot;".toList
  | c => [c]

/-- The text with references for the five characters that have a name. -/
def escape (cs : List Char) : List Char :=
  cs.flatMap escapeChar

end LayerHeaders.Xml
