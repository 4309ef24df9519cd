/-!
# String literals

A string literal stands in quotation marks. A quotation mark, a backslash and a line feed are escaped,
every other character stands for itself.

* `encode`: writes what stands between the quotation marks.
* `decode?`: reads it, up to the closing quotation mark.
* `decode?_encode`: what is written is read back, whatever follows it.
-/

namespace LayerHeaders.Text.Literal

/-- A character as it stands in a literal. -/
def encodeChar (c : Char) : List Char :=
  if c = '\x22' then ['\\', '\x22']
  else if c = '\\' then ['\\', '\\']
  else if c = '\n' then ['\\', 'n']
  else [c]

/-- A text as it stands in a literal. -/
def encode (cs : List Char) : List Char :=
  cs.flatMap encodeChar

theorem encode_cons (c : Char) (cs : List Char) : encode (c :: cs) = encodeChar c ++ encode cs :=
  rfl

/-- The character that a backslash and this character stand for. -/
def decodeEscape? (c : Char) : Option Char :=
  if c = '\x22' ∨ c = '\\' then some c
  else if c = 'n' then some '\n'
  else none

/-- Reads a literal after its opening quotation mark: its text, and what follows the closing mark.
There is no literal if the closing mark is missing, a line feed comes before it, or an escape is
unknown. -/
def decode? : List Char → Option (List Char × List Char)
  | [] => none
  | '\x22' :: rest => some ([], rest)
  | '\\' :: d :: rest =>
    match decodeEscape? d, decode? rest with
    | some e, some (cs, after) => some (e :: cs, after)
    | _, _ => none
  | c :: rest =>
    if c = '\\' ∨ c = '\n' then none
    else (decode? rest).map fun (cs, after) => (c :: cs, after)

/-- The literal of a text. -/
def quote (s : String) : String :=
  String.ofList ('\x22' :: encode s.toList ++ ['\x22'])

/-! ## Reading back -/

theorem decode?_encodeChar (c : Char) (rest : List Char) :
    decode? (encodeChar c ++ rest) = (decode? rest).map fun p => (c :: p.1, p.2) := by
  unfold encodeChar
  split
  · next h => subst h; cases h : decode? rest <;> simp [decode?, decodeEscape?, h]
  split
  · next h => subst h; cases h : decode? rest <;> simp [decode?, decodeEscape?, h]
  split
  · next h => subst h; cases h : decode? rest <;> simp [decode?, decodeEscape?, h]
  · next h2 h3 => simp [decode?, h2, h3]

theorem decode?_encode (cs rest : List Char) :
    decode? (encode cs ++ '\x22' :: rest) = some (cs, rest) := by
  induction cs with
  | nil => simp [encode, decode?]
  | cons c cs ih =>
    rw [encode_cons, List.append_assoc, decode?_encodeChar, ih]
    rfl

end LayerHeaders.Text.Literal
