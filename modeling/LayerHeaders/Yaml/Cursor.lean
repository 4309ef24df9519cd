/-!
# Places in a text

YAML gives a meaning to columns and lines, so a text is read through a cursor that counts them. Line
breaks are the line feed, the carriage return, the next line, and the line and paragraph separators; the
last two stay what they are, every other one becomes a line feed.

* `advance_size_lt`, `dropWhile_size_le`: a cursor that moves leaves less text.
-/

namespace LayerHeaders.Yaml

/-! ## Characters -/

/-- Whether a character breaks a line, once breaks are unified. -/
def isBreak (c : Char) : Bool :=
  c == '\n' || c == '\u2028' || c == '\u2029'

/-- Whether a character is a blank inside a line. -/
def isBlank (c : Char) : Bool :=
  c == ' ' || c == '\t'

/-- Whether a name may contain a character. -/
def isNameChar (c : Char) : Bool :=
  c.isAlphanum || c == '_' || c == '-'

/-- Whether a blank, a line break or the end of the text comes next. -/
def isGap : Option Char → Bool
  | none => true
  | some c => isBlank c || isBreak c

/-- Whether a text may contain a character at all. -/
def isAllowed (c : Char) : Bool :=
  let n := c.toNat
  n == 0x09 || n == 0x0A || n == 0x0D || (0x20 ≤ n && n ≤ 0x7E) || n == 0x85 ||
    (0xA0 ≤ n && n ≤ 0xFFFD) || 0x10000 ≤ n

/-- The text with a line feed for each break that is not kept as it is. -/
def unifyBreaks : List Char → List Char
  | [] => []
  | '\r' :: '\n' :: cs => '\n' :: unifyBreaks cs
  | c :: cs => (if c = '\r' ∨ c = '\u0085' then '\n' else c) :: unifyBreaks cs

/-! ## Cursors -/

/-- A place in a text. -/
structure Cursor where
  /-- The text from here on. -/
  rest : List Char
  /-- The column, from zero. -/
  column : Nat
  /-- The line, from zero. -/
  line : Nat
  /-- The position, from zero. -/
  index : Nat
deriving DecidableEq, Repr

namespace Cursor

/-- The start of a text. -/
def ofText (text : List Char) : Cursor :=
  ⟨text, 0, 0, 0⟩

/-- How much text is left. -/
def size (c : Cursor) : Nat :=
  c.rest.length

/-- The next character. -/
def next? (c : Cursor) : Option Char :=
  c.rest.head?

/-- Whether the next character is this one. -/
def sees (c : Cursor) (x : Char) : Bool :=
  c.next? == some x

/-- Whether the next character has a property. -/
def seesThat (c : Cursor) (p : Char → Bool) : Bool :=
  c.next?.any p

/-- The place after the next character. -/
def advance (c : Cursor) : Cursor :=
  match c.rest with
  | [] => c
  | x :: rest =>
    if isBreak x then ⟨rest, 0, c.line + 1, c.index + 1⟩
    else ⟨rest, c.column + 1, c.line, c.index + 1⟩

/-- The place after the next `n` characters. -/
def advanceBy (n : Nat) (c : Cursor) : Cursor :=
  match n with
  | 0 => c
  | n + 1 => advanceBy n c.advance

theorem advance_size_lt {c : Cursor} {x : Char} {rest : List Char} (h : c.rest = x :: rest) :
    c.advance.size < c.size := by
  unfold advance size
  simp only [h]
  split <;> simp

theorem advance_size_le (c : Cursor) : c.advance.size ≤ c.size := by
  cases h : c.rest with
  | nil => simp [advance, h]
  | cons x rest => exact Nat.le_of_lt (advance_size_lt h)

/-- The place after all next characters with a property. -/
def dropWhile (p : Char → Bool) (c : Cursor) : Cursor :=
  match _h : c.rest with
  | [] => c
  | x :: _ => if p x then dropWhile p c.advance else c
termination_by c.size
decreasing_by exact advance_size_lt _h

theorem dropWhile_size_le (p : Char → Bool) (c : Cursor) : (c.dropWhile p).size ≤ c.size := by
  induction c using dropWhile.induct (p := p) with
  | case1 c h => unfold dropWhile; split <;> simp_all
  | case2 c x rest h hp ih =>
    unfold dropWhile
    split
    · exact Nat.le_refl _
    · split
      · exact Nat.le_trans ih (advance_size_le c)
      · exact Nat.le_refl _
  | case3 c x rest h hp =>
    unfold dropWhile
    split
    · exact Nat.le_refl _
    · split
      · next h' hx => rw [h] at h'; cases h'; exact absurd hx hp
      · exact Nat.le_refl _

/-- The next characters with a property, and the place after them. -/
def span (p : Char → Bool) (c : Cursor) : List Char × Cursor :=
  (c.rest.takeWhile p, c.dropWhile p)

/-- Whether a line starts here with this character three times and a gap after it. -/
def seesMarkOf (c : Cursor) (x : Char) : Bool :=
  c.column == 0 && c.rest.take 3 == [x, x, x] && isGap (c.rest.drop 3).head?

/-- Whether a line that starts or ends a document starts here. -/
def seesMark (c : Cursor) : Bool :=
  c.seesMarkOf '-' || c.seesMarkOf '.'

/-- The place after what is left of the line, but before its break. -/
def dropLine (c : Cursor) : Cursor :=
  c.dropWhile fun x => !isBreak x

/-- The place after blanks and a comment, if a line ends there. -/
def dropComment? (c : Cursor) : Option Cursor :=
  let c := c.dropWhile isBlank
  let c := if c.sees '#' then c.dropLine else c
  match c.rest with
  | [] => some c
  | x :: _ => if isBreak x then some c.advance else none

/-- The place of the next token, whether a key may start there, and whether tabs are blanks before it:
inside brackets they always are, elsewhere where no key may start. -/
def nextToken (flow keyAllowed : Bool) (c : Cursor) : Cursor × Bool :=
  let c' := c.dropWhile fun x => x == ' ' || (x == '\t' && (flow || !keyAllowed))
  let c'' := if c'.sees '#' then c'.dropLine else c'
  have h' : c'.size ≤ c.size := dropWhile_size_le _ c
  have h'' : c''.size ≤ c.size := by
    simp only [c'']
    split
    · exact Nat.le_trans (dropWhile_size_le _ c') h'
    · exact h'
  match _h : c''.rest with
  | [] => (c'', keyAllowed)
  | x :: _ =>
    if isBreak x then nextToken flow (keyAllowed || !flow) c''.advance else (c'', keyAllowed)
termination_by c.size
decreasing_by exact Nat.lt_of_lt_of_le (advance_size_lt _h) h''

end Cursor

end LayerHeaders.Yaml
