import LayerHeaders.Yaml.Cursor

/-!
# Scalars

A scalar is plain, in single or double quotation marks, or a block of lines. A gap between the words of
the first three may break lines: one break becomes a space, of more all but the first are kept.

* `plain?`, `quoted?`, `block?`: read a scalar of each kind, if there is one.
-/

namespace LayerHeaders.Yaml

/-! ## Gaps -/

/-- Blanks, or line breaks with blanks around them. -/
structure Gap where
  /-- The blanks before the first break. -/
  blanks : List Char := []
  /-- The breaks. -/
  breaks : List Char := []
deriving DecidableEq, Repr

namespace Gap

/-- What a gap leaves in a scalar. -/
def text (g : Gap) : List Char :=
  match g.breaks with
  | [] => g.blanks
  | ['\n'] => [' ']
  | '\n' :: more => more
  | breaks => breaks

/-- Whether a gap breaks a line. -/
def isBroken (g : Gap) : Bool :=
  !g.breaks.isEmpty

end Gap

/-- The gap that goes on here after `g`. After a break, a tab before the column `margin` is refused. -/
def gap? (margin : Nat) (g : Gap) (c : Cursor) : Option (Gap × Cursor) :=
  match _h : c.rest with
  | [] => some (g, c)
  | x :: _ =>
    if isBlank x then
      if g.isBroken then
        if x = '\t' ∧ c.column < margin then none else gap? margin g c.advance
      else gap? margin { g with blanks := g.blanks ++ [x] } c.advance
    else if isBreak x then gap? margin { g with breaks := g.breaks ++ [x] } c.advance
    else some (g, c)
termination_by c.size
decreasing_by all_goals exact Cursor.advance_size_lt _h

/-! ## Plain scalars -/

/-- Whether a character is a bracket or a comma. -/
def isFlowIndicator (c : Char) : Bool :=
  c == ',' || c == '[' || c == ']' || c == '\x7b' || c == '\x7d'

/-- The characters of a plain scalar up to a gap, a colon before a gap or, inside brackets, a bracket or
a comma. Inside brackets a colon may not be followed by one of these or a question mark. -/
def plainWord? (flow : Bool) : List Char → Option (List Char)
  | [] => some []
  | x :: rest =>
    if isBlank x || isBreak x then some []
    else if flow && x == ':' && rest.head?.any (fun y => isFlowIndicator y || y == '?') then none
    else if x == ':' && isGap rest.head? then some []
    else if flow && isFlowIndicator x then some []
    else (plainWord? flow rest).map (x :: ·)

/-- The rest of a plain scalar after a text and a gap: its text, whether a line break follows it, and the
place after it. Outside of brackets its lines start at the column `margin` or after it. Texts are read last
character first. -/
def plainFrom? (flow : Bool) (margin : Nat) (text : List Char) (g : Gap) (c : Cursor) :
    Option (List Char × Bool × Cursor) :=
  if c.seesMark || c.sees '#' then some (text, g.isBroken, c)
  else do
    let word ← plainWord? flow c.rest
    let text' := if word.isEmpty then text else (g.text ++ word).reverse ++ text
    let c' := c.advanceBy word.length
    if !c'.seesThat (fun x => isBlank x || isBreak x) then
      return (text', word.isEmpty && g.isBroken, c')
    let (g', c'') ← gap? margin {} c'
    if !flow && c''.column < margin then return (text', g'.isBroken, c'')
    if _h : c''.size < c.size then plainFrom? flow margin text' g' c''
    else none
termination_by c.size

/-- Reads a plain scalar. -/
def plain? (flow : Bool) (margin : Nat) (c : Cursor) : Option (List Char × Bool × Cursor) := do
  let (text, broken, c) ← plainFrom? flow margin [] {} c
  return (text.reverse, broken, c)

/-! ## Quoted scalars -/

/-- The value of a hexadecimal digit. -/
def hexValue? (c : Char) : Option Nat :=
  if '0' ≤ c ∧ c ≤ '9' then some (c.toNat - 48)
  else if 'a' ≤ c ∧ c ≤ 'f' then some (c.toNat - 87)
  else if 'A' ≤ c ∧ c ≤ 'F' then some (c.toNat - 55)
  else none

/-- The number that hexadecimal digits write. -/
def hexNumber? (cs : List Char) : Option Nat := do
  let digits ← cs.mapM hexValue?
  return digits.foldl (fun n d => n * 16 + d) 0

/-- The character that an escape of one letter stands for. -/
def letterEscape? (c : Char) : Option Char :=
  match c with
  | '0' => some '\x00'
  | 'a' => some '\x07'
  | 'b' => some '\x08'
  | 't' | '\t' => some '\t'
  | 'n' => some '\n'
  | 'v' => some '\x0b'
  | 'f' => some '\x0c'
  | 'r' => some '\r'
  | 'e' => some '\x1b'
  | ' ' => some ' '
  | '\x22' => some '\x22'
  | '/' => some '/'
  | '\\' => some '\\'
  | 'N' => some '\u0085'
  | '_' => some '\u00a0'
  | 'L' => some '\u2028'
  | 'P' => some '\u2029'
  | _ => none

/-- How many digits follow an escape of this letter. -/
def escapeDigits? (c : Char) : Option Nat :=
  match c with
  | 'x' => some 2
  | 'u' => some 4
  | 'U' => some 8
  | _ => none

/-- The character that is escaped after a backslash, and how long the escape is. -/
def escape? : List Char → Option (Char × Nat)
  | [] => none
  | x :: rest =>
    match letterEscape? x with
    | some y => some (y, 1)
    | none => do
      let digits ← escapeDigits? x
      let n ← hexNumber? (rest.take digits)
      if rest.length < digits then none
      else if h : n.isValidChar then some (Char.ofNatAux n h, digits + 1)
      else none

/-- The rest of a scalar in quotation marks after a text: its text and the place after it. No line of it
starts or ends a document. Texts are read last character first. -/
def quotedFrom? (single : Bool) (text : List Char) (c : Cursor) : Option (List Char × Cursor) :=
  match _h : c.rest with
  | [] => none
  | x :: rest =>
    let goOn (text : List Char) (c' : Cursor) : Option (List Char × Cursor) :=
      if c'.size < c.size then
        if c'.seesMark then none else quotedFrom? single text c'
      else none
    if isBlank x || isBreak x then do
      let (g, c') ← gap? 0 {} c
      goOn (g.text.reverse ++ text) c'
    else if x = '\x27' ∧ single then
      if rest.head? = some '\x27' then goOn ('\x27' :: text) (c.advanceBy 2)
      else some (text, c.advance)
    else if x = '\x22' ∧ ¬ single then some (text, c.advance)
    else if x = '\\' ∧ ¬ single then
      if rest.head?.any isBreak then do
        let (g, c') ← gap? 0 {} (c.advanceBy 2)
        goOn (g.breaks.reverse ++ text) c'
      else do
        let (y, length) ← escape? rest
        goOn (y :: text) (c.advanceBy (length + 1))
    else goOn (x :: text) c.advance
termination_by c.size

/-- Reads a scalar in quotation marks, from its opening mark on. -/
def quoted? (single : Bool) (c : Cursor) : Option (List Char × Cursor) := do
  let (text, c) ← quotedFrom? single [] c.advance
  return (text.reverse, c)

/-! ## Block scalars -/

/-- Which line breaks at the end of a block are kept. -/
inductive Chomp where
  /-- None. -/
  | strip
  /-- The first one. -/
  | clip
  /-- All. -/
  | keep
deriving DecidableEq, Repr

/-- The head of a block, after its indicator: what is kept at its end, how far it is indented beyond its
surroundings, and the place after the head. -/
def blockHead? (c : Cursor) : Option (Chomp × Option Nat × Cursor) := do
  let chomp (c : Cursor) : Option Chomp × Cursor :=
    if c.sees '+' then (some .keep, c.advance)
    else if c.sees '-' then (some .strip, c.advance)
    else (none, c)
  let increment (c : Cursor) : Option Nat × Cursor :=
    match c.next? with
    | some x => if x.isDigit then (some (x.toNat - 48), c.advance) else (none, c)
    | none => (none, c)
  let (before, c) := chomp c
  let (width, c) := increment c
  let (after, c) := if before.isNone && width.isSome then chomp c else (none, c)
  if width = some 0 then none
  else
    let c ← c.dropComment?
    return ((before <|> after).getD .clip, width, c)

/-- The place after spaces, no further than to the column `limit?`. -/
def dropSpaces (limit? : Option Nat) (c : Cursor) : Cursor :=
  match _h : c.rest with
  | [] => c
  | x :: _ =>
    if x = ' ' ∧ limit?.all (c.column < ·) then dropSpaces limit? c.advance else c
termination_by c.size
decreasing_by exact Cursor.advance_size_lt _h

/-- The indentation and the line breaks before the next line of a block that is not empty: the breaks
after `breaks`, the width of the indentation or of the widest line so far, and the place of the line. A
tab is no indentation. -/
def blockGap? (indent? : Option Nat) (widest : Nat) (breaks : List Char) (c : Cursor) :
    Option (List Char × Nat × Cursor) :=
  let c' := dropSpaces indent? c
  let widest := max widest c'.column
  if indent?.all (c'.column < ·) && c'.sees '\t' then none
  else
    match c'.rest with
    | [] => some (breaks, widest, c')
    | x :: _ =>
      if isBreak x then
        if _h : c'.advance.size < c.size then
          blockGap? indent? widest (breaks ++ [x]) c'.advance
        else none
      else some (breaks, widest, c')
termination_by c.size

/-- The rest of a block after a text, the break `last` and the breaks `breaks`: its text, those two at its
end, and the place after it. Texts are read last character first. In a folded block a break between two lines that start with no blank becomes
a space, or vanishes before other breaks. -/
def blockFrom? (folded : Bool) (indent : Nat) (text last breaks : List Char) (afterBlank : Bool)
    (c : Cursor) : Option (List Char × List Char × List Char × Cursor) :=
  if c.column = indent ∧ ¬ c.rest.isEmpty then do
    let blank := c.seesThat isBlank
    let joint :=
      if folded && last == ['\n'] && !afterBlank && !blank then
        if breaks.isEmpty then [' '] else []
      else last
    let (line, c') := c.span fun x => !isBreak x
    let last' := c'.rest.take 1
    let (breaks', _, c'') ← blockGap? (some indent) 0 [] c'.advance
    if _h : c''.size < c.size then
      blockFrom? folded indent ((joint ++ breaks ++ line).reverse ++ text) last' breaks' blank c''
    else none
  else some (text, last, breaks, c)
termination_by c.size

/-- Reads a block, from its indicator on. Its lines start after the column `margin - 1`. -/
def block? (folded : Bool) (margin : Nat) (c : Cursor) : Option (List Char × Cursor) := do
  let (chomp, width?, c) ← blockHead? c.advance
  let indent? := width?.map (margin - 1 + ·)
  let (breaks, widest, c) ← blockGap? indent? 0 [] c
  let indent := indent?.getD (max (max widest margin) 1)
  let (text, last, breaks, c) ← blockFrom? folded indent [] [] breaks false c
  let ending := match chomp with
    | .strip => []
    | .clip => last
    | .keep => last ++ breaks
  return (text.reverse ++ ending, c)

end LayerHeaders.Yaml
