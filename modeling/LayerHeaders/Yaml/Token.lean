import LayerHeaders.Yaml.Scalar

/-!
# Tokens

A text is cut into tokens. Outside of brackets the columns take their place: a collection opens where an
entry or a key stands in a column further to the right than the collections around it, and closes before
the next token that stands further to the left. A key is only known by the colon after it, so the place of
every token that may start a key is kept until then: a key stands on one line and has at most 1024
characters.

* `tokens?`: the tokens of a text.
-/

namespace LayerHeaders.Yaml

/-! ## Tokens -/

/-- What stands between brackets, or is laid out by columns. -/
inductive Collection where
  /-- A sequence of entries. -/
  | sequence
  /-- A mapping of keys to values. -/
  | mapping
deriving DecidableEq, Repr

/-- A token. -/
inductive Token where
  /-- The version of a document. -/
  | version (major minor : Nat)
  /-- The declaration of a tag handle. -/
  | tagHandle (handle : List Char)
  /-- The line that starts a document. -/
  | documentStart
  /-- The line that ends a document. -/
  | documentEnd
  /-- The start of a collection laid out by columns. -/
  | blockStart (kind : Collection)
  /-- The end of a collection laid out by columns. -/
  | blockEnd
  /-- An opening bracket. -/
  | flowStart (kind : Collection)
  /-- A closing bracket. -/
  | flowEnd (kind : Collection)
  /-- The dash before an entry. -/
  | entry
  /-- The comma between entries. -/
  | comma
  /-- The start of a key. -/
  | key
  /-- The start of a value. -/
  | value
  /-- A name that stands for a node. -/
  | reference (name : List Char)
  /-- A name that is given to a node. -/
  | anchor (name : List Char)
  /-- A tag, by its handle; without one it is written in full. -/
  | tag (handle? : Option (List Char))
  /-- A scalar, and whether it is plain. -/
  | scalar (text : List Char) (plain : Bool)
deriving DecidableEq, Repr

/-! ## Names, tags and declarations -/

/-- Reads the name after the mark of an anchor or a reference. -/
def name? (c : Cursor) : Option (List Char × Cursor) :=
  let (name, c) := c.advance.span isNameChar
  let isEnd (x : Char) : Bool :=
    x == '?' || x == ':' || x == ',' || x == ']' || x == '\x7d' || x == '%' || x == '@' || x == '\x60'
  if !name.isEmpty && (isGap c.next? || c.seesThat isEnd) then some (name, c) else none

/-- Whether a tag may contain a character; commas and square brackets only if it is `verbatim`. -/
def isTagChar (verbatim : Bool) (c : Char) : Bool :=
  isNameChar c || c == ';' || c == '/' || c == '?' || c == ':' || c == '@' || c == '&' || c == '=' ||
    c == '+' || c == '$' || c == '.' || c == '%' || c == '!' || c == '~' || c == '*' || c == '\x27' ||
    c == '(' || c == ')' || (verbatim && (c == ',' || c == '[' || c == ']'))

/-- How many bytes follow the first one of a character. -/
def followers? (byte : Nat) : Option Nat :=
  if byte < 0x80 then some 0
  else if 0xC0 ≤ byte ∧ byte < 0xE0 then some 1
  else if 0xE0 ≤ byte ∧ byte < 0xF0 then some 2
  else if 0xF0 ≤ byte ∧ byte < 0xF8 then some 3
  else none

/-- Whether the escapes of a tag make whole characters. In the text before them `pending` bytes are
missing. -/
def escapesOk (pending : Nat) : List Char → Bool
  | [] => pending == 0
  | '%' :: a :: b :: rest =>
    match hexNumber? [a, b] with
    | none => false
    | some byte =>
      if pending = 0 then
        match followers? byte with
        | some n => escapesOk n rest
        | none => false
      else 0x80 ≤ byte && byte < 0xC0 && escapesOk (pending - 1) rest
  | c :: rest => c != '%' && pending == 0 && escapesOk 0 rest

/-- The place after the text of a tag, of which something is written already if `started`. -/
def tagText? (verbatim started : Bool) (c : Cursor) : Option Cursor :=
  let (text, c) := c.span (isTagChar verbatim)
  if (started || !text.isEmpty) && escapesOk 0 text then some c else none

/-- Reads a tag handle as far as it goes: an exclamation mark, a name, and perhaps another mark. -/
def handle? (c : Cursor) : Option (List Char × Cursor) :=
  if !c.sees '!' then none
  else
    let (name, c) := c.advance.span isNameChar
    if c.sees '!' then some ('!' :: name ++ ['!'], c.advance) else some ('!' :: name, c)

/-- Whether a handle ends in a second exclamation mark. -/
def isClosedHandle (handle : List Char) : Bool :=
  2 ≤ handle.length && handle.getLast? == some '!'

/-- Reads a tag. -/
def tag? (flow : Bool) (c : Cursor) : Option (Option (List Char) × Cursor) := do
  let (handle, c) ←
    if c.advance.sees '<' then do
      let c ← tagText? true false (c.advanceBy 2)
      if c.sees '>' then some (none, c.advance) else none
    else do
      let (handle, c') ← handle? c
      if isClosedHandle handle then
        let c' ← tagText? false false c'
        some (some handle, c')
      else
        let c'' ← tagText? false true c'
        some (if c''.index = c.index + 1 then none else some ['!'], c'')
  if isGap c.next? || (flow && c.sees ',') then some (handle, c) else none

/-- Reads a number of at most nine digits. -/
def number? (c : Cursor) : Option (Nat × Cursor) :=
  let (ds, c) := c.span Char.isDigit
  if ds.isEmpty || 9 < ds.length then none
  else some (ds.foldl (fun n d => n * 10 + (d.toNat - 48)) 0, c)

/-- Reads a declaration: of a version, or of a tag handle. -/
def declaration? (c : Cursor) : Option (Token × Cursor) := do
  let (name, c) := c.advance.span isNameChar
  if !isGap c.next? then none
  let c := c.dropWhile isBlank
  let (token, c) ←
    if name = ['Y', 'A', 'M', 'L'] then do
      let (major, c) ← number? c
      if !c.sees '.' then none
      let (minor, c) ← number? c.advance
      some (Token.version major minor, c)
    else if name = ['T', 'A', 'G'] then do
      let (handle, c) ← handle? c
      if !(isClosedHandle handle || handle == ['!']) || !c.seesThat isBlank then none
      let c ← tagText? true false (c.dropWhile isBlank)
      if isGap c.next? then some (Token.tagHandle handle, c) else none
    else none
  let c ← c.dropComment?
  some (token, c)

/-! ## Scanning -/

/-- A token that may turn out to start a key. -/
structure KeyPlace where
  /-- How many tokens come before it. -/
  position : Nat
  /-- Whether a colon has to follow. -/
  required : Bool
  /-- Where it stands. -/
  place : Cursor
deriving Repr

/-- What a text up to some place is made of. -/
structure Scan where
  /-- The place. -/
  place : Cursor
  /-- The tokens so far. -/
  tokens : Array Token
  /-- The columns of the open collections, innermost first. -/
  columns : List Nat
  /-- The token that may start a key between the innermost brackets. -/
  keyPlace? : Option KeyPlace
  /-- The tokens that may start a key around each pair of open brackets, innermost first. -/
  outer : List (Option KeyPlace)
  /-- Whether a key may start here. -/
  keyAllowed : Bool
deriving Repr

namespace Scan

/-- The start of a text. -/
def ofText (text : List Char) : Scan :=
  ⟨.ofText text, #[], [], none, [], true⟩

/-- Whether brackets are open. -/
def flow (s : Scan) : Bool :=
  !s.outer.isEmpty

/-- The least column inside the innermost collection. -/
def margin (s : Scan) : Nat :=
  match s.columns with
  | [] => 0
  | column :: _ => column + 1

/-- Adds a token. -/
def emit (s : Scan) (t : Token) : Scan :=
  { s with tokens := s.tokens.push t }

/-- Closes the collections that open to the right of a column. -/
def closeTo (s : Scan) (column : Nat) : Scan :=
  if s.flow then s
  else
    let closed := s.columns.takeWhile (column < ·)
    { s with
      tokens := s.tokens ++ Array.replicate closed.length Token.blockEnd
      columns := s.columns.drop closed.length }

/-- Closes all collections. -/
def closeAll (s : Scan) : Scan :=
  if s.flow then s
  else
    { s with
      tokens := s.tokens ++ Array.replicate s.columns.length Token.blockEnd
      columns := [] }

/-- Opens a collection at a column to the right of the others, before the token at `position`. -/
def openAt (s : Scan) (kind : Collection) (column position : Nat) : Scan :=
  if !s.flow && s.margin ≤ column then
    { s with
      tokens := s.tokens.insertIdxIfInBounds position (.blockStart kind)
      columns := column :: s.columns }
  else s

/-- Gives up the key that might start between the innermost brackets. -/
def dropKey? (s : Scan) : Option Scan :=
  if s.keyPlace?.any (·.required) then none else some { s with keyPlace? := none }

/-- Notes that the next token may start a key, if one may start here. -/
def noteKey? (s : Scan) : Option Scan :=
  if s.keyAllowed then do
    let required := !s.flow && s.margin == s.place.column + 1
    let s ← s.dropKey?
    return { s with keyPlace? := some ⟨s.tokens.size, required, s.place⟩ }
  else some s

/-- Whether a colon here comes too late for a key. -/
def isStale (here : Cursor) (k : KeyPlace) : Bool :=
  k.place.line < here.line || k.place.index + 1024 < here.index

/-- Gives up the keys for which a colon here comes too late. -/
def dropStale? (s : Scan) : Option Scan :=
  let keep (k? : Option KeyPlace) : Option (Option KeyPlace) :=
    match k? with
    | none => some none
    | some k =>
      if isStale s.place k then if k.required then none else some none
      else some (some k)
  do
    let keyPlace? ← keep s.keyPlace?
    let outer ← s.outer.mapM keep
    return { s with keyPlace?, outer }

/-! ### One token -/

/-- A declaration, or a line that starts or ends a document. -/
def documentToken? (s : Scan) (t : Token) (place : Cursor) : Option Scan := do
  let s ← s.closeAll.dropKey?
  return { s.emit t with keyAllowed := false, place }

/-- An opening bracket. -/
def openBracket? (s : Scan) (kind : Collection) : Option Scan := do
  let s ← s.noteKey?
  return { s.emit (.flowStart kind) with
    keyPlace? := none
    outer := s.keyPlace? :: s.outer
    keyAllowed := true
    place := s.place.advance }

/-- A closing bracket. -/
def closeBracket? (s : Scan) (kind : Collection) : Option Scan := do
  let s ← s.dropKey?
  match s.outer with
  | [] => none
  | keyPlace? :: outer =>
    return { s.emit (.flowEnd kind) with
      keyPlace?, outer
      keyAllowed := false
      place := s.place.advance }

/-- A comma between entries. -/
def comma? (s : Scan) : Option Scan := do
  let s ← s.dropKey?
  return { s.emit .comma with keyAllowed := true, place := s.place.advance }

/-- A dash before an entry. -/
def entry? (s : Scan) : Option Scan := do
  if !s.flow && !s.keyAllowed then none
  let s ← (s.openAt .sequence s.place.column s.tokens.size).dropKey?
  return { s.emit .entry with keyAllowed := true, place := s.place.advance }

/-- A question mark before a key. -/
def key? (s : Scan) : Option Scan := do
  if !s.flow && !s.keyAllowed then none
  let s ← (s.openAt .mapping s.place.column s.tokens.size).dropKey?
  return { s.emit .key with keyAllowed := !s.flow, place := s.place.advance }

/-- A colon before a value: the token that might start a key does. -/
def value? (s : Scan) : Option Scan :=
  match s.keyPlace? with
  | some k =>
    let s := { s with tokens := s.tokens.insertIdxIfInBounds k.position .key }
    let s := s.openAt .mapping k.place.column k.position
    some { s.emit .value with keyPlace? := none, keyAllowed := false, place := s.place.advance }
  | none =>
    if !s.flow && !s.keyAllowed then none
    else
      let s := s.openAt .mapping s.place.column s.tokens.size
      some { s.emit .value with keyAllowed := !s.flow, place := s.place.advance }

/-- A token of one node, which may start a key. -/
def nodeToken? (s : Scan) (t : Token) (place : Cursor) : Option Scan := do
  let s ← s.noteKey?
  return { s.emit t with keyAllowed := false, place }

/-- A block, after which a key may start. -/
def blockScalar? (s : Scan) (folded : Bool) : Option Scan := do
  let s ← s.dropKey?
  let (text, place) ← block? folded s.margin s.place
  return { s.emit (.scalar text false) with keyAllowed := true, place }

/-- A plain scalar, after which a key may start if it ends with its line. -/
def plainScalar? (s : Scan) : Option Scan := do
  let (text, broken, place) ← plain? s.flow s.margin s.place
  let s ← s.nodeToken? (.scalar text true) place
  return { s with keyAllowed := broken }

/-- Whether a plain scalar may start with `x` before `next?`. -/
def startsPlain (flow : Bool) (x : Char) (next? : Option Char) : Bool :=
  let isIndicator := isFlowIndicator x || x == '-' || x == '?' || x == ':' || x == '#' || x == '&' ||
    x == '*' || x == '!' || x == '|' || x == '>' || x == '\x27' || x == '\x22' || x == '%' ||
    x == '@' || x == '\x60'
  !(isGap (some x) || isIndicator) || (x == '-' && !next?.any isBlank) ||
    (!flow && (x == '?' || x == ':') && !isGap next?)

/-- Reads the token that starts with `x` before `rest`. -/
def token? (s : Scan) (x : Char) (rest : List Char) : Option Scan :=
  let c := s.place
  if c.column = 0 ∧ x = '%' then do
    let (t, place) ← declaration? c
    s.documentToken? t place
  else if c.seesMarkOf '-' then s.documentToken? .documentStart (c.advanceBy 3)
  else if c.seesMarkOf '.' then s.documentToken? .documentEnd (c.advanceBy 3)
  else if x = '[' then s.openBracket? .sequence
  else if x = '\x7b' then s.openBracket? .mapping
  else if x = ']' then s.closeBracket? .sequence
  else if x = '\x7d' then s.closeBracket? .mapping
  else if x = ',' then s.comma?
  else if x = '-' ∧ isGap rest.head? then s.entry?
  else if x = '?' ∧ (s.flow ∨ isGap rest.head?) then s.key?
  else if x = ':' ∧ (s.flow ∨ isGap rest.head?) then s.value?
  else if x = '*' then do
    let (name, place) ← name? c
    s.nodeToken? (.reference name) place
  else if x = '&' then do
    let (name, place) ← name? c
    s.nodeToken? (.anchor name) place
  else if x = '!' then do
    let (handle?, place) ← tag? s.flow c
    s.nodeToken? (.tag handle?) place
  else if x = '|' ∧ ¬ s.flow then s.blockScalar? false
  else if x = '>' ∧ ¬ s.flow then s.blockScalar? true
  else if x = '\x27' then do
    let (text, place) ← quoted? true c
    s.nodeToken? (.scalar text false) place
  else if x = '\x22' then do
    let (text, place) ← quoted? false c
    s.nodeToken? (.scalar text false) place
  else if startsPlain s.flow x rest.head? then s.plainScalar?
  else none

/-- The tokens up to the end of the text. -/
def run? (s : Scan) : Option (List Token) := do
  let (place, keyAllowed) := s.place.nextToken s.flow s.keyAllowed
  let here ← { s with place, keyAllowed }.dropStale?
  let here := here.closeTo place.column
  match place.rest with
  | [] => do
    let s ← here.closeAll.dropKey?
    return s.tokens.toList
  | x :: rest => do
    let s' ← here.token? x rest
    if _h : s'.place.size < s.place.size then s'.run? else none
termination_by s.place.size

end Scan

/-- The tokens of a text, if it has them. -/
def tokens? (text : String) : Option (List Token) :=
  let cs := text.toList
  let cs := if cs.head? = some '\ufeff' then cs.drop 1 else cs
  let cs := if cs.head? = some '\ufeff' then cs.drop 1 else cs
  if cs.all isAllowed then (Scan.ofText (unifyBreaks cs)).run? else none

end LayerHeaders.Yaml
