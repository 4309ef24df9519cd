import LayerHeaders.Json.Error

/-!
# Reading from the front of a text

A reader takes a value off the front of a text and leaves a shorter rest, so whatever reads again and
again ends. Here are the readers of words and separators, and what may come next inside brackets.

* `Step.trans`, `Step.join`, `Step.after`: steps are put together, and stay steps.
* `skipBlanks_length_le`: skipping blanks lengthens nothing.
-/

namespace LayerHeaders.Json

/-! ## Readers -/

/-- A value read off the front of a text. -/
structure Step (α : Type) (text : List Char) where
  /-- The value. -/
  value : α
  /-- What is left of the text. -/
  rest : List Char
  /-- Something was read. -/
  shorter : rest.length < text.length

/-- Takes a value off the front of a text. -/
abbrev Reader (α : Type) :=
  (text : List Char) → Except Error (Step α text)

namespace Step

variable {α β : Type} {text rest : List Char}

/-- The step over one character. -/
def one (value : α) (c : Char) (rest : List Char) : Step α (c :: rest) :=
  ⟨value, rest, Nat.lt_succ_self rest.length⟩

/-- The same step with another value. -/
def map (f : α → β) (s : Step α text) : Step β text :=
  ⟨f s.value, s.rest, s.shorter⟩

/-- A step seen from a text that is at least as long. -/
def widen (s : Step α rest) (h : rest.length ≤ text.length) : Step α text :=
  ⟨s.value, s.rest, Nat.lt_of_lt_of_le s.shorter h⟩

/-- A step seen from one character before it. -/
def after (s : Step α rest) (c : Char) : Step α (c :: rest) :=
  ⟨s.value, s.rest, Nat.lt_succ_of_lt s.shorter⟩

/-- Two steps as one, with the value of the second. -/
def trans (s : Step α text) (t : Step β s.rest) : Step β text :=
  ⟨t.value, t.rest, Nat.lt_trans t.shorter s.shorter⟩

/-- Two steps with a character between them as one, with the value of the second. -/
def join {c : Char} (s : Step α text) (h : s.rest = c :: rest) (t : Step β rest) : Step β text :=
  s.trans (h ▸ t.after c)

/-- The step that leaves something no longer. -/
def leave (s : Step α text) (rest : { rest : List Char // rest.length ≤ s.rest.length }) :
    Step α text :=
  ⟨s.value, rest.1, Nat.lt_of_le_of_lt rest.2 s.shorter⟩

end Step

/-! ## Blanks, words, separators -/

/-- The blanks between values. -/
def isBlank (c : Char) : Bool :=
  c == ' ' || c == '\t' || c == '\n' || c == '\r'

/-- The text without the blanks it starts with. -/
def skipBlanks (text : List Char) : List Char :=
  text.dropWhile isBlank

theorem skipBlanks_length_le (text : List Char) : (skipBlanks text).length ≤ text.length :=
  (List.dropWhile_suffix isBlank).length_le

theorem length_lt_of_skipBlanks {text rest : List Char} {c : Char}
    (h : skipBlanks text = c :: rest) : rest.length < text.length := by
  have := skipBlanks_length_le text
  rw [h] at this
  exact this

theorem length_le_of_skipBlanks {text rest : List Char} {c : Char}
    (h : skipBlanks text = c :: rest) : rest.length ≤ text.length :=
  Nat.le_of_lt (length_lt_of_skipBlanks h)

theorem length_lt_of_skipBlanks₂ {text rest rest' : List Char} {c d : Char}
    (h : skipBlanks text = c :: rest) (h' : skipBlanks rest = d :: rest') :
    rest'.length < text.length :=
  Nat.lt_trans (length_lt_of_skipBlanks h') (length_lt_of_skipBlanks h)

theorem length_le_of_lt {text rest : List Char} (h : rest.length < text.length) :
    rest.length ≤ text.length :=
  Nat.le_of_lt h

/-- Reads the word of this first letter and these other ones. -/
def word (first : Char) (others : List Char) : Reader Unit := fun text =>
  match text with
  | [] => .error .endInValue
  | c :: rest =>
    if c = first then
      match others with
      | [] => .ok (.one () c rest)
      | second :: others => do
        let s ← word second others rest
        return s.after c
    else .error .expectedWord

/-- Reads the colon between a key and its value. -/
def colon : Reader Unit := fun text =>
  match h : skipBlanks text with
  | [] => .error .endInObject
  | c :: rest =>
    if c = ':' then .ok ⟨(), rest, length_lt_of_skipBlanks h⟩ else .error .expectedColon

/-! ## Brackets -/

/-- What brackets enclose. -/
inductive Frame where
  /-- The items of an array. -/
  | array
  /-- The members of an object. -/
  | object
deriving DecidableEq, Repr

namespace Frame

/-- The closing bracket. -/
def closer : Frame → Char
  | array => ']'
  | object => '\x7d'

/-- The defect of a text that ends inside. -/
def endError : Frame → Error
  | array => .endInList
  | object => .endInObject

/-- The defect of something else than a comma or the closing bracket. -/
def separatorError : Frame → Error
  | array => .expectedCommaOrBracket
  | object => .expectedCommaOrBrace

end Frame

/-- What comes next inside brackets. -/
inductive Next (text : List Char) where
  /-- The closing bracket; `rest` follows it. -/
  | done (rest : List Char) (h : rest.length < text.length)
  /-- One more item, at the front of `rest`, or one more member, whose key starts before `rest`. -/
  | more (rest : List Char) (h : rest.length ≤ text.length)

/-- The start of an item or, after its quotation mark, of a member. -/
def Frame.start (f : Frame) (text : List Char) (c : Char) (rest : List Char)
    (h : rest.length < text.length) : Except Error (Next text) :=
  match f with
  | .array => .ok (.more (c :: rest) h)
  | .object =>
    if c = '\x22' then .ok (.more rest (length_le_of_lt h)) else .error .keyNotString

/-- What comes next inside brackets: after the opening one if `first`, else after an item. -/
def Frame.next (f : Frame) (first : Bool) (text : List Char) : Except Error (Next text) :=
  match h : skipBlanks text with
  | [] => .error f.endError
  | c :: rest =>
    if c = f.closer then .ok (.done rest (length_lt_of_skipBlanks h))
    else if first then f.start text c rest (length_lt_of_skipBlanks h)
    else if c = ',' then
      match h' : skipBlanks rest with
      | [] => .error .endInValue
      | d :: rest' =>
        if d = f.closer then .error .trailingComma
        else f.start text d rest' (length_lt_of_skipBlanks₂ h h')
    else .error f.separatorError

end LayerHeaders.Json
