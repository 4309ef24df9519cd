import LayerHeaders.Xml.Element
import LayerHeaders.Xml.Entity
import LayerHeaders.Xml.Token

/-!
# Reading a tag

The content of a tag is a name, which goes up to the first space, and attributes. The attributes are
read in one pass over the characters; each value has its references replaced before the next
attribute is looked at, so of two defects the first in the tag decides.

* `Tag.read`: the tag of a start tag or an empty-element tag.
-/

namespace LayerHeaders.Xml

/-- What the reading of attributes expects next. Keys and values are kept in reverse while they
grow. -/
inductive Expectation where
  /-- The first character of a key, or the end of the tag. -/
  | attribute
  /-- The rest of the key that began at `start`. -/
  | key (start : Nat) (rest : List Char)
  /-- The `=` after a key. -/
  | equals (start : Nat) (key : List Char)
  /-- The quote that opens the value of a key. -/
  | quote (start : Nat) (key : List Char)
  /-- The rest of a value, up to `mark`. -/
  | value (start : Nat) (key : List Char) (mark : Char) (rest : List Char)
deriving DecidableEq, Repr

/-- An attribute as it was read, with the offset of its key. -/
structure FoundAttribute where
  /-- The byte offset of the key. -/
  start : Nat
  /-- The key. -/
  key : List Char
  /-- The value, with its references replaced. -/
  value : List Char
deriving DecidableEq, Repr

/-- What to expect after the `=` of a key, unless an earlier attribute has that key. -/
def Expectation.afterEquals (found : List FoundAttribute) (start : Nat) (key : List Char) :
    Except AttributeError Expectation :=
  match found.find? (·.key = key) with
  | some earlier => .error (.duplicate start earlier.start)
  | none => .ok (.quote start key)

/-- Reads the attributes of the rest of a tag that starts at byte `pos`. `found` are the attributes
so far, in reverse. -/
def attributesFrom (found : List FoundAttribute) (expected : Expectation) (pos : Nat) :
    List Char → Except DocumentError (List FoundAttribute)
  | [] =>
    match expected with
    | .attribute => .ok found.reverse
    | .key _ _ | .equals _ _ => .error (.attributes (.missingEquals pos))
    | .quote _ _ => .error (.attributes (.missingValue pos))
    | .value _ _ mark _ => .error (.attributes (.missingQuote pos mark))
  | c :: cs =>
    let after := pos + c.utf8Size
    match expected with
    | .attribute =>
      if isSpace c then attributesFrom found .attribute after cs
      else attributesFrom found (.key pos [c]) after cs
    | .key start rest =>
      if c = '=' then
        match Expectation.afterEquals found start rest.reverse with
        | .ok expected => attributesFrom found expected after cs
        | .error e => .error (.attributes e)
      else if isSpace c then attributesFrom found (.equals start rest.reverse) after cs
      else attributesFrom found (.key start (c :: rest)) after cs
    | .equals start key =>
      if c = '=' then
        match Expectation.afterEquals found start key with
        | .ok expected => attributesFrom found expected after cs
        | .error e => .error (.attributes e)
      else if isSpace c then attributesFrom found (.equals start key) after cs
      else .error (.attributes (.missingEquals pos))
    | .quote start key =>
      if isSpace c then attributesFrom found (.quote start key) after cs
      else if c = '\x22' ∨ c = '\x27' then attributesFrom found (.value start key c []) after cs
      else .error (.attributes (.unquotedValue pos))
    | .value start key mark rest =>
      if c = mark then
        match unescape rest.reverse with
        | .ok value => attributesFrom (⟨start, key, value⟩ :: found) .attribute after cs
        | .error e => .error (.notWellFormed (.entity e))
      else attributesFrom found (.value start key mark (c :: rest)) after cs

/-- The name in the content of a tag: everything up to the first space. -/
def tagName (content : List Char) : List Char :=
  content.takeWhile (!isSpace ·)

/-- The tag whose content stands between `<` and `>`. -/
def Tag.read (content : List Char) : Except DocumentError Tag := do
  let name := tagName content
  let found ← attributesFrom [] .attribute (byteLength name) (content.dropWhile (!isSpace ·))
  return {
    name := String.ofList name
    attributes := found.map fun a => (String.ofList a.key, String.ofList a.value) }

end LayerHeaders.Xml
