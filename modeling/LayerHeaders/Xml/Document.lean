import LayerHeaders.Xml.Tag

/-!
# From tokens to a tree

The tokens of a document are first checked for nesting: `nestedFrom` keeps the names of the open elements
and stops at an end tag that does not close the innermost one. The tree is then built over the tokens
that are left: `Builder` holds one unfinished element for each open one. The first defect in document
order wins, whichever step finds it.

* `parse`: the first element of a document outside all others, if nothing is wrong up to the end.
-/

namespace LayerHeaders.Xml

/-! ## Nesting -/

/-- The tokens up to the first end tag that does not close the innermost open element. `names` are
the open elements, innermost first, and `before` the tokens so far, in reverse. -/
def nestedFrom (names : List (List Char)) (before : List Token) :
    List Token → List Token × Option FormError
  | [] => (before.reverse, none)
  | t :: ts =>
    match t with
    | .start content => nestedFrom (tagName content :: names) (t :: before) ts
    | .stop name =>
      match names with
      | [] => (before.reverse, some (.unmatchedEnd (String.ofList name)))
      | expected :: names =>
        if name = expected then nestedFrom names (t :: before) ts
        else
          (before.reverse,
            some (.mismatchedEnd (String.ofList expected) (String.ofList name)))
    | _ => nestedFrom names (t :: before) ts

/-- The tokens up to the first end tag that does not close the innermost open element. -/
def nested (tokens : List Token) : List Token × Option FormError :=
  nestedFrom [] [] tokens

/-! ## Building -/

/-- An element whose end tag is still to come. -/
structure OpenElement where
  /-- Its tag. -/
  tag : Tag
  /-- Its children so far, in reverse. -/
  children : List Node

/-- A tree under construction. -/
structure Builder where
  /-- The open elements, innermost first. -/
  stack : List OpenElement
  /-- The first complete element outside all others. -/
  root? : Option Element

namespace Builder

/-- Nothing is open and nothing is complete. -/
def empty : Builder :=
  ⟨[], none⟩

/-- Adds a complete element to the innermost open one. Outside all others, only the first counts. -/
def attach (b : Builder) (e : Element) : Builder :=
  match b.stack with
  | parent :: stack =>
    { b with stack := { parent with children := .element e.tag e.children :: parent.children } :: stack }
  | [] => { b with root? := b.root?.or (some e) }

/-- Adds a run of text to the innermost open element. Text outside all of them is dropped. -/
def addText (b : Builder) (content : List Char) : Builder :=
  match b.stack with
  | parent :: stack =>
    let child := Node.text (String.ofList content)
    { b with stack := { parent with children := child :: parent.children } :: stack }
  | [] => b

/-- Adds one token. Text outside all elements is not even looked at. -/
def add (b : Builder) : Token → Except DocumentError Builder
  | .text raw =>
    if b.stack.isEmpty then .ok b
    else
      match unescape raw with
      | .ok content => .ok (b.addText content)
      | .error e => .error (.notWellFormed (.entity e))
  | .start content => do
    let tag ← Tag.read content
    return { b with stack := ⟨tag, []⟩ :: b.stack }
  | .empty content => do
    let tag ← Tag.read content
    return b.attach ⟨tag, []⟩
  | .stop _ =>
    match b.stack with
    | e :: stack => .ok ({ b with stack }.attach ⟨e.tag, e.children.reverse⟩)
    | [] => .error .noStart
  | .data content => .ok (b.addText content)
  | .aside => .ok b

/-- The tree, once the document has ended. -/
def finish (b : Builder) : Except DocumentError Element :=
  match b.stack with
  | e :: _ => .error (.unclosed e.tag.name)
  | [] =>
    match b.root? with
    | some root => .ok root
    | none => .error .noRoot

end Builder

/-! ## Documents -/

/-- The well-nested tokens of a document and the first defect after them. -/
def wellNested (document : String) : List Token × Option Error :=
  let (tokens, scanError) := Token.scan document
  let (tokens, formError) := nested tokens
  (tokens, (formError.map .form).or scanError)

/-- The root element of a document. -/
def parse (document : String) : Except DocumentError Element := do
  let (tokens, defect) := wellNested document
  let builder ← tokens.foldlM Builder.add Builder.empty
  match defect with
  | some e => throw (.notWellFormed e)
  | none => builder.finish

end LayerHeaders.Xml
