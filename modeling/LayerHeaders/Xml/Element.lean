import LayerHeaders.Text.Blank

/-!
# Element trees

An element has a tag and children, and a child is an element or a run of text. Mixed content keeps
its order and its spaces. `Element.text` is the text below an element, without what stands in
`comment` elements.

* `Element.child?_eq_head?`: the first element of a name is the first of all of them.
-/

namespace LayerHeaders.Xml

/-- What a start tag says: the name of the element and its attributes in order. -/
structure Tag where
  /-- The name of the element. -/
  name : String
  /-- The attributes, as keys and values. -/
  attributes : List (String × String)
deriving DecidableEq, Repr

/-- A child of an element. -/
inductive Node where
  /-- A run of text. -/
  | text (content : String)
  /-- An element with its children. -/
  | element (tag : Tag) (children : List Node)
deriving Repr

/-- An element with its children. -/
structure Element where
  /-- The tag of the element. -/
  tag : Tag
  /-- The children, in order. -/
  children : List Node
deriving Repr

/-! ## Text -/

mutual

/-- The text of a child. Comments have none. -/
def Node.content : Node → String
  | .text s => s
  | .element tag children => if tag.name = "comment" then "" else Node.textOf children

/-- The text of a run of children. -/
def Node.textOf : List Node → String
  | [] => ""
  | n :: ns => n.content ++ Node.textOf ns

end

namespace Element

/-- The name of the element. -/
def name (e : Element) : String :=
  e.tag.name

/-- The text below the element. -/
def text (e : Element) : String :=
  Node.textOf e.children

/-! ## Parts -/

/-- The value of the first attribute with this key. -/
def attribute? (e : Element) (key : String) : Option String :=
  e.tag.attributes.lookup key

/-- The children that are elements. -/
def elements (e : Element) : List Element :=
  e.children.filterMap fun
    | .element tag children => some ⟨tag, children⟩
    | .text _ => none

/-- The child elements with this name. -/
def childrenNamed (e : Element) (name : String) : List Element :=
  e.elements.filter (·.name = name)

/-- The first child element with this name. -/
def child? (e : Element) (name : String) : Option Element :=
  e.elements.find? (·.name = name)

theorem child?_eq_head? (e : Element) (name : String) :
    e.child? name = (e.childrenNamed name).head? :=
  List.head?_filter.symm

/-- The text below the first child element with this name, trimmed. -/
def childText? (e : Element) (name : String) : Option String :=
  (e.child? name).map fun child => Text.trim child.text

end Element

end LayerHeaders.Xml
