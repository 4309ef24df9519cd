import LayerHeaders.Registry.Basic

/-!
# Bounds of array members

A member of a structure may say how many elements it points to, as an expression over its siblings.
In an operator the siblings are members of the object that is written, so each word of the expression
that names a sibling is qualified with the object.

* `qualify`: `object.` before each word that names a sibling and is not itself a member of something.
* `Member.bound?`: the qualified expression, unless the member is written as a whole.
-/

namespace LayerHeaders

/-! ## Qualification -/

/-- The characters that words consist of. -/
def isWordChar (c : Char) : Bool :=
  c.isAlphanum || c == '_'

/-- Whether the text before a word makes it a member of something else. The text is in reverse. -/
def followsAccess (before : List Char) : Bool :=
  match before.dropWhile Text.isBlank with
  | '.' :: _ => true
  | '>' :: '-' :: _ => true
  | _ => false

/-- A word, qualified if it names a sibling, does not start with a digit and is no member of something
else. The text before it is in reverse. -/
def qualifyWord (siblings : List (List Char)) (object before word : List Char) : List Char :=
  match word with
  | [] => []
  | c :: _ =>
    if !c.isDigit && !followsAccess before && siblings.contains word then object ++ '.' :: word
    else word

/-- Qualifies the rest of an expression. `before` is the text up to the word that is being read, and
`word` that word so far; both are in reverse. -/
def qualifyFrom (siblings : List (List Char)) (object before word : List Char) :
    List Char → List Char
  | [] => qualifyWord siblings object before word.reverse
  | c :: cs =>
    if isWordChar c then qualifyFrom siblings object before (c :: word) cs
    else
      qualifyWord siblings object before word.reverse ++
        c :: qualifyFrom siblings object (c :: (word ++ before)) [] cs

/-- The expression with `object.` before each word that names a sibling. -/
def qualify (expression : String) (siblings : List String) (object : String) : String :=
  String.ofList
    (qualifyFrom (siblings.map (·.toList)) object.toList [] [] expression.toList)

/-! ## Bounds -/

/-- The length expression of a member: `altlen`, or else the first dimension of `len`. -/
def Member.length? (m : Member) : Option String :=
  match m.altlen?, m.len? with
  | some altlen, _ => some (Text.trim altlen)
  | none, some len =>
    (len.toList.splitOn ',').head?.map fun first => Text.trim (String.ofList first)
  | none, none => none

/-- The bound of a member as an expression over the members of `object`; `none` if it is written as a
whole, as a single value or a text is. -/
def Member.bound? (siblings : List Member) (object : String) (m : Member) : Option String :=
  match m.length? with
  | none => none
  | some expression =>
    if expression = "" ∨ expression = "null-terminated" then none
    else some (qualify expression (siblings.map (·.name)) object)

end LayerHeaders
