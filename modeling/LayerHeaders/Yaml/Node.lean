import LayerHeaders.Yaml.Token

/-!
# Nodes

The tokens of a document make a node: a scalar, a sequence, a mapping, or a reference to another node. A
node that is left out is an empty plain scalar.

* `Node.ofText?`: the node of a text that holds one document at most.
* `Node.target?`: the node that a reference stands for.
-/

namespace LayerHeaders.Yaml

/-! ## Nodes -/

/-- A node. The number of an anchor says which references stand for it. -/
inductive Node where
  /-- A scalar, and whether it is plain. -/
  | scalar (anchor? : Option Nat) (text : String) (plain : Bool)
  /-- A sequence of nodes. -/
  | sequence (anchor? : Option Nat) (items : List Node)
  /-- A mapping, its keys and values in order. -/
  | mapping (anchor? : Option Nat) (members : List (Node × Node))
  /-- A reference to the node with an anchor. -/
  | reference (anchor : Nat)
deriving Repr

namespace Node

/-- A node that is left out. -/
def empty : Node :=
  .scalar none "" true

mutual

/-- The nodes with anchors, in the order in which they start. -/
def anchored (node : Node) : List (Nat × Node) :=
  match node with
  | .scalar anchor? text plain => (anchor?.map (·, .scalar anchor? text plain)).toList
  | .sequence anchor? items =>
    (anchor?.map (·, .sequence anchor? items)).toList ++ anchoredItems items
  | .mapping anchor? members =>
    (anchor?.map (·, .mapping anchor? members)).toList ++ anchoredMembers members
  | .reference _ => []

/-- The nodes with anchors among items. -/
def anchoredItems : List Node → List (Nat × Node)
  | [] => []
  | item :: items => anchored item ++ anchoredItems items

/-- The nodes with anchors among members. -/
def anchoredMembers : List (Node × Node) → List (Nat × Node)
  | [] => []
  | (key, value) :: members => anchored key ++ anchored value ++ anchoredMembers members

end

/-- The node that a reference in `document` stands for: the last one with the anchor. -/
def target? (document : Node) (anchor : Nat) : Option Node :=
  document.anchored.reverse.lookup anchor

end Node

/-! ## Reading nodes -/

/-- What the nodes of a document are read against. -/
structure Names where
  /-- The tag handles. -/
  handles : List (List Char)
  /-- The numbers of the anchors, by name. -/
  anchors : List (List Char × Nat)

/-- The names with one more anchor. Its number is how many names there are, so that a name which is
given again has a new number. -/
def Names.withAnchor (names : Names) (name : List Char) : Names × Nat :=
  let number := names.anchors.length
  ({ names with anchors := (name, number) :: names.anchors.filter (·.1 != name) }, number)

/-- A value read off the front of some tokens. -/
structure Read (α : Type) (tokens : List Token) where
  /-- The value. -/
  value : α
  /-- The names after it. -/
  names : Names
  /-- What is left of the tokens. -/
  rest : List Token
  /-- No token is added. -/
  le : rest.length ≤ tokens.length

namespace Read

variable {α β : Type} {tokens rest : List Token} {t : Token}

/-- A value that is read off no token. -/
def pure (value : α) (names : Names) (tokens : List Token) : Read α tokens :=
  ⟨value, names, tokens, Nat.le_refl tokens.length⟩

/-- The same tokens read as another value. -/
def map (f : α → β) (r : Read α tokens) : Read β tokens :=
  { r with value := f r.value }

/-- A value seen from one token before it. -/
def after (r : Read α rest) (t : Token) : Read α (t :: rest) :=
  { r with le := Nat.le_succ_of_le r.le }

/-- Two values as one, which is the second. -/
def trans (r : Read α tokens) (s : Read β r.rest) : Read β tokens :=
  { s with le := Nat.le_trans s.le r.le }

/-- Two values with a token between them as one, which is the second. -/
def join (r : Read α tokens) (h : r.rest = t :: rest) (s : Read β rest) : Read β tokens :=
  r.trans (h ▸ s.after t)

theorem length_lt_cons (r : Read α rest) : r.rest.length < (t :: rest).length :=
  Nat.lt_succ_of_le r.le

theorem length_lt_of_rest (r : Read α tokens) (h : r.rest = t :: rest) :
    rest.length < tokens.length := by
  have := r.le
  rw [h] at this
  exact this

/-- What is left comes before all tokens in the order by length and then by a rank. -/
theorem lex_rest (r : Read α tokens) {m n : Nat} (h : m < n) :
    Prod.Lex (· < ·) (· < ·) (r.rest.length, m) (tokens.length, n) := by
  rcases Nat.lt_or_eq_of_le r.le with hlt | heq
  · exact Prod.Lex.left m n hlt
  · rw [heq]
    exact Prod.Lex.right tokens.length h

end Read

/-- What may be written about a node before it: a name, a tag, or both in either order. -/
structure Properties where
  /-- The number of the anchor. -/
  anchor? : Option Nat := none
  /-- Whether anything is written. -/
  any : Bool := false

/-- Reads a tag, if its handle is known. -/
def knownTag? (names : Names) (handle? : Option (List Char)) : Bool :=
  handle?.all names.handles.contains

/-- Reads the properties of a node. -/
def properties? (names : Names) (tokens : List Token) : Option (Read Properties tokens) :=
  match tokens with
  | .anchor name :: .tag handle? :: rest =>
    if knownTag? names handle? then
      let (names, number) := names.withAnchor name
      some (((Read.pure ⟨some number, true⟩ names rest).after (.tag handle?)).after (.anchor name))
    else none
  | .tag handle? :: .anchor name :: rest =>
    if knownTag? names handle? then
      let (names, number) := names.withAnchor name
      some (((Read.pure ⟨some number, true⟩ names rest).after (.anchor name)).after (.tag handle?))
    else none
  | .anchor name :: rest =>
    let (names, number) := names.withAnchor name
    some ((Read.pure ⟨some number, true⟩ names rest).after (.anchor name))
  | .tag handle? :: rest =>
    if knownTag? names handle? then
      some ((Read.pure ⟨none, true⟩ names rest).after (.tag handle?))
    else none
  | tokens => some (.pure {} names tokens)

/-- Where a node stands. -/
inductive Position where
  /-- Laid out by columns. -/
  | block
  /-- The key or the value of a mapping laid out by columns, where a sequence may start in the column of
  the mapping. -/
  | member
  /-- Between brackets. -/
  | flow
deriving DecidableEq, Repr

/-- The tokens before which an entry laid out by columns is left out. -/
def stopsEntry (indented : Bool) : Token → Bool
  | .entry | .blockEnd => true
  | .key | .value => !indented
  | _ => false

/-- The tokens before which a key or a value laid out by columns is left out. -/
def stopsMember : Token → Bool
  | .key | .value | .blockEnd => true
  | _ => false

/-- The tokens before which a value between brackets is left out. -/
def stopsFlowValue (kind : Collection) : Token → Bool
  | .comma => true
  | .flowEnd k => k == kind
  | _ => false

/-- The tokens before which a key between brackets is left out. -/
def stopsFlowKey (kind : Collection) (t : Token) : Bool :=
  t == .value || stopsFlowValue kind t

/-- The node that is left out after its properties, if any are written. -/
def leftOut? {tokens : List Token} (p : Read Properties tokens) : Option (Read Node tokens) :=
  if p.value.any then some (p.map fun properties => .scalar properties.anchor? "" true) else none

mutual

/-- Reads a node. -/
def node? (position : Position) (names : Names) (tokens : List Token) : Option (Read Node tokens) :=
  match tokens with
  | .reference name :: rest => do
    let number ← names.anchors.lookup name
    return (Read.pure (.reference number) names rest).after (.reference name)
  | tokens => do
    let p ← properties? names tokens
    let anchor? := p.value.anchor?
    match h : p.rest with
    | .scalar text plain :: rest =>
      return p.join h (.pure (.scalar anchor? (String.ofList text) plain) p.names rest)
    | .flowStart .sequence :: rest =>
      let r ← flowEntries? true p.names rest
      return (p.join h r).map (.sequence anchor?)
    | .flowStart .mapping :: rest =>
      let r ← flowMembers? true p.names rest
      return (p.join h r).map (.mapping anchor?)
    | .entry :: _ =>
      if position = .member then
        let r ← entries? false p.names p.rest
        return (p.trans r).map (.sequence anchor?)
      else leftOut? p
    | .blockStart kind :: rest =>
      if position = .flow then leftOut? p
      else
        match kind with
        | .sequence => do
          let r ← entries? true p.names rest
          return (p.join h r).map (.sequence anchor?)
        | .mapping => do
          let r ← members? p.names rest
          return (p.join h r).map (.mapping anchor?)
    | _ => leftOut? p
termination_by (tokens.length, 1)
decreasing_by
  · exact Prod.Lex.left _ _ (p.length_lt_of_rest h)
  · exact Prod.Lex.left _ _ (p.length_lt_of_rest h)
  · exact p.lex_rest Nat.zero_lt_one
  · exact Prod.Lex.left _ _ (p.length_lt_of_rest h)
  · exact Prod.Lex.left _ _ (p.length_lt_of_rest h)

/-- Reads a node, unless it is left out before a token that stops it. -/
def nodeUnless? (stop : Token → Bool) (position : Position) (names : Names) (tokens : List Token) :
    Option (Read Node tokens) :=
  if tokens.head?.any stop then some (.pure .empty names tokens)
  else node? position names tokens
termination_by (tokens.length, 2)
decreasing_by exact Prod.Lex.right _ (Nat.lt_succ_self 1)

/-- Reads the entries that follow in a sequence laid out by columns; it closes on its own if it is
`indented`. -/
def entries? (indented : Bool) (names : Names) (tokens : List Token) :
    Option (Read (List Node) tokens) :=
  match tokens with
  | .entry :: rest => do
    let item ← nodeUnless? (stopsEntry indented) .block names rest
    let r ← entries? indented item.names item.rest
    return ((item.trans r).map (item.value :: ·)).after .entry
  | .blockEnd :: rest =>
    if indented then some ((Read.pure [] names rest).after .blockEnd)
    else some (.pure [] names (.blockEnd :: rest))
  | tokens => if indented then none else some (.pure [] names tokens)
termination_by (tokens.length, 0)
decreasing_by
  · exact Prod.Lex.left _ _ (Nat.lt_succ_self rest.length)
  · exact Prod.Lex.left _ _ item.length_lt_cons

/-- Reads the keys and values that follow in a mapping laid out by columns. -/
def members? (names : Names) (tokens : List Token) : Option (Read (List (Node × Node)) tokens) :=
  match tokens with
  | .key :: rest => do
    let key ← nodeUnless? stopsMember .member names rest
    let value ← value? stopsMember .member key.names key.rest
    let r ← members? value.names value.rest
    return ((key.trans (value.trans r)).map ((key.value, value.value) :: ·)).after .key
  | .blockEnd :: rest => some ((Read.pure [] names rest).after .blockEnd)
  | _ => none
termination_by (tokens.length, 0)
decreasing_by
  · exact Prod.Lex.left _ _ (Nat.lt_succ_self rest.length)
  · exact Prod.Lex.left _ _ key.length_lt_cons
  · exact Prod.Lex.left _ _ (key.trans value).length_lt_cons

/-- Reads the value after a key, which is left out where no value starts. -/
def value? (stop : Token → Bool) (position : Position) (names : Names) (tokens : List Token) :
    Option (Read Node tokens) :=
  match tokens with
  | .value :: rest => do
    let r ← nodeUnless? stop position names rest
    return r.after .value
  | tokens => some (.pure .empty names tokens)
termination_by (tokens.length, 0)
decreasing_by exact Prod.Lex.left _ _ (Nat.lt_succ_self rest.length)

/-- Reads the entries that follow in a sequence between brackets. -/
def flowEntries? (first : Bool) (names : Names) (tokens : List Token) :
    Option (Read (List Node) tokens) :=
  match tokens, first with
  | .flowEnd .sequence :: rest, _ => some ((Read.pure [] names rest).after (.flowEnd .sequence))
  | .comma :: .flowEnd .sequence :: rest, false =>
    some (((Read.pure [] names rest).after (.flowEnd .sequence)).after .comma)
  | .comma :: rest, false => do
    let item ← flowEntry? names rest
    let r ← flowEntries? false item.names item.rest
    return ((item.trans r).map (item.value :: ·)).after .comma
  | tokens, true => do
    let item ← flowEntry? names tokens
    let r ← flowEntries? false item.names item.rest
    return (item.trans r).map (item.value :: ·)
  | _, false => none
termination_by (tokens.length, if first then 4 else 0)
decreasing_by
  · exact Prod.Lex.left _ _ (Nat.lt_succ_self rest.length)
  · exact Prod.Lex.left _ _ item.length_lt_cons
  · exact Prod.Lex.right _ (Nat.lt_succ_self 3)
  · exact item.lex_rest (Nat.zero_lt_succ 3)

/-- Reads the key of an entry between brackets. Where it is left out, the token that stops it is, too. -/
def flowEntryKey? (names : Names) (tokens : List Token) : Option (Read Node tokens) :=
  match tokens with
  | [] => none
  | t :: rest =>
    if stopsFlowKey .sequence t then some ((Read.pure .empty names rest).after t)
    else node? .flow names (t :: rest)
termination_by (tokens.length, 2)
decreasing_by exact Prod.Lex.right _ (Nat.lt_succ_self 1)

/-- Reads one entry of a sequence between brackets. An entry with a key is a mapping of one member. -/
def flowEntry? (names : Names) (tokens : List Token) : Option (Read Node tokens) :=
  match tokens with
  | .key :: rest => do
    let key ← flowEntryKey? names rest
    let value ← value? (stopsFlowValue .sequence) .flow key.names key.rest
    return ((key.trans value).map fun v => .mapping none [(key.value, v)]).after .key
  | tokens => node? .flow names tokens
termination_by (tokens.length, 3)
decreasing_by
  · exact Prod.Lex.left _ _ (Nat.lt_succ_self rest.length)
  · exact Prod.Lex.left _ _ key.length_lt_cons
  · exact Prod.Lex.right _ (Nat.lt_of_sub_pos Nat.zero_lt_two)

/-- Reads the keys and values that follow in a mapping between brackets. -/
def flowMembers? (first : Bool) (names : Names) (tokens : List Token) :
    Option (Read (List (Node × Node)) tokens) :=
  match tokens, first with
  | .flowEnd .mapping :: rest, _ => some ((Read.pure [] names rest).after (.flowEnd .mapping))
  | .comma :: .flowEnd .mapping :: rest, false =>
    some (((Read.pure [] names rest).after (.flowEnd .mapping)).after .comma)
  | .comma :: rest, false => do
    let member ← flowMember? names rest
    let r ← flowMembers? false member.names member.rest
    return ((member.trans r).map (member.value :: ·)).after .comma
  | tokens, true => do
    let member ← flowMember? names tokens
    let r ← flowMembers? false member.names member.rest
    return (member.trans r).map (member.value :: ·)
  | _, false => none
termination_by (tokens.length, if first then 4 else 0)
decreasing_by
  · exact Prod.Lex.left _ _ (Nat.lt_succ_self rest.length)
  · exact Prod.Lex.left _ _ member.length_lt_cons
  · exact Prod.Lex.right _ (Nat.lt_succ_self 3)
  · exact member.lex_rest (Nat.zero_lt_succ 3)

/-- Reads one key of a mapping between brackets, and its value. -/
def flowMember? (names : Names) (tokens : List Token) : Option (Read (Node × Node) tokens) :=
  match tokens with
  | .key :: rest => do
    let key ← nodeUnless? (stopsFlowKey .mapping) .flow names rest
    let value ← value? (stopsFlowValue .mapping) .flow key.names key.rest
    return ((key.trans value).map fun v => (key.value, v)).after .key
  | tokens => do
    let key ← node? .flow names tokens
    return key.map fun k => (k, .empty)
termination_by (tokens.length, 3)
decreasing_by
  · exact Prod.Lex.left _ _ (Nat.lt_succ_self rest.length)
  · exact Prod.Lex.left _ _ key.length_lt_cons
  · exact Prod.Lex.right _ (Nat.lt_of_sub_pos Nat.zero_lt_two)

end

/-! ## Documents -/

/-- Reads the declarations before a document and the line that starts it: the tag handles that they
declare, and the tokens of the document. There is one declaration of the version at most, and one of each
handle. -/
def declarations? (versioned : Bool) (handles : List (List Char)) :
    List Token → Option (List (List Char) × List Token)
  | .version major minor :: rest =>
    if versioned || major != 1 || !(minor == 1 || minor == 2) then none
    else declarations? true handles rest
  | .tagHandle handle :: rest =>
    if handles.contains handle then none else declarations? versioned (handle :: handles) rest
  | .documentStart :: rest => some (handles, rest)
  | _ => none

/-- Whether a token belongs to no document. -/
def isOutside : Token → Bool
  | .version _ _ | .tagHandle _ | .documentStart | .documentEnd => true
  | _ => false

/-- Reads the first document: its node, and the tokens after it. -/
def document? (tokens : List Token) : Option (Node × List Token) := do
  let content (handles : List (List Char)) (tokens : List Token) : Option (Node × List Token) := do
    let r ← node? .block ⟨handles ++ [['!'], ['!', '!']], []⟩ tokens
    return (r.value, r.rest)
  match tokens with
  | .version _ _ :: _ | .tagHandle _ :: _ | .documentStart :: _ =>
    let (handles, rest) ← declarations? false [] tokens
    if rest.head?.all isOutside then return (.empty, rest) else content handles rest
  | _ => content [] tokens

/-- The node of a text that holds one document, or none. -/
def Node.ofText? (text : String) : Option Node := do
  let tokens ← tokens? text
  if tokens.isEmpty then return .empty
  let (node, rest) ← document? tokens
  if rest.all (· == .documentEnd) then return node else none

end LayerHeaders.Yaml
