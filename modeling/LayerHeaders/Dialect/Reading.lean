import LayerHeaders.Dialect
import LayerHeaders.Yaml.Node

/-!
# Reading a dialect

A dialect is written as a mapping in YAML. What it does not name keeps its default, and keys that are no
part of a dialect are passed over. Any scalar is a text as it is written.

* `Dialect.ofYaml?`: the dialect of a text, if it is well formed.
-/

namespace LayerHeaders

namespace Yaml.Node

/-- The node itself, or the one in the document that it refers to. -/
def dereference? (document node : Node) : Option Node :=
  match node with
  | .reference anchor => document.target? anchor
  | node => some node

/-- The text of a scalar in a document. -/
def text? (document node : Node) : Option String :=
  match document.dereference? node with
  | some (.scalar _ text _) => some text
  | _ => none

/-- The texts of a sequence of scalars in a document; a node that is left out has none. -/
def texts? (document node : Node) : Option (List String) :=
  match document.dereference? node with
  | some (.sequence _ items) => items.mapM (text? document)
  | some (.scalar _ "" true) => some []
  | _ => none

end Yaml.Node

namespace Dialect

open Yaml (Node)

/-- How the value of a key is set, if the key names a text of a dialect. -/
def setText? (key : String) : Option (String → Dialect → Dialect) :=
  match key with
  | "command_prefix" => some fun v d => { d with commandPrefix := v }
  | "type_prefix" => some fun v d => { d with typePrefix := v }
  | "safety_critical_api" => some fun v d => { d with safetyCriticalApi := v }
  | "dispatchable_handle_macro" => some fun v d => { d with dispatchableHandleMacro := v }
  | "instance_proc_addr" => some fun v d => { d with instanceResolver := v }
  | "device_proc_addr" => some fun v d => { d with deviceResolver := v }
  | "structure_chain_member" => some fun v d => { d with chainMember := v }
  | "icd_namespace" => some fun v d => { d with driverNamespace := v }
  | _ => none

/-- The dialect with the value of a key. -/
def withMember? (document : Node) (key : String) (value : Node) (d : Dialect) : Option Dialect :=
  if key = "top_level_handles" then
    (document.texts? value).map fun handles => { d with topLevelHandles := handles }
  else
    match setText? key with
    | some set => (document.text? value).map fun v => set v d
    | none => some d

/-- Whether a key is a part of a dialect. -/
def isKey (key : String) : Bool :=
  key == "top_level_handles" || (setText? key).isSome

/-- The dialect with the members of a mapping. No key of a dialect occurs twice, also among those `seen`
before. -/
def withMembers? (document : Node) (seen : List String) (d : Dialect) :
    List (Node × Node) → Option Dialect
  | [] => some d
  | (keyNode, value) :: rest => do
    let key ← document.text? keyNode
    if isKey key && seen.contains key then none
    let d ← d.withMember? document key value
    d.withMembers? document (key :: seen) rest

/-- The dialect that a text describes. -/
def ofYaml? (text : String) : Option Dialect := do
  let document ← Node.ofText? text
  match document with
  | .mapping _ members => ({} : Dialect).withMembers? document [] members
  | .scalar _ "" true => some {}
  | _ => none

end Dialect

end LayerHeaders
