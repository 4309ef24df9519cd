import LayerHeaders.Registry.Basic
import LayerHeaders.Registry.Error

/-!
# Aliases

The alias chain of a command leads from name to name until it meets a definition, a name that is not
declared, or a name that it has passed. It is computed once, as the declarations on it and the way it
ends; resolving a command looks at the end.

* `Registry.unvisited_lt`: each step takes a declared name that was not passed before, so every chain
  ends.
-/

namespace LayerHeaders

/-! ## Chains -/

/-- How an alias chain ends. -/
inductive ChainEnd where
  /-- With a definition. -/
  | definition (signature : Signature)
  /-- With an alias of a name that is not declared. -/
  | undeclared (command target : String)
  /-- With a name that was passed before. -/
  | cyclic
deriving DecidableEq, Repr

/-- The aliases that a command leads to. -/
structure AliasChain where
  /-- The declarations after the first. -/
  links : List Command
  /-- How it ends. -/
  ending : ChainEnd
deriving DecidableEq, Repr

namespace Registry

/-- The number of indexed declarations whose names were not passed yet. -/
def unvisited (r : Registry) (visited : List String) : Nat :=
  (r.index.filter (·.name ∉ visited)).length

theorem unvisited_lt {r : Registry} {visited : List String} {target : String} {c : Command}
    (h : r.command? target = some c) (hv : c.name ∉ visited) :
    r.unvisited (c.name :: visited) < r.unvisited visited := by
  have hstep : r.index.filter (·.name ∉ c.name :: visited) =
      (r.index.filter (·.name ∉ visited)).filter (·.name ≠ c.name) := by
    rw [List.filter_filter]
    congr 1
    funext d
    simp only [List.mem_cons, not_or, Bool.decide_and]
  unfold unvisited
  rw [hstep, List.length_filter_lt_length_iff_exists]
  exact ⟨c, List.mem_filter.2 ⟨mem_index_of_command? h, by simpa using hv⟩, by simp⟩

/-- The alias chain from `c` on, when the names in `visited` were passed. -/
def aliasChainFrom (r : Registry) (visited : List String) (c : Command) : AliasChain :=
  match c.body with
  | .definition signature => ⟨[], .definition signature⟩
  | .sameAs target =>
    match _h : r.command? target with
    | none => ⟨[], .undeclared c.name target⟩
    | some next =>
      if _hv : next.name ∈ visited then ⟨[], .cyclic⟩
      else
        let rest := r.aliasChainFrom (next.name :: visited) next
        ⟨next :: rest.links, rest.ending⟩
termination_by r.unvisited visited
decreasing_by exact unvisited_lt _h _hv

/-- The alias chain of a command. -/
def aliasChain (r : Registry) (c : Command) : AliasChain :=
  r.aliasChainFrom [c.name] c

end Registry

/-! ## Resolved commands -/

/-- A command with the signature that its alias chain ends in. -/
structure Resolved where
  /-- The command. -/
  command : Command
  /-- The signature at the end of its alias chain. -/
  signature : Signature
  /-- The dispatchable handle that its first parameter is. -/
  handle? : Option String
  /-- The extension that owns it. -/
  owner? : Option Extension
  /-- Whether it exists in the safety-critical profile only. -/
  restricted : Bool
deriving DecidableEq, Repr

namespace Resolved

/-- The name of the command. -/
def name (c : Resolved) : String :=
  c.command.name

/-- The type of the result. -/
def result (c : Resolved) : String :=
  c.signature.result

/-- The parameters of the standard profile. -/
def params (c : Resolved) : List Param :=
  c.signature.params.filter (!·.safetyCritical)

/-- The token that guards the command, unless it is core. -/
def guard? (c : Resolved) : Option String :=
  c.owner?.map (·.name)

end Resolved

namespace Registry

/-- The signature of a command. -/
def signature (r : Registry) (c : Command) : Except RegistryError Signature :=
  match (r.aliasChain c).ending with
  | .definition signature => .ok signature
  | .undeclared command target => .error (.unresolvedAlias command target)
  | .cyclic => .error (.aliasCycle c.name)

/-- Follows the aliases of a command to its signature. -/
def resolve (r : Registry) (c : Command) : Except RegistryError Resolved := do
  let signature ← r.signature c
  return {
    command := c
    signature
    handle? := signature.receiver?.bind r.handle?
    owner? := r.commandOwner? c.name
    restricted := r.isRestricted c }

/-- Resolves the command of this name. -/
def resolveNamed (r : Registry) (name : String) : Except RegistryError Resolved :=
  match r.command? name with
  | some c => r.resolve c
  | none => .error (.unknownCommand name)

/-- Resolves the commands of the standard profile, in document order. -/
def resolveStandard (r : Registry) : Except RegistryError (List Resolved) :=
  (r.commands.filter (!r.isRestricted ·)).mapM r.resolve

end Registry

end LayerHeaders
