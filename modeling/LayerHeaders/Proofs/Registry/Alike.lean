import LayerHeaders.Proofs.Registry.AliasLinks

/-!
# Registries that resolve alike

The commands of a registry may be declared otherwise without any change to what the headers show of them.
Two declarations are alike if they differ in parameters of the safety-critical profile alone, and not in
the type that the command is dispatched on. Other declarations keep those of a registry if its standard
profile and its look-ups lead to declarations that are alike.

* `Registry.Keeps`: when other declarations keep those of a registry.
* `Registry.Keeps.aliasChainFrom`: alias chains then lead alike.
* `Registry.Keeps.resolve`, `Registry.Keeps.resolveStandard`: commands then resolve alike.
-/

namespace LayerHeaders

/-! ## Declarations that are alike -/

/-- Whether two signatures have the same result, receiver and parameters of the standard profile. -/
structure Signature.Alike (s s' : Signature) : Prop where
  /-- The result is the same. -/
  result : s'.result = s.result
  /-- The type that decides the dispatch is the same. -/
  receiver? : s'.receiver? = s.receiver?
  /-- The parameters of the standard profile are the same. -/
  params : s'.params.filter (!·.safetyCritical) = s.params.filter (!·.safetyCritical)

theorem Signature.Alike.refl (s : Signature) : s.Alike s :=
  ⟨rfl, rfl, rfl⟩

/-- Whether two commands stand for the same alias, or for signatures that are alike. -/
inductive CommandBody.Alike : CommandBody → CommandBody → Prop
  /-- Definitions with signatures that are alike. -/
  | definition {s s' : Signature} (h : s.Alike s') : Alike (.definition s) (.definition s')
  /-- Aliases of one command. -/
  | sameAs (target : String) : Alike (.sameAs target) (.sameAs target)

/-- Whether two declarations are alike to the headers. -/
structure Command.Alike (c c' : Command) : Prop where
  /-- The name is the same. -/
  name : c'.name = c.name
  /-- The `api` attribute is the same. -/
  api? : c'.api? = c.api?
  /-- They stand for something alike. -/
  body : c.body.Alike c'.body

theorem Command.Alike.refl (c : Command) : c.Alike c where
  name := rfl
  api? := rfl
  body := by
    rcases c.body with s | target
    · exact .definition (.refl s)
    · exact .sameAs target

/-- Whether two resolved commands are alike to the headers. -/
structure Resolved.Alike (x x' : Resolved) : Prop where
  /-- They are of declarations that are alike. -/
  command : x.command.Alike x'.command
  /-- Their signatures are alike. -/
  signature : x.signature.Alike x'.signature
  /-- They are dispatched on the same handle. -/
  handle? : x'.handle? = x.handle?
  /-- They have the same owner. -/
  owner? : x'.owner? = x.owner?

namespace Resolved.Alike

variable {x x' : Resolved}

theorem name_eq (h : x.Alike x') : x'.name = x.name :=
  h.command.name

theorem result_eq (h : x.Alike x') : x'.result = x.result :=
  h.signature.result

theorem params_eq (h : x.Alike x') : x'.params = x.params :=
  h.signature.params

theorem guard?_eq (h : x.Alike x') : x'.guard? = x.guard? := by
  rw [Resolved.guard?, Resolved.guard?, h.owner?]

end Resolved.Alike

namespace Registry

/-! ## Other declarations -/

/-- The registry with other declarations of commands. -/
def redeclare (r : Registry) (commands index : List Command) : Registry :=
  { r with commands, index }

/-- Whether a command is restricted is decided by its name and its `api` attribute. -/
theorem isRestricted_redeclare {r : Registry} {commands index : List Command} {c c' : Command}
    (h : c.Alike c') : (r.redeclare commands index).isRestricted c' = r.isRestricted c := by
  unfold isRestricted
  rw [h.name, h.api?]
  rfl

/-- **Whether other declarations keep those of a registry.** -/
structure Keeps (r : Registry) (commands index : List Command) : Prop where
  /-- The declarations of the standard profile are alike, in order. -/
  standard : List.Forall₂ Command.Alike (r.commands.filter (!r.isRestricted ·))
    (commands.filter (!(r.redeclare commands index).isRestricted ·))
  /-- What is declared leads to a declaration that is alike. -/
  found : ∀ name c, r.command? name = some c →
    ∃ c', (r.redeclare commands index).command? name = some c' ∧ c.Alike c'

/-- Whether the second command is alike to the first, which is resolved from its declaration. -/
structure Twins (r : Registry) (x x' : Resolved) : Prop where
  /-- The first is resolved. -/
  resolve : r.resolve x.command = .ok x
  /-- The second is alike. -/
  alike : x.Alike x'

namespace Keeps

variable {r : Registry} {commands index : List Command} {c c' : Command} {x : Resolved}

/-- **Alias chains lead alike**, if they end in a definition: their links are alike, and so are the
signatures at their ends. -/
theorem aliasChainFrom (h : r.Keeps commands index) {visited : List String} {s : Signature}
    (hc : c.Alike c') (hend : (r.aliasChainFrom visited c).ending = .definition s) :
    ∃ s', ((r.redeclare commands index).aliasChainFrom visited c').ending = .definition s' ∧
      s.Alike s' ∧ List.Forall₂ Command.Alike (r.aliasChainFrom visited c).links
        ((r.redeclare commands index).aliasChainFrom visited c').links := by
  induction visited, c using Registry.aliasChainFrom.induct r generalizing c' with
  | case1 visited c s₀ hbody =>
      rw [aliasChainFrom_of_definition hbody] at hend ⊢
      cases hend
      have hbodies := hc.body
      rw [hbody] at hbodies
      generalize hbody' : c'.body = body' at hbodies
      cases hbodies with
      | definition hs =>
          rw [aliasChainFrom_of_definition hbody']
          exact ⟨_, rfl, hs, .nil⟩
  | case2 visited c target hbody hnone =>
      rw [aliasChainFrom_of_alias hbody, hnone] at hend
      cases hend
  | case3 visited c target hbody next hnext hmem =>
      rw [aliasChainFrom_of_alias hbody, hnext] at hend
      simp only [hmem, if_true] at hend
      cases hend
  | case4 visited c target hbody next hnext hmem ih =>
      rw [aliasChainFrom_of_alias hbody, hnext] at hend ⊢
      simp only [hmem, if_false] at hend ⊢
      have hbodies := hc.body
      rw [hbody] at hbodies
      generalize hbody' : c'.body = body' at hbodies
      cases hbodies with
      | sameAs =>
          -- both aliases go on with a declaration of the target
          obtain ⟨next', hnext', halike⟩ := h.found target next hnext
          obtain ⟨s', hend', hs, hlinks⟩ := ih halike hend
          have hmem' : next'.name ∉ visited := by
            rw [halike.name]
            exact hmem
          rw [aliasChainFrom_of_alias hbody', hnext']
          simp only [hmem', if_false]
          rw [halike.name]
          exact ⟨s', hend', hs, .cons halike hlinks⟩

/-- The alias chain of a command that resolves, and the one of a declaration that is alike. -/
theorem aliasChain (h : r.Keeps commands index) (hc : c.Alike c') (hx : r.resolve c = .ok x) :
    ∃ s', ((r.redeclare commands index).aliasChain c').ending = .definition s' ∧
      x.signature.Alike s' ∧ List.Forall₂ Command.Alike (r.aliasChain c).links
        ((r.redeclare commands index).aliasChain c').links := by
  unfold Registry.aliasChain
  rw [hc.name]
  exact h.aliasChainFrom hc (ending_of_resolve hx)

/-- **Declarations that are alike resolve alike.** -/
theorem resolve (h : r.Keeps commands index) (hc : c.Alike c') (hx : r.resolve c = .ok x) :
    ∃ x', (r.redeclare commands index).resolve c' = .ok x' ∧ x.Alike x' := by
  obtain ⟨s', hend, hs, -⟩ := h.aliasChain hc hx
  have hs' : (r.redeclare commands index).signature c' = .ok s' := by
    rw [signature_eq_endResult, hend]
    rfl
  refine ⟨_, bind_eq_ok_iff.2 ⟨s', hs', rfl⟩, ?_⟩
  obtain ⟨-, rfl, hhandle, howner, -⟩ := resolve_eq_ok_iff.1 hx
  refine ⟨hc, hs, ?_, ?_⟩
  · rw [hhandle, ← hs.receiver?]
    rfl
  · rw [howner, ← hc.name]
    rfl

/-- A name resolves alike. -/
theorem resolveNamed (h : r.Keeps commands index) {name : String} (hx : r.resolveNamed name = .ok x) :
    ∃ x', (r.redeclare commands index).resolveNamed name = .ok x' ∧ x.Alike x' := by
  unfold Registry.resolveNamed at hx ⊢
  rcases hfound : r.command? name with _ | c
  · rw [hfound] at hx
    cases hx
  · rw [hfound] at hx
    obtain ⟨c', hc', halike⟩ := h.found name c hfound
    rw [hc']
    exact h.resolve halike hx

/-- **The commands of the standard profile resolve alike**, in order. -/
theorem resolveStandard (h : r.Keeps commands index) {xs : List Resolved}
    (hxs : r.resolveStandard = .ok xs) :
    ∃ xs', (r.redeclare commands index).resolveStandard = .ok xs' ∧
      List.Forall₂ r.Twins xs xs' := by
  refine exists_mapM_eq_ok_of_forall₂ (fun c c' x hc hx => ?_) h.standard hxs
  obtain ⟨x', hx', halike⟩ := h.resolve hc hx
  rw [← command_of_resolve hx] at hx
  exact ⟨x', hx', ⟨hx, halike⟩⟩

end Keeps

end Registry

end LayerHeaders
