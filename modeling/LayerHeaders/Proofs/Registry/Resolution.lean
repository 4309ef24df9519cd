import LayerHeaders.Proofs.Registry.AliasChain

/-!
# Resolved commands

What a resolved command holds beside its signature is looked up by its own name, so it is determined by
the registry and the declaration. The commands of the standard profile are resolved together.

* `resolve_eq_ok_iff`: the fields of a resolved command.
* `resolveStandard_spec`: the resolved commands are the declarations of the standard profile, in order.
* `resolveStandard_eq_error_iff`: the failure that is reported is the first in document order.
-/

namespace LayerHeaders.Registry

variable {r : Registry} {c : Command} {x : Resolved} {xs : List Resolved}

/-- **The fields of a resolved command** are found by its name and its signature. -/
theorem resolve_eq_ok_iff :
    r.resolve c = .ok x ↔
      r.signature c = .ok x.signature ∧ x.command = c ∧
        x.handle? = x.signature.receiver?.bind r.handle? ∧ x.owner? = r.commandOwner? c.name ∧
        x.restricted = r.isRestricted c := by
  unfold resolve
  rcases r.signature c with e | s
  · simp [bind, Except.bind]
  · constructor
    · intro h
      cases h
      exact ⟨rfl, rfl, rfl, rfl, rfl⟩
    · rintro ⟨hs, hc, hhandle, howner, hrestricted⟩
      cases x
      cases hs
      simp only at hc hhandle howner hrestricted
      rw [hc, hhandle, howner, hrestricted]
      rfl

/-- A resolved command is a command of the declaration that was resolved. -/
theorem command_of_resolve (h : r.resolve c = .ok x) : x.command = c :=
  (resolve_eq_ok_iff.1 h).2.1

/-- The guard of a resolved command is the name of the extension that owns it. -/
theorem guard?_of_resolve (h : r.resolve c = .ok x) :
    x.guard? = (r.commandOwner? x.name).map (·.name) := by
  obtain ⟨-, rfl, -, howner, -⟩ := resolve_eq_ok_iff.1 h
  rw [Resolved.guard?, howner]
  rfl

/-- A handle of the registry is found under its name. -/
theorem handle?_eq_some_iff {name handle : String} :
    r.handle? name = some handle ↔ name = handle ∧ name ∈ r.handles := by
  unfold handle?
  constructor
  · intro h
    have hname : handle = name := by simpa using List.find?_some h
    exact ⟨hname.symm, hname ▸ List.mem_of_find?_eq_some h⟩
  · rintro ⟨rfl, hmem⟩
    rcases hfound : r.handles.find? (· = name) with _ | found
    · exact absurd (List.find?_eq_none.1 hfound name hmem) (by simp)
    · have hname : found = name := by simpa using List.find?_some hfound
      rw [hname]

/-- The dispatchable handle of a resolved command is the type of its first parameter. -/
theorem handle?_of_resolve (h : r.resolve c = .ok x) {handle : String} :
    x.handle? = some handle ↔ x.signature.receiver? = some handle ∧ handle ∈ r.handles := by
  rw [(resolve_eq_ok_iff.1 h).2.2.1, Option.bind_eq_some_iff]
  constructor
  · rintro ⟨type, htype, hfound⟩
    obtain ⟨rfl, hmem⟩ := handle?_eq_some_iff.1 hfound
    exact ⟨htype, hmem⟩
  · rintro ⟨htype, hmem⟩
    exact ⟨handle, htype, handle?_eq_some_iff.2 ⟨rfl, hmem⟩⟩

/-! ## The standard profile -/

/-- **The resolved commands of the standard profile**: one for each declaration, in document order. -/
theorem resolveStandard_spec (h : r.resolveStandard = .ok xs) :
    xs.map (·.command) = r.commands.filter (!r.isRestricted ·) ∧
      ∀ x ∈ xs, r.resolve x.command = .ok x := by
  have hall := mapM_eq_ok_iff.1 h
  have hcommands : r.commands.filter (!r.isRestricted ·) = xs.map (·.command) := by
    rw [← List.forall₂_eq_eq_eq, List.forall₂_map_right_iff]
    exact hall.imp fun c x hx => (command_of_resolve hx).symm
  refine ⟨hcommands.symm, ?_⟩
  rwa [hcommands, List.forall₂_map_left_iff, List.forall₂_same] at hall

/-- Which resolved commands are of the standard profile: those of its declarations. -/
theorem mem_resolveStandard_iff (h : r.resolveStandard = .ok xs) :
    x ∈ xs ↔ x.command ∈ r.commands ∧ r.isRestricted x.command = false ∧
      r.resolve x.command = .ok x := by
  obtain ⟨hcommands, hall⟩ := resolveStandard_spec h
  have hdeclared : ∀ c, c ∈ xs.map (·.command) ↔ c ∈ r.commands ∧ r.isRestricted c = false := by
    intro c
    rw [hcommands, List.mem_filter, Bool.not_eq_true']
  constructor
  · intro hx
    obtain ⟨hmem, hstandard⟩ := (hdeclared _).1 (List.mem_map_of_mem hx)
    exact ⟨hmem, hstandard, hall x hx⟩
  · rintro ⟨hmem, hstandard, hx⟩
    obtain ⟨y, hy, hyx⟩ := List.mem_map.1 ((hdeclared _).2 ⟨hmem, hstandard⟩)
    have hresolve := hall y hy
    rw [hyx, hx] at hresolve
    cases hresolve
    exact hy

/-- The standard profile is resolved if each of its declarations is. -/
theorem exists_resolveStandard_iff :
    (∃ xs, r.resolveStandard = .ok xs) ↔
      ∀ c ∈ r.commands, r.isRestricted c = false → ∃ x, r.resolve c = .ok x := by
  rw [resolveStandard, exists_mapM_eq_ok_iff]
  simp only [List.mem_filter, Bool.not_eq_true', and_imp]

/-- **The first declaration that fails decides.** Restricted declarations are not looked at. -/
theorem resolveStandard_eq_error_iff {e : RegistryError} :
    r.resolveStandard = .error e ↔
      ∃ before c after, r.commands = before ++ c :: after ∧ r.isRestricted c = false ∧
        r.resolve c = .error e ∧
        ∀ b ∈ before, r.isRestricted b = false → ∃ x, r.resolve b = .ok x := by
  rw [resolveStandard, filter_mapM_eq_error_iff]
  simp only [Bool.not_eq_true']

end LayerHeaders.Registry
