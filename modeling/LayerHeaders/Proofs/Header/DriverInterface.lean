import LayerHeaders.Header.DriverInterface
import LayerHeaders.Proofs.Header.Passage
import LayerHeaders.Proofs.Registry.Resolution
import LayerHeaders.Proofs.Traversal

/-!
# What the interface of a driver shows

The header of a driver's interface has a passage for each command in several places: a virtual method, a
method of a wrapper and a free function if the command has a handle, a prototype if it has none, and an
arm of the resolver. The two resolvers themselves have an arm only, and are otherwise part of the frame.
All places are written from the same groups, by handle and by owner within a handle.

* `passages`: what the header shows.
* `shows_of_header`: the header shows its passages, each under the guard of its topic.
* `mem_passages_iff`: the passages are about the commands of the standard profile.
* `mem_commands_iff`: what is in the groups of a handle.
-/

namespace LayerHeaders.DriverInterface

/-! ## Lines of one command -/

theorem guardFree_methodLines (r : Registry) (c : Resolved) : GuardFree (methodLines r c) :=
  guardFree_append.2 ⟨guardFree_signatureLines _ _ _ _, by simp [Instruction.isGuard]⟩

theorem guardFree_wrapperMethodLines (c : Resolved) : GuardFree (wrapperMethodLines c) :=
  guardFree_append.2 ⟨guardFree_signatureLines _ _ _ _, by simp [Instruction.isGuard]⟩

theorem guardFree_prototypeLines (c : Resolved) : GuardFree (prototypeLines c) :=
  guardFree_append.2 ⟨guardFree_signatureLines _ _ _ _, by simp [Instruction.isGuard]⟩

theorem guardFree_functionLines (c : Resolved) : GuardFree (functionLines c) :=
  guardFree_append.2 ⟨guardFree_signatureLines _ _ _ _, by simp [Instruction.isGuard]⟩

/-- The virtual methods of a base interface. -/
def methods (r : Registry) (handle : String) : Emission :=
  ⟨.method handle, methodLines r, guardFree_methodLines r⟩

/-- The methods of a wrapper. -/
def wrapperMethods (handle : String) : Emission :=
  ⟨.wrapperMethod handle, wrapperMethodLines, guardFree_wrapperMethodLines⟩

/-- The prototypes of the commands without a handle. -/
def prototypes : Emission :=
  ⟨.prototype, prototypeLines, guardFree_prototypeLines⟩

/-- The free functions. -/
def functions : Emission :=
  ⟨.function, functionLines, guardFree_functionLines⟩

/-- The arms of the resolver. -/
def arms : Emission :=
  .ofLine .resolverArm resolverArm fun _ => rfl

/-- What is emitted for the commands of a handle, or of none, but the resolvers. -/
def handleEmissions (r : Registry) (handle? : Option String) : List Emission :=
  match handle? with
  | none => [prototypes]
  | some handle => [methods r handle, wrapperMethods handle, functions]

/-- What is emitted for a command. The resolvers are written out by themselves, but have an arm. -/
def emissions (r : Registry) (c : Resolved) : List Emission :=
  arms :: if isResolver r.dialect c.name then [] else handleEmissions r c.handle?

/-! ## Lines around them -/

theorem guardFree_prologue : GuardFree prologue := by
  simp [prologue, Instruction.isGuard]

theorem guardFree_namespaceOpening (d : Dialect) : GuardFree (namespaceOpening d) := by
  simp [namespaceOpening, Instruction.isGuard]

theorem guardFree_namespaceClosing : GuardFree namespaceClosing := by
  simp [namespaceClosing, Instruction.isGuard]

theorem guardFree_interfaceOpening (d : Dialect) (handle : String) :
    GuardFree (interfaceOpening d handle) := by
  simp [interfaceOpening, Instruction.isGuard]

theorem guardFree_wrapperOpening (d : Dialect) (handle : String) :
    GuardFree (wrapperOpening d handle) := by
  simp [wrapperOpening, Instruction.isGuard]

theorem guardFree_structClosing : GuardFree structClosing := by
  simp [structClosing, Instruction.isGuard]

theorem guardFree_resolversOpening (d : Dialect) : GuardFree (resolversOpening d) := by
  simp [resolversOpening, Instruction.isGuard]

theorem guardFree_resolversClosing (d : Dialect) : GuardFree (resolversClosing d) := by
  simp [resolversClosing, Instruction.isGuard]

/-! ## Passages -/

/-- The groups of a handle without the resolvers, which are written out by themselves. -/
def HandleGroup.withoutResolvers (d : Dialect) (g : HandleGroup) :
    List (Group (Option String) Resolved) :=
  g.byOwner.map fun owned => ⟨owned.key, owned.items.filter (!isResolver d ·.name)⟩

/-- The passages of a base interface. -/
def interfacePassages (r : Registry) (g : HandleGroup) : List Passage :=
  match g.handle? with
  | none => []
  | some handle =>
    [scaffold (interfaceOpening r.dialect handle) (guardFree_interfaceOpening _ _)] ++
      (methods r handle).passages (g.withoutResolvers r.dialect) ++
      [scaffold structClosing guardFree_structClosing]

/-- The passages of a wrapper, or of the prototypes. -/
def wrapperPassages (d : Dialect) (g : HandleGroup) : List Passage :=
  match g.handle? with
  | none => prototypes.passages (g.withoutResolvers d)
  | some handle =>
    [scaffold (wrapperOpening d handle) (guardFree_wrapperOpening _ _)] ++
      (wrapperMethods handle).passages (g.withoutResolvers d) ++
      [scaffold structClosing guardFree_structClosing]

/-- The passages of the free functions of a handle. -/
def functionPassages (d : Dialect) (g : HandleGroup) : List Passage :=
  match g.handle? with
  | none => []
  | some _ => functions.passages (g.withoutResolvers d)

/-- The passages of the header. -/
def passages (r : Registry) : Except HeaderError (List Passage) := do
  let gs ← (groups r).mapError .registry
  return [scaffold prologue guardFree_prologue] ++
    ([scaffold (namespaceOpening r.dialect) (guardFree_namespaceOpening _)] ++
      gs.flatMap (interfacePassages r) ++ [scaffold namespaceClosing guardFree_namespaceClosing]) ++
    gs.flatMap (wrapperPassages r.dialect) ++ gs.flatMap (functionPassages r.dialect) ++
    ([scaffold (resolversOpening r.dialect) (guardFree_resolversOpening _)] ++
      gs.flatMap (fun g => arms.passages g.byOwner) ++
      [scaffold (resolversClosing r.dialect) (guardFree_resolversClosing _)])

/-! ## What is shown -/

variable {r : Registry} {g : HandleGroup} {gs : List HandleGroup}

/-- Leaving out the resolvers keeps the groups formed by owner. -/
theorem ownedGroups_withoutResolvers (d : Dialect) (h : r.OwnedGroups g.byOwner) :
    r.OwnedGroups (g.withoutResolvers d) := by
  intro owned howned c hc
  obtain ⟨all, hall, rfl⟩ := List.mem_map.1 howned
  exact h all hall c (List.mem_of_mem_filter hc)

/-- The commands of a handle are written under the guards of the groups without resolvers. -/
theorem commandLines_eq (d : Dialect) (g : HandleGroup) (lines : Resolved → List Instruction) :
    commandLines d g lines = (g.withoutResolvers d).flatMap fun owned =>
      match owned.key with
      | some token =>
        guarded 0 (some token) .annotated (.blank :: owned.items.flatMap lines) ++ [.blank]
      | none => owned.items.flatMap lines := by
  rw [HandleGroup.withoutResolvers, List.flatMap_map]
  rfl

/-- **The commands of a handle** but the resolvers, in one role, lie under the guards of their
owners. -/
theorem shows_commandLines (d : Dialect) (h : r.OwnedGroups g.byOwner) (e : Emission) :
    r.Shows (commandLines d g e.lines) (e.passages (g.withoutResolvers d)) := by
  rw [commandLines_eq]
  refine Registry.shows_flatMap fun owned howned => ?_
  have hguard := (ownedGroups_withoutResolvers d h).guard?_passage e howned
  have hlines : owned.items.flatMap e.lines = (owned.items.map e.passage).flatMap (·.body) := by
    rw [List.flatMap_map]
    rfl
  have hfree := guardFree_passages (owned.items.map e.passage)
  rw [hlines]
  rcases hkey : owned.key with _ | token
  · rw [hkey] at hguard
    show r.Shows (guarded 0 none .annotated _) _
    exact Registry.shows_guarded hfree rfl hguard
  · rw [hkey] at hguard
    have hshown : r.Shows (guarded 0 (some token) .annotated
        (.blank :: (owned.items.map e.passage).flatMap (·.body))) (owned.items.map e.passage) :=
      Registry.shows_guarded (guardFree_cons.2 ⟨rfl, hfree⟩) rfl hguard
    have hblank := hshown.append Registry.shows_blank
    rwa [List.append_nil] at hblank

/-- A base interface shows its passages. -/
theorem shows_interfaceLines (h : r.OwnedGroups g.byOwner) :
    r.Shows (interfaceLines r g) (interfacePassages r g) := by
  unfold interfaceLines interfacePassages
  rcases g.handle? with _ | handle
  · exact Registry.shows_nil
  · exact ((Registry.shows_scaffold _).append (shows_commandLines _ h (methods r handle))).append
      (Registry.shows_scaffold _)

/-- A wrapper, or the prototypes, show their passages. -/
theorem shows_wrapperLines (d : Dialect) (h : r.OwnedGroups g.byOwner) :
    r.Shows (wrapperLines d g) (wrapperPassages d g) := by
  unfold wrapperLines wrapperPassages
  rcases g.handle? with _ | handle
  · exact shows_commandLines d h prototypes
  · exact ((Registry.shows_scaffold _).append
      (shows_commandLines d h (wrapperMethods handle))).append (Registry.shows_scaffold _)

/-- The free functions of a handle show their passages. -/
theorem shows_functionsLines (d : Dialect) (h : r.OwnedGroups g.byOwner) :
    r.Shows (functionsLines d g) (functionPassages d g) := by
  unfold functionsLines functionPassages
  rcases g.handle? with _ | handle
  · exact Registry.shows_nil
  · exact shows_commandLines d h functions

/-! ## Groups -/

/-- The commands of the groups of a handle. -/
def HandleGroup.commands (g : HandleGroup) : List Resolved :=
  g.byOwner.flatMap (·.items)

/-- The groups are made from the resolved commands of the standard profile. -/
theorem groups_eq_ok_iff :
    groups r = .ok gs ↔
      ∃ xs, r.resolveStandard = .ok xs ∧
        gs = (groupBy (·.handle?) xs).map fun g => ⟨g.key, groupBy (·.guard?) g.items⟩ := by
  rw [groups, bind_eq_ok_iff]
  exact exists_congr fun xs => and_congr_right fun _ =>
    ⟨fun h => (Except.ok.inj h).symm, fun h => h ▸ rfl⟩

/-- Grouping fails as resolving the commands of the standard profile does. -/
theorem groups_eq_error_iff {e : RegistryError} :
    groups r = .error e ↔ r.resolveStandard = .error e := by
  rw [groups, bind_eq_error_iff]
  constructor
  · rintro (h | ⟨xs, -, h⟩)
    · exact h
    · cases h
  · exact Or.inl

/-- The groups of every handle are formed by owner. -/
theorem ownedGroups_of_groups (h : groups r = .ok gs) (hg : g ∈ gs) : r.OwnedGroups g.byOwner := by
  obtain ⟨xs, hxs, rfl⟩ := groups_eq_ok_iff.1 h
  obtain ⟨byHandle, hbyHandle, rfl⟩ := List.mem_map.1 hg
  refine Registry.ownedGroups_groupBy fun x hx => ?_
  have hmem : x ∈ xs := (mem_groupBy_iff.1 ⟨byHandle, hbyHandle, rfl, hx⟩).1
  exact Registry.guard?_of_resolve ((Registry.resolveStandard_spec hxs).2 x hmem)

/-- **The header shows its passages.** -/
theorem shows_of_header {h : Header} (hh : header r = .ok h) :
    ∃ ps, passages r = .ok ps ∧ r.Shows h.body ps := by
  obtain ⟨gs, hgs, hreturn⟩ := bind_eq_ok_iff.1 hh
  cases hreturn
  refine ⟨_, bind_eq_ok_iff.2 ⟨gs, hgs, rfl⟩, ?_⟩
  have howned : ∀ g ∈ gs, r.OwnedGroups g.byOwner := fun g hg =>
    ownedGroups_of_groups (mapError_eq_ok_iff.1 hgs) hg
  refine ((((Registry.shows_scaffold _).append ?interfaces).append ?wrappers).append
    ?functions).append ?resolvers
  case interfaces =>
    exact ((Registry.shows_scaffold _).append
      (Registry.shows_flatMap fun g hg => shows_interfaceLines (howned g hg))).append
        (Registry.shows_scaffold _)
  case wrappers =>
    exact Registry.shows_flatMap fun g hg => shows_wrapperLines _ (howned g hg)
  case functions =>
    exact Registry.shows_flatMap fun g hg => shows_functionsLines _ (howned g hg)
  case resolvers =>
    refine ((Registry.shows_scaffold _).append (Registry.shows_flatMap fun g hg => ?_)).append
      (Registry.shows_scaffold _)
    exact Registry.shows_guardedGroups (howned g hg) _ _ _ 0 .annotated

/-! ## Commands of the groups -/

/-- The groups of all handles hold the commands of the standard profile, in another order. -/
theorem perm_commands (h : groups r = .ok gs) :
    ∃ xs, r.resolveStandard = .ok xs ∧ (gs.flatMap (·.commands)).Perm xs := by
  obtain ⟨xs, hxs, rfl⟩ := groups_eq_ok_iff.1 h
  refine ⟨xs, hxs, ?_⟩
  rw [List.flatMap_map]
  exact (List.Perm.flatMap_left _ fun g _ => perm_groupBy _ g.items).trans (perm_groupBy _ xs)

/-- **What is in the groups of a handle**: the commands that are dispatched on it. -/
theorem mem_commands_iff {xs : List Resolved} (hxs : r.resolveStandard = .ok xs)
    (h : groups r = .ok gs) {handle? : Option String} {x : Resolved} :
    (∃ g ∈ gs, g.handle? = handle? ∧ x ∈ g.commands) ↔ x ∈ xs ∧ x.handle? = handle? := by
  obtain ⟨ys, hys, rfl⟩ := groups_eq_ok_iff.1 h
  rw [hxs] at hys
  cases hys
  rw [← mem_groupBy_iff]
  constructor
  · rintro ⟨_, hg, hhandle, hx⟩
    obtain ⟨byHandle, hbyHandle, rfl⟩ := List.mem_map.1 hg
    exact ⟨byHandle, hbyHandle, hhandle, (perm_groupBy _ _).mem_iff.1 hx⟩
  · rintro ⟨byHandle, hbyHandle, hhandle, hx⟩
    exact ⟨_, List.mem_map_of_mem hbyHandle, hhandle, (perm_groupBy _ _).mem_iff.2 hx⟩

/-- What is in one group of a handle: the commands that are dispatched on it. -/
theorem mem_commands_iff_of_mem {xs : List Resolved} (hxs : r.resolveStandard = .ok xs)
    (h : groups r = .ok gs) (hg : g ∈ gs) {x : Resolved} :
    x ∈ g.commands ↔ x ∈ xs ∧ x.handle? = g.handle? := by
  obtain ⟨ys, hys, rfl⟩ := groups_eq_ok_iff.1 h
  rw [hxs] at hys
  cases hys
  obtain ⟨byHandle, hbyHandle, rfl⟩ := List.mem_map.1 hg
  exact (perm_groupBy _ _).mem_iff.trans (mem_items_iff hbyHandle)

/-- What is left of the commands of a handle without the resolvers. -/
theorem flatMap_withoutResolvers (d : Dialect) (g : HandleGroup) :
    (g.withoutResolvers d).flatMap (·.items) = g.commands.filter (!isResolver d ·.name) := by
  rw [HandleGroup.withoutResolvers, List.flatMap_map, HandleGroup.commands, ← List.filter_flatMap]

/-- The commands of a handle without the resolvers. -/
theorem mem_withoutResolvers_iff {d : Dialect} {c : Resolved} :
    c ∈ (g.withoutResolvers d).flatMap (·.items) ↔
      c ∈ g.commands ∧ isResolver d c.name = false := by
  rw [flatMap_withoutResolvers, List.mem_filter, Bool.not_eq_true']

theorem mem_emissions_iff {c : Resolved} {e : Emission} :
    e ∈ emissions r c ↔
      e = arms ∨ isResolver r.dialect c.name = false ∧ e ∈ handleEmissions r c.handle? := by
  unfold emissions
  rw [List.mem_cons]
  rcases isResolver r.dialect c.name with _ | _
  · simp
  · simp

/-- The passages of a handle but the arms are what is emitted for its commands but the resolvers. -/
theorem mem_handleEmissions_iff {p : Passage} (hp : p.topic ≠ .scaffold) :
    ((p ∈ interfacePassages r g ∨ p ∈ wrapperPassages r.dialect g) ∨
        p ∈ functionPassages r.dialect g) ↔
      ∃ e ∈ handleEmissions r g.handle?, p ∈ e.passages (g.withoutResolvers r.dialect) := by
  unfold interfacePassages wrapperPassages functionPassages handleEmissions
  rcases g.handle? with _ | handle
  · simp
  · simp [Passage.ne_scaffold hp, or_assoc]

/-- What the passages of a handle are about: its commands. -/
theorem mem_handlePassages_iff (hhandle : ∀ c ∈ g.commands, c.handle? = g.handle?) {p : Passage}
    (hp : p.topic ≠ .scaffold) :
    (((p ∈ interfacePassages r g ∨ p ∈ wrapperPassages r.dialect g) ∨
        p ∈ functionPassages r.dialect g) ∨ p ∈ arms.passages g.byOwner) ↔
      ∃ c ∈ g.commands, ∃ e ∈ emissions r c, e.passage c = p := by
  rw [mem_handleEmissions_iff hp]
  constructor
  · rintro (⟨e, he, hpass⟩ | hpass)
    · obtain ⟨c, hc, rfl⟩ := Emission.mem_passages_iff.1 hpass
      obtain ⟨hmem, hres⟩ := mem_withoutResolvers_iff.1 hc
      exact ⟨c, hmem, e, mem_emissions_iff.2 (Or.inr ⟨hres, hhandle c hmem ▸ he⟩), rfl⟩
    · obtain ⟨c, hc, rfl⟩ := Emission.mem_passages_iff.1 hpass
      exact ⟨c, hc, arms, mem_emissions_iff.2 (Or.inl rfl), rfl⟩
  · rintro ⟨c, hc, e, he, rfl⟩
    rcases mem_emissions_iff.1 he with rfl | ⟨hres, he⟩
    · exact Or.inr (Emission.mem_passages_iff.2 ⟨c, hc, rfl⟩)
    · exact Or.inl ⟨e, hhandle c hc ▸ he,
        Emission.mem_passages_iff.2 ⟨c, mem_withoutResolvers_iff.2 ⟨hc, hres⟩, rfl⟩⟩

/-- **What the passages are about**: the commands of the standard profile. -/
theorem mem_passages_iff {ps : List Passage} (h : passages r = .ok ps) {p : Passage}
    (hp : p.topic ≠ .scaffold) :
    p ∈ ps ↔ ∃ xs, r.resolveStandard = .ok xs ∧
      ∃ c ∈ xs, ∃ e ∈ emissions r c, e.passage c = p := by
  obtain ⟨gs, hgs, hreturn⟩ := bind_eq_ok_iff.1 h
  cases hreturn
  obtain ⟨xs, hxs, hperm⟩ := perm_commands (mapError_eq_ok_iff.1 hgs)
  have hhandle : ∀ g ∈ gs, ∀ c ∈ g.commands, c.handle? = g.handle? := fun g hg c hc =>
    ((mem_commands_iff_of_mem hxs (mapError_eq_ok_iff.1 hgs) hg).1 hc).2
  -- the header goes through the handles in each of its parts; collect the parts of one handle
  simp only [List.mem_append, List.mem_singleton, Passage.ne_scaffold hp, false_or, or_false,
    List.mem_flatMap, ← exists_or, ← and_or_left]
  constructor
  · rintro ⟨g, hg, hplaces⟩
    obtain ⟨c, hc, hemitted⟩ := (mem_handlePassages_iff (hhandle g hg) hp).1 hplaces
    exact ⟨xs, hxs, c, hperm.mem_iff.1 (List.mem_flatMap.2 ⟨g, hg, hc⟩), hemitted⟩
  · rintro ⟨ys, hys, c, hc, hemitted⟩
    rw [hxs] at hys
    cases hys
    obtain ⟨g, hg, hcg⟩ := List.mem_flatMap.1 (hperm.mem_iff.2 hc)
    exact ⟨g, hg, (mem_handlePassages_iff (hhandle g hg) hp).2 ⟨c, hcg, hemitted⟩⟩

end LayerHeaders.DriverInterface
