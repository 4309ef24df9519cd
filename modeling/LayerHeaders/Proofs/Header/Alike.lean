import LayerHeaders.Header.Kind
import LayerHeaders.Proofs.Classification
import LayerHeaders.Proofs.Group
import LayerHeaders.Proofs.Header.DispatchTable
import LayerHeaders.Proofs.Header.DriverInterface
import LayerHeaders.Proofs.Registry.Alike
import LayerHeaders.Proofs.Related

/-!
# Headers of registries that resolve alike

A header shows of a command its name, its result, its parameters in the standard profile, its guard and
the handle or the chain that it is dispatched on. Other declarations that keep those of a registry change
none of these, so they change no line.

* `Registry.Keeps.forwardTarget?_eq`: default bodies forward to the same commands.
* `DispatchTable.header_redeclare`, `DriverInterface.header_redeclare`: the two headers stay the same.
* `Registry.Keeps.header`: every header stays the same.
-/

namespace LayerHeaders

namespace Registry

variable {r : Registry} {commands index : List Command} {x x' : Resolved}

/-- Twins are in the same chain. -/
theorem Twins.chain_eq (h : r.Twins x x') : (r.redeclare commands index).chain x' = r.chain x := by
  unfold chain
  rw [h.alike.signature.receiver?]
  rfl

/-- **Default bodies forward to the same commands.** -/
theorem Keeps.forwardTarget?_eq (h : r.Keeps commands index) (hx : r.Twins x x') :
    (r.redeclare commands index).forwardTarget? x' = r.forwardTarget? x := by
  obtain ⟨s', -, -, hlinks⟩ := h.aliasChain hx.alike.command hx.resolve
  refine map_eq_of_rel (fun c c' hc => hc.name) (find?_forall₂ (fun c c' hc => ?_) hlinks)
  rw [isRestricted_redeclare hc, hc.name, hx.alike.guard?_eq]
  rfl

/-- The commands of each chain are twins, in order. -/
theorem Keeps.classify (h : r.Keeps commands index) {k : Classification} (hk : r.classify = .ok k) :
    ∃ k', (r.redeclare commands index).classify = .ok k' ∧
      ∀ chain, List.Forall₂ r.Twins (k.commands chain) (k'.commands chain) := by
  obtain ⟨xs, hxs, rfl⟩ := classify_eq_ok_iff.1 hk
  obtain ⟨xs', hxs', htwins⟩ := h.resolveStandard hxs
  refine ⟨_, classify_eq_ok_iff.2 ⟨xs', hxs', rfl⟩, fun chain => ?_⟩
  cases chain with
  | topLevel =>
      refine filter_forall₂ (fun x x' hx => ?_) htwins
      rw [hx.chain_eq]
  | perDevice =>
      refine filter_forall₂ (fun x x' hx => ?_) htwins
      rw [hx.chain_eq]

end Registry

/-! ## Dispatch tables -/

namespace DispatchTable

variable {r : Registry} {commands index : List Command} {k k' : Classification}

/-- The chain of a name is the same. -/
theorem chain?_eq_of_twins (hk : ∀ chain, List.Forall₂ r.Twins (k.commands chain) (k'.commands chain))
    (name : String) : k'.chain? name = k.chain? name := by
  have hany : ∀ chain, (k'.commands chain).any (·.name = name) = (k.commands chain).any (·.name = name) := by
    intro chain
    have hnames := map_eq_of_forall₂ (f := Resolved.name) (g := Resolved.name)
      (fun x x' hx => hx.alike.name_eq) (hk chain)
    have hsame := congrArg (fun names => names.any (· = name)) hnames
    rw [List.any_map, List.any_map] at hsame
    exact hsame
  have htop := hany .topLevel
  have hdevice := hany .perDevice
  simp only [Classification.commands] at htop hdevice
  unfold Classification.chain?
  rw [htop, hdevice]

/-- Whether two tables are written from twins. -/
structure Table.Twins (r : Registry) (t t' : Table) : Prop where
  /-- The layout is the same. -/
  layout : t'.layout = t.layout
  /-- The type of the handle is the same. -/
  handleType : t'.handleType = t.handleType
  /-- The groups hold twins. -/
  groups : List.Forall₂ (Group.Related r.Twins) t.groups t'.groups

/-- A section of a structure, written from twins. -/
theorem sectionLines_eq_of_twins {gs gs' : List (Group (Option String) Resolved)}
    {line : Resolved → Instruction} (hline : ∀ x x', r.Twins x x' → line x' = line x)
    (h : List.Forall₂ (Group.Related r.Twins) gs gs') : sectionLines gs' line = sectionLines gs line := by
  refine flatMap_eq_of_forall₂ (fun g g' hg => ?_) h
  rw [hg.key, map_eq_of_forall₂ hline hg.items]

/-- **A structure that is written from twins** is the same. -/
theorem Table.Twins.structLines_eq {t t' : Table} (h : Table.Twins r t t') (d : Dialect) :
    structLines d t' = structLines d t := by
  have hfield : ∀ x x', r.Twins x x' → fieldLine d x' = fieldLine d x := by
    intro x x' hx
    rw [fieldLine, fieldLine, hx.alike.name_eq]
  have hassignment : ∀ x x', r.Twins x x' → assignmentLine d x' = assignmentLine d x := by
    intro x x' hx
    rw [assignmentLine, assignmentLine, hx.alike.name_eq]
  have hmatch : ∀ x x', r.Twins x x' → matchLine d x' = matchLine d x := by
    intro x x' hx
    rw [matchLine, matchLine, hx.alike.name_eq]
  unfold structLines structOpening initializeOpening getOpening structClosing
  rw [h.layout, h.handleType, sectionLines_eq_of_twins hfield h.groups,
    sectionLines_eq_of_twins hassignment h.groups, sectionLines_eq_of_twins hmatch h.groups]

/-- A table of the registry, and the one of other declarations. -/
theorem exists_table_twins (h : r.Keeps commands index)
    (hk : ∀ chain, List.Forall₂ r.Twins (k.commands chain) (k'.commands chain)) {l : Layout} {t : Table}
    (ht : table r k l = .ok t) :
    ∃ t', table (r.redeclare commands index) k' l = .ok t' ∧ Table.Twins r t t' := by
  obtain ⟨hchain, x, hx, rfl⟩ := table_eq_ok_iff.1 ht
  obtain ⟨x', hx', halike⟩ := h.resolveNamed hx
  have hchain' : k'.chain? l.resolver = some l.chain := by
    rw [chain?_eq_of_twins hk]
    exact hchain
  refine ⟨_, table_eq_ok_iff.2 ⟨hchain', x', hx', rfl⟩, rfl, ?_, ?_⟩
  · rw [halike.signature.receiver?]
  · exact forall₂_groupBy (fun _ _ hx => hx.alike.guard?_eq) (hk l.chain)

/-- **The header of dispatch tables stays the same.** -/
theorem header_redeclare (h : r.Keeps commands index) {header' : Header}
    (hh : header r = .ok header') : header (r.redeclare commands index) = .ok header' := by
  obtain ⟨k, hk, hbuild⟩ := bind_eq_ok_iff.1 hh
  obtain ⟨ts, hts, hreturn⟩ := bind_eq_ok_iff.1 hbuild
  cases hreturn
  obtain ⟨k', hk', htwins⟩ := h.classify (mapError_eq_ok_iff.1 hk)
  have hlayouts : List.Forall₂ (· = ·) (layouts r.dialect) (layouts r.dialect) :=
    List.forall₂_refl _
  have htable : ∀ l l' t, l = l' → table r k l = .ok t →
      ∃ t', table (r.redeclare commands index) k' l' = .ok t' ∧ Table.Twins r t t' := by
    rintro l _ t rfl ht
    exact exists_table_twins h htwins ht
  obtain ⟨ts', hts', htables⟩ := exists_mapM_eq_ok_of_forall₂ htable hlayouts hts
  refine bind_eq_ok_iff.2 ⟨k', mapError_eq_ok_iff.2 hk', bind_eq_ok_iff.2 ⟨ts', hts', ?_⟩⟩
  have hlines := flatMap_eq_of_forall₂ (R := Table.Twins r)
    (fun _ _ ht => ht.structLines_eq r.dialect) htables
  have hdialect : (r.redeclare commands index).dialect = r.dialect := rfl
  rw [hdialect, hlines]
  rfl

end DispatchTable

/-! ## The interface of a driver -/

namespace DriverInterface

variable {r : Registry} {commands index : List Command}

/-- Whether two groups of a handle hold twins. -/
structure HandleGroup.Twins (r : Registry) (g g' : HandleGroup) : Prop where
  /-- The handle is the same. -/
  handle? : g'.handle? = g.handle?
  /-- The groups by owner hold twins. -/
  byOwner : List.Forall₂ (Group.Related r.Twins) g.byOwner g'.byOwner

/-- The groups of a registry, and those of other declarations. -/
theorem exists_groups_twins (h : r.Keeps commands index) {gs : List HandleGroup}
    (hgs : groups r = .ok gs) :
    ∃ gs', groups (r.redeclare commands index) = .ok gs' ∧
      List.Forall₂ (HandleGroup.Twins r) gs gs' := by
  obtain ⟨xs, hxs, rfl⟩ := groups_eq_ok_iff.1 hgs
  obtain ⟨xs', hxs', htwins⟩ := h.resolveStandard hxs
  refine ⟨_, groups_eq_ok_iff.2 ⟨xs', hxs', rfl⟩, ?_⟩
  rw [List.forall₂_map_left_iff, List.forall₂_map_right_iff]
  refine (forall₂_groupBy (fun _ _ hx => hx.alike.handle?) htwins).imp fun g g' hg => ?_
  exact ⟨hg.key, forall₂_groupBy (fun _ _ hx => hx.alike.guard?_eq) hg.items⟩

/-- The lines of the commands of a handle, written from twins. -/
theorem commandLines_eq_of_twins {d : Dialect} {g g' : HandleGroup}
    {lines lines' : Resolved → List Instruction} (hlines : ∀ x x', r.Twins x x' → lines' x' = lines x)
    (h : HandleGroup.Twins r g g') : commandLines d g' lines' = commandLines d g lines := by
  refine flatMap_eq_of_forall₂ (fun owned owned' howned => ?_) h.byOwner
  have hitems := filter_forall₂ (p := fun x => !isResolver d x.name) (q := fun x => !isResolver d x.name)
    (fun x x' hx => by rw [hx.alike.name_eq]) howned.items
  rw [howned.key, flatMap_eq_of_forall₂ hlines hitems]

/-- A virtual method, written from twins. -/
theorem methodLines_eq_of_twins (h : r.Keeps commands index) {x x' : Resolved} (hx : r.Twins x x') :
    methodLines (r.redeclare commands index) x' = methodLines r x := by
  unfold methodLines defaultBody
  rw [h.forwardTarget?_eq hx, hx.alike.name_eq, hx.alike.result_eq, hx.alike.params_eq]

/-- The other lines of a command show nothing in which twins differ. -/
theorem wrapperMethodLines_eq_of_twins {x x' : Resolved} (hx : r.Twins x x') :
    wrapperMethodLines x' = wrapperMethodLines x := by
  unfold wrapperMethodLines
  rw [hx.alike.name_eq, hx.alike.result_eq, hx.alike.params_eq]

theorem prototypeLines_eq_of_twins {x x' : Resolved} (hx : r.Twins x x') :
    prototypeLines x' = prototypeLines x := by
  unfold prototypeLines
  rw [hx.alike.name_eq, hx.alike.result_eq, hx.alike.params_eq]

theorem functionLines_eq_of_twins {x x' : Resolved} (hx : r.Twins x x') :
    functionLines x' = functionLines x := by
  unfold functionLines
  rw [hx.alike.name_eq, hx.alike.result_eq, hx.alike.params_eq]

theorem resolverArm_eq_of_twins {x x' : Resolved} (hx : r.Twins x x') :
    resolverArm x' = resolverArm x := by
  unfold resolverArm
  rw [hx.alike.name_eq]

/-- The parts of the header about a handle, written from twins. -/
theorem interfaceLines_eq_of_twins (h : r.Keeps commands index) {g g' : HandleGroup}
    (hg : HandleGroup.Twins r g g') :
    interfaceLines (r.redeclare commands index) g' = interfaceLines r g := by
  unfold interfaceLines
  rw [hg.handle?]
  rcases g.handle? with _ | handle
  · rfl
  · dsimp only
    rw [commandLines_eq_of_twins (fun _ _ hx => methodLines_eq_of_twins h hx) hg]
    rfl

theorem wrapperLines_eq_of_twins (d : Dialect) {g g' : HandleGroup} (hg : HandleGroup.Twins r g g') :
    wrapperLines d g' = wrapperLines d g := by
  unfold wrapperLines
  rw [hg.handle?, commandLines_eq_of_twins (fun _ _ hx => prototypeLines_eq_of_twins hx) hg,
    commandLines_eq_of_twins (fun _ _ hx => wrapperMethodLines_eq_of_twins hx) hg]

theorem functionsLines_eq_of_twins (d : Dialect) {g g' : HandleGroup} (hg : HandleGroup.Twins r g g') :
    functionsLines d g' = functionsLines d g := by
  unfold functionsLines
  rw [hg.handle?, commandLines_eq_of_twins (fun _ _ hx => functionLines_eq_of_twins hx) hg]

theorem armsLines_eq_of_twins {g g' : HandleGroup} (hg : HandleGroup.Twins r g g') :
    armsLines g' = armsLines g := by
  refine flatMap_eq_of_forall₂ (fun owned owned' howned => ?_) hg.byOwner
  rw [howned.key, map_eq_of_forall₂ (fun _ _ hx => resolverArm_eq_of_twins hx) howned.items]

/-- **The header of a driver's interface stays the same.** -/
theorem header_redeclare (h : r.Keeps commands index) {header' : Header}
    (hh : header r = .ok header') : header (r.redeclare commands index) = .ok header' := by
  obtain ⟨gs, hgs, hreturn⟩ := bind_eq_ok_iff.1 hh
  cases hreturn
  obtain ⟨gs', hgs', htwins⟩ := exists_groups_twins h (mapError_eq_ok_iff.1 hgs)
  refine bind_eq_ok_iff.2 ⟨gs', mapError_eq_ok_iff.2 hgs', ?_⟩
  have hinterfaces := flatMap_eq_of_forall₂ (fun _ _ hg => interfaceLines_eq_of_twins h hg) htwins
  have hwrappers := flatMap_eq_of_forall₂ (fun _ _ hg => wrapperLines_eq_of_twins r.dialect hg) htwins
  have hfunctions := flatMap_eq_of_forall₂ (fun _ _ hg => functionsLines_eq_of_twins r.dialect hg) htwins
  have harms := flatMap_eq_of_forall₂ (fun _ _ hg => armsLines_eq_of_twins hg) htwins
  have hdialect : (r.redeclare commands index).dialect = r.dialect := rfl
  unfold interfacesLines resolversLines
  rw [hdialect, hinterfaces, hwrappers, hfunctions, harms]
  rfl

end DriverInterface

/-! ## Every header -/

/-- **Other declarations that keep those of a registry change no header.** -/
theorem Registry.Keeps.header {r : Registry} {commands index : List Command}
    (h : r.Keeps commands index) (kind : HeaderKind) {header : Header}
    (hh : kind.header r = .ok header) : kind.header (r.redeclare commands index) = .ok header := by
  cases kind with
  | dispatchTables => exact DispatchTable.header_redeclare h hh
  | driverInterface => exact DriverInterface.header_redeclare h hh
  | streamOperators => exact hh

end LayerHeaders
