import LayerHeaders.Proofs.Header.DriverText
import LayerHeaders.Proofs.Header.TableText

/-!
# The headers agree on the commands

The dispatch tables classify the commands of the standard profile by chain, and the interface of a
driver groups them by handle. Both are rearrangements of the same commands, so the resolver of the
interface answers the names that have a field, and the chain of a device holds the groups of its handles.

* `DriverInterface.exists_header_iff`, `DriverInterface.header_eq_error_iff`: the interface is made if the
  commands can be classified.
* `Agree`: what slots of the tables and arms of the resolver agree on.
* `headers_agree`: those of the two headers agree on it.
-/

namespace LayerHeaders

variable {r : Registry}

/-! ## When there is an interface -/

/-- **The interface is made if the commands can be classified.** -/
theorem DriverInterface.exists_header_iff :
    (∃ h, header r = .ok h) ↔ ∃ k, r.classify = .ok k := by
  constructor
  · rintro ⟨h, hh⟩
    obtain ⟨gs, hgs, -⟩ := bind_eq_ok_iff.1 hh
    obtain ⟨xs, hxs, -⟩ := groups_eq_ok_iff.1 (mapError_eq_ok_iff.1 hgs)
    exact ⟨_, Registry.classify_eq_ok_iff.2 ⟨xs, hxs, rfl⟩⟩
  · rintro ⟨k, hk⟩
    obtain ⟨xs, hxs, -⟩ := Registry.classify_eq_ok_iff.1 hk
    have hgs := groups_eq_ok_iff.2 ⟨xs, hxs, rfl⟩
    exact ⟨_, bind_eq_ok_iff.2 ⟨_, mapError_eq_ok_iff.2 hgs, rfl⟩⟩

/-- **The interface fails as classifying does.** -/
theorem DriverInterface.header_eq_error_iff {e : HeaderError} :
    header r = .error e ↔ ∃ cause, r.classify = .error cause ∧ e = .registry cause := by
  unfold header
  rw [bind_eq_error_iff, mapError_eq_error_iff]
  simp only [groups_eq_error_iff, ← Registry.classify_eq_error_iff]
  constructor
  · rintro (⟨cause, hcause, rfl⟩ | ⟨gs, -, hreturn⟩)
    · exact ⟨cause, hcause, rfl⟩
    · cases hreturn
  · rintro ⟨cause, hcause, rfl⟩
    exact Or.inl ⟨cause, hcause, rfl⟩

/-! ## What the headers hold -/

/-- **What the two headers agree on**: the slots of the tables of the top level and of devices, the arms of
the resolver, and the groups of the interface. -/
structure Agree (r : Registry) (top devices : List DispatchTable.Slot) (arms : List DriverInterface.Arm)
    (gs : List DriverInterface.HandleGroup) : Prop where
  /-- The arms of the resolver are the commands with a slot, under the same guards. -/
  arms_perm : (arms.map fun a => (a.guard?, a.command)).Perm
    ((top ++ devices).map fun s => (s.guard?, s.command))
  /-- No command has two slots. -/
  slots_nodup : ((top ++ devices).map (·.command)).Nodup
  /-- No command has two arms. -/
  arms_nodup : (arms.map (·.command)).Nodup
  /-- The table of devices holds the groups of the handles that are not designated for the top level. -/
  mem_devices_iff : ∀ name, name ∈ devices.map (·.command) ↔
    ∃ g ∈ gs, ∃ handle, g.handle? = some handle ∧ handle ∉ r.dialect.topLevelHandles ∧
      name ∈ g.commands.map (·.name)

/-- The commands of devices are what is in the groups of handles that are not designated for the top
level. -/
theorem mem_perDevice_iff_groups {k : Classification} (hk : r.classify = .ok k)
    {gs : List DriverInterface.HandleGroup} (hgs : DriverInterface.groups r = .ok gs) {x : Resolved} :
    x ∈ k.perDevice ↔ ∃ g ∈ gs, ∃ handle, g.handle? = some handle ∧
      handle ∉ r.dialect.topLevelHandles ∧ x ∈ g.commands := by
  obtain ⟨xs, hxs, rfl⟩ := Registry.classify_eq_ok_iff.1 hk
  have hgroup : ∀ handle?, (∃ g ∈ gs, g.handle? = handle? ∧ x ∈ g.commands) ↔
      x ∈ xs ∧ x.handle? = handle? := fun _ => DriverInterface.mem_commands_iff hxs hgs
  simp only [List.mem_filter, decide_eq_true_eq]
  constructor
  · rintro ⟨hx, hchain⟩
    have hresolved := (Registry.resolveStandard_spec hxs).2 x hx
    obtain ⟨handle, hhandle, htop⟩ := (Registry.chain_eq_perDevice_iff_handle? hresolved).1 hchain
    obtain ⟨g, hg, hkey, hmem⟩ := (hgroup (some handle)).2 ⟨hx, hhandle⟩
    exact ⟨g, hg, handle, hkey, htop, hmem⟩
  · rintro ⟨g, hg, handle, hkey, htop, hmem⟩
    obtain ⟨hx, hhandle⟩ := (hgroup (some handle)).1 ⟨g, hg, hkey, hmem⟩
    have hresolved := (Registry.resolveStandard_spec hxs).2 x hx
    exact ⟨hx, (Registry.chain_eq_perDevice_iff_handle? hresolved).2 ⟨handle, hhandle, htop⟩⟩

/-- The slots of the classified commands agree with the arms of the grouped ones. -/
theorem agree_of_perm {d : Dialect} {document : String} (h : Registry.read d document = .ok r)
    {k : Classification} (hk : r.classify = .ok k) {gs : List DriverInterface.HandleGroup}
    (hgs : DriverInterface.groups r = .ok gs) {top devices : List Resolved} (htop : top.Perm k.topLevel)
    (hdevices : devices.Perm k.perDevice) :
    Agree r (top.map (DispatchTable.slot r)) (devices.map (DispatchTable.slot r))
      ((gs.flatMap (·.commands)).map (DriverInterface.arm r)) gs := by
  obtain ⟨xs, hxs, hclassified⟩ := Registry.perm_of_classify hk
  obtain ⟨ys, hys, hgrouped⟩ := DriverInterface.perm_commands hgs
  rw [hxs] at hys
  cases hys
  have hperm : (gs.flatMap (·.commands)).Perm (top ++ devices) :=
    (hgrouped.trans hclassified.symm).trans (htop.append hdevices).symm
  have hnames : ((top ++ devices).map (·.name)).Nodup := by
    rw [((htop.append hdevices).map _).nodup_iff]
    exact Registry.names_nodup_of_classify h hk
  refine {
    arms_perm := ?_
    slots_nodup := ?_
    arms_nodup := ?_
    mem_devices_iff := fun name => ?_ }
  · rw [← List.map_append, List.map_map, List.map_map]
    exact hperm.map fun c => (r.commandGuard? c.name, c.name)
  · rw [← List.map_append, List.map_map]
    exact hnames
  · rw [List.map_map]
    exact (hperm.map (·.name)).nodup_iff.2 hnames
  · rw [List.map_map]
    simp only [List.mem_map, hdevices.mem_iff, mem_perDevice_iff_groups hk hgs, Function.comp_apply]
    constructor
    · rintro ⟨x, ⟨g, hg, handle, hkey, htop, hx⟩, hname⟩
      exact ⟨g, hg, handle, hkey, htop, x, hx, hname⟩
    · rintro ⟨g, hg, handle, hkey, htop, x, hx, hname⟩
      exact ⟨x, ⟨g, hg, handle, hkey, htop, hx⟩, hname⟩

/-- **The headers agree.** The interface is made exactly if the commands can be classified, and fails as
classifying does. If the tables are made too, the slots of the two tables are the commands that the resolver
of the interface has an arm for, under the same guards. -/
theorem headers_agree {d : Dialect} {document : String} (h : Registry.read d document = .ok r) :
    ((∃ interface, DriverInterface.header r = .ok interface) ↔ ∃ k, r.classify = .ok k) ∧
      (∀ e, DriverInterface.header r = .error e ↔
        ∃ cause, r.classify = .error cause ∧ e = .registry cause) ∧
      ∀ tables interface, DispatchTable.header r = .ok tables →
        DriverInterface.header r = .ok interface →
          ∃ topType deviceType topFallback deviceFallback before top devices arms gs,
            walk none tables.body = some (DispatchTable.prologueText ++
              DispatchTable.tableText "VkLayerInstanceDispatchTable" topType r.dialect.instanceResolver
                topFallback top ++
              DispatchTable.tableText "VkLayerDeviceDispatchTable" deviceType r.dialect.deviceResolver
                deviceFallback devices) ∧
            walk none interface.body = some (before ++ DriverInterface.resolverText r.dialect arms) ∧
            DriverInterface.groups r = .ok gs ∧ Agree r top devices arms gs := by
  refine ⟨DriverInterface.exists_header_iff, fun e => DriverInterface.header_eq_error_iff, ?_⟩
  intro tables interface htables hinterface
  obtain ⟨k, a, b, hk, ha, hb, hwalkTables⟩ := DispatchTable.exists_tableText htables
  obtain ⟨gs, declared, hgs, -, hwalkInterface⟩ := DriverInterface.exists_resolverText hinterface
  exact ⟨_, _, _, _, _, _, _, _, gs, hwalkTables, hwalkInterface, hgs,
    agree_of_perm h hk hgs (DispatchTable.perm_of_table ha) (DispatchTable.perm_of_table hb)⟩

/-- The two headers of `sample` agree, though the name of a command has another declaration there: the alias
has a field and an arm under the guard of its extension. -/
theorem headers_agree_sample :
    Registry.read {} sample = .ok sampleRegistry ∧
      ∃ tables interface topType deviceType topFallback deviceFallback before top devices arms gs,
        DispatchTable.header sampleRegistry = .ok tables ∧
        DriverInterface.header sampleRegistry = .ok interface ∧
        walk none tables.body = some (DispatchTable.prologueText ++
          DispatchTable.tableText "VkLayerInstanceDispatchTable" topType "vkGetInstanceProcAddr"
            topFallback top ++
          DispatchTable.tableText "VkLayerDeviceDispatchTable" deviceType "vkGetDeviceProcAddr"
            deviceFallback devices) ∧
        walk none interface.body = some (before ++ DriverInterface.resolverText {} arms) ∧
        DriverInterface.groups sampleRegistry = .ok gs ∧ Agree sampleRegistry top devices arms gs ∧
        (∃ lines, walk none tables.body = some lines ∧
          ⟨some "VK_KHR_trim", 1, "PFN_vkTrimKHR TrimKHR;"⟩ ∈ lines) ∧
        ∃ lines, walk none interface.body = some lines ∧ ⟨some "VK_KHR_trim", 1,
          "if( !strcmp( \"vkTrimKHR\", name ) ) return reinterpret_cast<PFN_vkVoidFunction>(&vkTrimKHR);"⟩ ∈
            lines := by
  obtain ⟨tables, tableLines, htables, hwalkTables, hfield⟩ := exists_lines_of_any
    (DispatchTable.header sampleRegistry)
    (fun lines => ⟨some "VK_KHR_trim", 1, "PFN_vkTrimKHR TrimKHR;"⟩ ∈ lines) (by decide +kernel)
  obtain ⟨interface, interfaceLines, hinterface, hwalkInterface, harm⟩ := exists_lines_of_any
    (DriverInterface.header sampleRegistry)
    (fun lines => ⟨some "VK_KHR_trim", 1,
      "if( !strcmp( \"vkTrimKHR\", name ) ) return reinterpret_cast<PFN_vkVoidFunction>(&vkTrimKHR);"⟩ ∈
        lines) (by decide +kernel)
  obtain ⟨-, -, hagree⟩ := headers_agree read_sample
  obtain ⟨topType, deviceType, topFallback, deviceFallback, before, top, devices, arms, gs, htext,
    hresolver, hgs, h⟩ := hagree tables interface htables hinterface
  exact ⟨read_sample, tables, interface, topType, deviceType, topFallback, deviceFallback, before, top,
    devices, arms, gs, htables, hinterface, htext, hresolver, hgs, h, ⟨_, hwalkTables, hfield⟩,
    ⟨_, hwalkInterface, harm⟩⟩

end LayerHeaders
