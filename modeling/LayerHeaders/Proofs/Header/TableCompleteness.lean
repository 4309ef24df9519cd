import LayerHeaders.Proofs.Header.TableText

/-!
# What a configuration keeps of the tables

A table names each of its commands three times: as a field, in the assignment to it and in the match of
its name. The three lists are written from the same groups, and a group is guarded alike in all of them,
so whatever tokens are defined, the same commands are left in all three.

The fallback of `Get` is outside every guard and calls the field of the table's own resolver. The resolver
is a command of the chain, but it may be owned by an extension, and then its field is lost where the token
of the extension is not defined.

* `exists_kept_eq`: which commands are left in the tables.
* `tables_complete`: the fields, the assignments and the matches that are left, in both tables.
* `fallback_declared_iff`: when the field that the fallback calls is left.
-/

namespace LayerHeaders

namespace DispatchTable

variable {r : Registry} {k : Classification} {t : Table} {l : Layout} {defined : String → Bool}

/-! ## What is left -/

/-- The commands of a table whose guards are active. -/
def keptCommands (r : Registry) (defined : String → Bool) (t : Table) : List Resolved :=
  (t.groups.flatMap (·.items)).filter fun c => isActive defined (r.commandGuard? c.name)

/-- The commands that are kept are those of the chain that are, in another order. -/
theorem perm_keptCommands (h : table r k l = .ok t) :
    (keptCommands r defined t).Perm
      ((k.commands l.chain).filter fun c => isActive defined (r.commandGuard? c.name)) :=
  (perm_of_table h).filter _

/-- **What is kept of the header**: what stands before the tables, and of each table the commands whose
guards are active. -/
theorem exists_kept_eq {header : Header} (hh : DispatchTable.header r = .ok header) :
    ∃ lines k a b, walk none header.body = some lines ∧ r.classify = .ok k ∧
      table r k (instanceLayout r.dialect) = .ok a ∧ table r k (deviceLayout r.dialect) = .ok b ∧
      ∀ defined : String → Bool, kept defined lines = prologueText ++
        tableText "VkLayerInstanceDispatchTable" a.handleType r.dialect.instanceResolver
          (r.dialect.commandStem r.dialect.instanceResolver) ((keptCommands r defined a).map (slot r)) ++
        tableText "VkLayerDeviceDispatchTable" b.handleType r.dialect.deviceResolver
          (r.dialect.commandStem r.dialect.deviceResolver) ((keptCommands r defined b).map (slot r)) := by
  obtain ⟨k, a, b, hk, ha, hb, hwalk⟩ := exists_tableText hh
  refine ⟨_, k, a, b, hwalk, hk, ha, hb, fun defined => ?_⟩
  have hslots : ∀ t : Table, (((t.groups.flatMap (·.items)).map (slot r)).filter fun s =>
      isActive defined s.guard?) = (keptCommands r defined t).map (slot r) := fun t => by
    rw [keptCommands, List.filter_map]
    rfl
  have hprologue : kept defined prologueText = prologueText := rfl
  rw [kept_append, kept_append, kept_tableText, kept_tableText, hslots, hslots, hprologue]

/-! ## Completeness -/

/-- **The tables are complete in every configuration.** Whatever tokens are defined, what is kept of a
table are the fields, the assignments and the matches of one list of commands: those that are classified
into its chain and are core or have a token that is defined. No two commands that are kept, in one table
or in both, have one name. -/
theorem tables_complete {d : Dialect} {document : String} (h : Registry.read d document = .ok r)
    {header : Header} (hh : DispatchTable.header r = .ok header) :
    ∃ lines k topType deviceType, walk none header.body = some lines ∧ r.classify = .ok k ∧
      ∀ defined : String → Bool, ∃ top devices : List Resolved,
        kept defined lines = prologueText ++
          tableText "VkLayerInstanceDispatchTable" topType r.dialect.instanceResolver
            (r.dialect.commandStem r.dialect.instanceResolver) (top.map (slot r)) ++
          tableText "VkLayerDeviceDispatchTable" deviceType r.dialect.deviceResolver
            (r.dialect.commandStem r.dialect.deviceResolver) (devices.map (slot r)) ∧
        top.Perm (k.topLevel.filter fun c => isActive defined (r.commandGuard? c.name)) ∧
        devices.Perm (k.perDevice.filter fun c => isActive defined (r.commandGuard? c.name)) ∧
        ((top ++ devices).map (·.name)).Nodup := by
  obtain ⟨lines, k, a, b, hwalk, hk, ha, hb, hkept⟩ := exists_kept_eq hh
  refine ⟨lines, k, a.handleType, b.handleType, hwalk, hk, fun defined => ?_⟩
  have htop : (keptCommands r defined a).Perm _ := perm_keptCommands ha
  have hdevices : (keptCommands r defined b).Perm _ := perm_keptCommands hb
  refine ⟨_, _, hkept defined, htop, hdevices, ?_⟩
  rw [((htop.append hdevices).map _).nodup_iff, ← List.filter_append]
  exact (List.filter_sublist.map _).nodup (Registry.names_nodup_of_classify h hk)

/-- Each slot of a table is declared, assigned and matched. -/
theorem slot_mem_tableText {structName handleType resolver fallback : String} {slots : List Slot}
    {s : Slot} (hs : s ∈ slots) :
    ∀ line ∈ [s.declared, s.assigned, s.matched],
      line ∈ tableText structName handleType resolver fallback slots := by
  have hdeclared : s.declared ∈ slots.map Slot.declared := List.mem_map_of_mem hs
  have hassigned : s.assigned ∈ slots.map Slot.assigned := List.mem_map_of_mem hs
  have hmatched : s.matched ∈ slots.map Slot.matched := List.mem_map_of_mem hs
  simp only [List.forall_mem_cons, List.not_mem_nil, false_implies, implies_true, tableText,
    List.mem_append, hdeclared, hassigned, hmatched, or_true, true_or, and_self]

/-- Without any tokens the alias in `sample` is in no part of its table, and the other commands are in
all of them. -/
theorem tables_complete_sample :
    Registry.read {} sample = .ok sampleRegistry ∧
      ∃ (header : Header) (lines : List PlacedLine) (top devices : List Resolved),
        DispatchTable.header sampleRegistry = .ok header ∧ walk none header.body = some lines ∧
        (top.map (·.name)).Perm ["vkGetInstanceProcAddr"] ∧
        (devices.map (·.name)).Perm ["vkTrim", "vkGetDeviceProcAddr"] ∧
        (∃ topType deviceType, kept (fun _ => false) lines = prologueText ++
          tableText "VkLayerInstanceDispatchTable" topType "vkGetInstanceProcAddr" "GetInstanceProcAddr"
            (top.map (slot sampleRegistry)) ++
          tableText "VkLayerDeviceDispatchTable" deviceType "vkGetDeviceProcAddr" "GetDeviceProcAddr"
            (devices.map (slot sampleRegistry))) ∧
        ∀ line ∈ [⟨none, 1, "PFN_vkTrim Trim;"⟩,
            ⟨none, 2, "Trim = (PFN_vkTrim) gpa( handle, \"vkTrim\" );"⟩,
            ⟨none, 2, "if( !strcmp( \"vkTrim\", pName ) ) return (PFN_vkVoidFunction) Trim;"⟩],
          line ∈ kept (fun _ => false) lines := by
  obtain ⟨header, hh⟩ : ∃ header, DispatchTable.header sampleRegistry = .ok header :=
    exists_eq_ok_of_isOk (by decide +kernel)
  obtain ⟨lines, k, topType, deviceType, hwalk, hk, hkept⟩ := tables_complete read_sample hh
  obtain ⟨top, devices, hlines, htop, hdevices, -⟩ := hkept fun _ => false
  rw [Registry.classify_sample] at hk
  cases hk
  have hnames : (devices.map (·.name)).Perm ["vkTrim", "vkGetDeviceProcAddr"] := hdevices.map _
  obtain ⟨c, hc, hname⟩ := List.mem_map.1 (hnames.mem_iff.2 List.mem_cons_self)
  have hslot : ⟨none, "vkTrim", "Trim"⟩ ∈ devices.map (slot sampleRegistry) := by
    refine List.mem_map.2 ⟨c, hc, ?_⟩
    rw [slot, hname]
    decide +kernel
  refine ⟨read_sample, header, lines, top, devices, hh, hwalk, htop.map _, hnames,
    ⟨topType, deviceType, hlines⟩, fun line hline => ?_⟩
  rw [hlines]
  exact List.mem_append_right _ (slot_mem_tableText hslot line hline)

/-! ## The fallback -/

/-- The resolver of a table is one of its commands. -/
theorem exists_resolver (h : table r k l = .ok t) :
    ∃ c ∈ k.commands l.chain, c.name = l.resolver := by
  obtain ⟨hchain, -⟩ := table_eq_ok_iff.1 h
  exact Classification.exists_of_chain? hchain

/-- A field of a table that is left has the name that the fallback calls: that of the resolver, or of
another command. -/
theorem exists_fallback_iff (h : table r k l = .ok t) :
    (∃ s ∈ (keptCommands r defined t).map (slot r), s.field = r.dialect.commandStem l.resolver) ↔
      isActive defined (r.commandGuard? l.resolver) = true ∨
        ∃ c ∈ k.commands l.chain, c.name ≠ l.resolver ∧
          r.dialect.commandStem c.name = r.dialect.commandStem l.resolver ∧
          isActive defined (r.commandGuard? c.name) = true := by
  simp only [List.mem_map, exists_exists_and_eq_and, slot, (perm_keptCommands h).mem_iff,
    List.mem_filter]
  constructor
  · rintro ⟨c, ⟨hc, hactive⟩, hfield⟩
    by_cases hname : c.name = l.resolver
    · exact Or.inl (hname ▸ hactive)
    · exact Or.inr ⟨c, hc, hname, hfield, hactive⟩
  · rintro (hactive | ⟨c, hc, -, hfield, hactive⟩)
    · obtain ⟨c, hc, hname⟩ := exists_resolver h
      exact ⟨c, ⟨hc, hname ▸ hactive⟩, by rw [hname]⟩
    · exact ⟨c, ⟨hc, hactive⟩, hfield⟩

/-- **When the fallback has its field.** In each of the two tables the fallback is outside every guard. The
field that it calls is declared on a line that is kept exactly if the resolver of the table is core or its
token is defined, or another command of the chain that is kept has the same field. -/
theorem fallback_declared_iff {header : Header} (hh : DispatchTable.header r = .ok header) :
    ∃ lines k, walk none header.body = some lines ∧ r.classify = .ok k ∧
      ∀ l ∈ [(⟨"VkLayerInstanceDispatchTable", .topLevel, r.dialect.instanceResolver⟩ : Layout),
          ⟨"VkLayerDeviceDispatchTable", .perDevice, r.dialect.deviceResolver⟩],
        ∃ handleType fallback, fallback = r.dialect.commandStem l.resolver ∧
        ∀ defined : String → Bool, ∃ slots,
          tableText l.structName handleType l.resolver fallback slots <:+: kept defined lines ∧
          ((∃ s ∈ slots, s.field = fallback) ↔
            isActive defined (r.commandGuard? l.resolver) = true ∨
              ∃ c ∈ k.commands l.chain, c.name ≠ l.resolver ∧
                r.dialect.commandStem c.name = fallback ∧
                isActive defined (r.commandGuard? c.name) = true) := by
  obtain ⟨lines, k, a, b, hwalk, hk, ha, hb, hkept⟩ := exists_kept_eq hh
  refine ⟨lines, k, hwalk, hk, fun l hl => ?_⟩
  rcases List.mem_pair.1 hl with rfl | rfl
  · refine ⟨a.handleType, _, rfl, fun defined => ⟨_, ?_, exists_fallback_iff ha⟩⟩
    rw [hkept defined]
    exact List.infix_append _ _ _
  · refine ⟨b.handleType, _, rfl, fun defined => ⟨_, ?_, exists_fallback_iff hb⟩⟩
    rw [hkept defined]
    exact (List.suffix_append _ _).isInfix

/-- Without any tokens the fallback of the instance's table of `sample` has its field. -/
theorem fallback_declared_sample :
    ∃ (header : Header) (lines : List PlacedLine) (handleType : String) (slots : List Slot),
      DispatchTable.header sampleRegistry = .ok header ∧ walk none header.body = some lines ∧
        tableText "VkLayerInstanceDispatchTable" handleType "vkGetInstanceProcAddr" "GetInstanceProcAddr"
          slots <:+: kept (fun _ => false) lines ∧ (∃ s ∈ slots, s.field = "GetInstanceProcAddr") ∧
        ⟨none, 1, "PFN_vkGetInstanceProcAddr GetInstanceProcAddr;"⟩ ∈ kept (fun _ => false) lines ∧
        ⟨none, 3, "return GetInstanceProcAddr( handle, pName );"⟩ ∈ kept (fun _ => false) lines := by
  obtain ⟨header, written, hh, hwritten, htext⟩ := exists_lines_of_any
    (DispatchTable.header sampleRegistry)
    (fun lines =>
      ⟨none, 1, "PFN_vkGetInstanceProcAddr GetInstanceProcAddr;"⟩ ∈ kept (fun _ => false) lines ∧
      ⟨none, 3, "return GetInstanceProcAddr( handle, pName );"⟩ ∈ kept (fun _ => false) lines)
    (by decide +kernel)
  obtain ⟨lines, k, hwalk, -, htables⟩ := fallback_declared_iff hh
  rw [hwritten] at hwalk
  obtain rfl := Option.some.inj hwalk
  obtain ⟨handleType, fallback, hfallback, hkept⟩ := htables _ List.mem_cons_self
  obtain ⟨slots, hinfix, hfield⟩ := hkept fun _ => false
  obtain rfl : fallback = "GetInstanceProcAddr" := by
    rw [hfallback]
    decide +kernel
  exact ⟨header, written, handleType, slots, hh, hwritten, hinfix,
    hfield.2 (Or.inl (by decide +kernel)), htext⟩

/-! ## A document without the fallback -/

/-- A document in which an extension owns the resolver of instances. -/
def ownedResolver : String := "<registry>
<types>
<type category=\"handle\"><type>VK_DEFINE_HANDLE</type> <name>VkDevice</name></type>
</types>
<commands>
<command><proto><type>T</type> <name>vkGetInstanceProcAddr</name></proto></command>
<command><proto><type>T</type> <name>vkGetDeviceProcAddr</name></proto>
<param><type>VkDevice</type> <name>device</name></param></command>
</commands>
<extensions><extension name=\"VK_KHR_resolver\">
<require><command name=\"vkGetInstanceProcAddr\"/></require></extension></extensions>
</registry>"

/-- The registry in `ownedResolver`. -/
def ownedResolverRegistry : Registry :=
  let device : Param := ⟨"VkDevice device", "device", "VkDevice", false⟩
  let instanceResolver : Command := ⟨"vkGetInstanceProcAddr", none, .definition ⟨"T", []⟩⟩
  let deviceResolver : Command := ⟨"vkGetDeviceProcAddr", none, .definition ⟨"T", [device]⟩⟩
  let owner : Extension := ⟨"VK_KHR_resolver", [], [⟨none, ["vkGetInstanceProcAddr"], []⟩], false⟩
  { dialect := {}
    handles := ["VkDevice"]
    structs := []
    commands := [instanceResolver, deviceResolver]
    index := [deviceResolver, instanceResolver]
    extensions := [owner]
    commandOwners := [("vkGetInstanceProcAddr", owner)]
    typeOwners := []
    restrictedCommands := []
    restrictedTypes := [] }

set_option maxRecDepth 10000 in
/-- Reading `ownedResolver` gives its registry. -/
theorem read_ownedResolver : Registry.read {} ownedResolver = .ok ownedResolverRegistry := by
  rw [Registry.read, Xml.parse, wellNested_of_eq_ofList (s := ownedResolver) rfl]
  decide +kernel

/-- Without any tokens the instance's table of `ownedResolver` has no field, and its fallback calls the
field of the resolver all the same. -/
theorem fallback_undeclared :
    Registry.read {} ownedResolver = .ok ownedResolverRegistry ∧
      ∃ (header : Header) (lines : List PlacedLine),
        DispatchTable.header ownedResolverRegistry = .ok header ∧
          walk none header.body = some lines ∧
          ⟨some "VK_KHR_resolver", 1, "PFN_vkGetInstanceProcAddr GetInstanceProcAddr;"⟩ ∈ lines ∧
          [⟨none, 0, "struct VkLayerInstanceDispatchTable \x7b"⟩,
            ⟨none, 1, "void Initialize( void* handle, PFN_vkGetInstanceProcAddr gpa ) \x7b"⟩] <:+:
              kept (fun _ => false) lines ∧
          ⟨none, 3, "return GetInstanceProcAddr( handle, pName );"⟩ ∈ kept (fun _ => false) lines :=
  ⟨read_ownedResolver, exists_lines_of_any _ _ (by decide +kernel)⟩

end DispatchTable

end LayerHeaders
