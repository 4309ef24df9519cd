import LayerHeaders.Proofs.Header.DriverText
import LayerHeaders.Proofs.Registry.AliasLinks
import LayerHeaders.Proofs.Registry.Reading

/-!
# Where default bodies forward to

The default body of a virtual method forwards to the nearest command on its alias chain that is visible
wherever the method is, and returns a default value if there is none. The command that it forwards to has
the same signature, so it is dispatched on the same handle and takes the same arguments. It is a method of
the same base interface, unless it is one of the two resolvers: the search along the chain does not ask
for that, but the resolvers have no method.

* `Registry.forwardTarget?_eq_some_iff`: the target, in terms of the steps of the chain.
* `HasMethod`: which commands have a virtual method.
* `exists_method_of_nearestVisible`: a target that is no resolver has a method.
* `HoldsInterfaces`: which interfaces the lines of a header hold, and `exists_interfaces`: those of its
  registry.
* `forwarding_closed`: when a forwarding body calls a method of its own interface.
-/

namespace LayerHeaders

/-! ## The target -/

/-- The first item that passes a test, by its position. -/
theorem find?_eq_some_iff_getElem? {α : Type} {p : α → Bool} {l : List α} {a : α} :
    l.find? p = some a ↔
      ∃ k : ℕ, l[k]? = some a ∧ p a = true ∧ ∀ j < k, ∀ b, l[j]? = some b → p b = false := by
  rw [List.find?_eq_some_iff_getElem]
  constructor
  · rintro ⟨ha, k, hk, rfl, hbefore⟩
    refine ⟨k, List.getElem?_eq_getElem hk, ha, fun j hj b hb => ?_⟩
    obtain ⟨hlt, rfl⟩ := List.getElem?_eq_some_iff.1 hb
    simpa using hbefore j hj
  · rintro ⟨k, hk, ha, hbefore⟩
    obtain ⟨hlt, rfl⟩ := List.getElem?_eq_some_iff.1 hk
    refine ⟨ha, k, hlt, rfl, fun j hj => ?_⟩
    have hj' := hbefore j hj _ (List.getElem?_eq_getElem (Nat.lt_trans hj hlt))
    simpa using hj'

namespace Registry

variable {r : Registry} {c : Resolved}

/-- Whether a command is visible wherever code under a guard is: it is of the standard profile, and
core or under the same guard. -/
def VisibleUnder (r : Registry) (guard? : Option String) (e : Command) : Prop :=
  r.isRestricted e = false ∧
    (r.commandGuard? e.name = none ∨ r.commandGuard? e.name = guard?)

/-- Whether `e` is the nearest command on the alias chain of `c` that is visible wherever `c` is. -/
def NearestVisible (r : Registry) (c : Resolved) (e : Command) : Prop :=
  ∃ k, r.link c.command (k + 1) = some e ∧ r.VisibleUnder c.guard? e ∧
    ∀ j < k, ∀ e', r.link c.command (j + 1) = some e' → ¬ r.VisibleUnder c.guard? e'

/-- The test of the search along the chain, read as a proposition. -/
theorem visible_iff (guard? : Option String) (e : Command) :
    (!r.isRestricted e && ((r.commandOwner? e.name).map (·.name) == none ||
      (r.commandOwner? e.name).map (·.name) == guard?)) = true ↔ r.VisibleUnder guard? e := by
  simp [VisibleUnder, commandGuard?]

/-- **The target of a default body** is the nearest visible command on the chain. -/
theorem forwardTarget?_eq_some_iff (hc : r.resolve c.command = .ok c) {target : String} :
    r.forwardTarget? c = some target ↔ ∃ e, r.NearestVisible c e ∧ e.name = target := by
  unfold forwardTarget? NearestVisible
  rw [Option.map_eq_some_iff]
  refine exists_congr fun e => and_congr_left fun _ => ?_
  rw [find?_eq_some_iff_getElem?]
  refine exists_congr fun k => ?_
  simp only [getElem?_links hc, visible_iff, ← Bool.not_eq_true]

/-- There is no target if no command on the chain is visible. -/
theorem forwardTarget?_eq_none_iff (hc : r.resolve c.command = .ok c) :
    r.forwardTarget? c = none ↔
      ∀ k e, r.link c.command (k + 1) = some e → ¬ r.VisibleUnder c.guard? e := by
  unfold forwardTarget?
  rw [Option.map_eq_none_iff, List.find?_eq_none]
  simp only [visible_iff, List.mem_iff_getElem?, getElem?_links hc]
  constructor
  · intro h k e hlink
    exact h e ⟨k, hlink⟩
  · rintro h e ⟨k, hlink⟩
    exact h k e hlink

/-- If a command on the chain is visible, one of them is the nearest. -/
theorem exists_nearestVisible (hc : r.resolve c.command = .ok c) {k : ℕ} {e : Command}
    (hlink : r.link c.command (k + 1) = some e) (he : r.VisibleUnder c.guard? e) :
    ∃ t, r.NearestVisible c t := by
  rcases htarget : r.forwardTarget? c with _ | target
  · exact absurd he ((forwardTarget?_eq_none_iff hc).1 htarget k e hlink)
  · obtain ⟨t, ht, -⟩ := (forwardTarget?_eq_some_iff hc).1 htarget
    exact ⟨t, ht⟩

/-- A command that is visible under a guard is active wherever the guard is. -/
theorem VisibleUnder.isActive {defined : String → Bool} {guard? : Option String} {e : Command}
    (h : r.VisibleUnder guard? e) (hguard : LayerHeaders.isActive defined guard? = true) :
    LayerHeaders.isActive defined (r.commandGuard? e.name) = true := by
  rcases h.2 with hcore | hsame
  · rw [hcore]
    rfl
  · rw [hsame]
    exact hguard

end Registry

namespace DriverInterface

variable {r : Registry} {c : Resolved} {handle : String}

/-! ## Virtual methods -/

/-- Whether a command has a method in the base interface of a handle. -/
structure HasMethod (r : Registry) (handle : String) (c : Resolved) : Prop where
  /-- It is a command of the standard profile. -/
  standard : ∃ xs, r.resolveStandard = .ok xs ∧ c ∈ xs
  /-- It is dispatched on the handle. -/
  handle?_eq : c.handle? = some handle
  /-- It is none of the two resolvers. -/
  not_resolver : isResolver r.dialect c.name = false

/-- A command that has a method is resolved. -/
theorem HasMethod.resolve_eq (h : HasMethod r handle c) : r.resolve c.command = .ok c := by
  obtain ⟨xs, hxs, hc⟩ := h.standard
  exact (Registry.resolveStandard_spec hxs).2 c hc

variable {d : Dialect} {document : String}

/-- **No two methods of a registry that was read have one name.** -/
theorem HasMethod.eq_of_name (h : Registry.read d document = .ok r) {x y : Resolved}
    (hx : HasMethod r handle x) (hy : HasMethod r handle y) (hname : x.name = y.name) : x = y := by
  obtain ⟨xs, hxs, hmemx⟩ := hx.standard
  obtain ⟨ys, hys, hmemy⟩ := hy.standard
  rw [hxs] at hys
  cases hys
  exact List.inj_on_of_nodup_map (names_nodup_of_resolveStandard h hxs) hmemx hmemy hname

/-- **The nearest visible command is of the standard profile**, with the same signature and handle. -/
theorem exists_mem_of_nearestVisible (h : Registry.read d document = .ok r) {xs : List Resolved}
    (hxs : r.resolveStandard = .ok xs) (hc : r.resolve c.command = .ok c) {e : Command}
    (he : r.NearestVisible c e) :
    ∃ y ∈ xs, y.command = e ∧ y.signature = c.signature ∧ y.handle? = c.handle? := by
  obtain ⟨k, hlink, ⟨hstandard, -⟩, -⟩ := he
  obtain ⟨y, hy, hsignature, hhandle⟩ := Registry.resolve_of_link hc hlink
  have hcommand := Registry.command_of_resolve hy
  subst hcommand
  -- it is declared and of the standard profile, so it is one of the resolved commands
  have hmem : y ∈ xs := (Registry.mem_resolveStandard_iff hxs).2
    ⟨mem_commands_of_command? h (Registry.command?_of_link hlink), hstandard, hy⟩
  exact ⟨y, hmem, rfl, hsignature, hhandle⟩

/-- **A target that is no resolver has a method** in the same interface, with the same signature. -/
theorem exists_method_of_nearestVisible (h : Registry.read d document = .ok r)
    (hc : HasMethod r handle c) {e : Command} (he : r.NearestVisible c e)
    (hres : isResolver r.dialect e.name = false) :
    ∃ y, HasMethod r handle y ∧ y.command = e ∧ y.signature = c.signature := by
  obtain ⟨xs, hxs, -⟩ := hc.standard
  obtain ⟨y, hmem, rfl, hsignature, hhandle⟩ := exists_mem_of_nearestVisible h hxs hc.resolve_eq he
  exact ⟨y, ⟨⟨xs, hxs, hmem⟩, hhandle.trans hc.handle?_eq, hres⟩, rfl, hsignature⟩

/-! ## Methods of the interfaces -/

/-- **Whether a method is that of a command.** -/
structure VirtualMethod.IsOf (r : Registry) (c : Resolved) (m : VirtualMethod) : Prop where
  /-- It has the guard of the command. -/
  guard?_eq : m.guard? = r.commandGuard? c.name
  /-- It has the result of the command. -/
  result_eq : m.result = c.result
  /-- It has the name of the command. -/
  name_eq : m.name = c.name
  /-- It has the parameters of the command but the handle. -/
  params_eq : m.params = c.params.drop 1
  /-- Its default body forwards to the nearest visible command, and always its own arguments. -/
  forward_iff : ∀ target arguments, m.body = .forward target arguments ↔
    (∃ e, r.NearestVisible c e ∧ e.name = target) ∧ arguments = m.params.map (·.name)

/-- **Whether the lines of a header hold these base interfaces**, one for each handle, with one method for
each command that has one. -/
structure HoldsInterfaces (r : Registry) (lines : List PlacedLine) (interfaces : List Interface) :
    Prop where
  /-- Their lines are in the header. -/
  text : interfacesText r.dialect interfaces <:+: lines
  /-- No handle has two interfaces. -/
  handles_nodup : (interfaces.map (·.handle)).Nodup
  /-- A method is that of a command that has one. -/
  sound : ∀ i ∈ interfaces, ∀ m ∈ i.methods, ∃ c, HasMethod r i.handle c ∧ m.IsOf r c
  /-- A command that has a method has it in the interface of its handle. -/
  complete : ∀ handle c, HasMethod r handle c →
    ∃ i ∈ interfaces, i.handle = handle ∧ ∃ m ∈ i.methods, m.IsOf r c
  /-- No two methods of an interface have one name. -/
  names_nodup : ∀ i ∈ interfaces, (i.methods.map (·.name)).Nodup

/-- A command with a target has a method that forwards to it. -/
theorem HoldsInterfaces.exists_forward {lines : List PlacedLine} {interfaces : List Interface}
    (h : HoldsInterfaces r lines interfaces) (hc : HasMethod r handle c) {target : String}
    (htarget : r.forwardTarget? c = some target) :
    ∃ i ∈ interfaces, ∃ m ∈ i.methods, m.IsOf r c ∧
      m.body = .forward target ((c.params.drop 1).map (·.name)) := by
  obtain ⟨i, hi, -, m, hm, hof⟩ := h.complete _ _ hc
  refine ⟨i, hi, m, hm, hof, (hof.forward_iff _ _).2 ⟨?_, ?_⟩⟩
  · exact (Registry.forwardTarget?_eq_some_iff hc.resolve_eq).1 htarget
  · rw [hof.params_eq]

/-- When a default body forwards: to the nearest visible command, and always its own arguments. -/
theorem body_eq_forward_iff (hc : r.resolve c.command = .ok c) {target : String}
    {arguments : List String} :
    body r c = .forward target arguments ↔
      (∃ e, r.NearestVisible c e ∧ e.name = target) ∧ arguments = (c.params.drop 1).map (·.name) := by
  rw [← Registry.forwardTarget?_eq_some_iff hc]
  unfold body
  rcases r.forwardTarget? c with _ | found
  · constructor
    · intro hbody
      dsimp only at hbody
      split_ifs at hbody
    · rintro ⟨hfound, -⟩
      cases hfound
  · constructor
    · intro hbody
      cases hbody
      exact ⟨rfl, rfl⟩
    · rintro ⟨hfound, rfl⟩
      cases hfound
      rfl

theorem isOf_method (hc : HasMethod r handle c) : (method r c).IsOf r c :=
  ⟨rfl, rfl, rfl, rfl, fun _ _ => body_eq_forward_iff hc.resolve_eq⟩

variable {gs : List HandleGroup}

/-- No handle has two groups. -/
theorem nodup_handles (hgs : groups r = .ok gs) : (gs.map (·.handle?)).Nodup := by
  obtain ⟨xs, -, rfl⟩ := groups_eq_ok_iff.1 hgs
  rw [List.map_map]
  exact nodup_keys_groupBy _ xs

/-- **The methods of an interface** are those of the commands that have one. -/
theorem mem_methods_iff (hgs : groups r = .ok gs) {i : Interface} (hi : i ∈ gs.filterMap (interface? r))
    {m : VirtualMethod} : m ∈ i.methods ↔ ∃ c, HasMethod r i.handle c ∧ method r c = m := by
  obtain ⟨g, hg, hinterface⟩ := List.mem_filterMap.1 hi
  obtain ⟨handle, hhandle, rfl⟩ := Option.map_eq_some_iff.1 hinterface
  obtain ⟨xs, hxs, -⟩ := groups_eq_ok_iff.1 hgs
  rw [List.mem_map]
  refine exists_congr fun c => and_congr_left fun _ => ?_
  rw [mem_withoutResolvers_iff, mem_commands_iff_of_mem hxs hgs hg, hhandle]
  constructor
  · rintro ⟨⟨hc, hown⟩, hres⟩
    exact ⟨⟨xs, hxs, hc⟩, hown, hres⟩
  · rintro ⟨⟨ys, hys, hc⟩, hown, hres⟩
    rw [hxs] at hys
    cases hys
    exact ⟨⟨hc, hown⟩, hres⟩

/-- A command that has a method belongs to an interface. -/
theorem exists_interface (hgs : groups r = .ok gs) (hc : HasMethod r handle c) :
    ∃ i ∈ gs.filterMap (interface? r), i.handle = handle := by
  obtain ⟨xs, hxs, hmem⟩ := hc.standard
  obtain ⟨g, hg, hhandle, -⟩ := (mem_commands_iff hxs hgs).2 ⟨hmem, hc.handle?_eq⟩
  have hinterface : interface? r g =
      some ⟨handle, ((g.withoutResolvers r.dialect).flatMap (·.items)).map (method r)⟩ := by
    rw [interface?, hhandle]
    rfl
  exact ⟨_, List.mem_filterMap.2 ⟨g, hg, hinterface⟩, rfl⟩

/-- No two methods of an interface have one name. -/
theorem nodup_methods (h : Registry.read d document = .ok r) (hgs : groups r = .ok gs) {i : Interface}
    (hi : i ∈ gs.filterMap (interface? r)) : (i.methods.map (·.name)).Nodup := by
  obtain ⟨g, hg, hinterface⟩ := List.mem_filterMap.1 hi
  obtain ⟨handle, -, rfl⟩ := Option.map_eq_some_iff.1 hinterface
  obtain ⟨xs, hxs, hperm⟩ := perm_commands hgs
  have hall : ((gs.flatMap (·.commands)).map (·.name)).Nodup :=
    (hperm.map _).nodup_iff.2 (names_nodup_of_resolveStandard h hxs)
  have hgroup : (g.commands.map (·.name)).Nodup :=
    ((List.sublist_flatten_of_mem (List.mem_map_of_mem hg)).map _).nodup hall
  show ((((g.withoutResolvers r.dialect).flatMap (·.items)).map (method r)).map (·.name)).Nodup
  rw [List.map_map, flatMap_withoutResolvers]
  exact (List.filter_sublist.map _).nodup hgroup

/-- **The header holds the base interfaces of its registry**, and the methods have the default bodies of
their commands. -/
theorem exists_interfaces (h : Registry.read d document = .ok r) {header : Header}
    (hh : DriverInterface.header r = .ok header) :
    ∃ lines interfaces, walk none header.body = some lines ∧ HoldsInterfaces r lines interfaces ∧
      ∀ i ∈ interfaces, ∀ m, m ∈ i.methods ↔ ∃ c, HasMethod r i.handle c ∧ method r c = m := by
  obtain ⟨gs, lines, hgs, hwalk, htext⟩ := exists_interfacesText hh
  refine ⟨lines, gs.filterMap (interface? r), hwalk, {
    text := htext
    handles_nodup := ?_
    sound := fun i hi m hm => ?_
    complete := fun handle c hc => ?_
    names_nodup := fun i hi => nodup_methods h hgs hi }, fun i hi m => mem_methods_iff hgs hi⟩
  · have hhandles : (gs.filterMap (interface? r)).map (·.handle) = (gs.map (·.handle?)).filterMap id := by
      rw [List.map_filterMap, List.filterMap_map]
      refine List.filterMap_congr fun g _ => ?_
      rw [interface?, Option.map_map]
      exact Option.map_id'
    rw [hhandles]
    refine (nodup_handles hgs).filterMap fun a a' handle ha ha' => ?_
    exact (Option.mem_def.1 ha).trans (Option.mem_def.1 ha').symm
  · obtain ⟨c, hc, rfl⟩ := (mem_methods_iff hgs hi).1 hm
    exact ⟨c, hc, isOf_method hc⟩
  · obtain ⟨i, hi, rfl⟩ := exists_interface hgs hc
    exact ⟨i, hi, rfl, method r c, (mem_methods_iff hgs hi).2 ⟨c, hc, rfl⟩, isOf_method hc⟩

/-! ## Forwarding -/

/-- A name is that of no resolver if it is neither that of the instance's nor that of the device's. -/
theorem isResolver_eq_false_iff {d : Dialect} {name : String} :
    isResolver d name = false ↔ name ≠ d.instanceResolver ∧ name ≠ d.deviceResolver := by
  simp [isResolver]

/-- **Forwarding stays inside an interface unless it leads to a resolver.** Under any tokens, the method
that the default body of an active method calls is an active method of the same interface, and the
arguments are its parameters, exactly if the name that is called is none of the two resolvers. -/
theorem forwarding_closed (h : Registry.read d document = .ok r) {header : Header}
    (hh : DriverInterface.header r = .ok header) :
    ∃ lines interfaces, walk none header.body = some lines ∧ HoldsInterfaces r lines interfaces ∧
      ∀ (defined : String → Bool), ∀ i ∈ interfaces, ∀ m ∈ i.methods, isActive defined m.guard? = true →
        ∀ target arguments, m.body = .forward target arguments →
          ((∃ m' ∈ i.methods, m'.name = target ∧ isActive defined m'.guard? = true ∧
              arguments = m'.params.map (·.name)) ↔
            target ≠ r.dialect.instanceResolver ∧ target ≠ r.dialect.deviceResolver) := by
  obtain ⟨lines, interfaces, hwalk, hholds, hmethods⟩ := exists_interfaces h hh
  refine ⟨lines, interfaces, hwalk, hholds, fun defined i hi m hm hactive target arguments hbody => ?_⟩
  obtain ⟨c, hc, rfl⟩ := (hmethods i hi m).1 hm
  obtain ⟨⟨e, he, rfl⟩, rfl⟩ := (body_eq_forward_iff hc.resolve_eq).1 hbody
  rw [← isResolver_eq_false_iff]
  constructor
  · rintro ⟨m', hm', hname, -⟩
    obtain ⟨y, hy, rfl⟩ := (hmethods i hi m').1 hm'
    rw [← hname]
    exact hy.not_resolver
  · intro hres
    obtain ⟨y, hy, rfl, hsignature⟩ := exists_method_of_nearestVisible h hc he hres
    have hguard : isActive defined c.guard? = true := by
      rw [Registry.guard?_of_resolve hc.resolve_eq]
      exact hactive
    obtain ⟨-, -, hvisible, -⟩ := he
    refine ⟨method r y, (hmethods i hi _).2 ⟨y, hy, rfl⟩, rfl, hvisible.isActive hguard, ?_⟩
    show (c.params.drop 1).map (·.name) = (y.params.drop 1).map (·.name)
    unfold Resolved.params
    rw [hsignature]

/-! ## A document with aliases -/

/-- A document with an alias of a command of another extension, one of a command of its own extension,
and one of a resolver. -/
def aliases : String := "<registry>
<types>
<type category=\"handle\"><type>VK_DEFINE_HANDLE</type> <name>VkDevice</name></type>
</types>
<commands>
<command><proto><type>T</type> <name>vkBindEXT</name></proto>
<param><type>VkDevice</type> <name>device</name></param>
<param><type>U</type> <name>flags</name></param></command>
<command name=\"vkBindKHR\" alias=\"vkBindEXT\"/>
<command name=\"vkBind2EXT\" alias=\"vkBindEXT\"/>
<command><proto><type>T</type> <name>vkGetDeviceProcAddr</name></proto>
<param><type>VkDevice</type> <name>device</name></param></command>
<command name=\"vkGetAddress\" alias=\"vkGetDeviceProcAddr\"/>
</commands>
<extensions><extension name=\"VK_KHR_bind\">
<require><command name=\"vkBindKHR\"/></require></extension>
<extension name=\"VK_EXT_bind\">
<require><command name=\"vkBindEXT\"/><command name=\"vkBind2EXT\"/></require></extension></extensions>
</registry>"

/-- The registry in `aliases`. -/
def aliasesRegistry : Registry :=
  let device : Param := ⟨"VkDevice device", "device", "VkDevice", false⟩
  let flags : Param := ⟨"U flags", "flags", "U", false⟩
  let bind : Command := ⟨"vkBindEXT", none, .definition ⟨"T", [device, flags]⟩⟩
  let across : Command := ⟨"vkBindKHR", none, .sameAs "vkBindEXT"⟩
  let within : Command := ⟨"vkBind2EXT", none, .sameAs "vkBindEXT"⟩
  let resolver : Command := ⟨"vkGetDeviceProcAddr", none, .definition ⟨"T", [device]⟩⟩
  let address : Command := ⟨"vkGetAddress", none, .sameAs "vkGetDeviceProcAddr"⟩
  let khr : Extension := ⟨"VK_KHR_bind", [], [⟨none, ["vkBindKHR"], []⟩], false⟩
  let ext : Extension := ⟨"VK_EXT_bind", [], [⟨none, ["vkBindEXT", "vkBind2EXT"], []⟩], false⟩
  { dialect := {}
    handles := ["VkDevice"]
    structs := []
    commands := [bind, across, within, resolver, address]
    index := [address, resolver, within, across, bind]
    extensions := [khr, ext]
    commandOwners := [("vkBindKHR", khr), ("vkBindEXT", ext), ("vkBind2EXT", ext)]
    typeOwners := []
    restrictedCommands := []
    restrictedTypes := [] }

set_option maxRecDepth 10000 in
/-- Reading `aliases` gives its registry. -/
theorem read_aliases : Registry.read {} aliases = .ok aliasesRegistry := by
  rw [Registry.read, Xml.parse, wellNested_of_eq_ofList (s := aliases) rfl]
  decide +kernel

/-- The commands of `aliases`, resolved. -/
def aliasesCommands : List Resolved :=
  let device : Param := ⟨"VkDevice device", "device", "VkDevice", false⟩
  let flags : Param := ⟨"U flags", "flags", "U", false⟩
  let khr : Extension := ⟨"VK_KHR_bind", [], [⟨none, ["vkBindKHR"], []⟩], false⟩
  let ext : Extension := ⟨"VK_EXT_bind", [], [⟨none, ["vkBindEXT", "vkBind2EXT"], []⟩], false⟩
  let bind : Signature := ⟨"T", [device, flags]⟩
  let resolver : Signature := ⟨"T", [device]⟩
  let resolved (name : String) (body : CommandBody) (owner? : Option Extension) (s : Signature) :
      Resolved :=
    ⟨⟨name, none, body⟩, s, some "VkDevice", owner?, false⟩
  [resolved "vkBindEXT" (.definition bind) (some ext) bind,
    resolved "vkBindKHR" (.sameAs "vkBindEXT") (some khr) bind,
    resolved "vkBind2EXT" (.sameAs "vkBindEXT") (some ext) bind,
    resolved "vkGetDeviceProcAddr" (.definition resolver) none resolver,
    resolved "vkGetAddress" (.sameAs "vkGetDeviceProcAddr") none resolver]

/-- Every command of `aliases` resolves. -/
theorem resolveStandard_aliases : aliasesRegistry.resolveStandard = .ok aliasesCommands := by
  decide +kernel

/-- Every command of `aliases` but the resolver has a method. -/
theorem hasMethod_aliases {c : Resolved} (hc : c ∈ aliasesCommands)
    (hres : isResolver {} c.name = false) : HasMethod aliasesRegistry "VkDevice" c where
  standard := ⟨_, resolveStandard_aliases, hc⟩
  handle?_eq := (by decide : ∀ c ∈ aliasesCommands, c.handle? = some "VkDevice") c hc
  not_resolver := hres

/-- The lines in `aliases` of the alias of a command of its own extension. -/
def withinText : List PlacedLine :=
  [⟨some "VK_EXT_bind", 1, "virtual T vkBind2EXT("⟩,
    ⟨some "VK_EXT_bind", 2, "U flags)"⟩,
    ⟨some "VK_EXT_bind", 1, "\x7b return vkBindEXT(flags); \x7d"⟩]

/-- The interface of `aliases` has these lines. -/
theorem exists_lines_aliases :
    ∃ header lines, DriverInterface.header aliasesRegistry = .ok header ∧
      walk none header.body = some lines ∧ withinText <:+: lines :=
  exists_lines_of_any _ _ (by decide +kernel)

/-- The alias in `aliases` of a command of its own extension calls the method of that command. -/
theorem forwarding_closed_aliases :
    Registry.read {} aliases = .ok aliasesRegistry ∧
      ∃ header lines interfaces, DriverInterface.header aliasesRegistry = .ok header ∧
        walk none header.body = some lines ∧ HoldsInterfaces aliasesRegistry lines interfaces ∧
        withinText <:+: lines ∧ ∃ i ∈ interfaces, ∃ m ∈ i.methods, m.name = "vkBind2EXT" ∧
          isActive (· = "VK_EXT_bind") m.guard? = true ∧ m.body = .forward "vkBindEXT" ["flags"] ∧
          ∃ m' ∈ i.methods, m'.name = "vkBindEXT" ∧
            isActive (· = "VK_EXT_bind") m'.guard? = true ∧ ["flags"] = m'.params.map (·.name) := by
  obtain ⟨header, written, hh, hwritten, htext⟩ := exists_lines_aliases
  obtain ⟨lines, interfaces, hwalk, hholds, hclosed⟩ := forwarding_closed read_aliases hh
  rw [hwritten] at hwalk
  obtain rfl := Option.some.inj hwalk
  have hc : HasMethod aliasesRegistry "VkDevice" aliasesCommands[2] :=
    hasMethod_aliases (by decide) (by decide)
  have htarget : aliasesRegistry.forwardTarget? aliasesCommands[2] = some "vkBindEXT" := by
    decide +kernel
  obtain ⟨i, hi, m, hm, hof, hbody⟩ := hholds.exists_forward hc htarget
  have hguard : m.guard? = some "VK_EXT_bind" := hof.guard?_eq.trans (by decide)
  have hactive : isActive (· = "VK_EXT_bind") m.guard? = true := by rw [hguard]; decide
  have hcalled := (hclosed (· = "VK_EXT_bind") i hi m hm hactive _ _ hbody).2 (by decide)
  exact ⟨read_aliases, header, written, interfaces, hh, hwritten, hholds, htext, i, hi, m, hm, hof.name_eq,
    hactive, hbody, hcalled⟩

/-- The alias in `aliases` of a resolver calls the resolver, which has no method. -/
theorem forwards_to_resolver :
    Registry.read {} aliases = .ok aliasesRegistry ∧
      ∃ header lines interfaces, DriverInterface.header aliasesRegistry = .ok header ∧
        walk none header.body = some lines ∧ HoldsInterfaces aliasesRegistry lines interfaces ∧
        [⟨none, 1, "virtual T vkGetAddress()"⟩,
          ⟨none, 1, "\x7b return vkGetDeviceProcAddr(); \x7d"⟩] <:+: lines ∧
        ∃ i ∈ interfaces, (∃ m ∈ i.methods, m.name = "vkGetAddress" ∧ m.guard? = none ∧
            m.body = .forward "vkGetDeviceProcAddr" []) ∧
          ∀ m ∈ i.methods, m.name ≠ "vkGetDeviceProcAddr" := by
  obtain ⟨header, written, hh, hwritten, htext⟩ := exists_lines_of_any
    (DriverInterface.header aliasesRegistry) ([⟨none, 1, "virtual T vkGetAddress()"⟩,
      ⟨none, 1, "\x7b return vkGetDeviceProcAddr(); \x7d"⟩] <:+: ·) (by decide +kernel)
  obtain ⟨lines, interfaces, hwalk, hholds, -⟩ := exists_interfaces read_aliases hh
  rw [hwritten] at hwalk
  obtain rfl := Option.some.inj hwalk
  have hc : HasMethod aliasesRegistry "VkDevice" aliasesCommands[4] :=
    hasMethod_aliases (by decide) (by decide)
  have htarget : aliasesRegistry.forwardTarget? aliasesCommands[4] = some "vkGetDeviceProcAddr" := by
    decide +kernel
  obtain ⟨i, hi, m, hm, hof, hbody⟩ := hholds.exists_forward hc htarget
  have hname : m.name = "vkGetAddress" := hof.name_eq.trans (by decide)
  have hguard : m.guard? = none := hof.guard?_eq.trans (by decide)
  refine ⟨read_aliases, header, written, interfaces, hh, hwritten, hholds, htext, i, hi,
    ⟨m, hm, hname, hguard, hbody⟩, ?_⟩
  intro m' hm' hname'
  obtain ⟨c, hc, hof⟩ := hholds.sound i hi m' hm'
  have hres := hc.not_resolver
  rw [← hof.name_eq, hname'] at hres
  exact absurd hres (by decide)

end DriverInterface

end LayerHeaders
