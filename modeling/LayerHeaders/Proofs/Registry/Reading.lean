import LayerHeaders.Proofs.Registry.Index
import LayerHeaders.Proofs.Registry.Resolution
import LayerHeaders.Registry.Reading

/-!
# What a registry that was read is made of

A registry that was read is assembled from the declarations of its document, and its index is the one
of its commands. Everything that holds of loaded registries and not of all registries comes from here.

* `Registry.ofElement_eq_ok_iff`: when a registry can be read from a root element, and what from.
* `indexes_of_read`: the index of a registry satisfies the invariant over all its commands.
* `standard_names_nodup`: commands of the standard profile have distinct names.
* `sample`: a small document with aliases, an owner and a name declared for two APIs.
-/

namespace LayerHeaders

variable {d : Dialect} {document : String} {r : Registry}

/-! ## Sections and features -/

section element

variable {root : Xml.Element} {features : List Feature}

/-- The section of this name must be there. -/
theorem requiredSection_eq_ok_iff {e : Xml.Element} {name : String} :
    requiredSection root name = .ok e ↔ root.child? name = some e := by
  unfold requiredSection
  rcases root.child? name with _ | e'
  · simp
  · simp

/-- **What a registry is read from**: the first section of each kind in the root element, and the
features beside them. -/
structure Registry.ReadFrom (d : Dialect) (root : Xml.Element) (features : List Feature)
    (r : Registry) : Prop where
  /-- Handles and structures are read from the first section of types. -/
  types : ∃ e, root.child? "types" = some e ∧ readHandles d e = .ok r.handles ∧
    readStructs d e = .ok r.structs
  /-- Commands are read from the first section of commands. -/
  commands : ∃ e, root.child? "commands" = some e ∧ readCommands d e = .ok r.commands
  /-- The commands are indexed. -/
  index : indexCommands d r.commands = .ok r.index
  /-- Extensions are read from the first section of extensions. -/
  extensions : ∃ e, root.child? "extensions" = some e ∧
    (e.childrenNamed "extension").mapM (Extension.read d) = .ok r.extensions
  /-- Features are read from the root element itself. -/
  beside : (root.childrenNamed "feature").mapM Feature.read = .ok features
  /-- The registry is assembled from these. -/
  assembled : r = .ofDeclarations d r.handles r.structs r.commands r.index r.extensions features

/-- **A registry can be read from a root element** when its sections and features can be read. -/
theorem Registry.ofElement_eq_ok_iff :
    Registry.ofElement d root = .ok r ↔ ∃ features, r.ReadFrom d root features := by
  constructor
  · intro h
    obtain ⟨types, htypes, h⟩ := bind_eq_ok_iff.1 h
    obtain ⟨listed, hlisted, h⟩ := bind_eq_ok_iff.1 h
    obtain ⟨extending, hextending, h⟩ := bind_eq_ok_iff.1 h
    obtain ⟨handles, hhandles, h⟩ := bind_eq_ok_iff.1 h
    obtain ⟨structs, hstructs, h⟩ := bind_eq_ok_iff.1 h
    obtain ⟨commands, hcommands, h⟩ := bind_eq_ok_iff.1 h
    obtain ⟨index, hindex, h⟩ := bind_eq_ok_iff.1 h
    obtain ⟨extensions, hextensions, h⟩ := bind_eq_ok_iff.1 h
    obtain ⟨features, hfeatures, h⟩ := bind_eq_ok_iff.1 h
    cases h
    exact ⟨features, {
      types := ⟨types, requiredSection_eq_ok_iff.1 htypes, hhandles, hstructs⟩
      commands := ⟨listed, requiredSection_eq_ok_iff.1 hlisted, hcommands⟩
      index := hindex
      extensions := ⟨extending, requiredSection_eq_ok_iff.1 hextending, hextensions⟩
      beside := hfeatures
      assembled := rfl }⟩
  · rintro ⟨features, hread⟩
    obtain ⟨types, htypes, hhandles, hstructs⟩ := hread.types
    obtain ⟨listed, hlisted, hcommands⟩ := hread.commands
    obtain ⟨extending, hextending, hextensions⟩ := hread.extensions
    refine bind_eq_ok_iff.2 ⟨types, requiredSection_eq_ok_iff.2 htypes, ?_⟩
    refine bind_eq_ok_iff.2 ⟨listed, requiredSection_eq_ok_iff.2 hlisted, ?_⟩
    refine bind_eq_ok_iff.2 ⟨extending, requiredSection_eq_ok_iff.2 hextending, ?_⟩
    refine bind_eq_ok_iff.2 ⟨r.handles, hhandles, ?_⟩
    refine bind_eq_ok_iff.2 ⟨r.structs, hstructs, ?_⟩
    refine bind_eq_ok_iff.2 ⟨r.commands, hcommands, ?_⟩
    refine bind_eq_ok_iff.2 ⟨r.index, hread.index, ?_⟩
    refine bind_eq_ok_iff.2 ⟨r.extensions, hextensions, ?_⟩
    refine bind_eq_ok_iff.2 ⟨features, hread.beside, ?_⟩
    exact congrArg Except.ok hread.assembled.symm

end element

/-- A document can be read when its root element can. -/
theorem read_eq_ok_iff :
    Registry.read d document = .ok r ↔
      ∃ root, Xml.parse document = .ok root ∧ Registry.ofElement d root = .ok r := by
  unfold Registry.read
  rw [bind_eq_ok_iff]
  exact exists_congr fun root => and_congr_left fun _ => mapError_eq_ok_iff

/-- A registry that was read is assembled from declarations whose commands could be indexed. -/
theorem exists_ofDeclarations_of_read (h : Registry.read d document = .ok r) :
    ∃ handles structs commands index extensions features,
      indexCommands d commands = .ok index ∧
        r = .ofDeclarations d handles structs commands index extensions features := by
  obtain ⟨root, -, hroot⟩ := read_eq_ok_iff.1 h
  obtain ⟨features, hread⟩ := Registry.ofElement_eq_ok_iff.1 hroot
  exact ⟨_, _, _, _, _, _, hread.index, hread.assembled⟩

/-! ## The index of what was read -/

/-- **The index of a registry that was read** satisfies the invariant over its commands. -/
theorem indexes_of_read (h : Registry.read d document = .ok r) :
    Indexes r.dialect r.commands r.index := by
  obtain ⟨_, _, commands, index, _, _, hindex, rfl⟩ := exists_ofDeclarations_of_read h
  exact indexes_of_indexCommands hindex

/-- A command that is found under a name is declared in the document. -/
theorem mem_commands_of_command? (h : Registry.read d document = .ok r) {name : String} {c : Command}
    (hc : r.command? name = some c) : c ∈ r.commands := by
  rw [Registry.command?, (indexes_of_read h).find?_eq, Dialect.declaration?,
    Option.or_eq_some_iff] at hc
  rcases hc with hc | ⟨-, hc⟩
  · exact List.mem_of_find?_eq_some hc
  · exact List.mem_of_find?_eq_some hc

/-- **The commands of the standard profile have distinct names**: they are standard declarations, and
no name has two of those. -/
theorem standard_names_nodup (h : Registry.read d document = .ok r) :
    ((r.commands.filter (!r.isRestricted ·)).map (·.name)).Nodup := by
  refine (List.Sublist.map _ ?_).nodup (indexes_of_read h).standard_nodup
  refine List.monotone_filter_right r.commands fun c hc => ?_
  simp only [Registry.isRestricted, Bool.not_or, Bool.and_eq_true] at hc
  exact hc.1

/-- The resolved commands of the standard profile have distinct names as well. -/
theorem names_nodup_of_resolveStandard (h : Registry.read d document = .ok r) {xs : List Resolved}
    (hxs : r.resolveStandard = .ok xs) : (xs.map (·.name)).Nodup := by
  have hstandard := standard_names_nodup h
  rw [← (Registry.resolveStandard_spec hxs).1, List.map_map] at hstandard
  exact hstandard

/-! ## A document -/

/-- The well-nested tokens of a document that is given by its characters. -/
theorem wellNested_of_eq_ofList {s : String} {cs : List Char} (h : s = String.ofList cs) :
    Xml.wellNested s =
      let scanned := Xml.Token.scanFrom [] (Xml.Token.dropMark cs)
      ((Xml.nested scanned.1).1, ((Xml.nested scanned.1).2.map .form).or scanned.2) := by
  rw [Xml.wellNested, Xml.Token.scan, h, String.toList_ofList]

/-- A document in which a name is declared for two APIs, an extension owns an alias, and a
safety-critical alias leads nowhere. -/
def sample : String := "<registry>
<types>
<type category=\"handle\"><type>VK_DEFINE_HANDLE</type> <name>VkDevice</name></type>
</types>
<commands>
<command name=\"vkTrimKHR\" alias=\"vkTrim\"/>
<command api=\"vulkansc\" name=\"vkTrim\" alias=\"vkLost\"/>
<command><proto><type>void</type> <name>vkTrim</name></proto>
<param><type>VkDevice</type> <name>device</name></param></command>
<command><proto><type>T</type> <name>vkGetInstanceProcAddr</name></proto></command>
<command><proto><type>T</type> <name>vkGetDeviceProcAddr</name></proto>
<param><type>VkDevice</type> <name>device</name></param></command>
</commands>
<extensions><extension name=\"VK_KHR_trim\">
<require><command name=\"vkTrimKHR\"/></require></extension></extensions>
</registry>"

/-- The registry in `sample`. -/
def sampleRegistry : Registry :=
  let device : Param := ⟨"VkDevice device", "device", "VkDevice", false⟩
  let extended : Command := ⟨"vkTrimKHR", none, .sameAs "vkTrim"⟩
  let lost : Command := ⟨"vkTrim", some "vulkansc", .sameAs "vkLost"⟩
  let trim : Command := ⟨"vkTrim", none, .definition ⟨"void", [device]⟩⟩
  let instanceResolver : Command := ⟨"vkGetInstanceProcAddr", none, .definition ⟨"T", []⟩⟩
  let deviceResolver : Command := ⟨"vkGetDeviceProcAddr", none, .definition ⟨"T", [device]⟩⟩
  let owner : Extension := ⟨"VK_KHR_trim", [], [⟨none, ["vkTrimKHR"], []⟩], false⟩
  { dialect := {}
    handles := ["VkDevice"]
    structs := []
    commands := [extended, lost, trim, instanceResolver, deviceResolver]
    index := [deviceResolver, instanceResolver, trim, lost, extended]
    extensions := [owner]
    commandOwners := [("vkTrimKHR", owner)]
    typeOwners := []
    restrictedCommands := []
    restrictedTypes := [] }

set_option maxRecDepth 10000 in
/-- Reading `sample` gives its registry. -/
theorem read_sample : Registry.read {} sample = .ok sampleRegistry := by
  rw [Registry.read, Xml.parse, wellNested_of_eq_ofList (s := sample) rfl]
  decide +kernel

end LayerHeaders
