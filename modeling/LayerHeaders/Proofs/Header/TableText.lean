import LayerHeaders.Proofs.Header.Configuration
import LayerHeaders.Proofs.Header.DispatchTable

/-!
# The text of the dispatch tables

A table has a slot for each of its commands, and names a slot three times: in the declaration of its field,
in the assignment to it and in the match of its name. Here the lines of a table are spelled out for any
slots, and the header is shown to consist of two such tables.

* `Slot`, `tableText`: the lines of a table with these slots.
* `exists_tableText`: the lines of the header.
* `kept_tableText`: a configuration keeps a table with the slots whose guards are active.
-/

namespace LayerHeaders.DispatchTable

/-! ## Slots -/

/-- A command in a table. -/
structure Slot where
  /-- The token of the guard, unless the command is core. -/
  guard? : Option String
  /-- The name of the command. -/
  command : String
  /-- The name of its field. -/
  field : String
deriving DecidableEq, Repr

namespace Slot

/-- The declaration of the field. -/
def declared (s : Slot) : PlacedLine :=
  ⟨s.guard?, 1, s!"PFN_{s.command} {s.field};"⟩

/-- The assignment to the field. -/
def assigned (s : Slot) : PlacedLine :=
  ⟨s.guard?, 2, s!"{s.field} = (PFN_{s.command}) gpa( handle, \"{s.command}\" );"⟩

/-- The match of the name. -/
def matched (s : Slot) : PlacedLine :=
  ⟨s.guard?, 2,
    s!"if( !strcmp( \"{s.command}\", pName ) ) return (PFN_vkVoidFunction) {s.field};"⟩

end Slot

/-- The slot of a command: its field is called like the command, without the prefix of commands. -/
def slot (r : Registry) (c : Resolved) : Slot :=
  ⟨r.commandGuard? c.name, c.name, r.dialect.commandStem c.name⟩

/-! ## Text -/

/-- The lines before the tables. -/
def prologueText : List PlacedLine :=
  [⟨none, 0, "#pragma once"⟩,
    ⟨none, 0, "#include <vulkan/vulkan.h>"⟩,
    ⟨none, 0, "#include <vulkan/vk_layer.h>"⟩,
    ⟨none, 0, "#include <string.h>"⟩,
    ⟨none, 0, "#include <optional>"⟩,
    ⟨none, 0, "enum class VkLayerFunctionNotFoundBehavior \x7b"⟩,
    ⟨none, 1, "eReturnNextLayer = 0,"⟩,
    ⟨none, 1, "eReturnNullptr = 1,"⟩,
    ⟨none, 1, "eReturnNullopt = 2"⟩,
    ⟨none, 0, "\x7d;"⟩]

/-- **The lines of a table** with these slots. A name that matches none of them is answered by the field
`fallback`, if the caller asks for that. -/
def tableText (structName handleType resolver fallback : String) (slots : List Slot) :
    List PlacedLine :=
  [⟨none, 0, s!"struct {structName} \x7b"⟩] ++
    slots.map Slot.declared ++
    [⟨none, 1, s!"void Initialize( {handleType} handle, PFN_{resolver} gpa ) \x7b"⟩] ++
    slots.map Slot.assigned ++
    [⟨none, 1, "\x7d"⟩,
      ⟨none, 1, s!"std::optional<PFN_vkVoidFunction> Get( {handleType} handle, const char* pName, VkLayerFunctionNotFoundBehavior notFoundBehavior ) const \x7b"⟩,
      ⟨none, 2, "// Try to return the loaded function address first to avoid unnecessary calls to the next layer."⟩] ++
    slots.map Slot.matched ++
    [⟨none, 2, "switch( notFoundBehavior ) \x7b"⟩,
      ⟨none, 2, "case VkLayerFunctionNotFoundBehavior::eReturnNextLayer:"⟩,
      ⟨none, 2, "default:"⟩,
      ⟨none, 3, "// Function not found in the cache, invoke next layer."⟩,
      ⟨none, 3, "// The function could have been added in the newer Vulkan version, so this layer may be unaware of it."⟩,
      ⟨none, 3, s!"return {fallback}( handle, pName );"⟩,
      ⟨none, 2, "case VkLayerFunctionNotFoundBehavior::eReturnNullptr:"⟩,
      ⟨none, 3, "return nullptr;"⟩,
      ⟨none, 2, "case VkLayerFunctionNotFoundBehavior::eReturnNullopt:"⟩,
      ⟨none, 3, "return std::nullopt;"⟩,
      ⟨none, 2, "\x7d"⟩,
      ⟨none, 1, "\x7d"⟩,
      ⟨none, 0, "\x7d;"⟩]

variable {r : Registry} {k : Classification} {t : Table} {defined : String → Bool}
  {structName handleType resolver fallback : String} {slots : List Slot}

/-- What is kept of lines that slots have one each: those of the slots whose guards are active. -/
theorem kept_map (line : Slot → PlacedLine) (hline : ∀ s, (line s).guard? = s.guard?) :
    kept defined (slots.map line) = (slots.filter fun s => isActive defined s.guard?).map line := by
  rw [kept, List.filter_map]
  refine congrArg (List.map line) (List.filter_congr fun s _ => ?_)
  rw [Function.comp_apply, hline]

/-- **A configuration keeps a table** with the slots whose guards are active. -/
theorem kept_tableText :
    kept defined (tableText structName handleType resolver fallback slots) =
      tableText structName handleType resolver fallback
        (slots.filter fun s => isActive defined s.guard?) := by
  simp only [tableText, kept_append, kept_map Slot.declared fun _ => rfl,
    kept_map Slot.assigned fun _ => rfl, kept_map Slot.matched fun _ => rfl]
  rfl

/-! ## The header -/

/-- Lines that commands have one each are those of their slots. -/
theorem placedLines_ofLine {groups : List (Group (Option String) Resolved)} {role : Role}
    {line : Resolved → Instruction} (h : ∀ c, (line c).isGuard = false) (placed : Slot → PlacedLine)
    (hplaced : ∀ c, linesUnder (r.commandGuard? c.name) [line c] = [placed (slot r c)]) :
    r.placedLines ((Emission.ofLine role line h).passages groups) =
      ((groups.flatMap (·.items)).map (slot r)).map placed := by
  rw [Registry.placedLines_passages, List.map_map, List.map_eq_flatMap]
  exact List.flatMap_congr fun c _ => hplaced c

/-- The head of `Get` has the name of the enumeration in it. -/
theorem getHead_eq (handleType : String) :
    s!"std::optional<PFN_vkVoidFunction> Get( {handleType} handle, const char* pName, {NotFound.enumName} notFoundBehavior ) const \x7b" =
      s!"std::optional<PFN_vkVoidFunction> Get( {handleType} handle, const char* pName, VkLayerFunctionNotFoundBehavior notFoundBehavior ) const \x7b" := by
  simp only [toString, String.append_assoc]
  rfl

/-- **The lines of a table**, spelled out. -/
theorem placedLines_structPassages :
    r.placedLines (structPassages r.dialect t) =
      tableText t.layout.structName t.handleType t.layout.resolver
        (r.dialect.commandStem t.layout.resolver) ((t.groups.flatMap (·.items)).map (slot r)) := by
  have hfields : r.placedLines ((fields r.dialect t.layout.chain).passages t.groups) = _ :=
    placedLines_ofLine _ Slot.declared fun _ => rfl
  have hassignments : r.placedLines ((assignments r.dialect t.layout.chain).passages t.groups) = _ :=
    placedLines_ofLine _ Slot.assigned fun _ => rfl
  have hmatches : r.placedLines ((nameMatches r.dialect t.layout.chain).passages t.groups) = _ :=
    placedLines_ofLine _ Slot.matched fun _ => rfl
  simp only [structPassages, Registry.placedLines_append, Registry.placedLines_scaffold, hfields,
    hassignments, hmatches, getOpening, getHead_eq]
  rfl

/-- **The lines of the header**: what stands before the tables, and the table of each chain. -/
theorem exists_tableText {header : Header} (hh : DispatchTable.header r = .ok header) :
    ∃ k a b, r.classify = .ok k ∧ table r k (instanceLayout r.dialect) = .ok a ∧
      table r k (deviceLayout r.dialect) = .ok b ∧
      walk none header.body = some (prologueText ++
        tableText "VkLayerInstanceDispatchTable" a.handleType r.dialect.instanceResolver
          (r.dialect.commandStem r.dialect.instanceResolver) ((a.groups.flatMap (·.items)).map (slot r)) ++
        tableText "VkLayerDeviceDispatchTable" b.handleType r.dialect.deviceResolver
          (r.dialect.commandStem r.dialect.deviceResolver)
          ((b.groups.flatMap (·.items)).map (slot r))) := by
  obtain ⟨ps, hps, hshows⟩ := shows_of_header hh
  obtain ⟨k, a, b, hk, ha, hb, rfl⟩ := exists_of_passages hps
  have hprologue : r.placedLines [scaffold prologue guardFree_prologue] = prologueText :=
    Registry.placedLines_scaffold _
  refine ⟨k, a, b, hk, ha, hb, hshows.trans ?_⟩
  rw [← List.singleton_append, Registry.placedLines_append, Registry.placedLines_append, hprologue,
    placedLines_structPassages, placedLines_structPassages, layout_of_table ha, layout_of_table hb,
    List.append_assoc]
  rfl

end LayerHeaders.DispatchTable
