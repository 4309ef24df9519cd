import LayerHeaders.Bound
import LayerHeaders.Group
import LayerHeaders.Header.Basic

/-!
# Stream operators

The header of stream operators holds one `operator<<` for each structure of the standard profile that
is no alias. An operator writes the members in order: a bounded member as a count and its elements,
any other as a whole. Chained structures are not followed.
-/

namespace LayerHeaders.StreamOperators

/-- The default file name. -/
def fileName : String :=
  "vk_serialization.h"

/-- The parameter of an operator that holds the structure. -/
def object : String :=
  "value"

/-! ## Operators -/

/-- One element of a bounded member. Untyped memory is written as bytes. -/
def element (m : Member) : String :=
  if m.type = "void" then s!"reinterpret_cast<const uint8_t*>( {object}.{m.name} )[ i ]"
  else s!"{object}.{m.name}[ i ]"

/-- What an operator writes for a member. -/
def memberLines (siblings : List Member) (m : Member) : List Instruction :=
  match m.bound? siblings object with
  | none => [.line 1 s!"stream << {object}.{m.name};"]
  | some bound =>
    [.line 1 s!"stream << static_cast<uint32_t>({bound});",
      .line 1 s!"for( uint32_t i = 0; i < static_cast<uint32_t>({bound}); ++i ) \x7b",
      .line 2 s!"stream << {element m};",
      .line 1 "\x7d"]

/-- Whether an operator writes a member: the chain member and those of the safety-critical profile
are left out. -/
def isStreamed (d : Dialect) (m : Member) : Bool :=
  m.name != d.chainMember && !m.safetyCritical

/-- The operator of a structure. -/
def operatorLines (d : Dialect) (s : Struct) : List Instruction :=
  [.line 0 "template<typename Stream>",
    .line 0 s!"inline Stream& operator<<( Stream& stream, const {s.name}& {object} ) \x7b"] ++
    (s.members.filter (isStreamed d)).flatMap (memberLines s.members) ++
    [.line 1 "return stream;", .line 0 "\x7d", .blank]

/-! ## The header -/

/-- The structures that have an operator: those of the standard profile that are no aliases. -/
def structs (r : Registry) : List Struct :=
  r.structs.filter fun s => s.alias?.isNone && !r.isRestrictedStruct s

/-- The operators of the structures of one owner. -/
def groupLines (d : Dialect) (g : Group (Option String) Struct) : List Instruction :=
  guarded 0 g.key .plain (g.items.flatMap (operatorLines d)) ++
    if g.key.isSome then [.blank] else []

/-- The structures that have an operator, by owner. -/
def groups (r : Registry) : List (Group (Option String) Struct) :=
  groupBy (fun s => (r.typeOwner? s.name).map (·.name)) (structs r)

/-- What stands before the operators. -/
def prologue : List Instruction :=
  [.line 0 "#pragma once", .line 0 "#include <vulkan/vulkan.h>", .blank]

/-- The header of stream operators. -/
def header (r : Registry) : Header :=
  ⟨fileName, prologue ++ (groups r).flatMap (groupLines r.dialect)⟩

end LayerHeaders.StreamOperators
