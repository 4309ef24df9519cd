import LayerHeaders.Header.Kind
import LayerHeaders.Proofs.Header.StreamOperators
import Mathlib.Data.List.TakeWhile

/-!
# Every structure has its operator

The header of stream operators holds one operator for each structure of the standard profile that is no
alias, and nothing besides. An operator writes each member once, in order, but for the chain member and
those of the safety-critical profile. A member that is measured by an expression is written as a count
and a loop, whose bound is the count; any other member is written as a whole.

* `isTrimmed_iff`: a text without the blanks at its ends.
* `Member.measuredBy_iff`: which expression measures a member, if one does.
* `streams_iff`: what an operator writes for a member.
* `isOperator_iff`: what the operator of a structure is.
* `operators_complete`: the header holds the operators, each under the guard of its structure, and those
  under one guard in the order of the document.
-/

namespace LayerHeaders

/-! ## Trimmed texts -/

/-- Whether a text is what is left of another one without the blanks at either end. -/
structure IsTrimmed (trimmed s : String) : Prop where
  /-- Only blanks are left out. -/
  blanks : ∃ before after, s = before ++ trimmed ++ after ∧
    (∀ c ∈ before.toList, Text.isBlank c = true) ∧ ∀ c ∈ after.toList, Text.isBlank c = true
  /-- It does not start with a blank. -/
  first : ∀ c, trimmed.toList.head? = some c → Text.isBlank c = false
  /-- It does not end with a blank. -/
  last : ∀ c, trimmed.toList.getLast? = some c → Text.isBlank c = false

/-- Characters that start with no blank are left as they are. -/
theorem dropWhile_isBlank_eq_self {cs : List Char}
    (h : ∀ c, cs.head? = some c → Text.isBlank c = false) : cs.dropWhile Text.isBlank = cs := by
  rcases cs with _ | ⟨c, cs⟩
  · rfl
  · exact List.dropWhile_cons_of_neg (Bool.eq_false_iff.1 (h c rfl))

/-- What is left behind blanks starts with none. -/
theorem not_isBlank_of_head?_dropWhile {l : List Char} {c : Char}
    (h : (l.dropWhile Text.isBlank).head? = some c) : Text.isBlank c = false := by
  have hhead := List.head?_dropWhile_not Text.isBlank l
  rw [h] at hhead
  exact hhead

/-- Blanks around characters that neither start nor end with one are trimmed. -/
theorem trimEnd_trimStart_append {before cs after : List Char}
    (hbefore : ∀ c ∈ before, Text.isBlank c = true) (hafter : ∀ c ∈ after, Text.isBlank c = true)
    (hfirst : ∀ c, cs.head? = some c → Text.isBlank c = false)
    (hlast : ∀ c, cs.getLast? = some c → Text.isBlank c = false) :
    Text.trimEnd (Text.trimStart (before ++ cs ++ after)) = cs := by
  have hstart : Text.trimStart (before ++ cs ++ after) = (cs ++ after).dropWhile Text.isBlank := by
    rw [Text.trimStart, List.append_assoc, List.dropWhile_append_of_pos hbefore]
  have hend : Text.trimEnd (cs ++ after) = cs := by
    rw [Text.trimEnd, List.reverse_append, List.dropWhile_append_of_pos (by simpa using hafter),
      dropWhile_isBlank_eq_self (by simpa using hlast), List.reverse_reverse]
  rw [hstart]
  rcases cs with _ | ⟨c, cs⟩
  · rw [List.nil_append, List.dropWhile_eq_nil_iff.2 hafter]
    rfl
  · rwa [List.cons_append, List.dropWhile_cons_of_neg (Bool.eq_false_iff.1 (hfirst c rfl)),
      ← List.cons_append]

/-- **A text without the blanks at its ends** is what trimming gives. -/
theorem isTrimmed_iff {trimmed s : String} : IsTrimmed trimmed s ↔ trimmed = Text.trim s := by
  constructor
  · rintro ⟨⟨before, after, rfl, hbefore, hafter⟩, hfirst, hlast⟩
    rw [Text.trim, String.toList_append, String.toList_append,
      trimEnd_trimStart_append hbefore hafter hfirst hlast, String.ofList_toList]
  · rintro rfl
    have hstart : s.toList.takeWhile Text.isBlank ++ Text.trimStart s.toList = s.toList :=
      List.takeWhile_append_dropWhile
    have hend : Text.trimEnd (Text.trimStart s.toList) ++
        ((Text.trimStart s.toList).reverse.takeWhile Text.isBlank).reverse =
          Text.trimStart s.toList := by
      rw [Text.trimEnd, ← List.reverse_append, List.takeWhile_append_dropWhile, List.reverse_reverse]
    refine {
      blanks := ⟨.ofList (s.toList.takeWhile Text.isBlank),
        .ofList ((Text.trimStart s.toList).reverse.takeWhile Text.isBlank).reverse, ?_, ?_, ?_⟩
      first := fun c hc => ?_
      last := fun c hc => ?_ }
    · rw [← String.toList_inj, Text.trim]
      simp only [String.toList_append, String.toList_ofList]
      rw [List.append_assoc, hend, hstart]
    · rw [String.toList_ofList]
      exact fun c hc => List.mem_takeWhile_imp hc
    · rw [String.toList_ofList]
      exact fun c hc => List.mem_takeWhile_imp (List.mem_reverse.1 hc)
    · -- the first character that is left is the first behind the blanks
      rw [Text.trim, String.toList_ofList] at hc
      refine not_isBlank_of_head?_dropWhile (l := s.toList) (c := c) ?_
      show (Text.trimStart s.toList).head? = some c
      rw [← hend, List.head?_append, hc, Option.some_or]
    · rw [Text.trim, String.toList_ofList, Text.trimEnd, List.getLast?_reverse] at hc
      exact not_isBlank_of_head?_dropWhile hc

/-! ## What measures a member -/

/-- Whether a text is the first segment of a list that is separated by commas. -/
def IsFirstSegment (segment list : String) : Prop :=
  ',' ∉ segment.toList ∧ (list = segment ∨ ∃ rest, list = segment ++ "," ++ rest)

/-- Whether an expression measures a member: its `altlen`, or else the first segment of its `len`, without
blanks at either end. -/
inductive Member.MeasuredBy (m : Member) : String → Prop
  /-- The member has an `altlen`. -/
  | altlen {altlen expression : String} (h : m.altlen? = some altlen)
      (htrimmed : IsTrimmed expression altlen) : m.MeasuredBy expression
  /-- The member has a `len` only. -/
  | len {len segment expression : String} (haltlen : m.altlen? = none) (hlen : m.len? = some len)
      (hsegment : IsFirstSegment segment len) (htrimmed : IsTrimmed expression segment) :
      m.MeasuredBy expression

/-- The first of the parts between separators. -/
theorem head?_splitOn {α : Type} [BEq α] (a : α) (l : List α) :
    (l.splitOn a).head? = some (l.takeWhile (!· == a)) := by
  unfold List.splitOn
  induction l with
  | nil => rfl
  | cons b l ih =>
      rw [List.splitOnP_cons_eq_if_modifyHead]
      rcases hb : b == a with _ | _
      · rw [List.takeWhile_cons_of_pos (by simp [hb]), if_neg Bool.false_ne_true, List.head?_modifyHead, ih]
        rfl
      · rw [List.takeWhile_cons_of_neg (by simp [hb]), if_pos rfl]
        rfl

/-- The first segment goes up to the first comma. -/
theorem isFirstSegment_iff {segment list : String} :
    IsFirstSegment segment list ↔ segment.toList = list.toList.takeWhile (!· == ',') := by
  have hall : ∀ cs : List Char, ',' ∉ cs → ∀ c ∈ cs, (!c == ',') = true := by
    intro cs hcs c hc
    have hne : c ≠ ',' := fun heq => hcs (heq ▸ hc)
    simpa using hne
  constructor
  · rintro ⟨hcomma, rfl | ⟨rest, rfl⟩⟩
    · exact (List.takeWhile_eq_self_iff.2 (hall _ hcomma)).symm
    · have hcharacters : (segment ++ "," ++ rest).toList = segment.toList ++ ',' :: rest.toList := by
        simp
      rw [hcharacters, List.takeWhile_append_of_pos (hall _ hcomma), List.takeWhile_cons_of_neg (by simp),
        List.append_nil]
  · intro h
    have hcomma : ',' ∉ segment.toList := by
      intro hmem
      rw [h] at hmem
      simpa using List.mem_takeWhile_imp hmem
    refine ⟨hcomma, ?_⟩
    have hsplit := list.toList.takeWhile_append_dropWhile (p := (!· == ','))
    rw [← h] at hsplit
    rcases hrest : list.toList.dropWhile (!· == ',') with _ | ⟨c, rest⟩
    · left
      rw [hrest, List.append_nil] at hsplit
      exact String.toList_inj.1 hsplit.symm
    · right
      have hc : c = ',' := by
        have hhead := List.head_dropWhile_not (!· == ',') (by simp [hrest] : list.toList.dropWhile _ ≠ [])
        simpa [hrest] using hhead
      refine ⟨String.ofList rest, String.toList_inj.1 ?_⟩
      rw [← hsplit, hrest, hc]
      simp

/-- **Which expression measures a member**: its length expression, if it has one. -/
theorem Member.measuredBy_iff {m : Member} {expression : String} :
    m.MeasuredBy expression ↔ m.length? = some expression := by
  unfold Member.length?
  constructor
  · rintro (⟨h, htrimmed⟩ | ⟨haltlen, hlen, hsegment, htrimmed⟩)
    · simp [h, isTrimmed_iff.1 htrimmed]
    · rw [haltlen, hlen]
      simp only [head?_splitOn, Option.map_some]
      rw [← isFirstSegment_iff.1 hsegment, String.ofList_toList, isTrimmed_iff.1 htrimmed]
  · intro h
    rcases haltlen : m.altlen? with _ | altlen
    · rcases hlen : m.len? with _ | len
      · simp [haltlen, hlen] at h
      · simp only [haltlen, hlen, head?_splitOn, Option.map_some, Option.some.injEq] at h
        exact .len haltlen hlen (isFirstSegment_iff.2 String.toList_ofList) (isTrimmed_iff.2 h.symm)
    · simp only [haltlen, Option.some.injEq] at h
      exact .altlen haltlen (isTrimmed_iff.2 h.symm)

namespace StreamOperators

/-! ## What an operator writes -/

/-- Whether an expression is one element of a member. Untyped memory is taken as bytes. -/
inductive IsElement (m : Member) : String → Prop
  /-- The elements have a type. -/
  | typed (h : m.type ≠ "void") : IsElement m s!"value.{m.name}[ i ]"
  /-- The member points to memory. -/
  | untyped (h : m.type = "void") :
      IsElement m s!"reinterpret_cast<const uint8_t*>( value.{m.name} )[ i ]"

theorem isElement_iff {m : Member} {e : String} : IsElement m e ↔ e = element m := by
  unfold element
  constructor
  · rintro (h | h)
    · rw [if_neg h]
      rfl
    · rw [if_pos h]
      rfl
  · rintro rfl
    split_ifs with h
    · exact .untyped h
    · exact .typed h

/-- **Whether lines write a member among its siblings.** -/
inductive Streams (siblings : List Member) (m : Member) : List Instruction → Prop
  /-- The whole member is written, unless an expression measures it. An empty one does not count, and a
  text that ends with a null character is written as a whole. -/
  | whole (h : ∀ expression, m.MeasuredBy expression → expression = "" ∨ expression = "null-terminated") :
      Streams siblings m [.line 1 s!"stream << value.{m.name};"]
  /-- A count is written, and then as many elements. The names of siblings in the count are qualified. -/
  | counted {expression bound element : String} (h : m.MeasuredBy expression) (hempty : expression ≠ "")
      (htext : expression ≠ "null-terminated")
      (hbound : bound = qualify expression (siblings.map (·.name)) "value")
      (helement : IsElement m element) :
      Streams siblings m
        [.line 1 s!"stream << static_cast<uint32_t>({bound});",
          .line 1 s!"for( uint32_t i = 0; i < static_cast<uint32_t>({bound}); ++i ) \x7b",
          .line 2 s!"stream << {element};",
          .line 1 "\x7d"]

/-- **What an operator writes for a member.** -/
theorem streams_iff {siblings : List Member} {m : Member} {lines : List Instruction} :
    Streams siblings m lines ↔ lines = memberLines siblings m := by
  unfold memberLines Member.bound?
  constructor
  · rintro (h | ⟨h, hempty, htext, rfl, helement⟩)
    · rcases hlength : m.length? with _ | expression
      · rfl
      · have hwhole := h expression (Member.measuredBy_iff.2 hlength)
        simp only [if_pos hwhole]
        rfl
    · have hcounted := not_or.2 ⟨hempty, htext⟩
      rw [isElement_iff.1 helement]
      simp only [Member.measuredBy_iff.1 h, if_neg hcounted]
      rfl
  · rintro rfl
    rcases hlength : m.length? with _ | expression
    · refine .whole fun expression h => ?_
      rw [Member.measuredBy_iff, hlength] at h
      cases h
    · by_cases hwhole : expression = "" ∨ expression = "null-terminated"
      · simp only [if_pos hwhole]
        refine .whole fun expression' h => ?_
        rw [Member.measuredBy_iff, hlength] at h
        cases h
        exact hwhole
      · simp only [if_neg hwhole]
        obtain ⟨hempty, htext⟩ := not_or.1 hwhole
        exact .counted (Member.measuredBy_iff.2 hlength) hempty htext rfl (isElement_iff.2 rfl)

/-- The members that an operator writes. -/
def streamed (d : Dialect) (s : Struct) : List Member :=
  s.members.filter fun m => m.name ≠ d.chainMember ∧ m.safetyCritical = false

/-- **Whether lines are the operator of a structure**: the lines of its members stand between the opening
and the end, each member once and in order. -/
def IsOperator (d : Dialect) (s : Struct) (lines : List Instruction) : Prop :=
  ∃ parts, List.Forall₂ (Streams s.members) (streamed d s) parts ∧
    lines = [.line 0 "template<typename Stream>",
        .line 0 s!"inline Stream& operator<<( Stream& stream, const {s.name}& value ) \x7b"] ++
      parts.flatten ++ [.line 1 "return stream;", .line 0 "\x7d", .blank]

/-- **What the operator of a structure is.** -/
theorem isOperator_iff {d : Dialect} {s : Struct} {lines : List Instruction} :
    IsOperator d s lines ↔ lines = operatorLines d s := by
  have hstreamed : streamed d s = s.members.filter (isStreamed d) := by
    refine List.filter_congr fun m _ => ?_
    rw [Bool.eq_iff_iff, decide_eq_true_eq, isStreamed, Bool.and_eq_true, bne_iff_ne,
      Bool.not_eq_true']
  have hmember : Streams s.members = fun m lines => memberLines s.members m = lines := by
    funext m lines
    exact propext (streams_iff.trans eq_comm)
  have hparts : ∀ parts, List.Forall₂ (Streams s.members) (streamed d s) parts ↔
      parts = (s.members.filter (isStreamed d)).map (memberLines s.members) := by
    intro parts
    rw [hmember, hstreamed, ← List.forall₂_map_left_iff, List.forall₂_eq_eq_eq]
    exact eq_comm
  have hopening : s!"inline Stream& operator<<( Stream& stream, const {s.name}& {object} ) \x7b" =
      s!"inline Stream& operator<<( Stream& stream, const {s.name}& value ) \x7b" := by
    simp only [toString, String.append_assoc]
    rfl
  unfold IsOperator operatorLines
  simp only [hparts, exists_eq_left, List.flatMap_def, hopening]

/-! ## The header -/

/-- **Whether a header holds operators of structures**, and nothing else. -/
structure HoldsOperators (r : Registry) (h : Header) (operators : List (Struct × List Instruction)) :
    Prop where
  /-- Each has the lines of an operator. -/
  each : ∀ o ∈ operators, IsOperator r.dialect o.1 o.2
  /-- There is one for each declaration of a structure of the standard profile that is no alias. -/
  all : (operators.map (·.1)).Perm
    (r.structs.filter fun s => s.alias? = none ∧ r.isRestrictedStruct s = false)
  /-- Those of one owner stand in the order of the document. -/
  order : ∀ guard?, (operators.map (·.1)).filter (r.structGuard? ·.name = guard?) =
    (r.structs.filter fun s => s.alias? = none ∧ r.isRestrictedStruct s = false).filter
      (r.structGuard? ·.name = guard?)
  /-- The header has their lines, each under the guard of its structure, and no others after the first
  two. -/
  lines : walk none h.body = some (⟨none, 0, "#pragma once"⟩ ::
    ⟨none, 0, "#include <vulkan/vulkan.h>"⟩ ::
      operators.flatMap fun o => linesUnder (r.structGuard? o.1.name) o.2)

/-- The structures that have an operator. -/
theorem structs_eq (r : Registry) :
    structs r = r.structs.filter fun s => s.alias? = none ∧ r.isRestrictedStruct s = false := by
  refine List.filter_congr fun s _ => ?_
  rw [Bool.eq_iff_iff, decide_eq_true_eq, Bool.and_eq_true, Option.isNone_iff_eq_none,
    Bool.not_eq_true']

/-- **The header of stream operators is complete.** It can be made from every registry, and it holds one
operator for each declaration of a structure that is no alias and not restricted, and no other. The
operators of one owner stand in the order of the document. Each writes the members that are neither the
chain member nor restricted, in order and once each: as a whole, or as a count and a loop over as many
elements. -/
theorem operators_complete (r : Registry) :
    ∃ h operators, HeaderKind.streamOperators.header r = .ok h ∧ HoldsOperators r h operators := by
  have hfirst : ∀ ss : List Struct, (ss.map fun s => (s, operatorLines r.dialect s)).map (·.1) = ss := by
    intro ss
    rw [List.map_map]
    exact List.map_id ss
  refine ⟨header r, ((groups r).flatMap (·.items)).map fun s => (s, operatorLines r.dialect s), rfl, {
    each := ?_
    all := ?_
    order := ?_
    lines := ?_ }⟩
  · intro o ho
    obtain ⟨s, -, rfl⟩ := List.mem_map.1 ho
    exact isOperator_iff.2 rfl
  · rw [hfirst, ← structs_eq]
    exact perm_groupBy _ _
  · intro guard?
    rw [hfirst, ← structs_eq]
    exact filter_groupBy (fun s => r.structGuard? s.name) (structs r) guard?
  · rw [shows_header r, passages, ← List.map_flatMap, Registry.placedLines, List.flatMap_cons,
      List.flatMap_map, List.flatMap_map]
    rfl

/-- A registry with a structure of an extension, an alias of it and a restricted one. Of the members of
the structure two are measured by others, one is a text, one chains structures and one is restricted. -/
def queryRegistry : Registry :=
  let owner : Extension := ⟨"VK_EXT_query", [], [⟨none, [], ["VkQueryEXT"]⟩], false⟩
  { dialect := {}
    handles := []
    structs := [
      ⟨"VkQuery", some "VkQueryEXT", none, []⟩,
      ⟨"VkQueryEXT", none, none, [
        ⟨"pNext", "void", "const void* pNext", none, none, false⟩,
        ⟨"count", "uint32_t", "uint32_t count", none, none, false⟩,
        ⟨"pRanges", "VkRange", "const VkRange* pRanges", some " count ,1", none, false⟩,
        ⟨"pData", "void", "const void* pData", some "size", some "4 * count", false⟩,
        ⟨"pLabel", "char", "const char* pLabel", some "null-terminated", none, false⟩,
        ⟨"reserved", "uint32_t", "uint32_t reserved", none, none, true⟩]⟩,
      ⟨"VkFault", none, some "vulkansc", []⟩]
    commands := []
    index := []
    extensions := [owner]
    commandOwners := []
    typeOwners := [("VkQueryEXT", owner)]
    restrictedCommands := []
    restrictedTypes := [] }

/-- The header of `queryRegistry` has one operator, under the guard of the extension, which writes the
elements behind their counts. -/
theorem operators_complete_query :
    ∃ h operators, HeaderKind.streamOperators.header queryRegistry = .ok h ∧
      HoldsOperators queryRegistry h operators ∧ operators.map (·.1.name) = ["VkQueryEXT"] ∧
      walk none h.body = some [
        ⟨none, 0, "#pragma once"⟩,
        ⟨none, 0, "#include <vulkan/vulkan.h>"⟩,
        ⟨some "VK_EXT_query", 0, "template<typename Stream>"⟩,
        ⟨some "VK_EXT_query", 0,
          "inline Stream& operator<<( Stream& stream, const VkQueryEXT& value ) \x7b"⟩,
        ⟨some "VK_EXT_query", 1, "stream << value.count;"⟩,
        ⟨some "VK_EXT_query", 1, "stream << static_cast<uint32_t>(value.count);"⟩,
        ⟨some "VK_EXT_query", 1,
          "for( uint32_t i = 0; i < static_cast<uint32_t>(value.count); ++i ) \x7b"⟩,
        ⟨some "VK_EXT_query", 2, "stream << value.pRanges[ i ];"⟩,
        ⟨some "VK_EXT_query", 1, "\x7d"⟩,
        ⟨some "VK_EXT_query", 1, "stream << static_cast<uint32_t>(4 * value.count);"⟩,
        ⟨some "VK_EXT_query", 1,
          "for( uint32_t i = 0; i < static_cast<uint32_t>(4 * value.count); ++i ) \x7b"⟩,
        ⟨some "VK_EXT_query", 2,
          "stream << reinterpret_cast<const uint8_t*>( value.pData )[ i ];"⟩,
        ⟨some "VK_EXT_query", 1, "\x7d"⟩,
        ⟨some "VK_EXT_query", 1, "stream << value.pLabel;"⟩,
        ⟨some "VK_EXT_query", 1, "return stream;"⟩,
        ⟨some "VK_EXT_query", 0, "\x7d"⟩] := by
  obtain ⟨h, operators, hh, hholds⟩ := operators_complete queryRegistry
  have hstructs : (queryRegistry.structs.filter fun s =>
      s.alias? = none ∧ queryRegistry.isRestrictedStruct s = false).map (·.name) = ["VkQueryEXT"] := by
    decide +kernel
  have hnames : (operators.map (·.1.name)).Perm ["VkQueryEXT"] := by
    have hperm := hholds.all.map (·.name)
    rwa [hstructs, List.map_map] at hperm
  cases hh
  exact ⟨_, operators, rfl, hholds, List.perm_singleton.1 hnames, by decide +kernel⟩

end StreamOperators

end LayerHeaders
