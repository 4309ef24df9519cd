import LayerHeaders.Header.StreamOperators
import LayerHeaders.Proofs.Header.Passage

/-!
# What the stream operators show

The header of stream operators has one passage for each operator, with all its lines.

* `passages`: what the header shows.
* `shows_header`: the header shows its passages, each under the guard of its topic.
* `mem_passages_iff`: the passages are about the structures of the standard profile.
-/

namespace LayerHeaders.StreamOperators

/-! ## Passages -/

theorem guardFree_prologue : GuardFree prologue := by
  simp [prologue, Instruction.isGuard]

/-- What an operator writes for a member has no guards. -/
theorem guardFree_memberLines (siblings : List Member) (m : Member) :
    GuardFree (memberLines siblings m) := by
  unfold memberLines
  rcases m.bound? siblings object with _ | bound
  · simp [Instruction.isGuard]
  · simp [Instruction.isGuard]

/-- An operator has no guards. -/
theorem guardFree_operatorLines (d : Dialect) (s : Struct) : GuardFree (operatorLines d s) := by
  refine guardFree_append.2 ⟨guardFree_append.2 ⟨?_, ?_⟩, ?_⟩
  · simp [Instruction.isGuard]
  · exact guardFree_flatMap fun m _ => guardFree_memberLines s.members m
  · simp [Instruction.isGuard]

/-- The operator of a structure. -/
def operatorPassage (d : Dialect) (s : Struct) : Passage :=
  ⟨.streamOperator s.name, operatorLines d s, guardFree_operatorLines d s⟩

/-- The passages of the header. -/
def passages (r : Registry) : List Passage :=
  scaffold prologue guardFree_prologue ::
    (groups r).flatMap fun g => g.items.map (operatorPassage r.dialect)

/-! ## What is shown -/

variable {r : Registry}

/-- The operators of one owner lie under its guard. -/
theorem shows_groupLines {g : Group (Option String) Struct} (hg : g ∈ groups r) :
    r.Shows (groupLines r.dialect g) (g.items.map (operatorPassage r.dialect)) := by
  have hguard : ∀ p ∈ g.items.map (operatorPassage r.dialect), r.guard? p.topic = g.key := by
    intro p hp
    obtain ⟨s, hs, rfl⟩ := List.mem_map.1 hp
    exact (mem_groupBy_iff.1 ⟨g, hg, rfl, hs⟩).2
  have hshown : r.Shows (guarded 0 g.key .plain (g.items.flatMap (operatorLines r.dialect)))
      (g.items.map (operatorPassage r.dialect)) := by
    refine Registry.shows_guarded ?_ ?_ hguard
    · exact guardFree_flatMap fun s _ => guardFree_operatorLines r.dialect s
    · rw [List.flatMap_map]
      rfl
  unfold groupLines
  split_ifs
  · have hblank := hshown.append Registry.shows_blank
    rwa [List.append_nil] at hblank
  · rwa [List.append_nil]

/-- **The header shows its passages.** -/
theorem shows_header (r : Registry) : r.Shows (header r).body (passages r) :=
  (Registry.shows_scaffold guardFree_prologue).append
    (Registry.shows_flatMap fun _ hg => shows_groupLines hg)

/-- **What the passages are about**: the structures of the standard profile that are no aliases. -/
theorem mem_passages_iff {p : Passage} (hp : p.topic ≠ .scaffold) :
    p ∈ passages r ↔ ∃ s ∈ structs r, operatorPassage r.dialect s = p := by
  rw [passages, List.mem_cons, ← List.map_flatMap, List.mem_map]
  simp only [Passage.ne_scaffold hp, false_or, groups, (perm_groupBy _ _).mem_iff]

end LayerHeaders.StreamOperators
