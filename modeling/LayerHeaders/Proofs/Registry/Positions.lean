import LayerHeaders.Proofs.Traversal
import LayerHeaders.Registry.Index
import Std.Data.HashMap.Lemmas

/-!
# The positions of commands

An index need not hold the declarations themselves. It may hold their positions, and the earlier declaration
of a name is then read at the position that is stored for the name. Such an index is made exactly if the
declarations can be indexed, is refused with the same error, and leads from a name to the same declaration:
all positions in it are those of declarations of their names, so none is out of range.

* `addPosition`, `indexPositions`: the index of positions.
* `Locates`: the invariant of such an index, beside the declarations that are found by name.
* `indexPositions_decided`: when it is made, and when it is refused.
-/

namespace LayerHeaders

/-- Why an index of positions is not made. -/
inductive PositionError where
  /-- A position in it is behind the last declaration. -/
  | outOfRange (position : ℕ)
  /-- A declaration is refused. -/
  | refused (e : RegistryError)

/-- Adds the position of a declaration to an index, as `addToIndex` adds the declaration. -/
def addPosition (d : Dialect) (commands : List Command) (positions : Std.HashMap String ℕ)
    (placed : Command × ℕ) : Except PositionError (Std.HashMap String ℕ) :=
  let (c, position) := placed
  match positions[c.name]? with
  | none => .ok (positions.insert c.name position)
  | some existing =>
    match commands[existing]? with
    | none => .error (.outOfRange existing)
    | some earlier =>
      match d.isSafetyCritical earlier.api?, d.isSafetyCritical c.api? with
      | true, false => .ok (positions.insert c.name position)
      | false, true => .ok positions
      | _, _ => .error (.refused (.duplicateCommand c.name))

/-- **The positions of a list of declarations**, by their names. -/
def indexPositions (d : Dialect) (commands : List Command) :
    Except PositionError (Std.HashMap String ℕ) :=
  commands.zipIdx.foldlM (addPosition d commands) ∅

variable {d : Dialect} {commands index : List Command} {positions : Std.HashMap String ℕ}

/-- **The invariant of an index of positions** beside the declarations that are found by name. -/
structure Locates (commands index : List Command) (positions : Std.HashMap String ℕ) : Prop where
  /-- A position is that of a declaration of its name. -/
  exists_declaration : ∀ name position, positions[name]? = some position →
    ∃ c : Command, commands[position]? = some c ∧ c.name = name
  /-- A name leads to the declaration that is found. -/
  find?_eq : ∀ name, positions[name]?.bind (commands[·]?) = index.find? (·.name = name)

/-- The positions of nothing. -/
theorem locates_nil : Locates commands [] ∅ where
  exists_declaration := by simp
  find?_eq := by simp

/-- A declaration is found under its name if its position is stored. -/
theorem Locates.insert {c : Command} {position : ℕ} (h : Locates commands index positions)
    (hc : commands[position]? = some c) :
    Locates commands (c :: index) (positions.insert c.name position) where
  exists_declaration := by
    intro name position' hposition
    rw [Std.HashMap.getElem?_insert] at hposition
    split_ifs at hposition with heq
    · cases hposition
      exact ⟨c, hc, eq_of_beq heq⟩
    · exact h.exists_declaration name position' hposition
  find?_eq := by
    intro name
    rw [Std.HashMap.getElem?_insert, List.find?_cons]
    by_cases heq : c.name = name
    · simp [heq, hc]
    · simp [heq, h.find?_eq name]

/-- **The step**: a position is added exactly if its declaration is, and is refused with the same error. -/
theorem Locates.add {c : Command} {position : ℕ} (h : Locates commands index positions)
    (hc : commands[position]? = some c) :
    (∀ e, addToIndex d index c = .error e →
        addPosition d commands positions (c, position) = .error (.refused e)) ∧
      ∀ index', addToIndex d index c = .ok index' →
        ∃ positions', addPosition d commands positions (c, position) = .ok positions' ∧
          Locates commands index' positions' := by
  have hfound := h.find?_eq c.name
  unfold addToIndex addPosition
  rcases hposition : positions[c.name]? with _ | existing
  · rw [hposition, Option.bind_none] at hfound
    simp only [hposition, ← hfound, reduceCtorEq, false_implies, implies_true, true_and, Except.ok.injEq,
      forall_eq', exists_eq_left']
    exact h.insert hc
  · obtain ⟨earlier, hearlier, -⟩ := h.exists_declaration c.name existing hposition
    rw [hposition, Option.bind_some, hearlier] at hfound
    simp only [hposition, hearlier, ← hfound]
    -- what happens is decided by the kinds of the two declarations
    rcases d.isSafetyCritical earlier.api? with _ | _ <;> rcases d.isSafetyCritical c.api? with _ | _
    · simp
    · simpa using h
    · simpa using h.insert hc
    · simp

/-- **The run**: positions are added as long as their declarations are. -/
theorem Locates.foldlM {placed : List (Command × ℕ)} (h : Locates commands index positions)
    (hplaced : ∀ x ∈ placed, commands[x.2]? = some x.1) :
    (∀ e, (placed.map (·.1)).foldlM (addToIndex d) index = .error e →
        placed.foldlM (addPosition d commands) positions = .error (.refused e)) ∧
      ∀ index', (placed.map (·.1)).foldlM (addToIndex d) index = .ok index' →
        ∃ positions', placed.foldlM (addPosition d commands) positions = .ok positions' ∧
          Locates commands index' positions' := by
  induction placed generalizing index positions with
  | nil =>
      refine ⟨fun e he => ?_, fun index' hindex => ?_⟩
      · cases he
      · cases hindex
        exact ⟨positions, rfl, h⟩
  | cons x placed ih =>
      obtain ⟨hx, hplaced⟩ := List.forall_mem_cons.1 hplaced
      obtain ⟨hrefused, hadded⟩ := h.add (d := d) hx
      rw [List.map_cons, List.foldlM_cons, List.foldlM_cons]
      rcases hadd : addToIndex d index x.1 with e | next
      · rw [hrefused e hadd]
        refine ⟨fun e' he => ?_, fun index' hindex => ?_⟩
        · cases he
          rfl
        · cases hindex
      · obtain ⟨positions', hpositions, h'⟩ := hadded next hadd
        rw [hpositions]
        exact ih h' hplaced

/-- The declarations of a list stand at their positions. -/
theorem getElem?_of_mem_zipIdx : ∀ x ∈ commands.zipIdx, commands[x.2]? = some x.1 := by
  rintro ⟨c, position⟩ hx
  exact List.mem_zipIdx_iff_getElem?.1 hx

/-- **Positions are indexed exactly if the declarations are**, and refused with the same error otherwise. They
lead to the same declarations. -/
theorem indexPositions_decided (d : Dialect) (commands : List Command) :
    (∀ e, indexCommands d commands = .error e → indexPositions d commands = .error (.refused e)) ∧
      ∀ index, indexCommands d commands = .ok index →
        ∃ positions, indexPositions d commands = .ok positions ∧ Locates commands index positions := by
  have hnil : Locates commands [] ∅ := locates_nil
  have hrun := hnil.foldlM (d := d) getElem?_of_mem_zipIdx
  rwa [List.zipIdx_map_fst] at hrun

end LayerHeaders
