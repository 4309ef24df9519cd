import LayerHeaders.Header.Basic
import Mathlib.Tactic.SplitIfs

/-!
# Lines under their guards

`walk` goes over the instructions of a header with the guard that is open, and places each line of code
under it. It comes to an end only if no guard opens inside another one, each is closed by its own token
and none stays open.

* `walk_append`, `walk_guarded`: a header is walked part by part, and a guarded part lies under its guard.
* `checkFrom_of_walk`: what a check of instructions that are walked to the end can still find.
-/

namespace LayerHeaders

/-- A line of code under the guard that encloses it. -/
structure PlacedLine where
  /-- The token of the guard, unless the line is outside every guard. -/
  guard? : Option String
  /-- The level of indentation. -/
  indent : Nat
  /-- The code. -/
  text : String
deriving DecidableEq, Repr

namespace Instruction

/-- Whether an instruction opens or closes a guard. -/
def isGuard : Instruction → Bool
  | line _ _ => false
  | blank => false
  | openGuard _ _ _ => true
  | closeGuard _ _ _ => true

/-- The line of code that an instruction is, under a guard. -/
def placed? (guard? : Option String) : Instruction → Option PlacedLine
  | line indent text => some ⟨guard?, indent, text⟩
  | blank => none
  | openGuard _ _ _ => none
  | closeGuard _ _ _ => none

end Instruction

/-- The lines of code of the instructions from some point on, under their guards, while `open?` is
open. -/
def walk (open? : Option String) : List Instruction → Option (List PlacedLine)
  | [] =>
    match open? with
    | none => some []
    | some _ => none
  | i :: is =>
    match i with
    | .line indent text => (walk open? is).map (⟨open?, indent, text⟩ :: ·)
    | .blank => walk open? is
    | .openGuard _ token _ =>
      match open? with
      | none => walk (some token) is
      | some _ => none
    | .closeGuard _ token _ => if open? = some token then walk none is else none

/-- Whether there are no guards among the instructions. -/
def GuardFree (body : List Instruction) : Prop :=
  ∀ i ∈ body, i.isGuard = false

/-- The lines of code of a part without guards, under one guard. -/
def linesUnder (guard? : Option String) (body : List Instruction) : List PlacedLine :=
  body.filterMap (·.placed? guard?)

/-! ## Parts without guards -/

section

variable {a b body : List Instruction} {guard? : Option String}

@[simp] theorem guardFree_nil : GuardFree [] :=
  List.forall_mem_nil _

@[simp] theorem guardFree_cons {i : Instruction} :
    GuardFree (i :: body) ↔ i.isGuard = false ∧ GuardFree body :=
  List.forall_mem_cons

@[simp] theorem guardFree_append : GuardFree (a ++ b) ↔ GuardFree a ∧ GuardFree b :=
  List.forall_mem_append

theorem guardFree_map {α : Type} {f : α → Instruction} {l : List α}
    (h : ∀ x ∈ l, (f x).isGuard = false) : GuardFree (l.map f) :=
  List.forall_mem_map.2 h

theorem guardFree_flatMap {α : Type} {f : α → List Instruction} {l : List α}
    (h : ∀ x ∈ l, GuardFree (f x)) : GuardFree (l.flatMap f) := by
  intro i hi
  obtain ⟨x, hx, hix⟩ := List.mem_flatMap.1 hi
  exact h x hx i hix

@[simp] theorem linesUnder_flatMap {α : Type} {f : α → List Instruction} {l : List α} :
    linesUnder guard? (l.flatMap f) = l.flatMap fun x => linesUnder guard? (f x) :=
  List.filterMap_flatMap

/-- A declaration with parameters has no guards. -/
theorem guardFree_signatureLines (indent : Nat) (head : String) (params : List String)
    (tail : String) : GuardFree (signatureLines indent head params tail) := by
  unfold signatureLines
  rcases params.getLast? with _ | last
  · simp [Instruction.isGuard]
  · refine guardFree_append.2 ⟨guardFree_cons.2 ⟨rfl, guardFree_map fun _ _ => rfl⟩, ?_⟩
    simp [Instruction.isGuard]

end

/-! ## Walking part by part -/

section

variable {a b body : List Instruction} {guard? open? : Option String} {xs : List PlacedLine}

/-- Instructions that are walked to the end can be followed by others, which are walked with no guard
open. -/
theorem walk_append (h : walk open? a = some xs) :
    walk open? (a ++ b) = (walk none b).map (xs ++ ·) := by
  induction a generalizing open? xs with
  | nil =>
      rcases open? with _ | token
      · cases h
        exact Option.map_id'.symm
      · cases h
  | cons i is ih =>
      rw [List.cons_append]
      rcases i with ⟨indent, text⟩ | _ | ⟨_, token, _⟩ | ⟨_, token, _⟩
      · rw [walk, Option.map_eq_some_iff] at h
        obtain ⟨ys, hys, rfl⟩ := h
        rw [walk, ih hys, Option.map_map]
        rfl
      · exact ih h
      · rcases open? with _ | outer
        · exact ih h
        · cases h
      · rw [walk] at h ⊢
        split_ifs at h ⊢
        exact ih h

/-- A part without guards is walked under the guard that is open. -/
theorem walk_guardFree_append (h : GuardFree a) :
    walk open? (a ++ b) = (walk open? b).map (linesUnder open? a ++ ·) := by
  induction a with
  | nil => exact Option.map_id'.symm
  | cons i is ih =>
      obtain ⟨hi, his⟩ := guardFree_cons.1 h
      rw [List.cons_append]
      rcases i with ⟨indent, text⟩ | _ | _ | _
      · rw [walk, ih his, Option.map_map]
        rfl
      · exact ih his
      · cases hi
      · cases hi

/-- A part without guards, outside every guard. -/
theorem walk_guardFree (h : GuardFree body) : walk none body = some (linesUnder none body) := by
  have hbody : walk none (body ++ []) = _ := walk_guardFree_append h
  rw [List.append_nil] at hbody
  rw [hbody, walk, Option.map_some, List.append_nil]

/-- **A part without guards lies under the guard that it is put into.** -/
theorem walk_guarded {indent : Nat} {style : GuardEnd} (h : GuardFree body) :
    walk none (guarded indent guard? style body) = some (linesUnder guard? body) := by
  rcases guard? with _ | token
  · exact walk_guardFree h
  · show walk (some token) (body ++ [.closeGuard indent token style]) = _
    rw [walk_guardFree_append h, walk, if_pos rfl, walk, Option.map_some, List.append_nil]

/-- Parts that are each walked to the end are walked to the end one after the other. -/
theorem walk_flatMap {α : Type} {f : α → List Instruction} {lines : α → List PlacedLine}
    {l : List α} (h : ∀ x ∈ l, walk none (f x) = some (lines x)) :
    walk none (l.flatMap f) = some (l.flatMap lines) := by
  induction l with
  | nil => rfl
  | cons x l ih =>
      obtain ⟨hx, hl⟩ := List.forall_mem_cons.1 h
      rw [List.flatMap_cons, walk_append hx, ih hl, Option.map_some, List.flatMap_cons]

end

/-- The lines of a header that can be made and be walked to the end have a property if evaluation says
so. -/
theorem exists_lines_of_any (made : Except HeaderError Header) (P : List PlacedLine → Prop)
    [DecidablePred P] (h : (made.toOption.bind fun header => walk none header.body).any (P ·) = true) :
    ∃ header lines, made = .ok header ∧ walk none header.body = some lines ∧ P lines := by
  rcases made with _ | header
  · cases h
  · rcases hwalk : walk none header.body with _ | lines
    · simp [Except.toOption, hwalk] at h
    · simp only [Except.toOption, Option.bind_some, hwalk, Option.any_some, decide_eq_true_eq] at h
      exact ⟨header, lines, rfl, hwalk, h⟩

/-! ## Checking -/

/-- **Instructions that are walked to the end have no defect in their guards**: a check can only find a
line of code with a line feed. -/
theorem checkFrom_of_walk {name : String} {index : Nat} {open? : Option String}
    {body : List Instruction} {xs : List PlacedLine} {e : HeaderError}
    (h : walk open? body = some xs) (he : Header.checkFrom name open? index body = .error e) :
    (∃ position, e = .embeddedNewline name position) ∧
      ∃ indent text, .line indent text ∈ body ∧ '\n' ∈ text.toList := by
  induction body generalizing open? index xs with
  | nil =>
      rcases open? with _ | token
      · cases he
      · cases h
  | cons i is ih =>
      -- what is found behind the first instruction
      have hbehind : ∀ {open? index xs}, walk open? is = some xs →
          Header.checkFrom name open? index is = .error e →
          (∃ position, e = .embeddedNewline name position) ∧
            ∃ indent text, .line indent text ∈ i :: is ∧ '\n' ∈ text.toList := by
        intro open? index xs h he
        obtain ⟨hposition, indent, text, hmem, htext⟩ := ih h he
        exact ⟨hposition, indent, text, List.mem_cons_of_mem _ hmem, htext⟩
      rcases i with ⟨indent, text⟩ | _ | ⟨_, token, _⟩ | ⟨_, token, _⟩
      · rw [walk, Option.map_eq_some_iff] at h
        obtain ⟨ys, hys, -⟩ := h
        rw [Header.checkFrom] at he
        split_ifs at he with htext
        · rw [String.contains_char_eq, decide_eq_true_iff] at htext
          exact ⟨⟨index, (Except.error.inj he).symm⟩, indent, text, List.mem_cons_self, htext⟩
        · exact hbehind hys he
      · exact hbehind h he
      · rcases open? with _ | outer
        · exact hbehind h he
        · cases h
      · rw [walk] at h
        split_ifs at h with htoken
        subst htoken
        rw [Header.checkFrom] at he
        simp only [if_pos] at he
        exact hbehind h he

end LayerHeaders
