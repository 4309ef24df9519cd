import LayerHeaders.Proofs.Header.Placement
import Mathlib.Data.List.Induction

/-!
# The first defect of a header

The guards of a header without defect, taken without what stands between them, open and close in turn, and
each is closed by its own token. A check goes over the instructions with the guard that is open, and
reports the first one that cannot stand where it does. Only if there is none it looks at the end, where no
guard may be open.

* `Alternating`: guards that open and close in turn.
* `Sound`: instructions that a header without defect can start with.
* `Instruction.HasDefect`: what is reported of an instruction, while a guard is open or none is.
* `sound_append_singleton_iff`: which instructions can stand after sound ones.
* `checkFrom_of_sound`: a check goes over sound instructions, and on after them.
* `exists_first_defect`: instructions that are not sound have a first one that has a defect.
* `check_reports_first`: what a check reports.
-/

namespace LayerHeaders

/-! ## Guards in turn -/

/-- The guards among the instructions. -/
def guards (body : List Instruction) : List Instruction :=
  body.filter (·.isGuard)

/-- **Whether guards open and close in turn**, each closed by its own token, and which of them stays
open. -/
inductive Alternating : List Instruction → Option String → Prop
  /-- There are none. -/
  | nil : Alternating [] none
  /-- The last one stays open. -/
  | opened (indent : ℕ) (token : String) (test : GuardTest) :
      Alternating [.openGuard indent token test] (some token)
  /-- The first one is closed, and the others open and close in turn. -/
  | pair {indent indent' : ℕ} {token : String} {test : GuardTest} {style : GuardEnd}
      {is : List Instruction} {open? : Option String} (h : Alternating is open?) :
      Alternating (.openGuard indent token test :: .closeGuard indent' token style :: is) open?

/-- **Whether a header without defect can start with these instructions**, and which guard is open after
them. -/
structure Sound (body : List Instruction) (open? : Option String) : Prop where
  /-- No line of code contains a line feed. -/
  lines : ∀ indent text, Instruction.line indent text ∈ body → '\n' ∉ text.toList
  /-- The guards open and close in turn. -/
  alternating : Alternating (guards body) open?

namespace Instruction

/-- What is reported of the instruction at `index`, while `open?` is open. -/
inductive HasDefect (name : String) (open? : Option String) (index : ℕ) :
    Instruction → HeaderError → Prop
  /-- A line of code contains a line feed. -/
  | lineFeed {indent : ℕ} {text : String} (h : '\n' ∈ text.toList) :
      HasDefect name open? index (.line indent text) (.embeddedNewline name index)
  /-- A guard opens inside another one. -/
  | nested {indent : ℕ} {token outer : String} {test : GuardTest} (h : open? = some outer) :
      HasDefect name open? index (.openGuard indent token test) (.nestedGuard name outer token)
  /-- A guard is closed while none is open. -/
  | stray {indent : ℕ} {token : String} {style : GuardEnd} (h : open? = none) :
      HasDefect name open? index (.closeGuard indent token style)
        (.unbalancedGuard name (.notOpen token))
  /-- A guard is closed while another one is open. -/
  | mismatched {indent : ℕ} {token current : String} {style : GuardEnd} (h : open? = some current)
      (hne : current ≠ token) :
      HasDefect name open? index (.closeGuard indent token style)
        (.unbalancedGuard name (.closesOther token current))

/-- Whether an instruction has no defect while the first guard is open, and leaves the second one open. -/
inductive Passes : Option String → Instruction → Option String → Prop
  /-- A line of code without a line feed. -/
  | line {open? : Option String} {indent : ℕ} {text : String} (h : '\n' ∉ text.toList) :
      Passes open? (.line indent text) open?
  /-- An empty line. -/
  | blank {open? : Option String} : Passes open? .blank open?
  /-- A guard opens outside every other one. -/
  | opens {indent : ℕ} {token : String} {test : GuardTest} :
      Passes none (.openGuard indent token test) (some token)
  /-- The guard that is open is closed. -/
  | closes {indent : ℕ} {token : String} {style : GuardEnd} :
      Passes (some token) (.closeGuard indent token style) none

variable {name : String} {open? next? : Option String} {index : ℕ} {i : Instruction}

/-- **The step**: an instruction passes, or has a defect. -/
theorem exists_passes_or_hasDefect (name : String) (open? : Option String) (index : ℕ)
    (i : Instruction) : (∃ next?, Passes open? i next?) ∨ ∃ e, i.HasDefect name open? index e := by
  rcases i with ⟨indent, text⟩ | _ | ⟨indent, token, test⟩ | ⟨indent, token, style⟩
  · by_cases h : '\n' ∈ text.toList
    · exact Or.inr ⟨_, .lineFeed h⟩
    · exact Or.inl ⟨_, .line h⟩
  · exact Or.inl ⟨_, .blank⟩
  · rcases open? with _ | outer
    · exact Or.inl ⟨_, .opens⟩
    · exact Or.inr ⟨_, .nested rfl⟩
  · rcases open? with _ | current
    · exact Or.inr ⟨_, .stray rfl⟩
    · by_cases h : current = token
      · subst h
        exact Or.inl ⟨_, .closes⟩
      · exact Or.inr ⟨_, .mismatched rfl h⟩

/-- An instruction that passes has no defect. -/
theorem Passes.not_hasDefect (h : Passes open? i next?) {e : HeaderError} :
    ¬ i.HasDefect name open? index e := by
  intro hdefect
  cases h with
  | line htext =>
      cases hdefect with
      | lineFeed hmem => exact htext hmem
  | blank => cases hdefect
  | opens =>
      cases hdefect with
      | nested hopen => cases hopen
  | closes =>
      cases hdefect with
      | stray hopen => cases hopen
      | mismatched hopen hne =>
          cases hopen
          exact hne rfl

/-- A check goes on after an instruction that passes. -/
theorem Passes.checkFrom_cons (h : Passes open? i next?) (rest : List Instruction) :
    Header.checkFrom name open? index (i :: rest) = Header.checkFrom name next? (index + 1) rest := by
  cases h with
  | line htext => rw [Header.checkFrom, String.contains_char_eq, if_neg (by simpa using htext)]
  | blank => rw [Header.checkFrom]
  | opens => rw [Header.checkFrom]
  | closes =>
      rw [Header.checkFrom]
      exact if_pos rfl

/-- A check stops at an instruction that has a defect. -/
theorem HasDefect.checkFrom_cons {e : HeaderError} (h : i.HasDefect name open? index e)
    (rest : List Instruction) : Header.checkFrom name open? index (i :: rest) = .error e := by
  cases h with
  | lineFeed htext => rw [Header.checkFrom, String.contains_char_eq, if_pos (by simpa using htext)]
  | nested hopen =>
      subst hopen
      rw [Header.checkFrom]
  | stray hopen =>
      subst hopen
      rw [Header.checkFrom]
  | mismatched hopen hne =>
      subst hopen
      rw [Header.checkFrom]
      exact if_neg hne

end Instruction

/-! ## One instruction more -/

section

variable {gs body before after : List Instruction} {g i : Instruction} {open? next? : Option String}

/-- Guards leave one guard open at most. -/
theorem Alternating.unique {other? : Option String} (h : Alternating gs open?)
    (h' : Alternating gs other?) : open? = other? := by
  induction h with
  | nil =>
      cases h'
      rfl
  | opened indent token test =>
      cases h'
      rfl
  | pair _ ih =>
      cases h' with
      | pair hrest => exact ih hrest

/-- Guards in turn can be followed by a guard that passes. -/
theorem Alternating.append_singleton (h : Alternating gs open?) (hg : g.isGuard = true)
    (hpasses : Instruction.Passes open? g next?) : Alternating (gs ++ [g]) next? := by
  induction h with
  | nil =>
      cases hpasses with
      | line _ => cases hg
      | blank => cases hg
      | opens => exact .opened _ _ _
  | opened indent token test =>
      cases hpasses with
      | line _ => cases hg
      | blank => cases hg
      | closes => exact .pair .nil
  | pair _ ih => exact .pair (ih hpasses)

/-- Of guards in turn, the last one passes after the others. -/
theorem Alternating.of_append_singleton (h : Alternating (gs ++ [g]) next?) :
    ∃ open?, Alternating gs open? ∧ Instruction.Passes open? g next? := by
  generalize hwhole : gs ++ [g] = whole at h
  induction h generalizing gs with
  | nil => exact absurd hwhole (by simp)
  | opened indent token test =>
      obtain ⟨rfl, rfl⟩ : gs = [] ∧ g = .openGuard indent token test := by
        simpa [List.append_eq_singleton_iff] using hwhole
      exact ⟨none, .nil, .opens⟩
  | @pair indent indent' token test style is open? hrest ih =>
      -- the guard that is taken off the end is the second one, or one of those after it
      rcases gs with _ | ⟨first, _ | ⟨second, gs⟩⟩
      · exact absurd hwhole (by simp)
      · obtain ⟨rfl, rfl, rfl⟩ : first = .openGuard indent token test ∧
            g = .closeGuard indent' token style ∧ is = [] := by
          simpa using hwhole
        cases hrest
        exact ⟨some token, .opened _ _ _, .closes⟩
      · obtain ⟨rfl, rfl, hrest⟩ : first = .openGuard indent token test ∧
            second = .closeGuard indent' token style ∧ gs ++ [g] = is := by
          simpa using hwhole
        obtain ⟨open?, hgs, hpasses⟩ := ih hrest
        exact ⟨open?, .pair hgs, hpasses⟩

/-- Sound instructions leave one guard open at most. -/
theorem Sound.unique {other? : Option String} (h : Sound body open?) (h' : Sound body other?) :
    open? = other? :=
  h.alternating.unique h'.alternating

/-- Without instructions, no guard is open. -/
theorem sound_nil : Sound [] none :=
  ⟨fun _ _ h => absurd h List.not_mem_nil, .nil⟩

theorem guards_append_singleton (body : List Instruction) (i : Instruction) :
    guards (body ++ [i]) = if i.isGuard then guards body ++ [i] else guards body := by
  rw [guards, List.filter_append, List.filter_cons, List.filter_nil]
  split_ifs
  · rfl
  · exact List.append_nil _

/-- **What can stand after sound instructions**: an instruction that passes. -/
theorem sound_append_singleton_iff :
    Sound (body ++ [i]) next? ↔ ∃ open?, Sound body open? ∧ Instruction.Passes open? i next? := by
  constructor
  · rintro ⟨hlines, hguards⟩
    rw [guards_append_singleton] at hguards
    have hbody : ∀ indent text, Instruction.line indent text ∈ body → '\n' ∉ text.toList := by
      intro indent text hmem
      exact hlines indent text (List.mem_append_left _ hmem)
    rcases i with ⟨indent, text⟩ | _ | _ | _
    · have htext := hlines indent text (List.mem_append_right _ List.mem_cons_self)
      exact ⟨next?, ⟨hbody, hguards⟩, .line htext⟩
    · exact ⟨next?, ⟨hbody, hguards⟩, .blank⟩
    · obtain ⟨open?, hbefore, hpasses⟩ := Alternating.of_append_singleton hguards
      exact ⟨open?, ⟨hbody, hbefore⟩, hpasses⟩
    · obtain ⟨open?, hbefore, hpasses⟩ := Alternating.of_append_singleton hguards
      exact ⟨open?, ⟨hbody, hbefore⟩, hpasses⟩
  · rintro ⟨open?, hbody, hpasses⟩
    refine ⟨?_, ?_⟩
    · intro indent text hmem
      rcases List.mem_append.1 hmem with hmem | hmem
      · exact hbody.lines indent text hmem
      · cases List.mem_singleton.1 hmem
        cases hpasses with
        | line htext => exact htext
    · rw [guards_append_singleton]
      cases hpasses with
      | line _ => exact hbody.alternating
      | blank => exact hbody.alternating
      | opens => exact hbody.alternating.append_singleton rfl .opens
      | closes => exact hbody.alternating.append_singleton rfl .closes

/-- What sound instructions start with is sound. -/
theorem Sound.of_append (h : Sound (before ++ after) next?) : ∃ open?, Sound before open? := by
  induction after using List.reverseRecOn generalizing next? with
  | nil =>
      rw [List.append_nil] at h
      exact ⟨next?, h⟩
  | append_singleton after i ih =>
      rw [← List.append_assoc] at h
      obtain ⟨open?, hopen, -⟩ := sound_append_singleton_iff.1 h
      exact ih hopen

/-- After sound instructions, those that have a defect are those that cannot stand there. -/
theorem Sound.exists_hasDefect_iff (h : Sound before open?) (name : String) (index : ℕ)
    (i : Instruction) :
    (∃ e, i.HasDefect name open? index e) ↔ ∀ next?, ¬ Sound (before ++ [i]) next? := by
  constructor
  · rintro ⟨e, hdefect⟩ next? hnext
    obtain ⟨other?, hother, hpasses⟩ := sound_append_singleton_iff.1 hnext
    obtain rfl := h.unique hother
    exact hpasses.not_hasDefect hdefect
  · intro hnone
    apply (Instruction.exists_passes_or_hasDefect name open? index i).resolve_left
    rintro ⟨next?, hpasses⟩
    exact hnone next? (sound_append_singleton_iff.2 ⟨open?, h, hpasses⟩)

end

/-! ## The whole header -/

section

variable {name : String} {body before : List Instruction} {open? : Option String}

/-- **The run**: a check goes over sound instructions, and on after them with the guard that they leave
open. -/
theorem checkFrom_of_sound (h : Sound before open?) (rest : List Instruction) :
    Header.checkFrom name none 0 (before ++ rest) =
      Header.checkFrom name open? before.length rest := by
  induction before using List.reverseRecOn generalizing open? rest with
  | nil =>
      obtain rfl := h.unique sound_nil
      rfl
  | append_singleton before i ih =>
      obtain ⟨prior?, hbefore, hpasses⟩ := sound_append_singleton_iff.1 h
      rw [List.append_assoc, ih hbefore, List.singleton_append, hpasses.checkFrom_cons,
        List.length_append, List.length_singleton]

/-- **Instructions that are not sound have a first one that has a defect**, after sound ones. -/
theorem exists_first_defect (name : String) (body : List Instruction) :
    (∃ open?, Sound body open?) ∨ ∃ before i after open? e, body = before ++ i :: after ∧
      Sound before open? ∧ i.HasDefect name open? before.length e := by
  induction body using List.reverseRecOn with
  | nil => exact Or.inl ⟨none, sound_nil⟩
  | append_singleton body last ih =>
      rcases ih with ⟨open?, hbody⟩ | ⟨before, i, after, open?, e, rfl, hbefore, hdefect⟩
      · rcases Instruction.exists_passes_or_hasDefect name open? body.length last with
          ⟨next?, hpasses⟩ | ⟨e, hdefect⟩
        · exact Or.inl ⟨next?, sound_append_singleton_iff.2 ⟨open?, hbody, hpasses⟩⟩
        · exact Or.inr ⟨body, last, [], open?, e, rfl, hbody, hdefect⟩
      · refine Or.inr ⟨before, i, after ++ [last], open?, e, ?_, hbefore, hdefect⟩
        rw [List.append_assoc, List.cons_append]

namespace Header

/-- A check of a sound header ends with the guard that is open. -/
theorem check_eq_of_sound {h : Header} (hsound : Sound h.body open?) :
    h.check = checkFrom h.name open? h.body.length [] := by
  rw [check, ← checkFrom_of_sound hsound, List.append_nil]

/-- A sound header without an open guard passes. -/
theorem check_of_sound {h : Header} (hsound : Sound h.body none) : h.check = .ok () := by
  rw [check_eq_of_sound hsound, checkFrom]

/-- A sound header with an open guard is reported for that guard. -/
theorem check_of_sound_open {h : Header} {token : String} (hsound : Sound h.body (some token)) :
    h.check = .error (.unbalancedGuard h.name (.neverClosed token)) := by
  rw [check_eq_of_sound hsound, checkFrom]

/-- A header is reported for a defect after sound instructions. -/
theorem check_of_hasDefect {h : Header} {after : List Instruction} {i : Instruction} {e : HeaderError}
    (hbody : h.body = before ++ i :: after) (hsound : Sound before open?)
    (hdefect : i.HasDefect h.name open? before.length e) : h.check = .error e := by
  rw [check, hbody, checkFrom_of_sound hsound, hdefect.checkFrom_cons]

/-- A header passes exactly if it is sound and leaves no guard open. -/
theorem check_eq_ok_iff {h : Header} : h.check = .ok () ↔ Sound h.body none := by
  constructor
  · intro hok
    rcases exists_first_defect h.name h.body with
      ⟨_ | token, hsound⟩ | ⟨before, i, after, open?, e, hbody, hbefore, hdefect⟩
    · exact hsound
    · rw [check_of_sound_open hsound] at hok
      cases hok
    · rw [check_of_hasDefect hbody hbefore hdefect] at hok
      cases hok
  · intro hsound
    exact check_of_sound hsound

/-- A header is reported for its first defect, or else for the guard that it leaves open. -/
theorem check_eq_error_iff {h : Header} {e : HeaderError} :
    h.check = .error e ↔
      (∃ before i after open?, h.body = before ++ i :: after ∧ Sound before open? ∧
        i.HasDefect h.name open? before.length e) ∨
      ∃ token, Sound h.body (some token) ∧ e = .unbalancedGuard h.name (.neverClosed token) := by
  constructor
  · intro herror
    rcases exists_first_defect h.name h.body with
      ⟨_ | token, hsound⟩ | ⟨before, i, after, open?, e', hbody, hbefore, hdefect⟩
    · rw [check_of_sound hsound] at herror
      cases herror
    · rw [check_of_sound_open hsound] at herror
      exact Or.inr ⟨token, hsound, (Except.error.inj herror).symm⟩
    · rw [check_of_hasDefect hbody hbefore hdefect] at herror
      cases herror
      exact Or.inl ⟨before, i, after, open?, hbody, hbefore, hdefect⟩
  · rintro (⟨before, i, after, open?, hbody, hbefore, hdefect⟩ | ⟨token, hsound, rfl⟩)
    · exact check_of_hasDefect hbody hbefore hdefect
    · exact check_of_sound_open hsound

/-- **A check accepts the headers whose lines have no line feed and whose guards open and close in turn**,
and otherwise reports the first instruction that cannot stand where it does, with what is wrong with it:
the instructions before it are sound, and it makes them unsound. A guard that is never closed is reported
only if every instruction can stand where it does. What sound instructions start with is sound, so there
is no earlier one to report. -/
theorem check_reports_first (h : Header) :
    (h.check = .ok () ↔ Sound h.body none) ∧
      (∀ e, h.check = .error e ↔
        (∃ before i after open?, h.body = before ++ i :: after ∧ Sound before open? ∧
          i.HasDefect h.name open? before.length e) ∨
        ∃ token, Sound h.body (some token) ∧ e = .unbalancedGuard h.name (.neverClosed token)) ∧
      (∀ before open? i, Sound before open? →
        ((∃ e, i.HasDefect h.name open? before.length e) ↔
          ∀ next?, ¬ Sound (before ++ [i]) next?)) ∧
      ∀ before after next?, Sound (before ++ after) next? → ∃ open?, Sound before open? := by
  refine ⟨check_eq_ok_iff, fun e => check_eq_error_iff, ?_, ?_⟩
  · intro before open? i hbefore
    exact hbefore.exists_hasDefect_iff h.name before.length i
  · intro before after next? hsound
    exact hsound.of_append

/-- Of two guards that are closed by other tokens, the first one is reported. -/
example : check ⟨"a.h", [.openGuard 0 "A" .defined, .closeGuard 0 "B" .plain, .blank,
      .closeGuard 0 "A" .plain]⟩ = .error (.unbalancedGuard "a.h" (.closesOther "B" "A")) := by
  decide

end Header

end

end LayerHeaders
