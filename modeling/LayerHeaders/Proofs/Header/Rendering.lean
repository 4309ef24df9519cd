import LayerHeaders.Header.Kind
import LayerHeaders.Proofs.Header.Checking
import LayerHeaders.Proofs.Registry.Reading

/-!
# The lines of a rendered header

A header is rendered as the writings of its instructions, each ended by a line feed. A check refuses line
feeds in lines of code, but does not look at the tokens of guards. So each instruction takes one line
exactly if no guard opens with a token that contains a line feed.

* `Instruction.writtenAs_iff`: how an instruction is written.
* `rendered_in_lines`: the text is that of the instructions in order, and when each of them is one line.
* `owner_of_two_lines`: a registry whose header has an instruction of two lines.
-/

namespace LayerHeaders

/-! ## How instructions are written -/

/-- **Whether a text is how an instruction is written**, without the line feed after it. -/
inductive Instruction.WrittenAs : Instruction → List Char → Prop
  /-- A line of code stands behind two spaces for each level. -/
  | line (indent : ℕ) (text : String) :
      WrittenAs (.line indent text) (List.replicate (2 * indent) ' ' ++ text.toList)
  /-- An empty line has no spaces. -/
  | blank : WrittenAs .blank []
  /-- A guard that asks for a token. -/
  | openDefined (indent : ℕ) (token : String) :
      WrittenAs (.openGuard indent token .defined)
        (List.replicate (2 * indent) ' ' ++ ("#ifdef ".toList ++ token.toList))
  /-- A guard that asks for an expression. -/
  | openExpression (indent : ℕ) (token : String) :
      WrittenAs (.openGuard indent token .expression)
        (List.replicate (2 * indent) ' ' ++ ("#if ".toList ++ token.toList))
  /-- The end of a guard. -/
  | closePlain (indent : ℕ) (token : String) :
      WrittenAs (.closeGuard indent token .plain)
        (List.replicate (2 * indent) ' ' ++ "#endif".toList)
  /-- The end of a guard, with its token. -/
  | closeAnnotated (indent : ℕ) (token : String) :
      WrittenAs (.closeGuard indent token .annotated)
        (List.replicate (2 * indent) ' ' ++ ("#endif // ".toList ++ token.toList))

theorem Header.toList_indentation (indent : ℕ) :
    (Header.indentation indent).toList = List.replicate (2 * indent) ' ' :=
  String.toList_ofList

/-- **How an instruction is written.** -/
theorem Instruction.writtenAs_iff {i : Instruction} {l : List Char} :
    i.WrittenAs l ↔ l = (Header.renderLine i).toList := by
  constructor
  · rintro (_ | _ | _ | _ | _ | _) <;>
      simp [Header.renderLine, Header.toList_indentation]
  · rintro rfl
    rcases i with ⟨indent, text⟩ | _ | ⟨indent, token, _ | _⟩ | ⟨indent, token, _ | _⟩
    · simpa [Header.renderLine, Header.toList_indentation] using WrittenAs.line indent text
    · exact .blank
    · simpa [Header.renderLine, Header.toList_indentation] using WrittenAs.openDefined indent token
    · simpa [Header.renderLine, Header.toList_indentation] using WrittenAs.openExpression indent token
    · simpa [Header.renderLine, Header.toList_indentation] using WrittenAs.closePlain indent token
    · simpa [Header.renderLine, Header.toList_indentation] using WrittenAs.closeAnnotated indent token

/-- How instructions are written, one by one. -/
theorem forall₂_writtenAs_iff {body : List Instruction} {lines : List (List Char)} :
    List.Forall₂ Instruction.WrittenAs body lines ↔
      lines = body.map fun i => (Header.renderLine i).toList := by
  have hwritten : Instruction.WrittenAs = fun i l => (Header.renderLine i).toList = l := by
    funext i l
    exact propext (Instruction.writtenAs_iff.trans eq_comm)
  rw [hwritten, ← List.forall₂_map_left_iff, List.forall₂_eq_eq_eq]
  exact eq_comm

/-! ## What a check leaves -/

/-- The texts of the lines of code, in order. -/
def codeTexts (body : List Instruction) : List String :=
  body.filterMap fun
    | .line _ text => some text
    | .blank => none
    | .openGuard _ _ _ => none
    | .closeGuard _ _ _ => none

theorem codeTexts_append (body body' : List Instruction) :
    codeTexts (body ++ body') = codeTexts body ++ codeTexts body' :=
  List.filterMap_append

theorem codeTexts_flatMap {α : Type} (f : α → List Instruction) (l : List α) :
    codeTexts (l.flatMap f) = l.flatMap fun x => codeTexts (f x) :=
  List.filterMap_flatMap

/-- The tokens that guards open with, in order. -/
def openedTokens (body : List Instruction) : List String :=
  body.filterMap fun
    | .openGuard _ token _ => some token
    | .line _ _ => none
    | .blank => none
    | .closeGuard _ _ _ => none

/-- Of guards in turn, each is closed by a token that a guard was opened with. -/
theorem Alternating.mem_openedTokens {gs : List Instruction} {open? : Option String}
    (h : Alternating gs open?) {indent : ℕ} {token : String} {style : GuardEnd}
    (hclose : .closeGuard indent token style ∈ gs) : token ∈ openedTokens gs := by
  induction h with
  | nil => exact absurd hclose List.not_mem_nil
  | opened _ _ _ => simp at hclose
  | pair _ ih =>
      simp only [List.mem_cons, reduceCtorEq, Instruction.closeGuard.injEq, false_or] at hclose
      rcases hclose with ⟨-, rfl, -⟩ | hclose
      · exact List.mem_cons_self
      · exact List.mem_cons_of_mem _ (ih hclose)

/-- In a header without defect, each guard is closed by a token that a guard was opened with. -/
theorem Sound.mem_openedTokens {body : List Instruction} {open? : Option String}
    (h : Sound body open?) {indent : ℕ} {token : String} {style : GuardEnd}
    (hclose : .closeGuard indent token style ∈ body) : token ∈ openedTokens body := by
  have hguard : Instruction.closeGuard indent token style ∈ guards body :=
    List.mem_filter.2 ⟨hclose, rfl⟩
  have hopened : openedTokens (guards body) ⊆ openedTokens body :=
    (List.filter_sublist.filterMap _).subset
  exact hopened (h.alternating.mem_openedTokens hguard)

/-- **What has no defect is written on one line each**, unless a guard opens with a token that contains a
line feed. -/
theorem forall_not_mem_renderLine_iff {h : Header} (hcheck : h.check = .ok ()) :
    (∀ i ∈ h.body, '\n' ∉ (Header.renderLine i).toList) ↔
      ∀ token ∈ openedTokens h.body, '\n' ∉ token.toList := by
  have hsound := Header.check_eq_ok_iff.1 hcheck
  constructor
  · intro hall token htoken
    obtain ⟨i, hi, hopen⟩ := List.mem_filterMap.1 htoken
    rcases i with _ | _ | ⟨indent, _, _ | _⟩ | _
    · cases hopen
    · cases hopen
    · cases hopen
      have hline := hall _ hi
      simp only [Header.renderLine, String.toList_append, List.mem_append, not_or] at hline
      exact hline.2
    · cases hopen
      have hline := hall _ hi
      simp only [Header.renderLine, String.toList_append, List.mem_append, not_or] at hline
      exact hline.2
    · cases hopen
  · intro hall i hi
    rcases i with ⟨indent, text⟩ | _ | ⟨indent, token, _ | _⟩ | ⟨indent, token, _ | _⟩
    · have htext := hsound.lines indent text hi
      simp [Header.renderLine, Header.toList_indentation, htext]
    · simp [Header.renderLine]
    · have htoken := hall token (List.mem_filterMap.2 ⟨_, hi, rfl⟩)
      simp [Header.renderLine, Header.toList_indentation, htoken]
    · have htoken := hall token (List.mem_filterMap.2 ⟨_, hi, rfl⟩)
      simp [Header.renderLine, Header.toList_indentation, htoken]
    · simp [Header.renderLine, Header.toList_indentation]
    · have htoken := hall token (hsound.mem_openedTokens hi)
      simp [Header.renderLine, Header.toList_indentation, htoken]

/-- **What is walked to the end has no defect** if its lines of code have no line feed. -/
theorem checkFrom_eq_ok_of_walk {name : String} {index : ℕ} {open? : Option String}
    {body : List Instruction} {xs : List PlacedLine} (h : walk open? body = some xs)
    (htexts : ∀ text ∈ codeTexts body, '\n' ∉ text.toList) :
    Header.checkFrom name open? index body = .ok () := by
  rcases hcheck : Header.checkFrom name open? index body with e | ⟨⟩
  · obtain ⟨-, indent, text, hmem, htext⟩ := checkFrom_of_walk h hcheck
    exact absurd htext (htexts text (List.mem_filterMap.2 ⟨_, hmem, rfl⟩))
  · rfl

/-- **What is walked to the end is rendered** if its lines of code have no line feed. -/
theorem render_eq_ok_of_walk {h : Header} (hwalk : (walk none h.body).isSome = true)
    (htexts : ∀ text ∈ codeTexts h.body, '\n' ∉ text.toList) :
    h.render = .ok (String.join (h.body.map fun i => Header.renderLine i ++ "\n")) := by
  obtain ⟨xs, hxs⟩ := Option.isSome_iff_exists.1 hwalk
  exact bind_eq_ok_iff.2 ⟨(), checkFrom_eq_ok_of_walk hxs htexts, rfl⟩

/-! ## The text -/

/-- **A header is rendered as its instructions**, in order and each ended by a line feed. Each of them is
one line, without another line feed, exactly if no guard opens with a token that contains a line feed. -/
theorem rendered_in_lines {h : Header} {text : String} (hr : h.render = .ok text) :
    ∃ lines, List.Forall₂ Instruction.WrittenAs h.body lines ∧
      text.toList = lines.flatMap (· ++ ['\n']) ∧
      ((∀ l ∈ lines, '\n' ∉ l) ↔ ∀ token ∈ openedTokens h.body, '\n' ∉ token.toList) := by
  obtain ⟨⟨⟩, hcheck, htext⟩ := bind_eq_ok_iff.1 hr
  refine ⟨_, forall₂_writtenAs_iff.2 rfl, ?_, ?_⟩
  · rw [← Except.ok.inj htext, String.toList_join]
    simp only [List.map_map, List.flatMap_def, Function.comp_def,
      String.toList_append]
    rfl
  · rw [← forall_not_mem_renderLine_iff hcheck]
    simp

/-- A header with a guard of each kind. -/
theorem rendered_in_lines_guarded :
    let h : Header := ⟨"guards.h", [.openGuard 0 "VK_A" .defined, .line 1 "int a;",
      .closeGuard 0 "VK_A" .annotated, .blank, .openGuard 0 "defined( A )" .expression, .line 2 "b();",
      .closeGuard 0 "defined( A )" .plain]⟩
    let text := "#ifdef VK_A\n  int a;\n#endif // VK_A\n\n#if defined( A )\n    b();\n#endif\n"
    h.render = .ok text ∧
    ∃ lines, List.Forall₂ Instruction.WrittenAs h.body lines ∧
      text.toList = lines.flatMap (· ++ ['\n']) ∧
      ((∀ l ∈ lines, '\n' ∉ l) ↔ ∀ token ∈ openedTokens h.body, '\n' ∉ token.toList) := by
  intro h text
  have hr : h.render = .ok text := by
    rw [render_eq_ok_of_walk (by decide) (by decide +kernel)]
    decide +kernel
  exact ⟨hr, rendered_in_lines hr⟩

/-! ## A token of two lines -/

/-- A document in which the name of an extension contains a line feed. -/
def twoLineOwner : String := "<registry>
<types>
<type category=\"struct\" name=\"VkA\"/>
</types>
<commands/>
<extensions><extension name=\"VK_A&#10;VK_B\">
<require><type name=\"VkA\"/></require></extension></extensions>
</registry>"

/-- The registry in `twoLineOwner`. -/
def twoLineOwnerRegistry : Registry :=
  let owner : Extension := ⟨"VK_A\nVK_B", [], [⟨none, [], ["VkA"]⟩], false⟩
  { dialect := {}
    handles := []
    structs := [⟨"VkA", none, none, []⟩]
    commands := []
    index := []
    extensions := [owner]
    commandOwners := []
    typeOwners := [("VkA", owner)]
    restrictedCommands := []
    restrictedTypes := [] }

set_option maxRecDepth 10000 in
/-- Reading `twoLineOwner` gives its registry. -/
theorem read_twoLineOwner : Registry.read {} twoLineOwner = .ok twoLineOwnerRegistry := by
  rw [Registry.read, Xml.parse, wellNested_of_eq_ofList (s := twoLineOwner) rfl]
  decide +kernel

/-- The header of stream operators of `twoLineOwner` is rendered, and its text is not one line for each
instruction: the guard of the operator takes two. -/
theorem owner_of_two_lines :
    Registry.read {} twoLineOwner = .ok twoLineOwnerRegistry ∧
      ∃ h text, HeaderKind.streamOperators.header twoLineOwnerRegistry = .ok h ∧
        h.render = .ok text ∧
        ¬ ∃ lines, List.Forall₂ Instruction.WrittenAs h.body lines ∧
          text.toList = lines.flatMap (· ++ ['\n']) ∧ ∀ l ∈ lines, '\n' ∉ l := by
  refine ⟨read_twoLineOwner, _, _, rfl,
    render_eq_ok_of_walk (by decide +kernel) (by decide +kernel), ?_⟩
  rintro ⟨lines, hlines, -, hfree⟩
  have hopen : .openGuard 0 "VK_A\nVK_B" .defined ∈
      (StreamOperators.header twoLineOwnerRegistry).body := by
    decide +kernel
  rw [forall₂_writtenAs_iff.1 hlines] at hfree
  exact hfree _ (List.mem_map_of_mem hopen) (by decide +kernel)

end LayerHeaders
