import LayerHeaders.Proofs.Header.SettingText

/-!
# Layer settings in every configuration

Of the three passes over the settings only that for what loads them stands under conditions on platforms.
So a preprocessor leaves all structures and fields, and of the loading that of the settings that apply to a
platform whose macro is defined. This is said of the lines as they are written. They are read so exactly if
no description that stands in a comment ends in a backslash; else the comment goes on with the next line.

* `leaves_loaderLines`: what is left of the loading of a setting.
* `leaves_lines`: what is left of the header.
* `settings_in_step`: the three passes agree, in every configuration.
* `field_in_comment`: a manifest whose field is read as a part of a comment.
-/

namespace LayerHeaders.LayerSettings

open Preprocessor

/-! ## What is left -/

section

variable {s : Setting} {t : TypedSetting} {defined : String → Bool}

/-- **What loads a setting is left** exactly if the setting applies to a platform whose macro is
defined. -/
theorem leaves_loaderLines (h : IsTyped s t) :
    Leaves defined (written (loaderLines t))
      (if appliesUnder defined s.platforms then written (loaderBody t) else []) := by
  have hcode : ∀ line ∈ written (loaderBody t), role line = .code :=
    List.forall_mem_map.2 fun i hi => role_renderLine (isCode_loaderBody h i hi)
  obtain ⟨conditions, hconditions, hcondition⟩ := platformsCondition_eq_ok h.condition
  show Leaves defined (written (conditional t.condition? (loaderBody t))) _
  rw [hcondition]
  by_cases hempty : s.platforms.isEmpty = true
  · rw [if_pos hempty, appliesUnder, hempty, Bool.true_or, if_pos rfl]
    exact leaves_code hcode
  · have hne : s.platforms ≠ [] := by simpa using hempty
    have hholds : holds? defined (tokensFrom [] (" || ".intercalate conditions).toList) = _ :=
      holds?_platforms hconditions hne
    rw [if_neg hempty, appliesUnder, Bool.eq_false_iff.2 hempty, Bool.false_or]
    have hlines : written (conditional (some (" || ".intercalate conditions)) (loaderBody t)) =
        ("#if " ++ " || ".intercalate conditions) :: written (loaderBody t) ++ ["#endif"] := by
      simp [written, conditional, Header.renderLine, indentation_eq.1]
    rw [hlines]
    refine leaves_conditional (role_if _) ?_ hcode role_endif
    exact (congrArg (holds? defined) (tokensFrom_append_blank [] [] _)).trans hholds

end

theorem role_opening : ∀ line ∈ written (opening ++ [.line 0 "struct ProfilerLayerSettings \x7b"]),
    role line = .code := by
  decide +kernel

theorem role_closing : ∀ line ∈ written closing, role line = .code := by
  decide +kernel

section

variable {layer : String} {declared : List Setting} {settings : List TypedSetting}
  {defined : String → Bool}

/-- **What is left of the header**: everything but the loading of settings that do not apply. -/
theorem leaves_lines (h : List.Forall₂ IsTyped declared settings) :
    Leaves defined (written (lines layer settings))
      (written opening ++
        (settings.filter (·.type = .enumeration)).flatMap (fun t => written (enumerationLines t)) ++
        ["struct ProfilerLayerSettings \x7b"] ++ settings.flatMap (fun t => written (fieldLines t)) ++
        written (loaderOpening layer) ++
        settings.flatMap (fun t =>
          if appliesUnder defined t.setting.platforms then written (loaderBody t) else []) ++
        written closing) := by
  have hcode : ∀ {is : List Instruction}, (∀ i ∈ is, IsCode i) → Leaves defined (written is) (written is) :=
    fun his => leaves_code (List.forall_mem_map.2 fun i hi => role_renderLine (his i hi))
  have hroles := role_opening
  rw [written_append, List.forall_mem_append] at hroles
  have hopening : Leaves defined (written opening) (written opening) := leaves_code hroles.1
  have hclosing : Leaves defined (written closing) (written closing) := leaves_code role_closing
  have hstructure : Leaves defined (written [.line 0 "struct ProfilerLayerSettings \x7b"])
      ["struct ProfilerLayerSettings \x7b"] := leaves_code hroles.2
  unfold lines
  simp only [written_append, written_flatMap]
  refine (((((hopening.append (leaves_flatMap fun t ht => ?_)).append hstructure).append
    (leaves_flatMap fun t ht => ?_)).append (hcode (isCode_loaderOpening layer))).append
    (leaves_flatMap fun t ht => ?_)).append hclosing
  · obtain ⟨ht, henum⟩ := List.mem_filter.1 ht
    obtain ⟨s, hs⟩ := exists_isTyped_of_mem h ht
    exact hcode (isCode_enumerationLines hs (of_decide_eq_true henum))
  · obtain ⟨s, hs⟩ := exists_isTyped_of_mem h ht
    exact hcode (isCode_fieldLines hs)
  · obtain ⟨s, hs⟩ := exists_isTyped_of_mem h ht
    rw [hs.setting]
    exact leaves_loaderLines hs

/-- The structures of the enumerations, in order. -/
theorem forall₂_isWrapper (h : List.Forall₂ IsTyped declared settings) :
    List.Forall₂ IsWrapper (declared.filter (·.type == "ENUM"))
      ((settings.filter (·.type = .enumeration)).map fun t => written (enumerationLines t)) := by
  have henum : ∀ s ∈ declared.filter (·.type == "ENUM"), s.type = "ENUM" := fun s hs =>
    eq_of_beq (List.mem_filter.1 hs).2
  rw [List.forall₂_map_right_iff]
  exact ((List.forall₂_and_left _ _).2 ⟨henum, forall₂_enumerations h⟩).imp fun s t ⟨hs, hst⟩ =>
    isWrapper_written hst (hst.enumeration_iff.2 hs)

/-- What loads the settings that apply, in order. -/
theorem forall₂_isLoader (h : List.Forall₂ IsTyped declared settings) :
    List.Forall₂ IsLoader (declared.filter fun s => appliesUnder defined s.platforms)
      ((settings.filter fun t => appliesUnder defined t.setting.platforms).map fun t =>
        written (loaderBody t)) := by
  have hfilter : List.Forall₂ IsTyped (declared.filter fun s => appliesUnder defined s.platforms)
      (settings.filter fun t => appliesUnder defined t.setting.platforms) :=
    List.rel_filter (fun s t hst => by simp [hst.setting]) h
  rw [List.forall₂_map_right_iff]
  exact hfilter.imp fun s t => isLoader_written

end

/-! ## The three passes -/

/-- Lines that are left under a condition are those of the items that pass it. -/
theorem flatMap_ite {α β : Type} (p : α → Bool) (f : α → List β) (l : List α) :
    (l.flatMap fun x => if p x then f x else []) = (l.filter p).flatMap f := by
  induction l with
  | nil => rfl
  | cons x l ih =>
      rw [List.flatMap_cons, ih]
      by_cases hx : p x = true
      · rw [if_pos hx, List.filter_cons_of_pos hx, List.flatMap_cons]
      · rw [if_neg hx, List.filter_cons_of_neg hx, List.nil_append]

/-- **The three passes over the settings agree, in every configuration.** The text is made of lines, and a
preprocessor leaves of them, whatever is defined, the structure of each enumeration, then the structure of
the settings with one field for each of them, and in its function what loads the settings that apply to all
platforms or to one whose macro is defined. All are in the order of the manifest. The text is read as these
lines exactly if no description ends in a backslash. -/
theorem settings_in_step {m : Manifest} {text : String} (h : LayerSettings.text m = .ok text) :
    ∃ lines wrappers fields,
      text = String.join (lines.map (· ++ "\n")) ∧ (∀ line ∈ lines, '\n' ∉ line.toList) ∧
      (readLines text = lines ↔
        ∀ s ∈ m.settings, ∀ description ∈ describedBy s, isContinued (oneLine description) = false) ∧
      List.Forall₂ IsWrapper (m.settings.filter (·.type == "ENUM")) wrappers ∧
      List.Forall₂ IsField m.settings fields ∧
      ∀ defined : String → Bool, ∃ loaders,
        List.Forall₂ IsLoader (m.settings.filter fun s => appliesUnder defined s.platforms) loaders ∧
        survivors? defined none lines = some (written opening ++ wrappers.flatten ++
          ["struct ProfilerLayerSettings \x7b"] ++ fields.flatten ++ written (loaderOpening m.name) ++
          loaders.flatten ++ written closing) := by
  obtain ⟨settings, hsettings, htyped, rfl, hlines⟩ := exists_typed_of_text h
  have hfields : List.Forall₂ IsField m.settings (settings.map fun t => written (fieldLines t)) := by
    rw [List.forall₂_map_right_iff]
    exact htyped.imp fun _ _ => isField_written
  refine ⟨written (lines m.name settings), _, _, rfl, hlines,
    (readLines_eq_iff hlines).trans (isContinued_written_iff htyped), forall₂_isWrapper htyped, hfields,
    fun defined => ⟨_, forall₂_isLoader htyped, ?_⟩⟩
  rw [(leaves_lines htyped).survivors?, flatMap_ite]
  simp only [List.flatMap_def]

/-- A manifest with an enumeration, and with a setting for two platforms. -/
def sampleManifest : Manifest where
  name := "VK_LAYER_sample"
  settings := [
    ⟨"mode", "Mode", "How\n it works.", "ENUM", .string "slow", [],
      [⟨"fast", "Fast", "Quick."⟩, ⟨"slow", "Slow", "Exact."⟩]⟩,
    ⟨"trace", "Trace", "A trace.", "BOOL", .bool true, ["WINDOWS", "LINUX"], []⟩]

/-- The settings of `sampleManifest`. -/
def sampleSettings : List TypedSetting := [
    ⟨⟨"mode", "Mode", "How\n it works.", "ENUM", .string "slow", [],
      [⟨"fast", "Fast", "Quick."⟩, ⟨"slow", "Slow", "Exact."⟩]⟩, .enumeration, .flag "slow", none⟩,
    ⟨⟨"trace", "Trace", "A trace.", "BOOL", .bool true, ["WINDOWS", "LINUX"], []⟩, .bool, .bool true,
      some "defined( WIN32 ) || defined( __linux__ )"⟩]

/-- What is left of the header of `sampleManifest`. -/
theorem settings_in_step_sample :
    ∃ text, LayerSettings.text sampleManifest = .ok text ∧
    ∃ lines wrappers fields,
      text = String.join (lines.map (· ++ "\n")) ∧ (∀ line ∈ lines, '\n' ∉ line.toList) ∧
      (readLines text = lines ↔ ∀ s ∈ sampleManifest.settings, ∀ description ∈ describedBy s,
        isContinued (oneLine description) = false) ∧
      List.Forall₂ IsWrapper (sampleManifest.settings.filter (·.type == "ENUM")) wrappers ∧
      List.Forall₂ IsField sampleManifest.settings fields ∧
      ∀ defined : String → Bool, ∃ loaders,
        List.Forall₂ IsLoader
          (sampleManifest.settings.filter fun s => appliesUnder defined s.platforms) loaders ∧
        survivors? defined none lines = some (written opening ++ wrappers.flatten ++
          ["struct ProfilerLayerSettings \x7b"] ++ fields.flatten ++
          written (loaderOpening sampleManifest.name) ++ loaders.flatten ++ written closing) := by
  have hsettings : sampleManifest.settings.mapM Setting.typed = .ok sampleSettings := rfl
  have htext := text_eq_ok hsettings (by decide +kernel)
  exact ⟨_, htext, settings_in_step htext⟩

/-- A manifest with a description that ends in a backslash. -/
def folderManifest : Manifest where
  name := "VK_LAYER_sample"
  settings := [⟨"folder", "Folder", "Root of the traces, such as C:\\traces\\", "STRING", .string "", [], []⟩]

/-- The setting of `folderManifest`. -/
def folderSetting : TypedSetting :=
  ⟨⟨"folder", "Folder", "Root of the traces, such as C:\\traces\\", "STRING", .string "", [], []⟩,
    .text, .text "", none⟩

/-- The field of `folderManifest` is read as a part of its comment, so that what is left declares none. -/
theorem field_in_comment :
    ∃ text, LayerSettings.text folderManifest = .ok text ∧
      "  // Root of the traces, such as C:\\traces  std::string folder = \"\";" ∈ readLines text ∧
      ∀ (defined : String → Bool) (fields loaders : List (List String)),
        List.Forall₂ IsField folderManifest.settings fields →
        List.Forall₂ IsLoader
          (folderManifest.settings.filter fun s => appliesUnder defined s.platforms) loaders →
        survivors? defined none (readLines text) ≠ some (written opening ++
          ["struct ProfilerLayerSettings \x7b"] ++ fields.flatten ++
          written (loaderOpening folderManifest.name) ++ loaders.flatten ++ written closing) := by
  have hsettings : folderManifest.settings.mapM Setting.typed = .ok [folderSetting] := rfl
  have htext := text_eq_ok hsettings (List.forall_mem_singleton.2 (by decide +kernel))
  obtain ⟨htyped, -, hlines⟩ := text_written htext hsettings
  obtain ⟨hfolder, -⟩ := List.forall₂_cons.1 htyped
  -- the comment and the field, between what is before them and what is behind
  have hparts : written (lines folderManifest.name [folderSetting]) =
      written (opening ++ [.line 0 "struct ProfilerLayerSettings \x7b"]) ++
        "  // Root of the traces, such as C:\\traces\\" :: "  std::string folder = \"\";" ::
        written (loaderOpening folderManifest.name ++ loaderBody folderSetting ++ closing) := by
    have hfield : written (fieldLines folderSetting) =
        ["  // Root of the traces, such as C:\\traces\\", "  std::string folder = \"\";"] := by
      decide +kernel
    have hsplit : lines folderManifest.name [folderSetting] =
        (opening ++ [.line 0 "struct ProfilerLayerSettings \x7b"]) ++ (fieldLines folderSetting ++
          (loaderOpening folderManifest.name ++ loaderBody folderSetting ++ closing)) := by
      show opening ++ [] ++ [_] ++ (fieldLines folderSetting ++ []) ++ loaderOpening _ ++
        (loaderBody folderSetting ++ []) ++ closing = _
      simp only [List.append_assoc, List.append_nil]
    rw [hsplit, written_append, written_append (fieldLines _), hfield]
    rfl
  have hbehind : ∀ line ∈
      written (loaderOpening folderManifest.name ++ loaderBody folderSetting ++ closing),
      isContinued line = false ∧ role line = .code := by
    simp only [written, List.map_append, List.forall_mem_append, List.forall_mem_map]
    exact ⟨⟨fun i hi => ⟨isContinued_loaderOpening _ i hi, role_renderLine (isCode_loaderOpening _ i hi)⟩,
      fun i hi => ⟨isContinued_loaderBody _ i hi, role_renderLine (isCode_loaderBody hfolder i hi)⟩⟩,
      fun i hi => ⟨isContinued_closing i hi, role_closing _ (List.mem_map_of_mem hi)⟩⟩
  have hbefore : ∀ line ∈ written (opening ++ [.line 0 "struct ProfilerLayerSettings \x7b"]),
      isContinued line = false := List.forall_mem_map.2 isContinued_opening
  have hread := readLines_continued (hparts ▸ hlines) hbefore (by decide +kernel)
    (List.forall_mem_cons.2 ⟨by decide +kernel, fun line hline => (hbehind line hline).1⟩)
  have hcomment : String.ofList ("  // Root of the traces, such as C:\\traces\\".toList.dropLast ++
      "  std::string folder = \"\";".toList) =
        "  // Root of the traces, such as C:\\traces  std::string folder = \"\";" := by
    decide +kernel
  have hrole : role "  // Root of the traces, such as C:\\traces  std::string folder = \"\";" = .code := by
    decide +kernel
  rw [hcomment] at hread
  refine ⟨_, htext, ?_, fun defined fields loaders hfields hloaders => ?_⟩
  · rw [hparts, hread]
    exact List.mem_append_right _ List.mem_cons_self
  · have hcode := List.forall_mem_append.2
      ⟨role_opening, List.forall_mem_cons.2 ⟨hrole, fun line hline => (hbehind line hline).2⟩⟩
    rw [hparts, hread, (leaves_code hcode).survivors?]
    intro heq
    -- the declaration takes a line of its own, which is not there
    have hlength := congrArg List.length (Option.some.inj heq)
    rcases hfields with _ | ⟨⟨comment, type, default, -, rfl, -⟩, _ | _⟩
    rcases hloaders with _ | ⟨⟨-⟩ | ⟨henum⟩, _ | _⟩
    · simp [written, loaderBody, valueLines, folderSetting] at hlength
    · exact absurd henum (by decide)

end LayerHeaders.LayerSettings
