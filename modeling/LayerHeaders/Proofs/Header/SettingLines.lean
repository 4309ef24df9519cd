import LayerHeaders.Header.LayerSettings
import LayerHeaders.Proofs.Bound.Words
import LayerHeaders.Proofs.Header.Conditionals
import LayerHeaders.Proofs.Header.Rendering
import LayerHeaders.Proofs.Manifest.Typing
import LayerHeaders.Proofs.Related

/-!
# The lines of a setting

The header of layer settings goes over the settings three times: for the structures of enumerations, for
the fields and for what loads them. This module says which lines a setting may have in each of the three,
without regard to how they are put together, and that a typed setting has them.

* `IsWrapper`, `IsField`, `IsLoader`: the lines that a setting may have in each of the three.
* `isTyped_of_typed`: what is known of a setting that is typed.
* `isWrapper_written`, `isField_written`, `isLoader_written`: the lines that a typed setting has.
-/

namespace LayerHeaders.LayerSettings

open Preprocessor

/-! ## What the lines of a setting are -/

/-- The name of the structure of an enumeration. -/
def wrapperName (s : Setting) : String :=
  s.key ++ "_t"

/-- Whether lines are the enumerator of a flag: its name, after a comment. -/
def IsEnumerator (f : Flag) (lines : List String) : Prop :=
  ∃ comment, lines = ["    // " ++ comment, s!"    {f.key},"]

/-- **Whether lines are the structure of an enumeration**: its enumerators are the flags in their order, and
its last constructor falls back on one of them. -/
def IsWrapper (s : Setting) (lines : List String) : Prop :=
  ∃ enumerators, ∃ fallback ∈ s.flags, List.Forall₂ IsEnumerator s.flags enumerators ∧
    lines = [s!"struct {wrapperName s} \x7b", "  enum value_t \x7b"] ++ enumerators.flatten ++
      ["  \x7d value;", "",
        s!"  {wrapperName s}(int v) : value(static_cast<value_t>(v)) \x7b\x7d",
        s!"  {wrapperName s}(const std::string& name) : {wrapperName s}(name.c_str()) \x7b\x7d",
        s!"  {wrapperName s}(const char* pName) : value({wrapperName s}::{fallback.key}) \x7b"] ++
      s.flags.map (fun f => s!"    if(!strcmp(\"{f.key}\", pName)) \x7b value = {f.key}; return; \x7d") ++
      ["  \x7d", "\x7d;", ""]

/-- The type of the field of a setting. -/
def fieldType? (s : Setting) : Option String :=
  match s.type with
  | "BOOL" => some "bool"
  | "INT32" => some "int32_t"
  | "UINT32" => some "uint32_t"
  | "INT64" => some "int64_t"
  | "UINT64" => some "uint64_t"
  | "FLOAT" => some "float"
  | "DOUBLE" => some "double"
  | "STRING" | "FILE" | "FOLDER" | "SAVE_FILE" | "LOAD_FILE" => some "std::string"
  | "ENUM" => some (wrapperName s)
  | _ => none

/-- **Whether lines are the field of a setting**: its declaration, after a comment. The default of an
enumeration is one of its flags. -/
def IsField (s : Setting) (lines : List String) : Prop :=
  ∃ comment type default, fieldType? s = some type ∧
    lines = ["  // " ++ comment, s!"  {type} {s.key} = {default};"] ∧
    (s.type = "ENUM" → ∃ f ∈ s.flags, default = s!"{wrapperName s}::{f.key}")

/-- **Whether lines are what loads a setting**: they ask for the setting by its key, read it by its key and
assign its field. An enumeration is read as a text. -/
inductive IsLoader (s : Setting) : List String → Prop
  /-- The field is read. -/
  | direct (h : s.type ≠ "ENUM") : IsLoader s
      [s!"    if(vkuHasLayerSetting(layerSettingSet, \"{s.key}\")) \x7b",
        s!"      vkuGetLayerSettingValue(layerSettingSet, \"{s.key}\", {s.key});",
        "    \x7d"]
  /-- A text is read and made into the structure of the enumeration. -/
  | parsed (h : s.type = "ENUM") : IsLoader s
      [s!"    if(vkuHasLayerSetting(layerSettingSet, \"{s.key}\")) \x7b",
        "      std::string value;",
        s!"      vkuGetLayerSettingValue(layerSettingSet, \"{s.key}\", value);",
        s!"      {s.key} = {wrapperName s}(value);",
        "    \x7d"]

/-- The descriptions of a setting that stand in comments. -/
def describedBy (s : Setting) : List String :=
  s.description :: if s.type = "ENUM" then s.flags.map (·.description) else []

/-! ## Typed settings -/

/-- What a typed setting is. -/
structure IsTyped (s : Setting) (t : TypedSetting) : Prop where
  /-- It is the setting with more about it. -/
  setting : t.setting = s
  /-- Its key is an identifier. -/
  key : isIdentifier s.key = true
  /-- Its type is the one that the setting names. -/
  type : SettingType.ofName? s.type = some t.type
  /-- The flags of an enumeration are identifiers. -/
  flags : t.type = .enumeration → ∀ f ∈ s.flags, isIdentifier f.key = true
  /-- The default of an enumeration is one of its flags. -/
  default : t.type = .enumeration → ∃ f ∈ s.flags, t.default = .flag f.key
  /-- Its condition is that for its platforms. -/
  condition : platformsCondition s.platforms = .ok t.condition?

/-- A setting that is typed. -/
theorem isTyped_of_typed {s : Setting} {t : TypedSetting} (h : s.typed = .ok t) : IsTyped s t := by
  obtain ⟨hsetting, hkey, htype, hdefault, hcondition⟩ := Setting.typed_eq_ok_iff.1 h
  refine ⟨hsetting, hkey, htype, fun henum => ?_, fun henum => ?_, hcondition⟩
  · rw [henum] at hdefault
    exact hdefault.1
  · rw [henum] at hdefault
    obtain ⟨-, f, hf, -, hflag⟩ := hdefault
    exact ⟨f, hf, hflag⟩

namespace IsTyped

variable {s : Setting} {t : TypedSetting}

/-- Enumerations are those that are called so. -/
theorem enumeration_iff (h : IsTyped s t) : t.type = .enumeration ↔ s.type = "ENUM" := by
  have htype := h.type
  generalize t.type = type, s.type = name at htype
  unfold SettingType.ofName? at htype
  split at htype <;> cases htype <;> decide

/-- The type in the header is that of the field. -/
theorem fieldType?_eq (h : IsTyped s t) : fieldType? s = some (typeName t) := by
  have htype := h.type
  unfold fieldType? typeName
  rw [h.setting, ← wrapperName]
  generalize t.type = type, s.type = name at htype
  unfold SettingType.ofName? at htype
  split at htype <;> cases htype <;> rfl

end IsTyped

/-! ## Lines of code -/

/-- The name of a type consists of word characters and colons. -/
theorem IsTyped.chars_typeName {s : Setting} {t : TypedSetting} (h : IsTyped s t) :
    ∀ c ∈ (typeName t).toList, isWordChar c = true ∨ c = ':' := by
  unfold typeName
  split
  case h_9 =>
    rw [h.setting, String.toList_append, List.forall_mem_append]
    exact ⟨fun c hc => Or.inl (isWordChar_of_isIdentifier h.key c hc), by decide⟩
  all_goals decide

/-- An identifier starts like code. -/
theorem startsCode_of_isIdentifier {key : String} (h : isIdentifier key = true) :
    startsCode key = true := by
  have hchars := isWordChar_of_isIdentifier h
  unfold isIdentifier at h
  unfold startsCode
  generalize key.toList = chars at h hchars
  rcases chars with _ | ⟨c, cs⟩
  · cases h
  · have hword : isWordChar c = true := hchars c List.mem_cons_self
    have hsign : c ≠ '#' := by
      rintro rfl
      cases hword
    simp [not_isBlank_of_isWordChar hword, hsign]

/-- Whether an instruction is a line of code that starts like one, or empty. -/
def IsCode : Instruction → Prop
  | .line _ text => startsCode text = true
  | .blank => True
  | .openGuard _ _ _ => False
  | .closeGuard _ _ _ => False

theorem role_renderLine {i : Instruction} (h : IsCode i) : role (Header.renderLine i) = .code := by
  rcases i with ⟨indent, text⟩ | _ | _ | _
  · exact role_of_startsCode h (by rw [Header.renderLine, String.toList_append,
      Header.toList_indentation])
  · decide +kernel
  · exact h.elim
  · exact h.elim

section

variable {s : Setting} {t : TypedSetting}

theorem IsTyped.startsCode_typeName (h : IsTyped s t) : startsCode (typeName t) = true := by
  unfold typeName
  split
  all_goals try decide +kernel
  rw [h.setting]
  exact startsCode_append (startsCode_of_isIdentifier h.key) _

theorem isCode_fieldLines (h : IsTyped s t) : ∀ i ∈ fieldLines t, IsCode i := by
  simp +decide only [fieldLines, commentText, IsCode, List.forall_mem_cons, List.not_mem_nil,
    false_implies, implies_true, and_true, toString, String.append_assoc, startsCode_append,
    h.startsCode_typeName]

theorem isCode_enumerationLines (h : IsTyped s t) (henumeration : t.type = .enumeration) :
    ∀ i ∈ enumerationLines t, IsCode i := by
  have hflags : ∀ f ∈ t.setting.flags, startsCode f.key = true := fun f hf =>
    startsCode_of_isIdentifier (h.flags henumeration f (h.setting ▸ hf))
  simp +decide +contextual only [enumerationLines, flagLines, flagTest, commentText, IsCode,
    List.forall_mem_append, List.forall_mem_cons, List.forall_mem_flatMap, List.forall_mem_map,
    List.not_mem_nil, false_implies, implies_true, and_true, toString, String.append_assoc,
    startsCode_append, h.startsCode_typeName, hflags]

/-- The lines that load a setting, without a condition. -/
def loaderBody (t : TypedSetting) : List Instruction :=
  [.line 2 s!"if(vkuHasLayerSetting(layerSettingSet, \"{t.setting.key}\")) \x7b"] ++ valueLines t ++
    [.line 2 "\x7d"]

theorem isCode_loaderBody (h : IsTyped s t) : ∀ i ∈ loaderBody t, IsCode i := by
  have hkey : startsCode t.setting.key = true := startsCode_of_isIdentifier (h.setting ▸ h.key)
  unfold loaderBody valueLines
  split
  all_goals
    simp +decide only [IsCode, List.forall_mem_append, List.forall_mem_cons, List.not_mem_nil,
      false_implies, implies_true, and_true, toString, String.append_assoc, startsCode_append, hkey]

end

theorem isCode_loaderOpening (layer : String) : ∀ i ∈ loaderOpening layer, IsCode i := by
  simp only [loaderOpening, IsCode, List.forall_mem_cons, List.not_mem_nil, false_implies, implies_true,
    and_true, true_and]
  refine ⟨?_, startsCode_append ?_ _, startsCode_append ?_ _, ?_,
    startsCode_append (startsCode_append ?_ _) _⟩
  all_goals exact startsCode_of_eq_ofList rfl (by decide)

/-! ## The lines as they are written -/

/-- How instructions are written. -/
def written (is : List Instruction) : List String :=
  is.map Header.renderLine

theorem written_append (a b : List Instruction) : written (a ++ b) = written a ++ written b :=
  List.map_append

theorem written_flatMap {α : Type} (f : α → List Instruction) (l : List α) :
    written (l.flatMap f) = l.flatMap fun x => written (f x) :=
  List.map_flatMap

/-- The line that opens the structure of the settings. -/
theorem written_structureOpening :
    written [.line 0 "struct ProfilerLayerSettings \x7b"] = ["struct ProfilerLayerSettings \x7b"] := by
  decide

theorem indentation_eq :
    Header.indentation 0 = "" ∧ Header.indentation 1 = "  " ∧ Header.indentation 2 = "    " ∧
      Header.indentation 3 = "      " := by
  decide +kernel

/-- The declaration of the field of a setting. -/
def declaration (t : TypedSetting) : String :=
  s!"  {typeName t} {t.setting.key} = {defaultText t};"

/-- The enumerator of a flag. -/
def enumerator (f : Flag) : String :=
  s!"    {f.key},"

/-- A field is a comment and a declaration. -/
theorem written_fieldLines (t : TypedSetting) :
    written (fieldLines t) = ["  " ++ commentText t.setting.description, declaration t] := by
  obtain ⟨-, h1, -, -⟩ := indentation_eq
  simp [written, fieldLines, Header.renderLine, h1, declaration, toString, ← String.append_assoc]

/-- A flag is a comment and an enumerator. -/
theorem written_flagLines (f : Flag) :
    written (flagLines f) = ["    " ++ commentText f.description, enumerator f] := by
  obtain ⟨-, -, h2, -⟩ := indentation_eq
  simp [written, flagLines, Header.renderLine, h2, enumerator, toString, ← String.append_assoc]

/-- The lines of the structure of an enumeration before its enumerators. -/
def wrapperOpening (t : TypedSetting) : List Instruction :=
  [.line 0 s!"struct {typeName t} \x7b", .line 1 "enum value_t \x7b"]

/-- The lines of the structure of an enumeration behind its enumerators. -/
def wrapperClosing (t : TypedSetting) : List Instruction :=
  [.line 1 "\x7d value;",
    .blank,
    .line 1 s!"{typeName t}(int v) : value(static_cast<value_t>(v)) \x7b\x7d",
    .line 1 s!"{typeName t}(const std::string& name) : {typeName t}(name.c_str()) \x7b\x7d",
    .line 1 s!"{typeName t}(const char* pName) : value({defaultText t}) \x7b"] ++
    t.setting.flags.map flagTest ++
    [.line 1 "\x7d", .line 0 "\x7d;", .blank]

/-- The enumerators stand in the middle of their structure. -/
theorem enumerationLines_eq (t : TypedSetting) :
    enumerationLines t = wrapperOpening t ++ t.setting.flags.flatMap flagLines ++ wrapperClosing t := by
  simp only [enumerationLines, wrapperOpening, wrapperClosing, List.append_assoc]

section

variable {s : Setting} {t : TypedSetting}

theorem isField_written (h : IsTyped s t) : IsField s (written (fieldLines t)) := by
  refine ⟨oneLine t.setting.description, typeName t, defaultText t, h.fieldType?_eq, ?_, ?_⟩
  · rw [written_fieldLines, commentText, declaration, h.setting, ← String.append_assoc]
    rfl
  · intro henum
    obtain ⟨f, hf, hdefault⟩ := h.default (h.enumeration_iff.2 henum)
    refine ⟨f, hf, ?_⟩
    rw [defaultText, hdefault]
    simp [typeName, h.enumeration_iff.2 henum, wrapperName, h.setting]

theorem isWrapper_written (h : IsTyped s t) (henum : t.type = .enumeration) :
    IsWrapper s (written (enumerationLines t)) := by
  obtain ⟨h0, h1, h2, -⟩ := indentation_eq
  obtain ⟨f, hf, hdefault⟩ := h.default henum
  refine ⟨s.flags.map fun f => written (flagLines f), f, hf, ?_, ?_⟩
  · rw [List.forall₂_map_right_iff, List.forall₂_same]
    intro f hf
    refine ⟨oneLine f.description, ?_⟩
    rw [written_flagLines, commentText, enumerator, ← String.append_assoc]
    rfl
  · have hname : typeName t = wrapperName s := by simp [typeName, henum, wrapperName, h.setting]
    simp [written, enumerationLines, flagTest, defaultText, hdefault, hname, h.setting,
      Header.renderLine, h0, h1, h2, List.flatMap_def, Function.comp_def, toString, ← String.append_assoc]

theorem isLoader_written (h : IsTyped s t) : IsLoader s (written (loaderBody t)) := by
  obtain ⟨-, -, h2, h3⟩ := indentation_eq
  by_cases henum : t.type = .enumeration
  · have hname : typeName t = wrapperName s := by simp [typeName, henum, wrapperName, h.setting]
    convert IsLoader.parsed (h.enumeration_iff.1 henum) using 1
    simp [written, loaderBody, valueLines, henum, hname, h.setting, Header.renderLine, h2, h3, toString,
      ← String.append_assoc]
  · convert IsLoader.direct fun hs => henum (h.enumeration_iff.2 hs) using 1
    simp [written, loaderBody, valueLines, henum, h.setting, Header.renderLine, h2, h3, toString,
      ← String.append_assoc]

end

/-! ## Conditions on platforms -/

/-- The condition for some platforms is made from one for each. -/
theorem platformsCondition_eq_ok {platforms : List String} {condition? : Option String}
    (h : platformsCondition platforms = .ok condition?) :
    ∃ conditions,
      List.Forall₂ (fun platform condition => platformCondition platform = .ok condition) platforms
        conditions ∧
      condition? = if platforms.isEmpty then none else some (" || ".intercalate conditions) := by
  obtain ⟨conditions, hconditions, h⟩ := bind_eq_ok_iff.1 h
  have hplatforms := mapM_eq_ok_iff.1 hconditions
  refine ⟨conditions, hplatforms, ?_⟩
  rw [← Except.ok.inj h]
  cases hplatforms <;> rfl

/-! ## All settings -/

section

variable {declared : List Setting} {settings : List TypedSetting}

/-- Each typed setting is that of a setting. -/
theorem exists_isTyped_of_mem (h : List.Forall₂ IsTyped declared settings) {t : TypedSetting}
    (ht : t ∈ settings) : ∃ s, IsTyped s t :=
  (exists_mem_of_forall₂ h ht).imp fun _ => And.right

/-- The typed enumerations are those of the enumerations. -/
theorem forall₂_enumerations (h : List.Forall₂ IsTyped declared settings) :
    List.Forall₂ IsTyped (declared.filter (·.type == "ENUM")) (settings.filter (·.type = .enumeration)) :=
  List.rel_filter (fun s t ht => by simp [ht.enumeration_iff]) h

theorem eq_map_setting (h : List.Forall₂ IsTyped declared settings) :
    declared = settings.map (·.setting) := by
  rw [map_eq_of_forall₂ (f := id) (fun _ _ ht => ht.setting) h, List.map_id]

end

end LayerHeaders.LayerSettings
