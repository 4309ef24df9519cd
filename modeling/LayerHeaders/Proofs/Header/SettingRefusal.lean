import LayerHeaders.Proofs.Header.SettingComments

/-!
# When layer settings are refused

The header of layer settings is made if each setting can be typed, whatever else the texts of the manifest
hold: what is written of a typed setting is on one line, for a different reason in each place. A key and the
flags of an enumeration are identifiers, a default is a number, a literal or a flag, and the blanks of a
description are replaced. Labels and the flags of other types are not written at all.

* `Setting.Acceptable`, `exists_typed_iff`: which settings can be typed.
* `not_mem_defaultText`: a default is on one line.
* `text_of_typed`, `text_eq_error_iff`: the text if all settings are typed, and the failure otherwise.
* `text_unless_refused`: a text is made, or a setting is refused.
-/

namespace LayerHeaders

/-! ## Which settings can be typed -/

/-- The platforms that a setting may be for. -/
def knownPlatforms : List String :=
  ["WINDOWS", "LINUX", "ANDROID", "MACOS"]

/-- **Whether a setting can be typed**, by what it declares. -/
structure Setting.Acceptable (s : Setting) : Prop where
  /-- Its key is an identifier. -/
  key : isIdentifier s.key = true
  /-- Its type is known, and its default is one of the type. -/
  default : ∃ type d, SettingType.ofName? s.type = some type ∧ s.IsDefault type d
  /-- Its platforms are known. -/
  platforms : ∀ platform ∈ s.platforms, platform ∈ knownPlatforms

/-- A platform has a condition if it is known. -/
theorem exists_platformCondition_iff {platform : String} :
    (∃ condition, platformCondition platform = .ok condition) ↔ platform ∈ knownPlatforms := by
  unfold platformCondition
  split
  case h_5 hwindows hlinux handroid hmacos =>
    simp only [reduceCtorEq, exists_const, knownPlatforms, List.mem_cons, List.not_mem_nil, or_false,
      false_iff, not_or]
    exact ⟨hwindows, hlinux, handroid, hmacos⟩
  all_goals simp [knownPlatforms]

/-- Platforms have a condition if all of them are known. -/
theorem exists_platformsCondition_iff {platforms : List String} :
    (∃ condition?, platformsCondition platforms = .ok condition?) ↔
      ∀ platform ∈ platforms, platform ∈ knownPlatforms := by
  simp only [← exists_platformCondition_iff, ← exists_mapM_eq_ok_iff]
  constructor
  · rintro ⟨condition?, h⟩
    obtain ⟨conditions, hconditions, -⟩ := bind_eq_ok_iff.1 h
    exact ⟨conditions, hconditions⟩
  · rintro ⟨conditions, hconditions⟩
    exact ⟨_, bind_eq_ok_iff.2 ⟨conditions, hconditions, rfl⟩⟩

/-- **Which settings can be typed.** -/
theorem Setting.exists_typed_iff {s : Setting} : (∃ t, s.typed = .ok t) ↔ s.Acceptable := by
  constructor
  · rintro ⟨t, h⟩
    obtain ⟨-, hkey, htype, hdefault, hcondition⟩ := typed_eq_ok_iff.1 h
    exact ⟨hkey, ⟨t.type, t.default, htype, hdefault⟩,
      exists_platformsCondition_iff.1 ⟨t.condition?, hcondition⟩⟩
  · rintro ⟨hkey, ⟨type, d, htype, hdefault⟩, hplatforms⟩
    obtain ⟨condition?, hcondition⟩ := exists_platformsCondition_iff.2 hplatforms
    exact ⟨⟨s, type, d, condition?⟩, typed_eq_ok_iff.2 ⟨rfl, hkey, htype, hdefault, hcondition⟩⟩

namespace LayerSettings

/-! ## Defaults -/

/-- **A default is on one line**, also if it is a text with line feeds. -/
theorem not_mem_defaultText {s : Setting} {t : TypedSetting} (h : s.typed = .ok t) :
    '\n' ∉ (defaultText t).toList := by
  by_cases htext : ∃ text, t.default = .text text
  · obtain ⟨text, hdefault⟩ := htext
    rw [defaultText, hdefault]
    exact not_mem_quote text
  · exact lacks_defaultText h htext (Or.inl rfl)

/-! ## The text, or a failure -/

section

variable {m : Manifest} {settings : List TypedSetting} {e : HeaderError}

/-- **The text of typed settings is made**: the check of the header finds no defect. -/
theorem text_of_typed (h : m.settings.mapM Setting.typed = .ok settings) :
    LayerSettings.text m = .ok (String.join ((written (lines m.name settings)).map (· ++ "\n"))) := by
  refine text_eq_ok h fun t ht => ?_
  obtain ⟨s, -, hs⟩ := exists_mem_of_forall₂ (mapM_eq_ok_iff.1 h) ht
  exact not_mem_defaultText hs

/-- **The text is not made** only if a setting cannot be typed, and the failure is that of the setting. -/
theorem text_eq_error_iff :
    LayerSettings.text m = .error e ↔ m.settings.mapM Setting.typed = .error e := by
  constructor
  · intro h
    rcases hsettings : m.settings.mapM Setting.typed with e' | settings
    · have htext : LayerSettings.text m = .error e' :=
        bind_eq_error_iff.2 (Or.inl (bind_eq_error_iff.2 (Or.inl hsettings)))
      exact congrArg _ (Except.error.inj (htext.symm.trans h))
    · rw [text_of_typed hsettings] at h
      cases h
  · intro h
    exact bind_eq_error_iff.2 (Or.inl (bind_eq_error_iff.2 (Or.inl h)))

end

/-- A traversal reports the first setting that cannot be typed. -/
theorem mapM_typed_eq_error_iff {declared : List Setting} {e : HeaderError} :
    declared.mapM Setting.typed = .error e ↔
      ∃ before s after defect, declared = before ++ s :: after ∧ (∀ b ∈ before, b.Acceptable) ∧
        s.typed? = .error defect ∧ e = .setting s.key defect := by
  have hfirst := @filter_mapM_eq_error_iff _ _ _ Setting.typed (fun _ => true) declared e
  rw [List.filter_true] at hfirst
  simp only [hfirst, true_and, true_implies, Setting.exists_typed_iff]
  refine exists_congr fun before => exists_congr fun s => exists_congr fun after => ?_
  rw [Setting.typed, mapError_eq_error_iff]
  constructor
  · rintro ⟨heq, ⟨defect, hdefect, rfl⟩, hbefore⟩
    exact ⟨defect, heq, hbefore, hdefect, rfl⟩
  · rintro ⟨defect, heq, hbefore, hdefect, rfl⟩
    exact ⟨heq, ⟨defect, hdefect, rfl⟩, hbefore⟩

/-- **A text is made, or a setting is refused**: whatever texts a manifest holds, no line of its header is
found to be broken and no guard to be unbalanced or nested. The text is made exactly if all settings are
acceptable, and otherwise the first one that is not is refused by its key. -/
theorem text_unless_refused (m : Manifest) :
    ((∃ text, LayerSettings.text m = .ok text) ∨
        ∃ key defect, LayerSettings.text m = .error (.setting key defect)) ∧
      ((∃ text, LayerSettings.text m = .ok text) ↔ ∀ s ∈ m.settings, s.Acceptable) ∧
      ∀ e, LayerSettings.text m = .error e ↔
        ∃ before s after defect, m.settings = before ++ s :: after ∧ (∀ b ∈ before, b.Acceptable) ∧
          s.typed? = .error defect ∧ e = .setting s.key defect := by
  refine ⟨?_, ?_, fun e => text_eq_error_iff.trans mapM_typed_eq_error_iff⟩
  · rcases htext : LayerSettings.text m with e | text
    · obtain ⟨before, s, after, defect, -, -, -, rfl⟩ :=
        mapM_typed_eq_error_iff.1 (text_eq_error_iff.1 htext)
      exact Or.inr ⟨s.key, defect, rfl⟩
    · exact Or.inl ⟨text, rfl⟩
  · have hmade : (∃ text, LayerSettings.text m = .ok text) ↔
        ∃ settings, m.settings.mapM Setting.typed = .ok settings := by
      rw [exists_eq_ok_iff, exists_eq_ok_iff]
      exact forall_congr' fun e => not_congr text_eq_error_iff
    rw [hmade, exists_mapM_eq_ok_iff]
    simp only [Setting.exists_typed_iff]

/-- A platform that is not known, with a line feed. -/
example :
    LayerSettings.text ⟨"sample", [⟨"path", "", "", "STRING", .string "a\nb", ["LINUX", "OS\n"], []⟩]⟩ =
      .error (.setting "path" (.unknownPlatform "OS\n")) := by
  rfl

end LayerSettings

end LayerHeaders
