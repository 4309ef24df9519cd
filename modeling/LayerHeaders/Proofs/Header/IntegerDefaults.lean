import LayerHeaders.Proofs.Header.SettingText

/-!
# Integer defaults

A setting of an integer type needs an integer as its default, and its field starts out with that integer.
Integers are tested at 64 bits only: a type of 64 bits has the defaults that fit it, and a type of 32 bits
has those that fit its type of 64 bits, so that its field may start out with an integer that it cannot hold.

* `bounds?`: the least and the greatest integer of a type.
* `isDefault_iff_of_bounds?`: which defaults an integer type has.
* `integer_defaults_written`: the fields of the settings, with the integers that they start out with.
* `default_out_of_bounds`: a manifest whose field cannot hold its default.
-/

namespace LayerHeaders.LayerSettings

/-! ## Integer types -/

/-- The least and the greatest integer of a type, if it is one of integers. -/
def bounds? : SettingType → Option (ℤ × ℤ)
  | .int32 => some (-0x80000000, 0x7fffffff)
  | .uint32 => some (0, 0xffffffff)
  | .int64 => some (-0x8000000000000000, 0x7fffffffffffffff)
  | .uint64 => some (0, 0xffffffffffffffff)
  | .bool | .float | .double | .text | .enumeration => none

/-- The type of 64 bits at which a default is tested. -/
def widest : SettingType → SettingType
  | .int32 => .int64
  | .uint32 => .uint64
  | type => type

/-- **Which defaults an integer type has**: the integers within the bounds of its type of 64 bits. -/
theorem isDefault_iff_of_bounds? {s : Setting} {type : SettingType} {d : TypedDefault} {least greatest : ℤ}
    (h : bounds? (widest type) = some (least, greatest)) :
    s.IsDefault type d ↔
      ∃ n fits, s.default = .number (.integer n fits) ∧ least ≤ n ∧ n ≤ greatest ∧ d = .integer n := by
  cases type with
  | int32 | int64 =>
      obtain ⟨rfl, rfl⟩ := Prod.mk.inj (Option.some.inj h)
      refine exists_congr fun n => exists_congr fun fits => and_congr_right fun _ => ?_
      obtain ⟨hleast, -⟩ := fits
      rw [← and_assoc]
      exact and_congr_left fun _ => by omega
  | uint32 | uint64 =>
      obtain ⟨rfl, rfl⟩ := Prod.mk.inj (Option.some.inj h)
      refine exists_congr fun n => exists_congr fun fits => and_congr_right fun _ => ?_
      obtain ⟨-, hgreatest⟩ := fits
      rw [← and_assoc]
      exact and_congr_left fun _ => by omega
  | bool | float | double | text | enumeration => cases h

/-! ## Fields -/

/-- **Whether lines are the field of a setting of an integer type**: it starts out with the integer that is
its default, and that is within the bounds of its type of 64 bits. -/
def IsIntegerField (s : Setting) (type : SettingType) (lines : List String) : Prop :=
  ∃ comment name n fits least greatest, fieldType? s = some name ∧
    bounds? (widest type) = some (least, greatest) ∧
    s.default = .number (.integer n fits) ∧ least ≤ n ∧ n ≤ greatest ∧
    lines = ["  // " ++ comment, s!"  {name} {s.key} = {n};"]

theorem isIntegerField_written {s : Setting} {t : TypedSetting} (h : s.typed = .ok t)
    (hinteger : (bounds? t.type).isSome = true) : IsIntegerField s t.type (written (fieldLines t)) := by
  have ht := isTyped_of_typed h
  obtain ⟨-, -, -, hdefault, -⟩ := Setting.typed_eq_ok_iff.1 h
  have hwidest : (bounds? (widest t.type)).isSome = true := by
    generalize t.type = type at hinteger
    cases type with
    | int32 | uint32 | int64 | uint64 => rfl
    | bool | float | double | text | enumeration => cases hinteger
  obtain ⟨⟨least, greatest⟩, hbounds⟩ := Option.isSome_iff_exists.1 hwidest
  obtain ⟨n, fits, hn, hleast, hgreatest, heq⟩ := (isDefault_iff_of_bounds? hbounds).1 hdefault
  refine ⟨oneLine t.setting.description, typeName t, n, fits, least, greatest, ht.fieldType?_eq, hbounds,
    hn, hleast, hgreatest, ?_⟩
  rw [written_fieldLines, commentText, declaration, defaultText, heq, ht.setting, ← String.append_assoc]
  rfl

/-- **A field of an integer type starts out with the integer in the manifest.** Of the structure of the
settings, each field is that of a setting, in order. If the type of a setting is one of integers, its
default is an integer, the field starts out with it, and it is within the bounds of the type of 64 bits. -/
theorem integer_defaults_written {m : Manifest} {text : String} (h : LayerSettings.text m = .ok text) :
    ∃ before fields after,
      text = String.join ((before ++ ["struct ProfilerLayerSettings \x7b"] ++ fields.flatten ++ after).map
        (· ++ "\n")) ∧
      List.Forall₂ (fun s lines => IsField s lines ∧
        ∀ type, SettingType.ofName? s.type = some type → (bounds? type).isSome = true →
          IsIntegerField s type lines) m.settings fields := by
  obtain ⟨settings, hsettings, -, htext, -⟩ := exists_typed_of_text h
  refine ⟨written (opening ++ (settings.filter (·.type = .enumeration)).flatMap enumerationLines),
    settings.map fun t => written (fieldLines t),
    written (loaderOpening m.name ++ settings.flatMap loaderLines ++ closing), ?_, ?_⟩
  · rw [htext, lines, ← List.flatMap_def]
    simp only [written_append, written_flatMap, written_structureOpening, List.append_assoc]
  · rw [List.forall₂_map_right_iff]
    refine (mapM_eq_ok_iff.1 hsettings).imp fun s t ht => ⟨isField_written (isTyped_of_typed ht), ?_⟩
    intro type htype hinteger
    obtain rfl : t.type = type := Option.some.inj ((isTyped_of_typed ht).type.symm.trans htype)
    exact isIntegerField_written ht hinteger

/-- A manifest with an integer of 32 bits that does not fit its type, and with the greatest integer of 64
bits. -/
def framesManifest : Manifest where
  name := "VK_LAYER_sample"
  settings := [
    ⟨"frames", "Frames", "Frames to keep.", "INT32", .number (.integer 2147483648 (by decide)), [], []⟩,
    ⟨"budget", "Budget", "Bytes to keep.", "UINT64",
      .number (.integer 18446744073709551615 (by decide)), [], []⟩]

/-- The settings of `framesManifest`. -/
def framesSettings : List TypedSetting := [
    ⟨⟨"frames", "Frames", "Frames to keep.", "INT32", .number (.integer 2147483648 (by decide)), [], []⟩,
      .int32, .integer 2147483648, none⟩,
    ⟨⟨"budget", "Budget", "Bytes to keep.", "UINT64",
      .number (.integer 18446744073709551615 (by decide)), [], []⟩, .uint64,
      .integer 18446744073709551615, none⟩]

/-- The fields of `framesManifest`. -/
theorem integer_defaults_written_frames :
    ∃ text, LayerSettings.text framesManifest = .ok text ∧
    ∃ before fields after,
      text = String.join ((before ++ ["struct ProfilerLayerSettings \x7b"] ++ fields.flatten ++ after).map
        (· ++ "\n")) ∧
      List.Forall₂ (fun s lines => IsField s lines ∧
        ∀ type, SettingType.ofName? s.type = some type → (bounds? type).isSome = true →
          IsIntegerField s type lines) framesManifest.settings fields := by
  have hsettings : framesManifest.settings.mapM Setting.typed = .ok framesSettings := rfl
  have htext := text_eq_ok hsettings (by decide)
  exact ⟨_, htext, integer_defaults_written htext⟩

/-- The first field of `framesManifest` starts out with an integer beyond the greatest of its type. -/
theorem default_out_of_bounds :
    ∃ (text : String) (lines : List String), LayerSettings.text framesManifest = .ok text ∧
      text = String.join (lines.map (· ++ "\n")) ∧ (∀ line ∈ lines, '\n' ∉ line.toList) ∧
      "  int32_t frames = 2147483648;" ∈ lines ∧
      ∃ least greatest, bounds? .int32 = some (least, greatest) ∧ greatest < 2147483648 := by
  have hsettings : framesManifest.settings.mapM Setting.typed = .ok framesSettings := rfl
  have htext := text_eq_ok hsettings (by decide)
  obtain ⟨-, -, hlines⟩ := text_written htext hsettings
  exact ⟨_, written (lines framesManifest.name framesSettings), htext, rfl, hlines, by decide, _, _,
    rfl, by decide⟩

end LayerHeaders.LayerSettings
