import LayerHeaders.Proofs.Decimal
import LayerHeaders.Proofs.Header.LineComments
import LayerHeaders.Proofs.Header.SettingText

/-!
# What the comments of layer settings leave

A description is a comment on the line before the code that it describes. It hides that code if it ends in a
backslash, and no comment hides anything else: a declaration or an enumerator is code up to its end, also
if there are slashes in a text that is its default, and other lines have no slashes.

* `isCodeText_declaration`, `isCodeText_enumerator`: the code behind a description.
* `remainingCode`: what is left of the header.
* `leavesCode_lines`: what is left of all lines.
* `code_behind_comments`: what is left of the text.
* `enumerator_in_comment`: a manifest whose description hides an enumerator.
-/

namespace LayerHeaders.LayerSettings

open Preprocessor

/-! ## Code behind a description -/

/-- A character of a number is plain. -/
theorem isPlain_of_isNumeralChar {c : Char} (h : isNumeralChar c = true) : isPlain c = true := by
  simp only [isNumeralChar, Bool.or_eq_true, beq_iff_eq] at h
  rcases h with (((h | rfl) | rfl) | rfl) | rfl
  · rw [isDigit_iff] at h
    simp only [isPlain, Bool.and_eq_true, bne_iff_ne]
    refine ⟨⟨?_, ?_⟩, ?_⟩
    all_goals
      rintro rfl
      revert h
      decide
  all_goals decide

/-- A character of a word is plain. -/
theorem isPlain_of_isWordChar {c : Char} (h : isWordChar c = true) : isPlain c = true := by
  simp only [isPlain, Bool.and_eq_true, bne_iff_ne]
  refine ⟨⟨?_, ?_⟩, ?_⟩
  all_goals
    rintro rfl
    cases h

/-- An identifier is code. -/
theorem isCodeText_of_isIdentifier {key : String} (h : isIdentifier key = true) : IsCodeText key :=
  isCodeText_of_isPlain fun c hc => isPlain_of_isWordChar (isWordChar_of_isIdentifier h c hc)

section

variable {s : Setting} {t : TypedSetting}

theorem isCodeText_typeName (h : IsTyped s t) : IsCodeText (typeName t) := by
  refine isCodeText_of_isPlain fun c hc => ?_
  rcases h.chars_typeName c hc with hword | rfl
  · exact isPlain_of_isWordChar hword
  · rfl

/-- A default is code, also if it is a text with slashes. -/
theorem isCodeText_defaultText (h : s.typed = .ok t) : IsCodeText (defaultText t) := by
  by_cases htext : ∃ text, t.default = .text text
  · obtain ⟨text, hdefault⟩ := htext
    rw [defaultText, hdefault]
    exact isCodeText_quote text
  · refine isCodeText_of_isPlain fun c hc => ?_
    rcases chars_defaultText h htext c hc with hnumeral | hword | rfl
    · exact isPlain_of_isNumeralChar hnumeral
    · exact isPlain_of_isWordChar hword
    · rfl

/-- **A declaration is code** up to its end. -/
theorem isCodeText_declaration (h : s.typed = .ok t) : IsCodeText (declaration t) := by
  have hkey : IsCodeText t.setting.key := by
    rw [(isTyped_of_typed h).setting]
    exact isCodeText_of_isIdentifier (isTyped_of_typed h).key
  have hplain : ∀ a ∈ ["  ", " ", " = ", ";"], IsCodeText a := by
    simp only [List.forall_mem_cons, List.not_mem_nil, false_implies, implies_true, and_true]
    refine ⟨?_, ?_, ?_, ?_⟩
    all_goals exact isCodeText_of_isPlain (by decide)
  simp only [List.forall_mem_cons, List.not_mem_nil, false_implies, implies_true, and_true] at hplain
  obtain ⟨hindent, hspace, hequals, hend⟩ := hplain
  exact (((((hindent.append (isCodeText_typeName (isTyped_of_typed h))).append hspace).append hkey).append
    hequals).append (isCodeText_defaultText h)).append hend

/-- **An enumerator is code** up to its end. -/
theorem isCodeText_enumerator {f : Flag} (h : isIdentifier f.key = true) : IsCodeText (enumerator f) :=
  ((isCodeText_of_isPlain (a := "    ") (by decide)).append (isCodeText_of_isIdentifier h)).append
    (isCodeText_of_isPlain (by decide))

end

/-! ## What is left of the lines -/

/-- **What is left of a description and the line behind it**: blanks for the comment, and the line unless
the description ends in a backslash. -/
def described (blanks description line : String) : List String :=
  if isContinued (oneLine description) then [blanks] else [blanks, line]

/-- What is left of the structure of an enumeration. -/
def wrapperCode (t : TypedSetting) : List String :=
  written (wrapperOpening t) ++
    t.setting.flags.flatMap (fun f => described "    " f.description (enumerator f)) ++
    written (wrapperClosing t)

/-- What is left of the field of a setting. -/
def fieldCode (t : TypedSetting) : List String :=
  described "  " t.setting.description (declaration t)

/-- **What is left of the header**: all lines but comments, and but for what descriptions hide. -/
def remainingCode (layer : String) (settings : List TypedSetting) : List String :=
  written opening ++ (settings.filter (·.type = .enumeration)).flatMap wrapperCode ++
    ["struct ProfilerLayerSettings \x7b"] ++ settings.flatMap fieldCode ++
    "" :: "  " :: (written (loaderOpening layer)).drop 2 ++
    settings.flatMap (fun t => written (loaderLines t)) ++ written closing

/-- A description hides the line behind it if it ends in a backslash. -/
theorem leavesCode_described {blanks description line : String} (hblanks : IsCodeText blanks)
    (hcode : IsCodeText line) (hcontinued : isContinued line = false)
    (h : ∀ l ∈ [blanks ++ commentText description, line], '\n' ∉ l.toList) :
    LeavesCode [blanks ++ commentText description, line] (described blanks description line) := by
  have hcomment := h _ List.mem_cons_self
  have hline := h _ (List.mem_cons_of_mem _ List.mem_cons_self)
  have hne : commentText description ≠ "" := by
    intro hempty
    simpa [commentText] using congrArg String.toList hempty
  have hchars : (blanks ++ commentText description).toList =
      blanks.toList ++ '/' :: '/' :: (' ' :: (oneLine description).toList) := by
    simp [commentText]
  have hleaves := leavesCode_comment hblanks hchars hcomment hline hcontinued
  rwa [isContinued_append_of_ne blanks hne, isContinued_commentText, withoutComment_eq_self hcode]
    at hleaves

section

variable {layer : String} {declared : List Setting} {settings : List TypedSetting}

theorem leavesCode_lacks {is : List Instruction} (h : ∀ line ∈ written is, '\n' ∉ line.toList)
    (his : ∀ i ∈ is, isContinued (Header.renderLine i) = false)
    (hslash : ∀ line ∈ written is, Lacks '/' line) : LeavesCode (written is) (written is) :=
  leavesCode_self h (List.forall_mem_map.2 his) fun line hline =>
    withoutComment_of_not_mem (hslash line hline)

theorem leavesCode_fieldLines {s : Setting} {t : TypedSetting} (ht : s.typed = .ok t)
    (h : ∀ line ∈ written (fieldLines t), '\n' ∉ line.toList) :
    LeavesCode (written (fieldLines t)) (fieldCode t) := by
  rw [written_fieldLines] at h ⊢
  refine leavesCode_described (isCodeText_of_isPlain (by decide)) (isCodeText_declaration ht) ?_ h
  rw [declaration]
  exact isContinued_append_of_eq_ofList rfl (by decide)

theorem leavesCode_enumerationLines {s : Setting} {t : TypedSetting} (ht : IsTyped s t)
    (henum : t.type = .enumeration) (h : ∀ line ∈ written (enumerationLines t), '\n' ∉ line.toList) :
    LeavesCode (written (enumerationLines t)) (wrapperCode t) := by
  simp only [enumerationLines_eq, written_append, written_flatMap, List.forall_mem_append,
    List.forall_mem_flatMap] at h ⊢
  obtain ⟨⟨hopening, hflags⟩, hclosing⟩ := h
  refine ((leavesCode_lacks hopening (isContinued_wrapperOpening t)
    (lacks_wrapperOpening ht (Or.inr (Or.inl rfl)))).append (leavesCode_flatMap fun f hf => ?_)).append
    (leavesCode_lacks hclosing (isContinued_wrapperClosing t)
      (lacks_wrapperClosing ht henum (Or.inr rfl)))
  have hkey : isIdentifier f.key = true := ht.flags henum f (ht.setting ▸ hf)
  have hline := hflags f hf
  rw [written_flagLines] at hline ⊢
  refine leavesCode_described (isCodeText_of_isPlain (by decide)) (isCodeText_enumerator hkey) ?_ hline
  rw [enumerator]
  exact isContinued_append_of_eq_ofList rfl (by decide)

/-- The comment before the loading of the settings hides nothing, and slashes in the name of the layer start
no comment. -/
theorem leavesCode_loaderOpening (h : ∀ line ∈ written (loaderOpening layer), '\n' ∉ line.toList) :
    LeavesCode (written (loaderOpening layer)) ("" :: "  " :: (written (loaderOpening layer)).drop 2) := by
  have hcreate : IsCodeText (Header.indentation 2 ++ ("vkuCreateLayerSettingSet(" ++
      Text.Literal.quote layer ++ ", pLayerSettingsCreateInfo, pAllocator, nullptr, &layerSettingSet);")) :=
    (isCodeText_of_isPlain (by decide)).append (((isCodeText_of_isPlain (by decide)).append
      (isCodeText_quote layer)).append (isCodeText_of_isPlain (by decide)))
  have hslash := lacks_loaderOpening layer (Or.inr (Or.inl rfl))
  have hcode : ∀ line ∈ (written (loaderOpening layer)).drop 2, withoutComment line = line :=
    List.forall_mem_append.2 ⟨fun line hline => withoutComment_of_not_mem (hslash line hline),
      List.forall_mem_cons.2 ⟨withoutComment_eq_self hcreate, List.forall_mem_singleton.2 rfl⟩⟩
  have hcomment :
      withoutComment (Header.renderLine (.line 1 "// Support Vulkan layer settings")) = "  " := by
    decide
  have hleaves := leavesCode_of_not_continued h (List.forall_mem_map.2 (isContinued_loaderOpening layer))
  have hmap : (written (loaderOpening layer)).map withoutComment =
      "" :: withoutComment (Header.renderLine (.line 1 "// Support Vulkan layer settings")) ::
        ((written (loaderOpening layer)).drop 2).map withoutComment := rfl
  rwa [hmap, hcomment, List.map_congr_left hcode, List.map_id'] at hleaves

/-- **What is left of all lines.** -/
theorem leavesCode_lines (htyped : declared.mapM Setting.typed = .ok settings)
    (h : ∀ line ∈ written (lines layer settings), '\n' ∉ line.toList) :
    LeavesCode (written (lines layer settings)) (remainingCode layer settings) := by
  have hsettings : ∀ t ∈ settings, ∃ s : Setting, s.typed = .ok t := fun t ht =>
    (exists_mem_of_forall₂ (mapM_eq_ok_iff.1 htyped) ht).imp fun _ => And.right
  have hopeningCode : ∀ line ∈ written opening ++ ["struct ProfilerLayerSettings \x7b"],
      withoutComment line = line := by
    decide
  have hclosingCode : ∀ line ∈ written closing, withoutComment line = line := by decide
  have hcontinued : ∀ line ∈ written opening ++ ["struct ProfilerLayerSettings \x7b"],
      isContinued line = false := by
    rw [← written_structureOpening, ← written_append]
    exact List.forall_mem_map.2 isContinued_opening
  rw [List.forall_mem_append] at hopeningCode hcontinued
  simp only [lines, written_append, written_flatMap, written_structureOpening, List.forall_mem_append,
    List.forall_mem_flatMap] at h ⊢
  obtain ⟨⟨⟨⟨⟨⟨hopening, hwrappers⟩, hline⟩, hfields⟩, hloading⟩, hload⟩, hclosing⟩ := h
  refine ((((((leavesCode_self hopening hcontinued.1 hopeningCode.1).append
    (leavesCode_flatMap fun t ht => ?_)).append
    (leavesCode_self hline hcontinued.2 hopeningCode.2)).append
    (leavesCode_flatMap fun t ht => ?_)).append
    (leavesCode_loaderOpening hloading)).append
    (leavesCode_flatMap fun t ht => ?_)).append
    (leavesCode_self hclosing (List.forall_mem_map.2 isContinued_closing) hclosingCode)
  · obtain ⟨hmem, henum⟩ := List.mem_filter.1 ht
    obtain ⟨s, hs⟩ := hsettings t hmem
    exact leavesCode_enumerationLines (isTyped_of_typed hs) (of_decide_eq_true henum) (hwrappers t ht)
  · obtain ⟨s, hs⟩ := hsettings t ht
    exact leavesCode_fieldLines hs (hfields t ht)
  · obtain ⟨s, hs⟩ := hsettings t ht
    exact leavesCode_lacks (hload t ht) (isContinued_loaderLines (isTyped_of_typed hs))
      (lacks_loaderLines (isTyped_of_typed hs) (Or.inr rfl))

end

/-! ## What is left of the text -/

/-- **Comments hide no code but through a backslash.** When the lines of the text are joined and their
comments are taken away, blanks are left of each comment and all other lines are left as they are written,
but for a line behind a description that ends in a backslash: such a declaration or enumerator is gone. -/
theorem code_behind_comments {m : Manifest} {text : String} (h : LayerSettings.text m = .ok text) :
    ∃ settings, m.settings.mapM Setting.typed = .ok settings ∧
      text = String.join ((written (lines m.name settings)).map (· ++ "\n")) ∧
      codeLines text = remainingCode m.name settings ∧
      (∀ t ∈ settings, isContinued (oneLine t.setting.description) = false →
        declaration t ∈ codeLines text) ∧
      ∀ t ∈ settings, t.type = .enumeration → ∀ f ∈ t.setting.flags,
        isContinued (oneLine f.description) = false → enumerator f ∈ codeLines text := by
  obtain ⟨settings, hsettings, -, htext, hlines⟩ := exists_typed_of_text h
  have hcode : codeLines text = remainingCode m.name settings :=
    htext ▸ (leavesCode_lines hsettings hlines).codeLines
  have hleft : ∀ {indent description line}, isContinued (oneLine description) = false →
      line ∈ described indent description line := by
    intro indent description line hdescription
    rw [described, if_neg (Bool.eq_false_iff.1 hdescription)]
    exact List.mem_cons_of_mem _ List.mem_cons_self
  refine ⟨settings, hsettings, htext, hcode, fun t ht hdescription => ?_,
    fun t ht henum f hf hdescription => ?_⟩
  · have hfield : declaration t ∈ settings.flatMap fieldCode :=
      List.mem_flatMap.2 ⟨t, ht, hleft hdescription⟩
    rw [hcode]
    simp only [remainingCode, List.mem_append, hfield, or_true, true_or]
  · have hflag : enumerator f ∈ wrapperCode t := by
      refine List.mem_append_left _ (List.mem_append_right _ ?_)
      exact List.mem_flatMap.2 ⟨f, hf, hleft hdescription⟩
    have hwrapper : enumerator f ∈ (settings.filter (·.type = .enumeration)).flatMap wrapperCode :=
      List.mem_flatMap.2 ⟨t, List.mem_filter.2 ⟨ht, decide_eq_true henum⟩, hflag⟩
    rw [hcode]
    simp only [remainingCode, List.mem_append, hwrapper, or_true, true_or]

/-- A manifest with slashes in a default, and with a description of a flag that ends in a backslash. -/
def cacheManifest : Manifest where
  name := "VK_LAYER_sample"
  settings := [
    ⟨"host", "Host", "Where to // send.", "STRING", .string "http://host", [], []⟩,
    ⟨"cache", "Cache", "What is kept.", "ENUM", .string "none", [],
      [⟨"disk", "Disk", "In C:\\cache\\"⟩, ⟨"none", "None", "Nothing."⟩]⟩]

/-- The settings of `cacheManifest`. -/
def cacheSettings : List TypedSetting := [
    ⟨⟨"host", "Host", "Where to // send.", "STRING", .string "http://host", [], []⟩, .text,
      .text "http://host", none⟩,
    ⟨⟨"cache", "Cache", "What is kept.", "ENUM", .string "none", [],
      [⟨"disk", "Disk", "In C:\\cache\\"⟩, ⟨"none", "None", "Nothing."⟩]⟩, .enumeration,
      .flag "none", none⟩]

/-- What is left of the header of `cacheManifest`: both declarations, and one of its enumerators. -/
theorem code_behind_comments_cache :
    ∃ text, LayerSettings.text cacheManifest = .ok text ∧
    ∃ settings, cacheManifest.settings.mapM Setting.typed = .ok settings ∧
      text = String.join ((written (lines cacheManifest.name settings)).map (· ++ "\n")) ∧
      codeLines text = remainingCode cacheManifest.name settings ∧
      (∀ t ∈ settings, isContinued (oneLine t.setting.description) = false →
        declaration t ∈ codeLines text) ∧
      ∀ t ∈ settings, t.type = .enumeration → ∀ f ∈ t.setting.flags,
        isContinued (oneLine f.description) = false → enumerator f ∈ codeLines text := by
  have hsettings : cacheManifest.settings.mapM Setting.typed = .ok cacheSettings := rfl
  have htext := text_eq_ok hsettings (by decide)
  exact ⟨_, htext, code_behind_comments htext⟩

/-- The first enumerator of `cacheManifest` is written, and is read as a part of its comment. -/
theorem enumerator_in_comment :
    ∃ text, LayerSettings.text cacheManifest = .ok text ∧
      "    disk," ∈ written (lines cacheManifest.name cacheSettings) ∧
      text = String.join ((written (lines cacheManifest.name cacheSettings)).map (· ++ "\n")) ∧
      "    disk," ∉ codeLines text := by
  have hsettings : cacheManifest.settings.mapM Setting.typed = .ok cacheSettings := rfl
  have htext := text_eq_ok hsettings (by decide)
  obtain ⟨-, -, hlines⟩ := text_written htext hsettings
  refine ⟨_, htext, by decide, rfl, ?_⟩
  rw [(leavesCode_lines hsettings hlines).codeLines]
  decide

end LayerHeaders.LayerSettings
