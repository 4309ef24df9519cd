import LayerHeaders.Proofs.Decimal
import LayerHeaders.Proofs.Header.ReadLines
import LayerHeaders.Proofs.Header.SettingLines

/-!
# The text of layer settings

The text is made if the settings are typed, and consists of the lines of the header. None of these has a
line feed. Those that end in a backslash are comments, namely those whose description does.

* `Lacks`: a text without some character; `chars_defaultText`: the characters of a default that is no text.
* `text_eq_ok`: when the text is made.
* `text_written`, `exists_typed_of_text`: the lines of a text that is made.
* `isContinued_written_iff`: when no line is continued by the next.
-/

namespace LayerHeaders

/-! ## Characters that a text does not have -/

/-- A character that texts are split at is in none of the parts. -/
theorem not_mem_splitOnP {p : Char → Bool} {c : Char} (hc : p c = true) (l : List Char) :
    ∀ part ∈ l.splitOnP p, c ∉ part := by
  induction l with
  | nil => simp
  | cons d l ih =>
      rw [List.splitOnP_cons_eq_if_modifyHead]
      split_ifs with hd
      · exact List.forall_mem_cons.2 ⟨List.not_mem_nil, ih⟩
      · rcases hparts : l.splitOnP p with _ | ⟨part, parts⟩
        · simp
        · rw [hparts] at ih
          obtain ⟨hpart, hparts⟩ := List.forall_mem_cons.1 ih
          have hne : c ≠ d := by
            rintro rfl
            exact hd hc
          exact List.forall_mem_cons.2 ⟨by simp [hne, hpart], hparts⟩

/-- A character that is neither in some texts nor in what is between them. -/
theorem not_mem_intercalate {c : Char} {sep : String} (hsep : c ∉ sep.toList) {l : List String}
    (h : ∀ s ∈ l, c ∉ s.toList) : c ∉ (sep.intercalate l).toList := by
  induction l with
  | nil => simp
  | cons s l ih =>
      obtain ⟨hs, hl⟩ := List.forall_mem_cons.1 h
      cases l with
      | nil => simpa using hs
      | cons next others =>
          rw [String.intercalate_cons_cons, String.toList_append, String.toList_append, List.mem_append,
            List.mem_append]
          exact not_or.2 ⟨not_or.2 ⟨hs, hsep⟩, ih hl⟩

/-- A text that is given by its characters. -/
theorem not_mem_of_eq_ofList {c : Char} {s : String} {l : List Char} (h : s = String.ofList l)
    (hl : c ∉ l) : c ∉ s.toList := by
  rwa [h, String.toList_ofList]

end LayerHeaders

namespace LayerHeaders.LayerSettings

open Preprocessor

/-- A condition is one line, is not continued, and has neither comments nor literals. -/
theorem not_mem_condition {platforms conditions : List String}
    (h : List.Forall₂ (fun platform condition => platformCondition platform = .ok condition) platforms
      conditions) {c : Char} (hc : c ∈ ['\n', '\\', '/', '\x22']) :
    c ∉ (" || ".intercalate conditions).toList := by
  have hbars : c ∉ (" || " : String).toList := by
    revert c
    decide
  refine not_mem_intercalate hbars fun condition hmem => ?_
  obtain ⟨i, hi, rfl⟩ := List.getElem_of_mem hmem
  have hcondition := h.get (h.length_eq ▸ hi) hi
  rw [List.get_eq_getElem, List.get_eq_getElem] at hcondition
  generalize conditions[i] = condition at hcondition
  unfold platformCondition at hcondition
  split at hcondition
  case h_5 => cases hcondition
  all_goals
    obtain rfl := Except.ok.inj hcondition
    revert c
    decide +kernel

theorem IsTyped.not_mem_condition {s : Setting} {t : TypedSetting} (h : IsTyped s t) {condition : String}
    (hcondition : t.condition? = some condition) {c : Char} (hc : c ∈ ['\n', '\\', '/', '\x22']) :
    c ∉ condition.toList := by
  obtain ⟨conditions, hconditions, heq⟩ := platformsCondition_eq_ok h.condition
  rw [hcondition] at heq
  split_ifs at heq
  rw [Option.some.inj heq]
  exact LayerSettings.not_mem_condition hconditions hc

/-! ## Code without line feeds, slashes and quotation marks -/

/-- Whether a text lacks a character. -/
def Lacks (c : Char) (text : String) : Prop :=
  c ∉ text.toList

section

variable {c : Char} {s : Setting} {t : TypedSetting}

theorem lacks_of_eq_ofList {text : String} {l : List Char} (h : text = String.ofList l) (hl : c ∉ l) :
    Lacks c text :=
  not_mem_of_eq_ofList h hl

theorem lacks_append {a b : String} : Lacks c (a ++ b) ↔ Lacks c a ∧ Lacks c b := by
  simp [Lacks]

theorem lacks_line {indent : ℕ} {text : String} (hc : c ≠ ' ') :
    Lacks c (Header.renderLine (.line indent text)) ↔ Lacks c text := by
  simp [Lacks, Header.renderLine, Header.toList_indentation, hc]

/-- What the lines of code lack, their texts do. -/
theorem lacks_codeTexts {is : List Instruction} (h : ∀ line ∈ written is, Lacks c line) :
    ∀ text ∈ codeTexts is, c ∉ text.toList := by
  intro text htext
  obtain ⟨i, hi, hline⟩ := List.mem_filterMap.1 htext
  rcases i with ⟨indent, line⟩ | _ | _ | _
  · obtain rfl := Option.some.inj hline
    exact (lacks_append.1 (h _ (List.mem_map_of_mem hi))).2
  all_goals cases hline

theorem lacks_of_isIdentifier {key : String} (h : isIdentifier key = true)
    (hc : c = '\n' ∨ c = '/' ∨ c = '\x22') : Lacks c key := by
  intro hmem
  have hword := isWordChar_of_isIdentifier h c hmem
  rcases hc with rfl | rfl | rfl
  all_goals cases hword

theorem lacks_typeName (h : IsTyped s t) (hc : c = '\n' ∨ c = '/' ∨ c = '\x22') :
    Lacks c (typeName t) := by
  intro hmem
  have hchar := h.chars_typeName c hmem
  revert hchar
  rcases hc with rfl | rfl | rfl
  all_goals decide

/-- A default that is a flag is an identifier. -/
theorem isIdentifier_of_flag {type : SettingType} {name : String} (h : s.IsDefault type (.flag name)) :
    isIdentifier name = true := by
  cases type with
  | enumeration =>
      obtain ⟨hflags, f, hf, -, hname⟩ := h
      obtain rfl := TypedDefault.flag.inj hname
      exact hflags f hf
  | _ => simp [Setting.IsDefault] at h

/-- A default that is no text is a number, or consists of word characters and colons. -/
theorem chars_defaultText (h : s.typed = .ok t) (htext : ¬ ∃ text, t.default = .text text) :
    ∀ c ∈ (defaultText t).toList, isNumeralChar c = true ∨ isWordChar c = true ∨ c = ':' := by
  obtain ⟨-, -, -, hdefault, -⟩ := Setting.typed_eq_ok_iff.1 h
  unfold defaultText
  split
  · split
    · decide
    · decide
  · exact fun c hc => Or.inl (isNumeralChar_of_mem_toString _ c hc)
  · rw [String.toList_append, List.forall_mem_append]
    refine ⟨fun c hc => Or.inl (Style.isNumeralChar_of_mem_render _ _ c hc), ?_⟩
    split
    · decide
    · decide
  · next text heq => exact absurd ⟨text, heq⟩ htext
  · next name hname =>
      rw [hname] at hdefault
      have hcolons : ∀ c ∈ (toString "::").toList, c = ':' := by decide
      have hflag := isWordChar_of_isIdentifier (isIdentifier_of_flag hdefault)
      rw [String.toList_append, String.toList_append, List.forall_mem_append, List.forall_mem_append]
      exact ⟨⟨fun c hc => Or.inr ((isTyped_of_typed h).chars_typeName c hc),
        fun c hc => Or.inr (Or.inr (hcolons c hc))⟩, fun c hc => Or.inr (Or.inl (hflag c hc))⟩

theorem lacks_defaultText (h : s.typed = .ok t) (htext : ¬ ∃ text, t.default = .text text)
    (hc : c = '\n' ∨ c = '/' ∨ c = '\x22') : Lacks c (defaultText t) := by
  intro hmem
  have hchar := chars_defaultText h htext c hmem
  revert hchar
  rcases hc with rfl | rfl | rfl
  all_goals decide

theorem lacks_blank (c : Char) : Lacks c (Header.renderLine .blank) :=
  List.not_mem_nil

theorem lacks_wrapperOpening (h : IsTyped s t) (hc : c = '\n' ∨ c = '/' ∨ c = '\x22') :
    ∀ line ∈ written (wrapperOpening t), Lacks c line := by
  have hspace : c ≠ ' ' := by rcases hc with rfl | rfl | rfl <;> decide
  rw [written, List.forall_mem_map]
  simp only [wrapperOpening, List.forall_mem_cons, List.not_mem_nil, false_implies, implies_true, and_true,
    lacks_line hspace, toString, lacks_append, lacks_typeName h hc]
  and_intros
  all_goals exact lacks_of_eq_ofList rfl (by rcases hc with rfl | rfl | rfl <;> decide)

/-- Behind the enumerators there are constructors, and the last of them looks the flags up. -/
theorem wrapperClosing_eq (t : TypedSetting) :
    wrapperClosing t = (wrapperClosing t).take 5 ++ t.setting.flags.map flagTest ++
      [.line 1 "\x7d", .line 0 "\x7d;", .blank] :=
  rfl

/-- The constructors in the structure of an enumeration. -/
theorem lacks_constructors (h : IsTyped s t) (henum : t.type = .enumeration)
    (hc : c = '\n' ∨ c = '/' ∨ c = '\x22') : ∀ line ∈ written ((wrapperClosing t).take 5), Lacks c line := by
  have hspace : c ≠ ' ' := by rcases hc with rfl | rfl | rfl <;> decide
  have htype : Lacks c (typeName t) := lacks_typeName h hc
  have hdefault : Lacks c (defaultText t) := by
    obtain ⟨f, hf, hdefault⟩ := h.default henum
    have hcolons : Lacks c (toString "::") :=
      lacks_of_eq_ofList rfl (by rcases hc with rfl | rfl | rfl <;> decide)
    rw [defaultText, hdefault]
    exact lacks_append.2 ⟨lacks_append.2 ⟨htype, hcolons⟩, lacks_of_isIdentifier (h.flags henum f hf) hc⟩
  rw [written, List.forall_mem_map]
  show ∀ i ∈ [_, _, _, _, _], Lacks c (Header.renderLine i)
  simp only [List.forall_mem_cons, List.not_mem_nil, false_implies, implies_true, and_true,
    lacks_line hspace, toString, lacks_append, htype, lacks_blank, hdefault, true_and]
  and_intros
  all_goals exact lacks_of_eq_ofList rfl (by rcases hc with rfl | rfl | rfl <;> decide)

theorem lacks_wrapperClosing (h : IsTyped s t) (henum : t.type = .enumeration) (hc : c = '\n' ∨ c = '/') :
    ∀ line ∈ written (wrapperClosing t), Lacks c line := by
  have hspace : c ≠ ' ' := by rcases hc with rfl | rfl <;> decide
  rw [wrapperClosing_eq, written_append, written_append, List.forall_mem_append, List.forall_mem_append]
  refine ⟨⟨lacks_constructors h henum (hc.imp_right Or.inl), ?_⟩, ?_⟩
  · rw [written, List.forall_mem_map, List.forall_mem_map]
    intro f hf
    have hflag : Lacks c f.key :=
      lacks_of_isIdentifier (h.flags henum f (h.setting ▸ hf)) (hc.imp_right Or.inl)
    simp only [flagTest, lacks_line hspace, toString, lacks_append, hflag, and_true]
    and_intros
    all_goals exact lacks_of_eq_ofList rfl (by rcases hc with rfl | rfl <;> decide)
  · show ∀ line ∈ written _, c ∉ line.toList
    rcases hc with rfl | rfl <;> decide

theorem lacks_loaderLines (h : IsTyped s t) (hc : c = '\n' ∨ c = '/') :
    ∀ line ∈ written (loaderLines t), Lacks c line := by
  have hspace : c ≠ ' ' := by rcases hc with rfl | rfl <;> decide
  have hkey : Lacks c t.setting.key := lacks_of_isIdentifier (h.setting ▸ h.key) (hc.imp_right Or.inl)
  have htype : Lacks c (typeName t) := lacks_typeName h (hc.imp_right Or.inl)
  have hbody : ∀ line ∈ written (loaderBody t), Lacks c line := by
    rw [written, List.forall_mem_map]
    unfold loaderBody valueLines
    split
    all_goals
      simp only [List.forall_mem_append, List.forall_mem_cons, List.not_mem_nil, false_implies,
        implies_true, and_true, lacks_line hspace, toString, lacks_append, htype, hkey,
        true_and]
      and_intros
      all_goals exact lacks_of_eq_ofList rfl (by rcases hc with rfl | rfl <;> decide)
  show ∀ line ∈ written (conditional t.condition? (loaderBody t)), _
  rcases hcondition : t.condition? with _ | condition
  · exact hbody
  · have hmem : c ∈ ['\n', '\\', '/', '\x22'] := by rcases hc with rfl | rfl <;> decide
    have hopen : Lacks c (Header.renderLine (.openGuard 0 condition .expression)) := by
      rw [Header.renderLine, lacks_append, lacks_append]
      refine ⟨⟨?_, ?_⟩, h.not_mem_condition hcondition hmem⟩
      all_goals exact lacks_of_eq_ofList rfl (by rcases hc with rfl | rfl <;> decide)
    have hclose : Lacks c (Header.renderLine (.closeGuard 0 condition .plain)) := by
      rw [Header.renderLine, lacks_append]
      and_intros
      all_goals exact lacks_of_eq_ofList rfl (by rcases hc with rfl | rfl <;> decide)
    rw [conditional, written_append]
    exact List.forall_mem_append.2
      ⟨List.forall_mem_cons.2 ⟨hopen, hbody⟩, List.forall_mem_singleton.2 hclose⟩

/-- The code of the loading before the name of the layer. -/
theorem lacks_loaderOpening (layer : String) (hc : c = '\n' ∨ c = '/' ∨ c = '\x22') :
    ∀ line ∈ written (((loaderOpening layer).drop 2).take 4), Lacks c line := by
  have hspace : c ≠ ' ' := by rcases hc with rfl | rfl | rfl <;> decide
  rw [written, List.forall_mem_map]
  show ∀ i ∈ [_, _, _, _], Lacks c (Header.renderLine i)
  simp only [List.forall_mem_cons, List.not_mem_nil, false_implies, implies_true, and_true,
    lacks_line hspace, lacks_blank, lacks_append, true_and]
  and_intros
  all_goals exact lacks_of_eq_ofList rfl (by rcases hc with rfl | rfl | rfl <;> decide)

end

/-! ## Code without line feeds -/

/-- A literal is one line. -/
theorem not_mem_quote (s : String) : '\n' ∉ (Text.Literal.quote s).toList := by
  have hchar : ∀ c : Char, '\n' ∉ Text.Literal.encodeChar c := by
    intro c
    unfold Text.Literal.encodeChar
    split_ifs with h1 h2 h3
    · decide
    · decide
    · decide
    · simpa using Ne.symm h3
  have hencode : '\n' ∉ Text.Literal.encode s.toList := by
    simp [Text.Literal.encode, hchar]
  rw [Text.Literal.quote, String.toList_ofList]
  simp [hencode]

/-- The code before the loading of settings has no line feed, whatever the name of the layer. -/
theorem not_mem_loaderOpening (layer : String) :
    ∀ text ∈ codeTexts (loaderOpening layer), '\n' ∉ text.toList := by
  show ∀ text ∈ [_, _, _, _, _], _
  simp only [List.forall_mem_cons, List.not_mem_nil, false_implies, implies_true, and_true,
    String.toList_append, List.mem_append, not_or, not_mem_quote, not_false_eq_true]
  refine ⟨?_, ⟨?_, ?_⟩, ⟨?_, ?_⟩, ?_, ?_, ?_⟩
  all_goals exact not_mem_of_eq_ofList rfl (by decide)

/-- A comment is one line. -/
theorem not_mem_oneLine (s : String) : '\n' ∉ (oneLine s).toList := by
  refine not_mem_intercalate (by decide) fun w hw => ?_
  obtain ⟨cs, hcs, hw⟩ := List.mem_filterMap.1 hw
  split_ifs at hw
  rw [← Option.some.inj hw, String.toList_ofList]
  exact not_mem_splitOnP rfl _ cs hcs

section

variable {s : Setting} {t : TypedSetting}

theorem not_mem_fieldLines (h : IsTyped s t) (hdefault : '\n' ∉ (defaultText t).toList) :
    ∀ text ∈ codeTexts (fieldLines t), '\n' ∉ text.toList := by
  have hkey : '\n' ∉ t.setting.key.toList := lacks_of_isIdentifier (h.setting ▸ h.key) (Or.inl rfl)
  have htype : '\n' ∉ (typeName t).toList := lacks_typeName h (Or.inl rfl)
  show ∀ text ∈ [_, _], _
  simp +decide only [List.forall_mem_cons, and_true, commentText, toString, String.toList_append,
    List.mem_append, not_mem_oneLine, htype, hkey, hdefault]

theorem not_mem_enumerationLines (h : IsTyped s t) (henum : t.type = .enumeration) :
    ∀ text ∈ codeTexts (enumerationLines t), '\n' ∉ text.toList := by
  have hflags : ∀ text ∈ codeTexts (t.setting.flags.flatMap flagLines), '\n' ∉ text.toList := by
    rw [codeTexts_flatMap, List.forall_mem_flatMap]
    intro f hf
    have hkey : '\n' ∉ f.key.toList :=
      lacks_of_isIdentifier (h.flags henum f (h.setting ▸ hf)) (Or.inl rfl)
    show ∀ text ∈ [_, _], _
    simp +decide only [List.forall_mem_cons, commentText, String.toList_append, List.mem_append,
      not_mem_oneLine, hkey]
  rw [enumerationLines_eq, codeTexts_append, codeTexts_append, List.forall_mem_append,
    List.forall_mem_append]
  exact ⟨⟨lacks_codeTexts (lacks_wrapperOpening h (Or.inl rfl)), hflags⟩,
    lacks_codeTexts (lacks_wrapperClosing h henum (Or.inl rfl))⟩

end

/-! ## When the text is made -/

/-- The loading of a setting is under its condition. -/
theorem walk_loaderLines (t : TypedSetting) :
    walk none (loaderLines t) = some (linesUnder t.condition? (loaderBody t)) := by
  have hbody : GuardFree (loaderBody t) := by
    unfold loaderBody valueLines
    split <;> simp [Instruction.isGuard]
  show walk none (conditional t.condition? (loaderBody t)) = _
  rcases t.condition? with _ | condition
  · exact walk_guardFree hbody
  · show walk (some condition) (loaderBody t ++ [.closeGuard 0 condition .plain]) = _
    rw [walk_guardFree_append hbody, walk, if_pos rfl, walk, Option.map_some, List.append_nil]

/-- **The guards of the header are balanced.** -/
theorem isSome_walk_lines (layer : String) (settings : List TypedSetting) :
    (walk none (lines layer settings)).isSome = true := by
  have hbefore : GuardFree (opening ++
      (settings.filter (·.type = .enumeration)).flatMap enumerationLines ++
      [.line 0 "struct ProfilerLayerSettings \x7b"] ++ settings.flatMap fieldLines ++
      loaderOpening layer) := by
    have henumerations : GuardFree ((settings.filter (·.type = .enumeration)).flatMap enumerationLines) :=
      guardFree_flatMap fun t _ => by
        simp only [enumerationLines, guardFree_append, guardFree_cons, guardFree_nil,
          Instruction.isGuard, and_true, true_and]
        exact ⟨guardFree_flatMap fun f _ => by simp [flagLines, Instruction.isGuard],
          guardFree_map fun f _ => rfl⟩
    have hfields : GuardFree (settings.flatMap fieldLines) :=
      guardFree_flatMap fun t _ => by simp [fieldLines, Instruction.isGuard]
    simp [henumerations, hfields, opening, loaderOpening, Instruction.isGuard]
  have hclosing : GuardFree closing := by simp [closing, Instruction.isGuard]
  rw [lines, List.append_assoc, walk_guardFree_append hbefore,
    walk_append (walk_flatMap fun t _ => walk_loaderLines t), walk_guardFree hclosing]
  rfl

/-- **The text is made** if the settings are typed and their defaults are on one line. -/
theorem text_eq_ok {m : Manifest} {settings : List TypedSetting}
    (hsettings : m.settings.mapM Setting.typed = .ok settings)
    (hdefaults : ∀ t ∈ settings, '\n' ∉ (defaultText t).toList) :
    LayerSettings.text m = .ok (String.join ((written (lines m.name settings)).map (· ++ "\n"))) := by
  have hheader : header m = .ok ⟨fileName, lines m.name settings⟩ := by
    rw [header, hsettings]
    rfl
  have htyped : ∀ t ∈ settings, ∃ s, IsTyped s t := fun t =>
    exists_isTyped_of_mem ((mapM_eq_ok_iff.1 hsettings).imp fun _ _ => isTyped_of_typed)
  have hopening : ∀ text ∈ codeTexts (opening ++ [.line 0 "struct ProfilerLayerSettings \x7b"]),
      '\n' ∉ text.toList := by
    decide +kernel
  have hclosing : ∀ text ∈ codeTexts closing, '\n' ∉ text.toList := by decide +kernel
  rw [codeTexts_append, List.forall_mem_append] at hopening
  have hall : ∀ text ∈ codeTexts (lines m.name settings), '\n' ∉ text.toList := by
    simp only [lines, codeTexts_append, codeTexts_flatMap, List.forall_mem_append, List.forall_mem_flatMap]
    refine ⟨⟨⟨⟨⟨⟨hopening.1, fun t ht => ?_⟩, hopening.2⟩, fun t ht => ?_⟩, not_mem_loaderOpening _⟩,
      fun t ht => ?_⟩, hclosing⟩
    · obtain ⟨ht, htype⟩ := List.mem_filter.1 ht
      obtain ⟨s, hs⟩ := htyped t ht
      exact not_mem_enumerationLines hs (of_decide_eq_true htype)
    · obtain ⟨s, hs⟩ := htyped t ht
      exact not_mem_fieldLines hs (hdefaults t ht)
    · obtain ⟨s, hs⟩ := htyped t ht
      exact lacks_codeTexts (lacks_loaderLines hs (Or.inl rfl))
  have hrender := @render_eq_ok_of_walk ⟨fileName, lines m.name settings⟩ (isSome_walk_lines _ _) hall
  refine bind_eq_ok_iff.2 ⟨_, hheader, hrender.trans ?_⟩
  rw [written, List.map_map]
  rfl

/-! ## The lines of the text -/

section

variable {layer : String} {declared : List Setting} {settings : List TypedSetting}

/-- What opens a guard in the header is the condition of a setting. -/
theorem exists_condition_of_openGuard (h : List.Forall₂ IsTyped declared settings) {indent : ℕ}
    {token : String} {test : GuardTest} (hopen : .openGuard indent token test ∈ lines layer settings) :
    ∃ t ∈ settings, t.condition? = some token := by
  have hnot : ∀ {is : List Instruction}, (∀ i ∈ is, IsCode i) →
      Instruction.openGuard indent token test ∉ is := fun his hi => his _ hi
  have hopening : Instruction.openGuard indent token test ∉ opening := by simp [opening]
  have hclosing : Instruction.openGuard indent token test ∉ closing := by simp [closing]
  simp only [lines, List.mem_append, hopening, hclosing, hnot (isCode_loaderOpening layer), false_or,
    or_false, List.mem_flatMap, List.mem_singleton, reduceCtorEq] at hopen
  rcases hopen with (⟨t, ht, hi⟩ | ⟨t, ht, hi⟩) | ⟨t, ht, hi⟩
  · obtain ⟨ht, henum⟩ := List.mem_filter.1 ht
    obtain ⟨s, hs⟩ := exists_isTyped_of_mem h ht
    exact absurd hi (hnot (isCode_enumerationLines hs (of_decide_eq_true henum)))
  · obtain ⟨s, hs⟩ := exists_isTyped_of_mem h ht
    exact absurd hi (hnot (isCode_fieldLines hs))
  · obtain ⟨s, hs⟩ := exists_isTyped_of_mem h ht
    refine ⟨t, ht, ?_⟩
    have hi : .openGuard indent token test ∈ conditional t.condition? (loaderBody t) := hi
    rcases hcondition : t.condition? with _ | condition
    · rw [hcondition] at hi
      exact absurd hi (hnot (isCode_loaderBody hs))
    · rw [hcondition] at hi
      simp [conditional, hnot (isCode_loaderBody hs)] at hi
      rw [hi.2.1]

/-- **Every instruction of the header is one line.** -/
theorem not_mem_written (h : List.Forall₂ IsTyped declared settings)
    (hcheck : Header.check ⟨fileName, lines layer settings⟩ = .ok ()) :
    ∀ line ∈ written (lines layer settings), '\n' ∉ line.toList := by
  refine List.forall_mem_map.2 ((forall_not_mem_renderLine_iff hcheck).2 fun token htoken => ?_)
  obtain ⟨i, hi, hopens⟩ := List.mem_filterMap.1 htoken
  rcases i with _ | _ | ⟨indent, opened, test⟩ | _
  · cases hopens
  · cases hopens
  · cases hopens
    obtain ⟨t, ht, hcondition⟩ := exists_condition_of_openGuard h hi
    obtain ⟨s, hs⟩ := exists_isTyped_of_mem h ht
    exact hs.not_mem_condition hcondition (by decide)
  · cases hopens

/-- **The lines of the text** are those of the typed settings. -/
theorem text_written {m : Manifest} {text : String} (h : LayerSettings.text m = .ok text)
    (hsettings : m.settings.mapM Setting.typed = .ok settings) :
    List.Forall₂ IsTyped m.settings settings ∧
      text = String.join ((written (lines m.name settings)).map (· ++ "\n")) ∧
      ∀ line ∈ written (lines m.name settings), '\n' ∉ line.toList := by
  have htyped : List.Forall₂ IsTyped m.settings settings :=
    (mapM_eq_ok_iff.1 hsettings).imp fun _ _ => isTyped_of_typed
  obtain ⟨header, hheader, hrender⟩ := bind_eq_ok_iff.1 h
  rw [LayerSettings.header, hsettings] at hheader
  obtain rfl := Except.ok.inj hheader
  obtain ⟨⟨⟩, hcheck, htext⟩ := bind_eq_ok_iff.1 hrender
  refine ⟨htyped, ?_, not_mem_written htyped hcheck⟩
  rw [← Except.ok.inj htext, written, List.map_map]
  rfl

/-- A text that is made is that of typed settings. -/
theorem exists_typed_of_text {m : Manifest} {text : String} (h : LayerSettings.text m = .ok text) :
    ∃ settings, m.settings.mapM Setting.typed = .ok settings ∧
      List.Forall₂ IsTyped m.settings settings ∧
      text = String.join ((written (lines m.name settings)).map (· ++ "\n")) ∧
      ∀ line ∈ written (lines m.name settings), '\n' ∉ line.toList := by
  obtain ⟨header, hheader, -⟩ := bind_eq_ok_iff.1 h
  obtain ⟨settings, hsettings, -⟩ := bind_eq_ok_iff.1 hheader
  exact ⟨settings, hsettings, text_written h hsettings⟩

end

/-! ## Continued lines -/

theorem isContinued_line (indent : ℕ) (text : String) :
    isContinued (Header.renderLine (.line indent text)) = isContinued text := by
  refine isContinued_append_of_not (isContinued_of_not_mem ?_) text
  rw [Header.toList_indentation]
  simp

theorem isContinued_commentText (description : String) :
    isContinued (commentText description) = isContinued (oneLine description) :=
  isContinued_append_of_not (isContinued_of_eq_ofList rfl (by decide)) _

section

variable {s : Setting} {t : TypedSetting}

theorem isContinued_fieldLines (t : TypedSetting) :
    (∀ i ∈ fieldLines t, isContinued (Header.renderLine i) = false) ↔
      isContinued (oneLine t.setting.description) = false := by
  simp +decide only [fieldLines, List.forall_mem_cons, and_true, isContinued_line, isContinued_commentText,
    toString, isContinued_append_of_ne]

theorem isContinued_wrapperOpening (t : TypedSetting) :
    ∀ i ∈ wrapperOpening t, isContinued (Header.renderLine i) = false := by
  simp +decide only [wrapperOpening, List.forall_mem_cons, and_true, isContinued_line, toString,
    isContinued_append_of_ne]

theorem isContinued_wrapperClosing (t : TypedSetting) :
    ∀ i ∈ wrapperClosing t, isContinued (Header.renderLine i) = false := by
  simp +decide only [wrapperClosing, flagTest, List.forall_mem_append, List.forall_mem_cons,
    List.forall_mem_map, implies_true, and_true, isContinued_line, toString, isContinued_append_of_ne]

theorem isContinued_enumerationLines (t : TypedSetting) :
    (∀ i ∈ enumerationLines t, isContinued (Header.renderLine i) = false) ↔
      ∀ f ∈ t.setting.flags, isContinued (oneLine f.description) = false := by
  have hflags : (∀ i ∈ t.setting.flags.flatMap flagLines, isContinued (Header.renderLine i) = false) ↔
      ∀ f ∈ t.setting.flags, isContinued (oneLine f.description) = false := by
    simp +decide only [flagLines, List.forall_mem_cons, List.forall_mem_flatMap, and_true, isContinued_line,
      isContinued_commentText, isContinued_append_of_ne]
  rw [enumerationLines_eq, List.forall_mem_append, List.forall_mem_append, hflags]
  exact ⟨fun h => h.1.2, fun h => ⟨⟨isContinued_wrapperOpening t, h⟩, isContinued_wrapperClosing t⟩⟩

theorem isContinued_loaderBody (t : TypedSetting) :
    ∀ i ∈ loaderBody t, isContinued (Header.renderLine i) = false := by
  unfold loaderBody valueLines
  split
  all_goals
    simp +decide only [List.forall_mem_append, List.forall_mem_cons, and_true, isContinued_line, toString,
      isContinued_append_of_ne]

/-- No line that loads a setting is continued. -/
theorem isContinued_loaderLines (h : IsTyped s t) :
    ∀ i ∈ loaderLines t, isContinued (Header.renderLine i) = false := by
  show ∀ i ∈ conditional t.condition? (loaderBody t), _
  rcases hcondition : t.condition? with _ | condition
  · exact isContinued_loaderBody t
  · have hopen : isContinued (Header.renderLine (.openGuard 0 condition .expression)) = false := by
      rw [Header.renderLine, isContinued_append_of_not (isContinued_append_of_eq_ofList rfl (by decide))]
      exact isContinued_of_not_mem (h.not_mem_condition hcondition (by decide))
    have hclose : isContinued (Header.renderLine (.closeGuard 0 condition .plain)) = false :=
      isContinued_append_of_eq_ofList rfl (by decide)
    exact List.forall_mem_append.2
      ⟨List.forall_mem_cons.2 ⟨hopen, isContinued_loaderBody t⟩, List.forall_mem_singleton.2 hclose⟩

end

theorem isContinued_loaderOpening (layer : String) :
    ∀ i ∈ loaderOpening layer, isContinued (Header.renderLine i) = false := by
  have hblank : isContinued (Header.renderLine .blank) = false := rfl
  simp only [loaderOpening, List.forall_mem_cons, List.not_mem_nil, false_implies, implies_true, and_true,
    isContinued_line, hblank, true_and]
  refine ⟨?_, ?_, ?_, ?_, ?_⟩
  · exact isContinued_of_eq_ofList rfl (by decide)
  · exact isContinued_append_of_eq_ofList rfl (by decide)
  · exact isContinued_append_of_eq_ofList rfl (by decide)
  · exact isContinued_of_eq_ofList rfl (by decide)
  · exact isContinued_append_of_eq_ofList rfl (by decide)

theorem isContinued_opening : ∀ i ∈ opening ++ [.line 0 "struct ProfilerLayerSettings \x7b"],
    isContinued (Header.renderLine i) = false := by
  decide +kernel

theorem isContinued_closing : ∀ i ∈ closing, isContinued (Header.renderLine i) = false := by
  decide +kernel

/-- **Which lines of the header are continued**: the comments whose description ends in a backslash. -/
theorem isContinued_written_iff {layer : String} {declared : List Setting} {settings : List TypedSetting}
    (h : List.Forall₂ IsTyped declared settings) :
    (∀ line ∈ written (lines layer settings), isContinued line = false) ↔
      ∀ s ∈ declared, ∀ description ∈ describedBy s, isContinued (oneLine description) = false := by
  have hloaders : ∀ t ∈ settings, ∀ i ∈ loaderLines t, isContinued (Header.renderLine i) = false := by
    intro t ht
    obtain ⟨s, hs⟩ := exists_isTyped_of_mem h ht
    exact isContinued_loaderLines hs
  have henumeration : ∀ t ∈ settings, t.type = .enumeration ↔ t.setting.type = "ENUM" := by
    intro t ht
    obtain ⟨s, hs⟩ := exists_isTyped_of_mem h ht
    rw [hs.setting]
    exact hs.enumeration_iff
  obtain ⟨hopening, hstructure⟩ := List.forall_mem_append.1 isContinued_opening
  rw [eq_map_setting h, List.forall_mem_map, written, List.forall_mem_map]
  simp only [lines, List.forall_mem_append, List.forall_mem_flatMap, isContinued_enumerationLines,
    isContinued_fieldLines]
  constructor
  · rintro ⟨⟨⟨⟨⟨⟨-, hflags⟩, -⟩, hfields⟩, -⟩, -⟩, -⟩ t ht
    refine List.forall_mem_cons.2 ⟨hfields t ht, ?_⟩
    split_ifs with htype
    · rw [List.forall_mem_map]
      exact hflags t (List.mem_filter.2 ⟨ht, decide_eq_true ((henumeration t ht).2 htype)⟩)
    · exact fun _ hnone => absurd hnone List.not_mem_nil
  · intro hall
    refine ⟨⟨⟨⟨⟨⟨hopening, fun t ht f hf => ?_⟩, hstructure⟩, fun t ht => ?_⟩,
      isContinued_loaderOpening layer⟩, hloaders⟩, isContinued_closing⟩
    · obtain ⟨ht, htype⟩ := List.mem_filter.1 ht
      refine hall t ht _ (List.mem_cons_of_mem _ ?_)
      rw [if_pos ((henumeration t ht).1 (of_decide_eq_true htype))]
      exact List.mem_map_of_mem hf
    · exact hall t ht _ List.mem_cons_self

end LayerHeaders.LayerSettings
