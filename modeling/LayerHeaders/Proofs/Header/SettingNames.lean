import Mathlib.Data.List.Nodup
import LayerHeaders.Proofs.Header.Scopes
import LayerHeaders.Proofs.Header.SettingComments

/-!
# The names in layer settings

The header declares a structure for each enumeration, in it the flags as enumerators, and in the structure
of the settings a field for each setting. What is declared is read off the code that is left when lines are
joined and comments are taken away, so a field or an enumerator behind a description that ends in a backslash
is not declared. Keys are checked one by one, so two settings may have the same key, and two flags of an
enumeration as well. If they do not, no two fields, no two structures and no two enumerators of a structure
have one name.

* `declaredNames`: the names that are declared.
* `declareAll_remainingCode`: what the code of the header declares.
* `nodup_declaredNames`: distinct keys give distinct names.
* `names_declared`: what a text declares, and that the names are distinct if the keys are.
* `field_declared_twice`: a manifest whose header declares a field twice, and an enumerator.
-/

namespace LayerHeaders.LayerSettings

open Preprocessor Scoping

/-! ## Names -/

/-- Whether the code behind a description is read. -/
def isRead (description : String) : Bool :=
  !isContinued (oneLine description)

/-- The scopes of the fields of the settings. -/
def fieldScopes : List Scope :=
  [.record "ProfilerLayerSettings", .space]

/-- The scopes of the names in the structure of an enumeration. -/
def wrapperScopes (s : Setting) : List Scope :=
  [.record (wrapperName s), .space]

/-- The names that the flags of an enumeration declare. -/
def enumerators (s : Setting) : List Declared :=
  (s.flags.filter (isRead ·.description)).map fun f => ⟨.enumerator, wrapperScopes s, f.key⟩

/-- The names that the structure of an enumeration declares: its own, that of the enumeration in it, those of
the flags and that of its value. -/
def wrapperNames (s : Setting) : List Declared :=
  [⟨.type, [.space], wrapperName s⟩, ⟨.type, wrapperScopes s, "value_t"⟩] ++ enumerators s ++
    [⟨.field, wrapperScopes s, "value"⟩]

/-- The names that the settings declare. -/
def fields (settings : List Setting) : List Declared :=
  (settings.filter (isRead ·.description)).map fun s => ⟨.field, fieldScopes, s.key⟩

/-- **The names that a header declares**, each with its scopes. -/
def declaredNames (settings : List Setting) : List Declared :=
  (settings.filter (·.type == "ENUM")).flatMap wrapperNames ++
    ⟨.type, [.space], "ProfilerLayerSettings"⟩ :: fields settings

/-- The names of one kind in one scope. -/
def namesOf (kind : Kind) (scopes : List Scope) (declared : List Declared) : List String :=
  (declared.filter fun x => x.kind = kind ∧ x.scopes = scopes).map (·.name)

/-! ## Words of a setting -/

/-- An identifier is a word. -/
theorem isWord_of_isIdentifier {key : String} (h : isIdentifier key = true) : IsWord key where
  nonempty := by
    rintro rfl
    cases h
  solid c hc := not_isBlank_of_isWordChar (isWordChar_of_isIdentifier h c hc)

theorem startsWord_of_isIdentifier {key : String} (h : isIdentifier key = true) : StartsWord key := by
  have hchars := isWordChar_of_isIdentifier h
  have hne := (isWord_of_isIdentifier h).nonempty
  rcases hkey : key.toList with _ | ⟨c, cs⟩
  · exact absurd (String.toList_eq_nil_iff.1 hkey) hne
  · exact ⟨c, cs, hkey, hchars c (hkey ▸ List.mem_cons_self)⟩

section

variable {s : Setting} {t : TypedSetting}

theorem isWord_typeName (h : IsTyped s t) : IsWord (typeName t) ∧ StartsWord (typeName t) := by
  unfold typeName
  split
  case h_9 =>
    rw [h.setting]
    obtain ⟨c, cs, hkey, hc⟩ := startsWord_of_isIdentifier h.key
    exact ⟨(isWord_of_isIdentifier h.key).append (by decide), c, cs ++ "_t".toList, by simp [hkey], hc⟩
  all_goals exact ⟨⟨by decide, by decide⟩, _, _, rfl, by decide⟩

end

/-! ## What the lines declare -/

section

variable {s : Setting} {t : TypedSetting} {scopes : List Scope}

theorem declare_empty (scopes : List Scope) : declare scopes (Header.renderLine .blank) = ([], scopes) :=
  rfl

/-- Of a description and the line behind it only the line declares something, if it is read. -/
theorem declareAll_described {blanks description line : String} {x : Declared}
    (hblanks : firstChar? blanks = none) (hline : declare scopes line = ([x], scopes)) :
    declareAll scopes (described blanks description line) =
      (if isRead description then [x] else [], scopes) := by
  unfold described isRead
  rcases isContinued (oneLine description)
  · exact declareAll_cons (declare_blank hblanks) (declareAll_cons hline (declareAll_nil _))
  · exact declareAll_cons (declare_blank hblanks) (declareAll_nil _)

/-- Names that are declared if they are read. -/
theorem flatMap_isRead {α : Type} (description : α → String) (declared : α → Declared) (l : List α) :
    (l.flatMap fun a => if isRead (description a) then [declared a] else []) =
      (l.filter (isRead <| description ·)).map declared := by
  induction l with
  | nil => rfl
  | cons a l ih =>
      rw [List.flatMap_cons, ih, List.filter_cons]
      split_ifs
      · rfl
      · rfl

/-- A declaration declares the key of its setting. -/
theorem declare_declaration (h : IsTyped s t) :
    declare fieldScopes (declaration t) = ([⟨.field, fieldScopes, s.key⟩], fieldScopes) := by
  have hchars : (declaration t).toList = [' ', ' '] ++ ((typeName t).toList ++ ' ' ::
      (s.key.toList ++ ' ' :: ("=".toList ++ ' ' :: ((defaultText t).toList ++ [';'])))) := by
    simp [declaration, h.setting, toString]
  have hwords := words_three (isWord_typeName h).1 (isWord_of_isIdentifier h.key) ⟨by decide, by decide⟩
    hchars
  obtain ⟨c, hfirst, hc⟩ := (isWord_typeName h).2.exists_firstChar? hchars (by decide)
  have hlast : lastChar? (declaration t) = some ';' := lastChar?_append rfl
  rw [declare_code hfirst hc, hwords, hlast]
  rfl

/-- An enumerator declares its flag, in the scopes around the enumeration. -/
theorem declare_enumerator {f : Flag} (h : isIdentifier f.key = true) (around : List Scope) :
    declare (.enumeration :: around) (enumerator f) =
      ([⟨.enumerator, around, f.key⟩], .enumeration :: around) := by
  have hchars : (enumerator f).toList = "    ".toList ++ (f.key ++ ",").toList := by
    simp [enumerator, toString]
  have hword : IsWord (f.key ++ ",") := (isWord_of_isIdentifier h).append (by decide)
  have hwords : Text.words (enumerator f) = [f.key ++ ","] := by
    rw [words_indented (by decide) hchars, String.ofList_toList, words_singleton hword]
  rw [String.toList_append] at hchars
  obtain ⟨c, hfirst, hc⟩ := (startsWord_of_isIdentifier h).exists_firstChar? hchars (by decide)
  have hlast : lastChar? (enumerator f) = some ',' := lastChar?_append rfl
  have hcomma : before? ',' (f.key ++ ",") = some f.key := before?_append f.key ','
  rw [declare_code hfirst hc, hwords, hlast, declared?, hcomma]
  rfl

/-- The structure of an enumeration is declared, and in it the enumeration, which opens a scope for its
enumerators. -/
theorem declareAll_wrapperOpening (h : IsTyped s t) (hname : typeName t = wrapperName s) :
    declareAll [.space] (written (wrapperOpening t)) =
      ([⟨.type, [.space], wrapperName s⟩, ⟨.type, wrapperScopes s, "value_t"⟩],
        .enumeration :: wrapperScopes s) := by
  obtain ⟨h0, h1, -, -⟩ := indentation_eq
  have hlines : written (wrapperOpening t) = [s!"struct {wrapperName s} \x7b", "  enum value_t \x7b"] := by
    simp [written, wrapperOpening, Header.renderLine, h0, h1, hname]
  have hword : IsWord (wrapperName s) := hname ▸ (isWord_typeName h).1
  have hchars : s!"struct {wrapperName s} \x7b".toList =
      "struct".toList ++ ' ' :: ((wrapperName s).toList ++ ' ' :: ['\x7b']) := by
    simp [toString]
  have hwords : Text.words s!"struct {wrapperName s} \x7b" = ["struct", wrapperName s, "\x7b"] := by
    have hbrace : Text.words (.ofList ['\x7b']) = ["\x7b"] := by decide
    rw [words_cons ⟨by decide, by decide⟩ rfl hchars, words_cons hword rfl String.toList_ofList, hbrace]
  have hstruct : declare [.space] s!"struct {wrapperName s} \x7b" =
      ([⟨.type, [.space], wrapperName s⟩], wrapperScopes s) := by
    have hfirst : firstChar? s!"struct {wrapperName s} \x7b" = some 's' :=
      by rw [firstChar?, Text.trimStart, hchars]; rfl
    have hlast : lastChar? s!"struct {wrapperName s} \x7b" = some '\x7b' := lastChar?_append rfl
    rw [declare_code hfirst (by decide), hwords, hlast]
    rfl
  have henum : declare (wrapperScopes s) "  enum value_t \x7b" =
      ([⟨.type, wrapperScopes s, "value_t"⟩], .enumeration :: wrapperScopes s) := by
    have hwords : Text.words "  enum value_t \x7b" = ["enum", "value_t", "\x7b"] := by decide
    rw [declare_code (c := 'e') (by decide) (by decide), hwords]
    rfl
  rw [hlines]
  exact declareAll_cons hstruct (declareAll_cons henum rfl)

/-- A function in a structure declares nothing, and opens a block if a brace is left open: what stands behind
two words is not the default of a field. -/
theorem declare_function {text name w₁ : String} (w₂ w₃ more : String) (c : Char) (h₁ : IsWord w₁)
    (hstart : StartsWord w₁) (hopened : ∀ ws, opened (w₁ :: ws) = .block) (h₂ : IsWord w₂) (h₃ : IsWord w₃)
    (hne : w₃ ≠ "=") (htext : text = w₁ ++ (" " ++ w₂ ++ " " ++ w₃ ++ " " ++ more))
    (hlast : lastChar? text = some c) :
    declare (.record name :: scopes) (Header.renderLine (.line 1 text)) =
      ([], if c = '\x7b' then .block :: .record name :: scopes else .record name :: scopes) := by
  have hchars : (Header.renderLine (.line 1 text)).toList =
      [' ', ' '] ++ (w₁.toList ++ ' ' :: (w₂.toList ++ ' ' :: (w₃.toList ++ ' ' :: more.toList))) := by
    simp [Header.renderLine, indentation_eq, htext]
  have hwords := words_three h₁ h₂ h₃ hchars
  obtain ⟨first, hfirst?, hfirst⟩ := hstart.exists_firstChar? hchars (by decide)
  have hlast? : lastChar? (Header.renderLine (.line 1 text)) = some c := lastChar?_append hlast
  rw [declare_code hfirst? hfirst, hwords, declared?_record hopened hne, hopened, hlast?]
  simp only [Option.some.injEq, Option.toList_none]

/-- A constructor is a function. -/
theorem declare_constructor (h : IsTyped s t) {text start rest name : String} (args w₂ w₃ more : String)
    (c : Char) (hparen : '(' ∈ args.toList) (hargs : ∀ c ∈ args.toList, Text.isBlank c = false)
    (h₂ : IsWord w₂) (h₃ : IsWord w₃) (hne : w₃ ≠ "=") (htext : text = typeName t ++ start ++ rest)
    (hstart : start = args ++ " " ++ w₂ ++ " " ++ w₃ ++ " " ++ more) (hlast : lastChar? text = some c) :
    declare (.record name :: scopes) (Header.renderLine (.line 1 text)) =
      ([], if c = '\x7b' then .block :: .record name :: scopes else .record name :: scopes) := by
  obtain ⟨hword, hfirst⟩ := isWord_typeName h
  have hopened : '(' ∈ (typeName t ++ args).toList := by
    rw [String.toList_append]
    exact List.mem_append_right _ hparen
  refine declare_function w₂ w₃ (more ++ rest) c (hword.append hargs) (hfirst.append args)
    (fun _ => opened_eq_block hopened) h₂ h₃ hne ?_ hlast
  rw [htext, hstart]
  simp only [String.append_assoc]

/-- In a block a line of code declares nothing unless it opens another one. -/
theorem declare_line {indent : ℕ} {text : String} (c : Char) (h : StartsWord text)
    (hlast : lastChar? text = some c) (hc : c ≠ '\x7b') :
    declare (.block :: scopes) (Header.renderLine (.line indent text)) = ([], .block :: scopes) := by
  have hchars : (Header.renderLine (.line indent text)).toList =
      List.replicate (2 * indent) ' ' ++ (text.toList ++ []) := by
    rw [Header.renderLine, String.toList_append, Header.toList_indentation, List.append_nil]
  have hblanks : ∀ b ∈ List.replicate (2 * indent) ' ', Text.isBlank b = true := fun b hb => by
    rw [List.eq_of_mem_replicate hb]
    rfl
  obtain ⟨first, hfirst?, hfirst⟩ := h.exists_firstChar? hchars hblanks
  have hend : lastChar? (Header.renderLine (.line indent text)) = some c := lastChar?_append hlast
  refine declare_block hfirst? hfirst ?_
  rw [hend]
  exact fun heq => hc (Option.some.inj heq)

/-- Where the enumeration ends its value is declared. The constructors behind it declare nothing, and the last
of them opens a block. -/
theorem declareAll_constructors (h : IsTyped s t) :
    declareAll (.enumeration :: wrapperScopes s) (written ((wrapperClosing t).take 5)) =
      ([⟨.field, wrapperScopes s, "value"⟩], .block :: wrapperScopes s) := by
  have hvalue : declare (.enumeration :: wrapperScopes s) (Header.renderLine (.line 1 "\x7d value;")) =
      ([⟨.field, wrapperScopes s, "value"⟩], wrapperScopes s) := by
    have hwords : Text.words (Header.renderLine (.line 1 "\x7d value;")) = ["\x7d", "value;"] := by decide
    rw [declare_close rfl, hwords]
    rfl
  have hnumber : declare (wrapperScopes s) (Header.renderLine
      (.line 1 s!"{typeName t}(int v) : value(static_cast<value_t>(v)) \x7b\x7d")) =
        ([], wrapperScopes s) :=
    (declare_constructor h "(int" "v)" ":" "value(static_cast<value_t>(v)) \x7b\x7d" '\x7d' (by decide)
      (by decide) ⟨by decide, by decide⟩ ⟨by decide, by decide⟩ (by decide) String.append_empty.symm
      (by decide) (lastChar?_append_of_eq_ofList rfl rfl)).trans (by rw [if_neg (by decide)]; rfl)
  have htext : declare (wrapperScopes s) (Header.renderLine
      (.line 1 s!"{typeName t}(const std::string& name) : {typeName t}(name.c_str()) \x7b\x7d")) =
        ([], wrapperScopes s) :=
    (declare_constructor h "(const" "std::string&" "name)" ": " '\x7d' (by decide)
      (by decide) ⟨by decide, by decide⟩ ⟨by decide, by decide⟩ (by decide) String.append_assoc
      (by decide) (lastChar?_append_of_eq_ofList rfl rfl)).trans (by rw [if_neg (by decide)]; rfl)
  have hchars : declare (wrapperScopes s) (Header.renderLine
      (.line 1 s!"{typeName t}(const char* pName) : value({defaultText t}) \x7b")) =
        ([], .block :: wrapperScopes s) :=
    (declare_constructor h "(const" "char*" "pName)" ": value(" '\x7b' (by decide)
      (by decide) ⟨by decide, by decide⟩ ⟨by decide, by decide⟩ (by decide) String.append_assoc
      (by decide) (lastChar?_append_of_eq_ofList rfl rfl)).trans (by rw [if_pos rfl]; rfl)
  exact declareAll_cons hvalue (declareAll_cons (declare_empty _) (declareAll_cons hnumber
    (declareAll_cons htext (declareAll_cons hchars (declareAll_nil _)))))

/-- The rest of the structure of an enumeration declares its value, and closes what was opened. -/
theorem declareAll_wrapperClosing (h : IsTyped s t) :
    declareAll (.enumeration :: wrapperScopes s) (written (wrapperClosing t)) =
      ([⟨.field, wrapperScopes s, "value"⟩], [.space]) := by
  have htests : ∀ line ∈ written (t.setting.flags.map flagTest),
      declare (.block :: wrapperScopes s) line = ([], .block :: wrapperScopes s) := by
    rw [written, List.forall_mem_map, List.forall_mem_map]
    intro f _
    have hstart : StartsWord "if(!strcmp(\"" := startsWord_of_eq_ofList rfl rfl
    exact declare_line '\x7d' ((((hstart.append _).append _).append _).append _)
      (lastChar?_append_of_eq_ofList rfl rfl) (by decide)
  have hend : declareAll (.block :: wrapperScopes s)
      (written [.line 1 "\x7d", .line 0 "\x7d;", .blank]) = ([], [.space]) :=
    declareAll_cons (declare_close rfl) (declareAll_cons (declare_close rfl) rfl)
  rw [wrapperClosing_eq, written_append, written_append]
  exact declareAll_append (declareAll_append (declareAll_constructors h) (declareAll_nothing htests)) hend

/-- The structure of an enumeration declares its names, and is closed. -/
theorem declareAll_wrapperCode (h : IsTyped s t) (henum : t.type = .enumeration) :
    declareAll [.space] (wrapperCode t) = (wrapperNames s, [.space]) := by
  have hname : typeName t = wrapperName s := by simp [typeName, henum, wrapperName, h.setting]
  have hflags : declareAll (.enumeration :: wrapperScopes s)
      (s.flags.flatMap fun f => described "    " f.description (enumerator f)) =
        (enumerators s, .enumeration :: wrapperScopes s) := by
    rw [enumerators, ← flatMap_isRead]
    exact declareAll_flatMap fun f hf =>
      declareAll_described rfl (declare_enumerator (h.flags henum f hf) _)
  rw [wrapperCode, h.setting]
  exact declareAll_append (declareAll_append (declareAll_wrapperOpening h hname) hflags)
    (declareAll_wrapperClosing h)

/-- What tests for a setting opens a block. -/
theorem declare_loaderTest (t : TypedSetting) :
    declare (.block :: scopes) (Header.renderLine
      (.line 2 s!"if(vkuHasLayerSetting(layerSettingSet, \"{t.setting.key}\")) \x7b")) =
        ([], .block :: .block :: scopes) := by
  have hword : IsWord "if(vkuHasLayerSetting(layerSettingSet," := ⟨by decide, by decide⟩
  have hsplit : s!"if(vkuHasLayerSetting(layerSettingSet, \"{t.setting.key}\")) \x7b" =
      "if(vkuHasLayerSetting(layerSettingSet," ++ (" \"" ++ t.setting.key ++ "\")) \x7b") := by
    have hliteral : "if(vkuHasLayerSetting(layerSettingSet, \"" =
        "if(vkuHasLayerSetting(layerSettingSet," ++ " \"" := by decide
    rw [hliteral]
    simp only [toString, String.append_assoc]
  have hchars : (Header.renderLine
      (.line 2 s!"if(vkuHasLayerSetting(layerSettingSet, \"{t.setting.key}\")) \x7b")).toList =
      "    ".toList ++ ("if(vkuHasLayerSetting(layerSettingSet,".toList ++ ' ' ::
        ("\"" ++ t.setting.key ++ "\")) \x7b").toList) := by
    rw [hsplit, Header.renderLine, indentation_eq.2.2.1, String.toList_append, String.toList_append]
    simp
  have hwords := (words_indented (by decide) hchars).trans (words_cons hword rfl String.toList_ofList)
  have hfirst : firstChar? _ = some 'i' := firstChar?_of_toList hchars (by decide) rfl
  have hlast : lastChar? (Header.renderLine
      (.line 2 s!"if(vkuHasLayerSetting(layerSettingSet, \"{t.setting.key}\")) \x7b")) = some '\x7b' :=
    lastChar?_append (lastChar?_append_of_eq_ofList rfl rfl)
  rw [declare_code hfirst rfl, hwords, opened_eq_block (by decide), if_pos hlast]
  rfl

/-- The loading of a setting opens a block, declares nothing and closes the block. -/
theorem declareAll_loaderBody (h : IsTyped s t) :
    declareAll (.block :: scopes) (written (loaderBody t)) = ([], .block :: scopes) := by
  have hkey : StartsWord t.setting.key := startsWord_of_isIdentifier (h.setting ▸ h.key)
  have hget : StartsWord "vkuGetLayerSettingValue(layerSettingSet, \"" := startsWord_of_eq_ofList rfl rfl
  have hvalues : ∀ line ∈ written (valueLines t),
      declare (.block :: .block :: scopes) line = ([], .block :: .block :: scopes) := by
    unfold valueLines
    split
    · simp only [written, List.map_cons, List.map_nil, List.forall_mem_cons, List.not_mem_nil,
        false_implies, implies_true, and_true]
      refine ⟨?_, ?_, ?_⟩
      · exact declare_line ';' (startsWord_of_eq_ofList rfl rfl) (lastChar?_of_eq_ofList rfl rfl)
          (by decide)
      · exact declare_line ';' ((hget.append _).append _) (lastChar?_append_of_eq_ofList rfl rfl)
          (by decide)
      · exact declare_line ';' (((hkey.append _).append _).append _)
          (lastChar?_append_of_eq_ofList rfl rfl) (by decide)
    · simp only [written, List.map_cons, List.map_nil, List.forall_mem_singleton]
      exact declare_line ';' ((((hget.append _).append _).append _).append _)
        (lastChar?_append_of_eq_ofList rfl rfl) (by decide)
  have hend : declareAll (.block :: .block :: scopes) (written [.line 2 "\x7d"]) = ([], .block :: scopes) :=
    declareAll_cons (declare_close rfl) (declareAll_nil _)
  have htest := declareAll_cons (declare_loaderTest t) (declareAll_nil (.block :: .block :: scopes))
  rw [loaderBody, written_append, written_append]
  exact declareAll_append (declareAll_append htest (declareAll_nothing hvalues)) hend

/-- Conditions are passed over. -/
theorem declareAll_loaderLines (h : IsTyped s t) :
    declareAll (.block :: scopes) (written (loaderLines t)) = ([], .block :: scopes) := by
  show declareAll _ (written (conditional t.condition? (loaderBody t))) = _
  rcases t.condition? with _ | condition
  · exact declareAll_loaderBody h
  · have hopen : declare (.block :: scopes) (Header.renderLine (.openGuard 0 condition .expression)) =
        ([], .block :: scopes) := by
      have hchars : (Header.renderLine (.openGuard 0 condition .expression)).toList =
          [] ++ '#' :: ("if ".toList ++ condition.toList) := by
        simp [Header.renderLine, indentation_eq.1]
      exact declare_directive (firstChar?_of_toList hchars (by simp) rfl)
    have hclose : declare (.block :: scopes) (Header.renderLine (.closeGuard 0 condition .plain)) =
        ([], .block :: scopes) := by
      have hchars : (Header.renderLine (.closeGuard 0 condition .plain)).toList =
          [] ++ '#' :: "endif".toList := by
        simp [Header.renderLine, indentation_eq.1]
      exact declare_directive (firstChar?_of_toList hchars (by simp) rfl)
    rw [conditional, List.cons_append, written, List.map_cons, List.map_append]
    exact declareAll_cons hopen (declareAll_append (declareAll_loaderBody h)
      (declareAll_cons hclose (declareAll_nil _)))

end

/-! ## The header -/

/-- The function that loads the settings opens a block in their structure. -/
theorem declareAll_loaderOpening (layer : String) :
    declareAll fieldScopes ("" :: "  " :: (written (loaderOpening layer)).drop 2) =
      ([], .block :: fieldScopes) := by
  have hfunction : declare fieldScopes (Header.renderLine (.line 1 <|
      "void LoadFromVulkanLayerSettings(const VkInstanceCreateInfo* pCreateInfo, " ++
        "const VkAllocationCallbacks* pAllocator) \x7b")) = ([], .block :: fieldScopes) :=
    declare_function "LoadFromVulkanLayerSettings(const" "VkInstanceCreateInfo*"
      "pCreateInfo, const VkAllocationCallbacks* pAllocator) \x7b" '\x7b' ⟨by decide, by decide⟩
      (startsWord_of_eq_ofList rfl rfl) (fun _ => rfl) ⟨by decide, by decide⟩ ⟨by decide, by decide⟩
      (by decide) (by decide : _ = "void" ++ _) (lastChar?_append_of_eq_ofList rfl rfl)
  have hcreate : StartsWord "vkuCreateLayerSettingSet(" := startsWord_of_eq_ofList rfl rfl
  have hbody : ∀ line ∈ (written (loaderOpening layer)).drop 3,
      declare (.block :: fieldScopes) line = ([], .block :: fieldScopes) := by
    show ∀ line ∈ [_, _, _, _, _], _
    simp only [List.forall_mem_cons, List.not_mem_nil, false_implies, implies_true, and_true]
    refine ⟨?_, declare_empty _, ?_, ?_, declare_empty _⟩
    · exact declare_line ';' (.append (startsWord_of_eq_ofList rfl rfl) _)
        (lastChar?_append_of_eq_ofList rfl rfl) (by decide)
    · exact declare_line ';' (startsWord_of_eq_ofList rfl rfl) (lastChar?_of_eq_ofList rfl rfl) (by decide)
    · exact declare_line ';' ((hcreate.append _).append _) (lastChar?_append_of_eq_ofList rfl rfl)
        (by decide)
  exact declareAll_cons (declare_blank rfl) (declareAll_cons (declare_blank rfl)
    (declareAll_cons hfunction (declareAll_nothing hbody)))

section

variable {layer : String} {declared : List Setting} {settings : List TypedSetting}

/-- The structures of the enumerations declare their names and those of the flags. -/
theorem declareAll_enumerations (h : List.Forall₂ IsTyped declared settings) :
    declareAll [.space]
        ((settings.filter (·.type = .enumeration)).flatMap wrapperCode) =
      ((declared.filter (·.type == "ENUM")).flatMap wrapperNames, [.space]) := by
  have hnames : (settings.filter (·.type = .enumeration)).flatMap (fun t => wrapperNames t.setting) =
      (declared.filter (·.type == "ENUM")).flatMap wrapperNames :=
    flatMap_eq_of_forall₂ (fun s t ht => congrArg wrapperNames ht.setting) (forall₂_enumerations h)
  rw [← hnames]
  refine declareAll_flatMap fun t ht => ?_
  obtain ⟨ht, henum⟩ := List.mem_filter.1 ht
  obtain ⟨s, hs⟩ := exists_isTyped_of_mem h ht
  rw [hs.setting]
  exact declareAll_wrapperCode hs (of_decide_eq_true henum)

/-- The fields declare the keys of the settings. -/
theorem declareAll_fields (h : List.Forall₂ IsTyped declared settings) :
    declareAll fieldScopes (settings.flatMap fieldCode) = (fields declared, fieldScopes) := by
  rw [fields, ← flatMap_isRead, eq_map_setting h, List.flatMap_map]
  refine declareAll_flatMap fun t ht => ?_
  obtain ⟨s, hs⟩ := exists_isTyped_of_mem h ht
  rw [hs.setting, fieldCode, hs.setting]
  exact declareAll_described rfl (declare_declaration hs)

/-- **What the code of the header declares.** All scopes are closed behind it. -/
theorem declareAll_remainingCode (h : List.Forall₂ IsTyped declared settings) :
    declareAll [] (remainingCode layer settings) = (declaredNames declared, []) := by
  have hopening : declareAll [] (written opening) = ([], [.space]) := by decide
  have hstruct : declareAll [.space] ["struct ProfilerLayerSettings \x7b"] =
      ([⟨.type, [.space], "ProfilerLayerSettings"⟩], fieldScopes) := by
    decide
  have hclosing : declareAll (.block :: fieldScopes) (written closing) = ([], []) := by decide
  have hloaders : declareAll (.block :: fieldScopes) (settings.flatMap fun t => written (loaderLines t)) =
      (settings.flatMap fun _ => [], .block :: fieldScopes) :=
    declareAll_flatMap fun t ht => by
      obtain ⟨s, hs⟩ := exists_isTyped_of_mem h ht
      exact declareAll_loaderLines hs
  have hall := declareAll_append (declareAll_append (declareAll_append (declareAll_append (declareAll_append
    (declareAll_append hopening (declareAll_enumerations h)) hstruct) (declareAll_fields h))
    (declareAll_loaderOpening layer)) hloaders) hclosing
  rw [remainingCode, hall]
  simp [declaredNames]

end

/-! ## Distinct names -/

/-- Things with distinct names are distinct. -/
theorem nodup_declared {kind : Kind} {scopes : List Scope} {α : Type} {key : α → String} {p : α → Bool}
    {l : List α} (h : (l.map key).Nodup) :
    ((l.filter p).map fun a => Declared.mk kind scopes (key a)).Nodup := by
  have hmap : ((l.filter p).map fun a => Declared.mk kind scopes (key a)) =
      ((l.filter p).map key).map (Declared.mk kind scopes) := by
    rw [List.map_map]
    rfl
  rw [hmap]
  exact ((List.filter_sublist.map key).nodup h).map fun _ _ heq => (Declared.mk.inj heq).2.2

/-- Distinct things of one kind in one scope have distinct names. -/
theorem nodup_namesOf {declared : List Declared} (h : declared.Nodup) (kind : Kind) (scopes : List Scope) :
    (namesOf kind scopes declared).Nodup := by
  refine (h.filter _).map_on ?_
  rintro ⟨_, _, name⟩ hx ⟨_, _, name'⟩ hy heq
  obtain ⟨rfl, rfl⟩ := of_decide_eq_true (List.mem_filter.1 hx).2
  obtain ⟨rfl, rfl⟩ := of_decide_eq_true (List.mem_filter.1 hy).2
  obtain rfl : name = name' := heq
  rfl

/-- What the structure of an enumeration declares is the structure, or stands in its scope. -/
theorem eq_or_of_mem_wrapperNames {s : Setting} {x : Declared} (h : x ∈ wrapperNames s) :
    x = ⟨.type, [.space], wrapperName s⟩ ∨ x.scopes = wrapperScopes s := by
  simp only [wrapperNames, enumerators, List.mem_append, List.mem_cons, List.mem_map, List.not_mem_nil,
    or_false] at h
  rcases h with ((rfl | rfl) | ⟨f, -, rfl⟩) | rfl
  · exact Or.inl rfl
  · exact Or.inr rfl
  · exact Or.inr rfl
  · exact Or.inr rfl

/-- The structure of an enumeration whose flags are distinct declares distinct names. -/
theorem nodup_wrapperNames {s : Setting} (h : (s.flags.map (·.key)).Nodup) : (wrapperNames s).Nodup := by
  have henumerators : (enumerators s).Nodup := nodup_declared h
  have hkind : ∀ x ∈ enumerators s, x.kind = .enumerator := by
    intro x hx
    obtain ⟨f, -, rfl⟩ := List.mem_map.1 hx
    rfl
  have htypes : ([⟨.type, [.space], wrapperName s⟩, ⟨.type, wrapperScopes s, "value_t"⟩] :
      List Declared).Nodup := by
    simp [wrapperScopes]
  rw [wrapperNames, List.nodup_append, List.nodup_append]
  -- the three parts are of three kinds
  refine ⟨⟨htypes, henumerators, ?_⟩, List.nodup_singleton _, ?_⟩
  · rintro x hx y hy rfl
    rw [List.mem_pair] at hx
    rcases hx with rfl | rfl
    · cases hkind _ hy
    · cases hkind _ hy
  · rintro x hx y hy rfl
    rw [List.mem_singleton] at hy
    subst hy
    rcases List.mem_append.1 hx with hx | hx
    · simp at hx
    · cases hkind _ hx

/-- Enumerations with different keys declare different names. -/
theorem disjoint_wrapperNames {s s' : Setting} (h : s.key ≠ s'.key) :
    (wrapperNames s).Disjoint (wrapperNames s') := by
  have hname : wrapperName s ≠ wrapperName s' := fun heq => h ((String.append_left_inj "_t").1 heq)
  refine List.disjoint_left.2 fun x hx hx' => hname ?_
  rcases eq_or_of_mem_wrapperNames hx with rfl | hscopes
  · rcases eq_or_of_mem_wrapperNames hx' with heq | hscopes'
    · exact (Declared.mk.inj heq).2.2
    · cases hscopes'
  · rcases eq_or_of_mem_wrapperNames hx' with rfl | hscopes'
    · cases hscopes
    · rw [hscopes] at hscopes'
      simpa [wrapperScopes] using hscopes'

/-- What the structure of an enumeration declares is neither the structure of the settings nor a field of
it. -/
theorem not_mem_wrapperNames {s : Setting} {x : Declared}
    (h : x = ⟨.type, [.space], "ProfilerLayerSettings"⟩ ∨ x.scopes = fieldScopes) : x ∉ wrapperNames s := by
  -- the name of the structure of an enumeration ends in another letter
  have hname : wrapperName s ≠ "ProfilerLayerSettings" := by
    intro heq
    have hlast := congrArg lastChar? heq
    rw [wrapperName, lastChar?_append (b := "_t") rfl] at hlast
    exact absurd hlast (by decide)
  intro hx
  rcases eq_or_of_mem_wrapperNames hx with rfl | hscopes
  · rcases h with heq | hscopes
    · exact hname (Declared.mk.inj heq).2.2
    · cases hscopes
  · rcases h with rfl | hscopes'
    · cases hscopes
    · rw [hscopes] at hscopes'
      simp [wrapperScopes, fieldScopes, hname] at hscopes'

/-- **Distinct keys give distinct names**: no two names of one kind in one scope are equal. -/
theorem nodup_declaredNames {settings : List Setting} (hkeys : (settings.map (·.key)).Nodup)
    (hflags : ∀ s ∈ settings, s.type = "ENUM" → (s.flags.map (·.key)).Nodup) :
    (declaredNames settings).Nodup := by
  have hdifferent : settings.Pairwise fun s s' => s.key ≠ s'.key := List.pairwise_map.1 hkeys
  have hstructure : ⟨.type, [.space], "ProfilerLayerSettings"⟩ ∉ fields settings := by
    simp [fields]
  have hfields : (fields settings).Nodup := nodup_declared hkeys
  rw [declaredNames, List.nodup_append, List.nodup_flatMap]
  refine ⟨⟨fun s hs => ?_, (hdifferent.filter _).imp disjoint_wrapperNames⟩,
    List.nodup_cons.2 ⟨hstructure, hfields⟩, ?_⟩
  · obtain ⟨hmem, htype⟩ := List.mem_filter.1 hs
    exact nodup_wrapperNames (hflags s hmem (beq_iff_eq.1 htype))
  · rintro x hx y hy rfl
    obtain ⟨s, -, hx⟩ := List.mem_flatMap.1 hx
    refine not_mem_wrapperNames ((List.mem_cons.1 hy).imp_right fun hy => ?_) hx
    obtain ⟨s, -, rfl⟩ := List.mem_map.1 hy
    rfl

/-! ## The text -/

/-- **What a text declares.** When its lines are joined and their comments are taken away, what is left declares
the structures of the enumerations with their flags as enumerators, then the structure of the settings with
their keys as fields, in the order of the manifest, but for those behind a description that ends in a
backslash. If the keys of the settings are distinct, and in each enumeration those of the flags, then no two
structures, no two fields of the settings and no two enumerators of a structure have one name. -/
theorem names_declared {m : Manifest} {text : String} (h : LayerSettings.text m = .ok text) :
    ∃ declared, declareAll [] (codeLines text) = (declared, []) ∧ declared = declaredNames m.settings ∧
      ((m.settings.map (·.key)).Nodup →
        (∀ s ∈ m.settings, s.type = "ENUM" → (s.flags.map (·.key)).Nodup) →
          (namesOf .field [.record "ProfilerLayerSettings", .space] declared).Nodup ∧
          (namesOf .type [.space] declared).Nodup ∧
          ∀ wrapper, (namesOf .enumerator [.record wrapper, .space] declared).Nodup) := by
  obtain ⟨settings, hsettings, htyped, htext, hlines⟩ := exists_typed_of_text h
  have hcode : codeLines text = remainingCode m.name settings :=
    htext ▸ (leavesCode_lines hsettings hlines).codeLines
  refine ⟨_, by rw [hcode, declareAll_remainingCode htyped], rfl, fun hkeys hflags => ?_⟩
  have hnodup := nodup_declaredNames hkeys hflags
  exact ⟨nodup_namesOf hnodup _ _, nodup_namesOf hnodup _ _, fun wrapper => nodup_namesOf hnodup _ _⟩

/-- What the header of `cacheManifest` declares: the enumerator behind the description that ends in a backslash
is not among the names. -/
theorem names_declared_cache :
    ∃ text, LayerSettings.text cacheManifest = .ok text ∧
    ∃ declared, declareAll [] (codeLines text) = (declared, []) ∧
      declared = [⟨.type, [.space], "cache_t"⟩,
        ⟨.type, [.record "cache_t", .space], "value_t"⟩,
        ⟨.enumerator, [.record "cache_t", .space], "none"⟩,
        ⟨.field, [.record "cache_t", .space], "value"⟩,
        ⟨.type, [.space], "ProfilerLayerSettings"⟩,
        ⟨.field, [.record "ProfilerLayerSettings", .space], "host"⟩,
        ⟨.field, [.record "ProfilerLayerSettings", .space], "cache"⟩] ∧
      (namesOf .field [.record "ProfilerLayerSettings", .space] declared).Nodup ∧
      (namesOf .type [.space] declared).Nodup ∧
      ∀ wrapper, (namesOf .enumerator [.record wrapper, .space] declared).Nodup := by
  have hsettings : cacheManifest.settings.mapM Setting.typed = .ok cacheSettings := rfl
  have htext := text_eq_ok hsettings (by decide)
  obtain ⟨declared, hdeclare, hdeclared, hnodup⟩ := names_declared htext
  refine ⟨_, htext, declared, hdeclare, hdeclared.trans (by decide), hnodup (by decide) ?_⟩
  decide

/-- A manifest with two settings of the same key, of which one is an enumeration that has a flag twice. -/
def repeatedManifest : Manifest where
  name := "VK_LAYER_sample"
  settings := [
    ⟨"mode", "Mode", "How it works.", "ENUM", .string "fast", [],
      [⟨"fast", "Fast", "Quick."⟩, ⟨"fast", "Fast", "Very quick."⟩]⟩,
    ⟨"mode", "Mode", "Whether it works.", "BOOL", .bool true, [], []⟩]

/-- The settings of `repeatedManifest`. -/
def repeatedSettings : List TypedSetting := [
    ⟨⟨"mode", "Mode", "How it works.", "ENUM", .string "fast", [],
      [⟨"fast", "Fast", "Quick."⟩, ⟨"fast", "Fast", "Very quick."⟩]⟩, .enumeration, .flag "fast", none⟩,
    ⟨⟨"mode", "Mode", "Whether it works.", "BOOL", .bool true, [], []⟩, .bool, .bool true, none⟩]

/-- The header of `repeatedManifest` declares a field twice, and an enumerator. -/
theorem field_declared_twice :
    ∃ text, LayerSettings.text repeatedManifest = .ok text ∧
    ∃ declared, declareAll [] (codeLines text) = (declared, []) ∧
      namesOf .field [.record "ProfilerLayerSettings", .space] declared = ["mode", "mode"] ∧
      namesOf .enumerator [.record "mode_t", .space] declared = ["fast", "fast"] := by
  have hsettings : repeatedManifest.settings.mapM Setting.typed = .ok repeatedSettings := rfl
  have htext := text_eq_ok hsettings (by decide)
  obtain ⟨htyped, -, hlines⟩ := text_written htext hsettings
  refine ⟨_, htext, declaredNames repeatedManifest.settings, ?_, by decide, by decide⟩
  rw [(leavesCode_lines hsettings hlines).codeLines, declareAll_remainingCode htyped]

end LayerHeaders.LayerSettings
