import LayerHeaders.Proofs.Registry.Reading

/-!
# Who owns a name, and what is restricted

Features and extensions require names in blocks. A feature is safety-critical if it belongs to the
safety-critical API alone, and a base feature otherwise. A base feature makes what it requires core; what
is not core is owned by the first extension that requires it. A safety-critical feature restricts what it
requires, and so does a block of an extension for the safety-critical API, if it requires types.

* `IsCore`, `IsFirstRequiring`, `IsReserved`: what decides about a name, over the features and extensions.
* `Registry.DecidedBy`: when the look-ups of a registry say just that.
* `ownership_decided`: the look-ups of a registry that was read do, and the order of the features in the
  document is of no account.
-/

namespace LayerHeaders

/-! ## Names that blocks require -/

/-- Whether blocks require a name, among those that `names` lists. -/
def Requires (names : RequireBlock → List String) (blocks : List RequireBlock) (name : String) : Prop :=
  ∃ block ∈ blocks, name ∈ names block

theorem mem_flatMap_names {names : RequireBlock → List String} {blocks : List RequireBlock}
    {name : String} : name ∈ blocks.flatMap names ↔ Requires names blocks name :=
  List.mem_flatMap

/-- Whether a list of APIs holds the safety-critical one and no other. -/
def Dialect.OnlySafetyCritical (d : Dialect) (apis : List String) : Prop :=
  apis ≠ [] ∧ ∀ api ∈ apis, api = d.safetyCriticalApi

/-- Whether an `api` attribute is there and lists the safety-critical API and no other. -/
def Dialect.Restricts (d : Dialect) (api? : Option String) : Prop :=
  ∃ api, api? = some api ∧ d.OnlySafetyCritical (Text.entries api)

/-- Whether a base feature requires a name. -/
def IsCore (d : Dialect) (features : List Feature) (names : RequireBlock → List String)
    (name : String) : Prop :=
  ∃ f ∈ features, ¬ d.OnlySafetyCritical f.apis ∧ Requires names f.requires name

/-- Whether a safety-critical feature requires a name. -/
def IsReserved (d : Dialect) (features : List Feature) (names : RequireBlock → List String)
    (name : String) : Prop :=
  ∃ f ∈ features, d.OnlySafetyCritical f.apis ∧ Requires names f.requires name

/-- Whether `e` is the first of the extensions that requires a name. -/
def IsFirstRequiring (extensions : List Extension) (names : RequireBlock → List String)
    (name : String) (e : Extension) : Prop :=
  ∃ before after, extensions = before ++ e :: after ∧ Requires names e.requires name ∧
    ∀ e' ∈ before, ¬ Requires names e'.requires name

section

variable {d : Dialect} {features : List Feature} {names : RequireBlock → List String} {name : String}

theorem onlySafetyCritical_iff {apis : List String} :
    d.onlySafetyCritical apis = true ↔ d.OnlySafetyCritical apis := by
  simp [Dialect.onlySafetyCritical, Dialect.OnlySafetyCritical]

theorem isSafetyCritical_iff {api? : Option String} :
    d.isSafetyCritical api? = true ↔ d.Restricts api? := by
  unfold Dialect.Restricts
  rcases api? with _ | api
  · simp [Dialect.isSafetyCritical]
  · simp [Dialect.isSafetyCritical, onlySafetyCritical_iff]

/-- What features require that pass a test. -/
theorem mem_requiredBy {p : Feature → Bool} :
    name ∈ requiredBy p names features ↔
      ∃ f ∈ features, p f = true ∧ Requires names f.requires name := by
  simp only [requiredBy, List.mem_flatMap, List.mem_filter, Requires, and_assoc]

theorem mem_requiredBy_base :
    name ∈ requiredBy (!·.isSafetyCritical d) names features ↔ IsCore d features names name := by
  rw [mem_requiredBy]
  refine exists_congr fun f => and_congr_right fun _ => and_congr_left fun _ => ?_
  rw [Bool.not_eq_true', ← Bool.not_eq_true, Feature.isSafetyCritical, onlySafetyCritical_iff]

theorem mem_requiredBy_safetyCritical :
    name ∈ requiredBy (·.isSafetyCritical d) names features ↔ IsReserved d features names name := by
  rw [mem_requiredBy]
  exact exists_congr fun f => and_congr_right fun _ => and_congr_left fun _ => onlySafetyCritical_iff

/-! ## The first extension that requires a name -/

/-- What is found under a name among the mentions of one extension. -/
theorem lookup_mentions {mentioned : List String} {p : String → Bool} {e : Extension} :
    ((mentioned.filter p).map fun n => (n, e)).lookup name =
      if name ∈ mentioned ∧ p name = true then some e else none := by
  induction mentioned with
  | nil => rfl
  | cons n mentioned ih =>
      by_cases hn : name = n
      · subst hn
        by_cases hp : p name = true
        · rw [List.filter_cons_of_pos hp, List.map_cons, List.lookup_cons_self]
          simp [hp]
        · rw [List.filter_cons_of_neg hp, ih]
          simp [hp]
      · have hrest : (((n :: mentioned).filter p).map fun n => (n, e)).lookup name =
            ((mentioned.filter p).map fun n => (n, e)).lookup name := by
          by_cases hp : p n = true
          · rw [List.filter_cons_of_pos hp, List.map_cons, List.lookup_cons, beq_false_of_ne hn]
          · rw [List.filter_cons_of_neg hp]
        rw [hrest, ih]
        simp [hn]

/-- A name that is core has no owner. -/
theorem lookup_owners_of_core {core : List String} (hcore : name ∈ core)
    (extensions : List Extension) : (owners core names extensions).lookup name = none := by
  induction extensions with
  | nil => rfl
  | cons e extensions ih =>
      unfold owners at ih ⊢
      rw [List.flatMap_cons, List.lookup_append, lookup_mentions, ih]
      simp [hcore]

/-- **A name that is not core is owned by the first extension that requires it.** -/
theorem lookup_owners_of_not_core {core : List String} (hcore : name ∉ core)
    (extensions : List Extension) :
    (owners core names extensions).lookup name =
      extensions.find? fun e => decide (name ∈ e.requires.flatMap names) := by
  induction extensions with
  | nil => rfl
  | cons e extensions ih =>
      unfold owners at ih ⊢
      rw [List.flatMap_cons, List.lookup_append, lookup_mentions, ih]
      by_cases he : name ∈ e.requires.flatMap names
      · rw [if_pos ⟨he, by simpa using hcore⟩, Option.some_or, List.find?_cons, decide_eq_true he]
      · rw [if_neg fun h => he h.1, Option.none_or, List.find?_cons, decide_eq_false he]

/-- The owner of a name is the first extension that requires it, unless the name is core. -/
theorem lookup_owners_eq_some_iff {core : List String} {extensions : List Extension}
    {e : Extension} :
    (owners core names extensions).lookup name = some e ↔
      name ∉ core ∧ IsFirstRequiring extensions names name e := by
  by_cases hcore : name ∈ core
  · rw [lookup_owners_of_core hcore]
    simp [hcore]
  · rw [lookup_owners_of_not_core hcore, List.find?_eq_some_iff_append]
    simp only [decide_eq_true_eq, Bool.not_eq_true', decide_eq_false_iff_not, mem_flatMap_names]
    constructor
    · rintro ⟨he, before, after, hsplit, hbefore⟩
      exact ⟨hcore, before, after, hsplit, he, hbefore⟩
    · rintro ⟨-, before, after, hsplit, he, hbefore⟩
      exact ⟨he, before, after, hsplit, hbefore⟩

/-- The types that extensions require in blocks of the safety-critical API. -/
theorem mem_restrictedByBlocks {extensions : List Extension} :
    name ∈ restrictedByBlocks d extensions ↔
      ∃ e ∈ extensions, ∃ block ∈ e.requires, d.Restricts block.api? ∧ name ∈ block.types := by
  simp only [restrictedByBlocks, List.mem_flatMap, List.mem_filter, isSafetyCritical_iff, and_assoc]

end

/-! ## The look-ups of a registry -/

/-- **Whether the look-ups of a registry say what features and extensions decide.** -/
structure Registry.DecidedBy (features : List Feature) (r : Registry) : Prop where
  /-- A command is owned by the first extension that requires it, unless it is core. -/
  commandOwner?_eq_some_iff : ∀ name e, r.commandOwner? name = some e ↔
    ¬ IsCore r.dialect features (·.commands) name ∧
      IsFirstRequiring r.extensions (·.commands) name e
  /-- So is a type. -/
  typeOwner?_eq_some_iff : ∀ name e, r.typeOwner? name = some e ↔
    ¬ IsCore r.dialect features (·.types) name ∧ IsFirstRequiring r.extensions (·.types) name e
  /-- A command is restricted by its own `api` attribute or by a safety-critical feature. -/
  isRestricted_iff : ∀ c, r.isRestricted c = true ↔
    r.dialect.Restricts c.api? ∨ IsReserved r.dialect features (·.commands) c.name
  /-- So is a structure, and by a block of an extension for the safety-critical API as well. -/
  isRestrictedStruct_iff : ∀ s, r.isRestrictedStruct s = true ↔
    r.dialect.Restricts s.api? ∨ IsReserved r.dialect features (·.types) s.name ∨
      ∃ e ∈ r.extensions, ∃ block ∈ e.requires,
        r.dialect.Restricts block.api? ∧ s.name ∈ block.types

/-- **Whether two registries have the same declarations and look-ups.** -/
structure Registry.AnswersLike (r r' : Registry) : Prop where
  /-- The structures are the same. -/
  structs : r'.structs = r.structs
  /-- The commands are the same. -/
  commands : r'.commands = r.commands
  /-- The extensions are the same. -/
  extensions : r'.extensions = r.extensions
  /-- Every command has the same owner. -/
  commandOwner? : ∀ name, r'.commandOwner? name = r.commandOwner? name
  /-- Every type has the same owner. -/
  typeOwner? : ∀ name, r'.typeOwner? name = r.typeOwner? name
  /-- The same commands are restricted. -/
  isRestricted : ∀ c, r'.isRestricted c = r.isRestricted c
  /-- The same structures are restricted. -/
  isRestrictedStruct : ∀ s, r'.isRestrictedStruct s = r.isRestrictedStruct s

namespace Registry

variable {d : Dialect} {r r' : Registry} {features features' : List Feature} {root root' : Xml.Element}

/-- The look-ups of a registry that was read say what its features and extensions decide. -/
theorem ReadFrom.decidedBy (h : r.ReadFrom d root features) : r.DecidedBy features := by
  rw [h.assembled]
  constructor
  · intro name e
    rw [← mem_requiredBy_base]
    exact lookup_owners_eq_some_iff
  · intro name e
    rw [← mem_requiredBy_base]
    exact lookup_owners_eq_some_iff
  · intro c
    rw [← mem_requiredBy_safetyCritical, ← isSafetyCritical_iff, isRestricted, Bool.or_eq_true,
      List.contains_iff_mem]
    rfl
  · intro s
    rw [← mem_requiredBy_safetyCritical, ← isSafetyCritical_iff, ← mem_restrictedByBlocks,
      ← List.mem_append, isRestrictedStruct, Bool.or_eq_true, List.contains_iff_mem]
    rfl

/-- **The order of the features is of no account**: it changes none of the look-ups that they decide. -/
theorem DecidedBy.answersLike_of_perm (h : r.DecidedBy features) (h' : r'.DecidedBy features')
    (hfeatures : features'.Perm features) (hdialect : r'.dialect = r.dialect)
    (hstructs : r'.structs = r.structs) (hcommands : r'.commands = r.commands)
    (hextensions : r'.extensions = r.extensions) : r.AnswersLike r' := by
  have hcore : ∀ names name, IsCore r.dialect features' names name ↔
      IsCore r.dialect features names name :=
    fun names name => exists_congr fun f => and_congr_left fun _ => hfeatures.mem_iff
  have hreserved : ∀ names name, IsReserved r.dialect features' names name ↔
      IsReserved r.dialect features names name :=
    fun names name => exists_congr fun f => and_congr_left fun _ => hfeatures.mem_iff
  refine ⟨hstructs, hcommands, hextensions, fun name => ?_, fun name => ?_, fun c => ?_, fun s => ?_⟩
  · apply Option.ext
    intro e
    rw [h.commandOwner?_eq_some_iff, h'.commandOwner?_eq_some_iff, hdialect, hextensions, hcore]
  · apply Option.ext
    intro e
    rw [h.typeOwner?_eq_some_iff, h'.typeOwner?_eq_some_iff, hdialect, hextensions, hcore]
  · rw [Bool.eq_iff_iff, h.isRestricted_iff, h'.isRestricted_iff, hdialect, hreserved]
  · rw [Bool.eq_iff_iff, h.isRestrictedStruct_iff, h'.isRestrictedStruct_iff, hdialect, hextensions,
      hreserved]

end Registry

/-! ## Features in another order -/

/-- **Whether the elements of one name stand in another order** among the children of two elements. The
children of every other name are the same, in the same order; the others may stand anywhere between
them. -/
structure Xml.Element.Reordered (name : String) (e e' : Xml.Element) : Prop where
  /-- The elements of every other name are the same. -/
  others : ∀ other, other ≠ name → e'.childrenNamed other = e.childrenNamed other
  /-- The elements of the name are the same up to their order. -/
  perm : (e'.childrenNamed name).Perm (e.childrenNamed name)

/-- The first element of another name is the same. -/
theorem Xml.Element.Reordered.child?_eq {name other : String} {e e' : Xml.Element}
    (h : e.Reordered name e') (hother : other ≠ name) : e'.child? other = e.child? other := by
  rw [Xml.Element.child?_eq_head?, Xml.Element.child?_eq_head?, h.others other hother]

/-- A registry can be read from the features in another order. -/
theorem Registry.ReadFrom.exists_reordered {d : Dialect} {r : Registry} {features : List Feature}
    {root root' : Xml.Element} (h : r.ReadFrom d root features) (hroot : root.Reordered "feature" root') :
    ∃ (r' : Registry) (features' : List Feature), r'.ReadFrom d root' features' ∧
      features'.Perm features ∧ r'.structs = r.structs ∧ r'.commands = r.commands ∧
      r'.extensions = r.extensions := by
  obtain ⟨features', hfeatures', hperm⟩ := exists_mapM_eq_ok_of_perm hroot.perm h.beside
  refine ⟨.ofDeclarations d r.handles r.structs r.commands r.index r.extensions features', features', {
    types := ?_
    commands := ?_
    index := h.index
    extensions := ?_
    beside := hfeatures'
    assembled := rfl }, hperm, rfl, rfl, rfl⟩
  · rw [hroot.child?_eq (by decide)]
    exact h.types
  · rw [hroot.child?_eq (by decide)]
    exact h.commands
  · rw [hroot.child?_eq (by decide)]
    exact h.extensions

/-- **Ownership and restriction are what features and extensions decide.** In a registry that was read, a
command or a type is owned by the first extension in the document that requires it, unless a base feature
requires it, and it is restricted by its own `api` attribute, by a safety-critical feature, or, as a type,
by a block of an extension for the safety-critical API. A document with its features in another order,
among themselves and relative to the sections, can be read as well, and its look-ups say the same. -/
theorem ownership_decided {d : Dialect} {document : String} {r : Registry}
    (h : Registry.read d document = .ok r) :
    ∃ root features, Xml.parse document = .ok root ∧ r.ReadFrom d root features ∧ r.dialect = d ∧
      r.DecidedBy features ∧
      ∀ document' root', Xml.parse document' = .ok root' → root.Reordered "feature" root' →
        ∃ r', Registry.read d document' = .ok r' ∧ r.AnswersLike r' := by
  obtain ⟨root, hroot, hread⟩ := read_eq_ok_iff.1 h
  obtain ⟨features, hfrom⟩ := Registry.ofElement_eq_ok_iff.1 hread
  have hdialect : r.dialect = d := congrArg Registry.dialect hfrom.assembled
  refine ⟨root, features, hroot, hfrom, hdialect, hfrom.decidedBy, fun document' root' hroot' hreordered => ?_⟩
  obtain ⟨r', features', hfrom', hperm, hstructs, hcommands, hextensions⟩ :=
    hfrom.exists_reordered hreordered
  have hdialect' : r'.dialect = r.dialect := by
    rw [hdialect]
    exact congrArg Registry.dialect hfrom'.assembled
  refine ⟨r', read_eq_ok_iff.2 ⟨root', hroot', Registry.ofElement_eq_ok_iff.2 ⟨features', hfrom'⟩⟩, ?_⟩
  exact hfrom.decidedBy.answersLike_of_perm hfrom'.decidedBy hperm hdialect' hstructs hcommands
    hextensions

/-! ## Two documents -/

namespace Ownership

open Xml (Node)

/-- A document with two features before its sections. One is safety-critical and requires a type. The
other is not, and requires a command that an extension requires as well. -/
def document : String := "<registry
><feature name=\"B\" api=\"vulkansc\"><require><type name=\"T\"/></require></feature
><feature name=\"A\" api=\"vulkan,vulkansc\"><require><command name=\"f\"/></require></feature
><types/><commands/><extensions><extension name=\"E\"><require api=\"vulkansc\"
><command name=\"f\"/><command name=\"g\"/><type name=\"U\"/></require></extension></extensions
></registry>"

/-- The same features in another order, the one before the sections and the other after them. -/
def reordered : String := "<registry
><feature name=\"A\" api=\"vulkan,vulkansc\"><require><command name=\"f\"/></require></feature
><types/><commands/><extensions><extension name=\"E\"><require api=\"vulkansc\"
><command name=\"f\"/><command name=\"g\"/><type name=\"U\"/></require></extension></extensions
><feature name=\"B\" api=\"vulkansc\"><require><type name=\"T\"/></require></feature
></registry>"

/-- The feature that is not safety-critical. -/
def base : Node :=
  .element ⟨"feature", [("name", "A"), ("api", "vulkan,vulkansc")]⟩
    [.element ⟨"require", []⟩ [.element ⟨"command", [("name", "f")]⟩ []]]

/-- The safety-critical feature. -/
def reserved : Node :=
  .element ⟨"feature", [("name", "B"), ("api", "vulkansc")]⟩
    [.element ⟨"require", []⟩ [.element ⟨"type", [("name", "T")]⟩ []]]

/-- The sections. -/
def sections : List Node :=
  [.element ⟨"types", []⟩ [], .element ⟨"commands", []⟩ [],
    .element ⟨"extensions", []⟩ [.element ⟨"extension", [("name", "E")]⟩
      [.element ⟨"require", [("api", "vulkansc")]⟩ [.element ⟨"command", [("name", "f")]⟩ [],
        .element ⟨"command", [("name", "g")]⟩ [], .element ⟨"type", [("name", "U")]⟩ []]]]]

/-- The registry in the document: the extension owns one of its two commands. -/
def registry : Registry :=
  let owner : Extension := ⟨"E", [], [⟨some "vulkansc", ["f", "g"], ["U"]⟩], false⟩
  { dialect := {}
    handles := []
    structs := []
    commands := []
    index := []
    extensions := [owner]
    commandOwners := [("g", owner)]
    typeOwners := [("U", owner)]
    restrictedCommands := []
    restrictedTypes := ["T", "U"] }

set_option maxRecDepth 10000 in
/-- Reading the document gives its registry. -/
theorem read_document : Registry.read {} document = .ok registry := by
  rw [Registry.read, Xml.parse, wellNested_of_eq_ofList (s := document) rfl]
  decide +kernel

set_option maxRecDepth 10000 in
/-- The root element of the document. -/
theorem parse_document :
    Xml.parse document = .ok ⟨⟨"registry", []⟩, reserved :: base :: sections⟩ := by
  rw [Xml.parse, wellNested_of_eq_ofList (s := document) rfl]
  with_unfolding_all rfl

set_option maxRecDepth 10000 in
/-- The root element when the features are reordered. -/
theorem parse_reordered :
    Xml.parse reordered = .ok ⟨⟨"registry", []⟩, base :: sections ++ [reserved]⟩ := by
  rw [Xml.parse, wellNested_of_eq_ofList (s := reordered) rfl]
  with_unfolding_all rfl

end Ownership

/-- Two features change places with each other and with the sections. -/
theorem ownership_decided_reordered :
    Registry.read {} Ownership.document = .ok Ownership.registry ∧
      ∃ r', Registry.read {} Ownership.reordered = .ok r' ∧ Ownership.registry.AnswersLike r' := by
  refine ⟨Ownership.read_document, ?_⟩
  obtain ⟨root, features, hroot, -, -, -, hanswers⟩ := ownership_decided Ownership.read_document
  cases hroot.symm.trans Ownership.parse_document
  refine hanswers Ownership.reordered _ Ownership.parse_reordered ⟨fun other hother => ?_, ?_⟩
  · simp [Xml.Element.childrenNamed, Xml.Element.elements, Xml.Element.name, Ownership.base,
      Ownership.reserved, Ownership.sections, List.filter_cons, hother.symm]
  · exact List.Perm.swap _ _ _

end LayerHeaders
