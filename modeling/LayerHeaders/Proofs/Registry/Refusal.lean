import LayerHeaders.Proofs.Registry.Redeclaration

/-!
# Documents that are refused for a duplicate

Reading a document can fail in many places. Only the index of commands fails for a name that is declared
again, and whatever comes before it has then succeeded.

* `NoDuplicate`: what fails for other reasons, if it fails.
* `read_eq_duplicate_iff`: a document is refused for a duplicate if its commands are.
* `duplicates_refused`: which commands those are.
-/

namespace LayerHeaders

variable {d : Dialect}

/-- The declarations of commands of a document, read as far as they can be indexed. -/
def Registry.declarations (d : Dialect) (document : String) : Except RegistryError (List Command) := do
  let root ← (Xml.parse document).mapError RegistryError.ofDocument
  let typesSection ← requiredSection root "types"
  let commandsSection ← requiredSection root "commands"
  let _ ← requiredSection root "extensions"
  let _ ← readHandles d typesSection
  let _ ← readStructs d typesSection
  readCommands d commandsSection

/-! ## Failures of other kinds -/

/-- Whether a result is anything but the failure of a name that is declared again. -/
def NoDuplicate {α : Type} (x : Except RegistryError α) : Prop :=
  ∀ n, x ≠ .error (.duplicateCommand n)

section noDuplicate

variable {α β : Type} {x : Except RegistryError α} {f : α → Except RegistryError β}

theorem noDuplicate_ok (a : α) : NoDuplicate (.ok a) :=
  fun _ h => by cases h

/-- Two steps that fail otherwise, one after the other. -/
theorem NoDuplicate.bind (hx : NoDuplicate x) (hf : ∀ a, NoDuplicate (f a)) :
    NoDuplicate (x >>= f) := by
  intro n h
  rcases bind_eq_error_iff.1 h with h | ⟨a, -, h⟩
  · exact hx n h
  · exact hf a n h

/-- A duplicate after a step that fails otherwise. -/
theorem NoDuplicate.bind_eq_duplicate_iff (hx : NoDuplicate x) {n : String} :
    x >>= f = .error (.duplicateCommand n) ↔
      ∃ a, x = .ok a ∧ f a = .error (.duplicateCommand n) := by
  rw [bind_eq_error_iff, or_iff_right (hx n)]

/-- A duplicate before steps that fail otherwise. -/
theorem bind_eq_duplicate_iff_left (hf : ∀ a, NoDuplicate (f a)) {n : String} :
    x >>= f = .error (.duplicateCommand n) ↔ x = .error (.duplicateCommand n) := by
  rw [bind_eq_error_iff, or_iff_left]
  rintro ⟨a, -, h⟩
  exact hf a n h

/-- A traversal whose steps fail otherwise. -/
theorem noDuplicate_mapM (hf : ∀ a, NoDuplicate (f a)) (as : List α) : NoDuplicate (as.mapM f) := by
  induction as with
  | nil => exact noDuplicate_ok []
  | cons a as ih =>
      rw [List.mapM_cons]
      exact (hf a).bind fun b => ih.bind fun bs => noDuplicate_ok (b :: bs)

theorem noDuplicate_requiredAttribute (e : Xml.Element) (key : String) :
    NoDuplicate (requiredAttribute e key) := by
  intro n h
  unfold requiredAttribute at h
  split at h <;> cases h

theorem noDuplicate_requiredChildText (e : Xml.Element) (child owner : String) :
    NoDuplicate (requiredChildText e child owner) := by
  intro n h
  unfold requiredChildText at h
  split at h <;> cases h

theorem noDuplicate_requiredSection (root : Xml.Element) (name : String) :
    NoDuplicate (requiredSection root name) := by
  intro n h
  unfold requiredSection at h
  split at h <;> cases h

theorem noDuplicate_parse (document : String) :
    NoDuplicate ((Xml.parse document).mapError RegistryError.ofDocument) := by
  intro n h
  obtain ⟨e, -, he⟩ := mapError_eq_error_iff.1 h
  cases e <;> cases he

theorem noDuplicate_readHandles (d : Dialect) (types : Xml.Element) :
    NoDuplicate (readHandles d types) :=
  noDuplicate_mapM (fun e => noDuplicate_requiredChildText e _ _) _

theorem noDuplicate_readStructs (d : Dialect) (types : Xml.Element) :
    NoDuplicate (readStructs d types) := by
  refine noDuplicate_mapM (fun e => ?_) _
  refine (noDuplicate_requiredAttribute e _).bind fun name => ?_
  refine (noDuplicate_mapM (fun m => ?_) _).bind fun members => noDuplicate_ok _
  exact (noDuplicate_requiredChildText m _ _).bind fun _ =>
    (noDuplicate_requiredChildText m _ _).bind fun _ => noDuplicate_ok _

theorem noDuplicate_readParam (d : Dialect) (owner : String) (e : Xml.Element) :
    NoDuplicate (Param.read d owner e) :=
  (noDuplicate_requiredChildText e _ _).bind fun _ =>
    (noDuplicate_requiredChildText e _ _).bind fun _ => noDuplicate_ok _

theorem noDuplicate_readCommand (d : Dialect) (e : Xml.Element) : NoDuplicate (Command.read d e) := by
  unfold Command.read
  split
  · exact (noDuplicate_requiredAttribute e _).bind fun _ => noDuplicate_ok _
  · split
    · exact (noDuplicate_requiredChildText _ _ _).bind fun name =>
        (noDuplicate_requiredChildText _ _ _).bind fun _ =>
          (noDuplicate_mapM (noDuplicate_readParam d name) _).bind fun _ => noDuplicate_ok _
    · intro n h
      cases h

theorem noDuplicate_readBlocks (e : Xml.Element) :
    NoDuplicate ((e.childrenNamed "require").mapM RequireBlock.read) := by
  refine noDuplicate_mapM (fun block => ?_) _
  refine (noDuplicate_mapM (fun c => noDuplicate_requiredAttribute c _) _).bind fun _ => ?_
  exact (noDuplicate_mapM (fun t => noDuplicate_requiredAttribute t _) _).bind fun _ =>
    noDuplicate_ok _

theorem noDuplicate_readExtension (d : Dialect) (e : Xml.Element) :
    NoDuplicate (Extension.read d e) :=
  (noDuplicate_requiredAttribute e _).bind fun _ =>
    (noDuplicate_readBlocks e).bind fun _ => noDuplicate_ok _

theorem noDuplicate_readFeature (e : Xml.Element) : NoDuplicate (Feature.read e) :=
  (noDuplicate_requiredAttribute e _).bind fun _ =>
    (noDuplicate_readBlocks e).bind fun _ => noDuplicate_ok _

end noDuplicate

/-! ## Documents -/

/-- **A document is refused for a duplicate exactly if its commands are.** Every other part of it is
refused for other reasons. -/
theorem read_eq_duplicate_iff {document n : String} :
    Registry.read d document = .error (.duplicateCommand n) ↔
      ∃ commands, Registry.declarations d document = .ok commands ∧
        indexCommands d commands = .error (.duplicateCommand n) := by
  have hcommands := fun e =>
    noDuplicate_mapM (noDuplicate_readCommand d) (Xml.Element.childrenNamed e "command")
  have hafter : ∀ handles structs commands index extensions root,
      NoDuplicate (do
        let extensions ← (Xml.Element.childrenNamed extensions "extension").mapM (Extension.read d)
        let features ← (Xml.Element.childrenNamed root "feature").mapM Feature.read
        return Registry.ofDeclarations d handles structs commands index extensions features) :=
    fun handles structs commands index extensions root =>
      (noDuplicate_mapM (noDuplicate_readExtension d) _).bind fun _ =>
        (noDuplicate_mapM noDuplicate_readFeature _).bind fun _ => noDuplicate_ok _
  simp only [Registry.read, Registry.ofElement, Registry.declarations, readCommands,
    (noDuplicate_parse document).bind_eq_duplicate_iff,
    (noDuplicate_requiredSection _ _).bind_eq_duplicate_iff,
    (noDuplicate_readHandles d _).bind_eq_duplicate_iff,
    (noDuplicate_readStructs d _).bind_eq_duplicate_iff, (hcommands _).bind_eq_duplicate_iff,
    bind_eq_duplicate_iff_left (hafter _ _ _ · _ _), bind_eq_ok_iff]
  constructor
  · rintro ⟨root, hroot, types, htypes, listed, hlisted, extensions, hextensions, handles, hhandles,
      structs, hstructs, commands, hread, hindex⟩
    exact ⟨commands, ⟨root, hroot, types, htypes, listed, hlisted, extensions, hextensions, handles,
      hhandles, structs, hstructs, hread⟩, hindex⟩
  · rintro ⟨commands, ⟨root, hroot, types, htypes, listed, hlisted, extensions, hextensions, handles,
      hhandles, structs, hstructs, hread⟩, hindex⟩
    exact ⟨root, hroot, types, htypes, listed, hlisted, extensions, hextensions, handles, hhandles,
      structs, hstructs, commands, hread, hindex⟩

/-! ## When a duplicate is refused -/

/-- **Which duplicates are refused.** Indexing fails for a duplicate exactly if some name has two standard
declarations, or two safety-critical ones before any standard one, and a document is refused for a
duplicate exactly if indexing its commands is. As long as no name with a standard declaration has two
safety-critical ones, that is whenever some name has two declarations of one kind, in any order. -/
theorem duplicates_refused (d : Dialect) :
    (∀ commands, (∃ n, indexCommands d commands = .error (.duplicateCommand n)) ↔
        ∃ name, 2 ≤ commands.countP (·.declares d name true) ∨
          2 ≤ (commands.takeWhile (!·.declares d name true)).countP (·.declares d name false)) ∧
      (∀ document n, Registry.read d document = .error (.duplicateCommand n) ↔
        ∃ commands, Registry.declarations d document = .ok commands ∧
          indexCommands d commands = .error (.duplicateCommand n)) ∧
      ∀ commands, (∀ c ∈ commands, c.isStandard d = true →
          commands.countP (·.declares d c.name false) ≤ 1) →
        ((∃ n, indexCommands d commands = .error (.duplicateCommand n)) ↔
          ∃ name standard, 2 ≤ commands.countP (·.declares d name standard)) := by
  have hindex : ∀ commands, (∃ n, indexCommands d commands = .error (.duplicateCommand n)) ↔
      ∃ name, d.Redeclares commands name := fun commands =>
    exists_indexCommands_eq_error_iff.trans exists_repeats_iff
  refine ⟨hindex, fun document n => read_eq_duplicate_iff, fun commands hone => ?_⟩
  exact (hindex commands).trans (exists_redeclares_iff_of_le_one hone)

/-- A declaration of `vkA` for an API. -/
def declarationOfA (api? : Option String) : Command :=
  ⟨"vkA", api?, .sameAs "vkB"⟩

/-- A second standard declaration is refused after a safety-critical one. -/
theorem duplicates_refused_standard :
    (∀ c ∈ [declarationOfA none, declarationOfA "vulkansc", declarationOfA none],
        c.isStandard {} = true →
          [declarationOfA none, declarationOfA "vulkansc", declarationOfA none].countP
            (·.declares {} c.name false) ≤ 1) ∧
      ∃ n, indexCommands {} [declarationOfA none, declarationOfA "vulkansc", declarationOfA none] =
        .error (.duplicateCommand n) := by
  have hone : ∀ c ∈ [declarationOfA none, declarationOfA "vulkansc", declarationOfA none],
      c.isStandard {} = true →
        [declarationOfA none, declarationOfA "vulkansc", declarationOfA none].countP
          (·.declares {} c.name false) ≤ 1 := by
    decide +kernel
  exact ⟨hone, ((duplicates_refused {}).2.2 _ hone).2 ⟨"vkA", true, by decide +kernel⟩⟩

/-- Two safety-critical declarations of a name are accepted after a standard one, and refused before
it. -/
theorem accepted_after_standard :
    (∃ index, indexCommands {}
        [declarationOfA none, declarationOfA "vulkansc", declarationOfA "vulkansc"] = .ok index) ∧
      2 ≤ [declarationOfA none, declarationOfA "vulkansc", declarationOfA "vulkansc"].countP
        (·.declares {} "vkA" false) ∧
      [declarationOfA none, declarationOfA "vulkansc", declarationOfA "vulkansc"].Perm
        [declarationOfA "vulkansc", declarationOfA "vulkansc", declarationOfA none] ∧
      indexCommands {} [declarationOfA "vulkansc", declarationOfA "vulkansc", declarationOfA none] =
        .error (.duplicateCommand "vkA") := by
  refine ⟨exists_eq_ok_of_isOk (by decide +kernel), by decide +kernel, ?_, by decide +kernel⟩
  decide +kernel

end LayerHeaders
