import LayerHeaders.Proofs.Header.Alike
import LayerHeaders.Proofs.Registry.Section

/-!
# Parameters of the safety-critical profile

A parameter of the safety-critical profile may be put anywhere into a definition, and the document can
still be read. The headers leave the parameter out, but what the command is dispatched on is the type of
the first parameter of any profile. So the headers stay the same after another parameter, or before one of
the same type, and otherwise the command moves to where the new type belongs.

* `exists_indexCommands_of_forall₂`: declarations with the same names can be indexed in the same way.
* `Registry.keeps_exchange`: a declaration that is alike keeps the others of a registry.
* `header_of_param_added`: when no header changes, and what decides the dispatch otherwise.
* `param_before_receiver`: a header that changes.
-/

namespace LayerHeaders

variable {d : Dialect}

/-! ## Declarations that are exchanged -/

section forall₂

variable {R : Command → Command → Prop} {commands commands' index index' : List Command} {c c' : Command}

/-- **The step of the index for related declarations**, if they have the same names and `api`
attributes. -/
theorem addToIndex_of_forall₂ (hname : ∀ a b, R a b → b.name = a.name)
    (hapi : ∀ a b, R a b → b.api? = a.api?) (hindex : List.Forall₂ R index index') (hc : R c c')
    {next : List Command} (h : addToIndex d index c = .ok next) :
    ∃ next', addToIndex d index' c' = .ok next' ∧ List.Forall₂ R next next' := by
  have hfound : Option.Rel R (index.find? (·.name = c.name)) (index'.find? (·.name = c'.name)) := by
    refine find?_forall₂ (fun a b hab => ?_) hindex
    rw [hname a b hab, hname c c' hc]
  unfold addToIndex at h ⊢
  generalize index.find? (·.name = c.name) = earlier? at h hfound
  generalize index'.find? (·.name = c'.name) = earlier'? at hfound ⊢
  cases hfound with
  | none =>
      cases h
      exact ⟨_, rfl, .cons hc hindex⟩
  | @some a b hab =>
      dsimp only at h ⊢
      rw [hapi a b hab, hapi c c' hc]
      generalize d.isSafetyCritical a.api? = earlier at h ⊢
      generalize d.isSafetyCritical c.api? = later at h ⊢
      rcases earlier with _ | _ <;> rcases later with _ | _
      · cases h
      · cases h
        exact ⟨_, rfl, hindex⟩
      · cases h
        exact ⟨_, rfl, .cons hc hindex⟩
      · cases h

/-- **Related declarations can be indexed in the same way**, if they have the same names and `api`
attributes. -/
theorem exists_indexCommands_of_forall₂ (hname : ∀ a b, R a b → b.name = a.name)
    (hapi : ∀ a b, R a b → b.api? = a.api?) (hcommands : List.Forall₂ R commands commands')
    (h : indexCommands d commands = .ok index) :
    ∃ index', indexCommands d commands' = .ok index' ∧ List.Forall₂ R index index' := by
  refine exists_foldlM_eq_ok_of_forall₂ (S := List.Forall₂ R) ?_ hcommands .nil h
  intro c c' seen seen' next hc hseen hnext
  exact addToIndex_of_forall₂ hname hapi hseen hc hnext

end forall₂

section exchange

variable {l₁ l₂ index' : List Command} {c c' : Command}

/-- **A declaration that is alike keeps the others of a registry.** -/
theorem Registry.keeps_exchange {r : Registry} (hcommands : r.commands = l₁ ++ c :: l₂)
    (halike : c.Alike c') (hindex : indexCommands r.dialect (l₁ ++ c :: l₂) = .ok r.index)
    (hindex' : indexCommands r.dialect (l₁ ++ c' :: l₂) = .ok index') :
    r.Keeps (l₁ ++ c' :: l₂) index' where
  standard := by
    rw [hcommands]
    refine filter_forall₂ (fun a b hab => ?_) (forall₂_exchange Command.Alike.refl halike l₁ l₂)
    rw [isRestricted_redeclare hab]
  found := by
    obtain ⟨index'', hindex'', hrelated⟩ := exists_indexCommands_of_forall₂ (fun a b hab => hab.name)
      (fun a b hab => hab.api?) (forall₂_exchange Command.Alike.refl halike l₁ l₂) hindex
    rw [hindex'] at hindex''
    cases hindex''
    intro name a ha
    have hfound : Option.Rel Command.Alike (r.index.find? (·.name = name))
        (index'.find? (·.name = name)) :=
      find?_forall₂ (fun a b hab => by rw [hab.name]) hrelated
    unfold Registry.command? at ha ⊢
    rw [ha] at hfound
    generalize hfound' : index'.find? (·.name = name) = found at hfound
    cases hfound with
    | @some _ b hab => exact ⟨b, hfound', hab⟩

end exchange

/-! ## One more parameter in a document -/

open Xml (Element OpenElement)

/-- A signature with one more parameter of the safety-critical profile is alike, if the first type stays
the same. -/
theorem Signature.alike_insert {result : String} {ps qs : List Param} {p : Param}
    (hsafety : p.safetyCritical = true) (hfirst : ps ≠ [] ∨ qs.head?.map (·.type) = some p.type) :
    Signature.Alike ⟨result, ps ++ qs⟩ ⟨result, ps ++ p :: qs⟩ where
  result := rfl
  receiver? := by
    unfold Signature.receiver?
    rcases ps with _ | ⟨p₀, ps⟩
    · rw [List.nil_append, List.nil_append, hfirst.resolve_left (not_not.2 rfl)]
      rfl
    · rfl
  params := by
    rw [List.filter_append, List.filter_append, List.filter_cons_of_neg (by simp [hsafety])]

/-- A definition resolves to its own signature. -/
theorem Registry.resolve_of_definition {r : Registry} {c : Command} {s : Signature}
    (hbody : c.body = .definition s) :
    r.resolve c = .ok ⟨c, s, s.receiver?.bind r.handle?, r.commandOwner? c.name, r.isRestricted c⟩ := by
  have hs : r.signature c = .ok s := by
    rw [Registry.signature_eq_endResult, Registry.aliasChain, Registry.aliasChainFrom_of_definition hbody]
    rfl
  exact bind_eq_ok_iff.2 ⟨s, hs, rfl⟩

/-- **When a safety-critical parameter changes no header.** A parameter for the safety-critical API alone,
put anywhere into a definition of a document that can be read, gives a document that can be read, in
which the definition has the parameter between the others. Every header that could be made stays the
same if another parameter comes before it, or if the next one has its type. At the front it decides what
the command is dispatched on, though no header shows it. -/
theorem header_of_param_added {before parameter after : String}
    {definition commands root : OpenElement} {e : Element} {owner : String} {p : Param} {r : Registry}
    (hr : Registry.read d (before ++ after) = .ok r)
    (hbefore : BreaksOffInCommands before [definition] commands root)
    (hdefinition : definition.tag.name = "command")
    (halias : definition.soFar.attribute? "alias" = none)
    (hparameter : Xml.IsMarkup parameter [.element e.tag e.children]) (he : e.name = "param")
    (hp : Param.read d owner e = .ok p) (hsafety : p.safetyCritical = true) :
    ∃ r' c result ps qs, Registry.read d (before ++ parameter ++ after) = .ok r' ∧
      c.body = .definition ⟨result, ps ++ qs⟩ ∧
      (definition.soFar.childrenNamed "param").mapM (Param.read d c.name) = .ok ps ∧
      (∃ l₁ l₂, r.commands = l₁ ++ c :: l₂ ∧
        r'.commands = l₁ ++ { c with body := .definition ⟨result, ps ++ p :: qs⟩ } :: l₂) ∧
      (ps ≠ [] ∨ qs.head?.map (·.type) = some p.type →
        ∀ (kind : HeaderKind) (h : Header), kind.header r = .ok h → kind.header r' = .ok h) ∧
      (ps = [] → ∃ x, r'.resolve { c with body := .definition ⟨result, p :: qs⟩ } = .ok x ∧
        x.handle? = r.handle? p.type ∧ x.params = qs.filter (!·.safetyCritical)) := by
  obtain ⟨tree, htree, hread⟩ := bind_eq_ok_iff.1 hr
  obtain ⟨rest, children, surroundings, houter, hmeet, rfl, hparse⟩ :=
    Xml.parse_insert hbefore.breaksOff hparameter (mapError_eq_ok_iff.1 htree)
  obtain ⟨listed, s, rfl, rfl, rfl⟩ : ∃ listed s : Xml.Surrounding,
      surroundings = [listed, s] ∧ listed.opened = commands ∧ s.opened = root := by
    simpa [List.map_eq_cons_iff] using houter
  obtain ⟨hlisted, hindex, rfl, hagain⟩ :=
    Registry.ofElement_around hread hbefore.name hbefore.first
  obtain ⟨l₁, c, l₂, hcommands, hc, hexchange⟩ :=
    readCommands_around (e := ⟨definition.tag, children⟩) hlisted hdefinition
  obtain ⟨result, ps, qs, hbody, hps, hc'⟩ := Command.read_insert hmeet hc halias he hp
  have hlisted' := hexchange ⟨definition.tag, _⟩ _ hdefinition hc'
  rw [hcommands] at hindex
  -- the names and the `api` attributes are the same, so the declarations can be indexed
  obtain ⟨index', hindex', -⟩ := exists_indexCommands_of_forall₂
    (R := fun a b => b.name = a.name ∧ b.api? = a.api?) (fun _ _ hab => hab.1) (fun _ _ hab => hab.2)
    (forall₂_exchange (fun _ => ⟨rfl, rfl⟩)
      (b := { c with body := .definition ⟨result, ps ++ p :: qs⟩ }) ⟨rfl, rfl⟩ l₁ l₂) hindex
  refine ⟨_, c, result, ps, qs, bind_eq_ok_iff.2 ⟨_, mapError_eq_ok_iff.2 hparse,
    hagain _ _ _ hbefore.name hlisted' hindex'⟩, hbody, hps, ⟨l₁, l₂, hcommands, rfl⟩, ?_, ?_⟩
  · intro hfirst kind h hh
    have hbodies : c.body.Alike (.definition ⟨result, ps ++ p :: qs⟩) := by
      rw [hbody]
      exact .definition (Signature.alike_insert hsafety hfirst)
    have halike : c.Alike { c with body := .definition ⟨result, ps ++ p :: qs⟩ } :=
      ⟨rfl, rfl, hbodies⟩
    exact (Registry.keeps_exchange hcommands halike hindex hindex').header kind hh
  · intro hnone
    refine ⟨_, Registry.resolve_of_definition rfl, rfl, ?_⟩
    simp [Resolved.params, hsafety]

namespace Parted

/-- A parameter of the safety-critical profile. -/
def reserved : Param :=
  ⟨"uint32_t reserved", "reserved", "uint32_t", true⟩

/-- The element of the parameter. -/
def reservedElement : Element :=
  ⟨⟨"param", [("api", "vulkansc")]⟩,
    [.element ⟨"type", []⟩ [.text "uint32_t"], .text " ", .element ⟨"name", []⟩ [.text "reserved"]]⟩

/-- The parameter as it is written. -/
def reservedText : String :=
  "<param api=\"vulkansc\"><type>uint32_t</type> <name>reserved</name></param>"

/-- The text of the parameter is markup for its element. -/
theorem isMarkup_reserved :
    Xml.IsMarkup reservedText [.element reservedElement.tag reservedElement.children] :=
  ⟨[.start "param api=\"vulkansc\"".toList, .start "type".toList, .text "uint32_t".toList,
    .stop "type".toList, .text " ".toList, .start "name".toList, .text "reserved".toList,
    .stop "name".toList, .stop "param".toList], by decide +kernel, ⟨_, rfl, rfl⟩, ⟨_, rfl, rfl⟩,
    fun _ _ _ => rfl⟩

/-- Reading the element gives the parameter. -/
theorem read_reserved : Param.read {} "vkTrim" reservedElement = .ok reserved := by
  decide +kernel

/-- The definition after its parameter. -/
def openDefinition : OpenElement :=
  ⟨⟨"command", []⟩, [
    .element ⟨"param", []⟩ [.element ⟨"type", []⟩ [.text "VkDevice"], .text " ",
      .element ⟨"name", []⟩ [.text "device"]],
    .text "\n",
    .element ⟨"proto", []⟩ [.element ⟨"type", []⟩ [.text "void"], .text " ",
      .element ⟨"name", []⟩ [.text "vkTrim"]]]⟩

/-- The document up to the end of the parameter breaks off in its definition. -/
theorem breaksOff_definition :
    BreaksOffInCommands (opening ++ (definition ++ parameter)) [openDefinition] commands root where
  breaksOff := ⟨[.start "registry".toList, .text "\n".toList, .start "commands".toList,
    .text "\n".toList, .start "command".toList, .start "proto".toList, .start "type".toList,
    .text "void".toList, .stop "type".toList, .text " ".toList, .start "name".toList,
    .text "vkTrim".toList, .stop "name".toList, .stop "proto".toList, .text "\n".toList,
    .start "param".toList, .start "type".toList, .text "VkDevice".toList, .stop "type".toList,
    .text " ".toList, .start "name".toList, .text "device".toList, .stop "name".toList,
    .stop "param".toList], by
      rw [Xml.Token.scan, append_eq_ofList (s := opening) rfl
        (append_eq_ofList (s := definition) (t := parameter) rfl rfl), String.toList_ofList]
      decide +kernel, rfl⟩
  name := rfl
  first := rfl

end Parted

/-- After the handle that a command is dispatched on, a safety-critical parameter changes no header. -/
theorem header_of_param_added_sample :
    (∀ kind : HeaderKind, ∃ h, kind.header (Parted.registry [Parted.device]) = .ok h) ∧
      ∃ r', Registry.read {} (Parted.opening ++ (Parted.definition ++ Parted.parameter) ++
          Parted.reservedText ++ Parted.closing) = .ok r' ∧
        ∀ (kind : HeaderKind) (h : Header), kind.header (Parted.registry [Parted.device]) = .ok h →
          kind.header r' = .ok h := by
  have hr : Registry.read {} (Parted.opening ++ (Parted.definition ++ Parted.parameter) ++
      Parted.closing) = .ok (Parted.registry [Parted.device]) := by
    rw [String.append_assoc, String.append_assoc]
    exact Parted.read_document
  refine ⟨fun kind => exists_eq_ok_of_isOk ?_, ?_⟩
  · cases kind <;> decide +kernel
  · obtain ⟨r', c, result, ps, qs, hread, -, hps, -, hsame, -⟩ :=
      header_of_param_added hr Parted.breaksOff_definition rfl rfl Parted.isMarkup_reserved rfl
        Parted.read_reserved rfl
    refine ⟨r', hread, hsame (Or.inl ?_)⟩
    -- the handle is a parameter before it
    rintro rfl
    exact absurd (mapM_eq_ok_iff.1 hps).length_eq (by decide +kernel)

set_option maxRecDepth 10000 in
/-- **Before the handle that a command is dispatched on, a safety-critical parameter changes the
headers**: the command moves to the table of the top level and gets a prototype instead of a method. -/
theorem param_before_receiver :
    Xml.IsMarkup Parted.reservedText
        [.element Parted.reservedElement.tag Parted.reservedElement.children] ∧
      Param.read {} "vkTrim" Parted.reservedElement = .ok Parted.reserved ∧
      Parted.reserved.safetyCritical = true ∧
      Registry.read {} (Parted.opening ++ (Parted.definition ++ (Parted.parameter ++ Parted.closing))) =
        .ok (Parted.registry [Parted.device]) ∧
      Registry.read {} (Parted.opening ++ (Parted.definition ++
          (Parted.reservedText ++ (Parted.parameter ++ Parted.closing)))) =
        .ok (Parted.registry [Parted.reserved, Parted.device]) ∧
      ∀ kind ∈ [HeaderKind.dispatchTables, HeaderKind.driverInterface], ∃ h h',
        kind.header (Parted.registry [Parted.device]) = .ok h ∧
          kind.header (Parted.registry [Parted.reserved, Parted.device]) = .ok h' ∧ h ≠ h' := by
  have hcharacters := append_eq_ofList (s := Parted.opening) rfl
    (append_eq_ofList (s := Parted.definition) rfl (append_eq_ofList (s := Parted.reservedText) rfl
      (append_eq_ofList (s := Parted.parameter) (t := Parted.closing) rfl rfl)))
  refine ⟨Parted.isMarkup_reserved, Parted.read_reserved, rfl, Parted.read_document, ?_,
    fun kind hkind => ?_⟩
  · rw [Registry.read, Xml.parse, wellNested_of_eq_ofList hcharacters]
    decide +kernel
  · obtain ⟨h, hh⟩ : ∃ h, kind.header (Parted.registry [Parted.device]) = .ok h :=
      exists_eq_ok_of_isOk (by cases kind <;> decide +kernel)
    obtain ⟨h', hh'⟩ : ∃ h, kind.header (Parted.registry [Parted.reserved, Parted.device]) = .ok h :=
      exists_eq_ok_of_isOk (by cases kind <;> decide +kernel)
    have hdiffer : kind.header (Parted.registry [Parted.device]) ≠
        kind.header (Parted.registry [Parted.reserved, Parted.device]) := by
      rcases List.mem_pair.1 hkind with rfl | rfl <;> decide +kernel
    refine ⟨h, h', hh, hh', ?_⟩
    rintro rfl
    exact hdiffer (hh.trans hh'.symm)

end LayerHeaders
