import LayerHeaders.Proofs.Registry.Alike
import LayerHeaders.Proofs.Registry.Reading
import LayerHeaders.Proofs.Xml.Insertion

/-!
# Reading around a place in the commands

A registry is read from the first section of each kind, and a section child by child. So what stands at a
place in the section of commands decides the declarations there and nothing else.

* `Registry.ofElement_around`: a registry is read around its section of commands.
* `readCommands_insert`: a declaration that is put into the section comes between the others.
* `readCommands_around`: a declaration of the section can be exchanged.
* `Command.read_insert`: a parameter that is put into a definition comes between the others.
-/

namespace LayerHeaders

/-! ## Elements among the children -/

namespace Xml

/-- An open element with the children that it has so far. -/
def OpenElement.soFar (e : OpenElement) : Element :=
  ⟨e.tag, e.children.reverse⟩

namespace Element

theorem elements_append (tag : Tag) (ms ns : List Node) :
    (⟨tag, ms ++ ns⟩ : Element).elements =
      (⟨tag, ms⟩ : Element).elements ++ (⟨tag, ns⟩ : Element).elements :=
  List.filterMap_append

/-- Runs of children that meet hold the elements of the one and then those of the other. -/
theorem elements_meet {before after children : List Node} (h : Node.Meet before after children)
    (tag : Tag) :
    (⟨tag, children⟩ : Element).elements =
      (⟨tag, before⟩ : Element).elements ++ (⟨tag, after⟩ : Element).elements := by
  cases h with
  | apart => exact elements_append tag before after
  | run before after s t =>
      rw [elements_append, elements_append, List.append_assoc]
      rfl

/-- An element that is put between two runs of children. -/
theorem elements_insert (tag : Tag) (before after : List Node) (e : Element) :
    (⟨tag, before ++ [.element e.tag e.children] ++ after⟩ : Element).elements =
      (⟨tag, before⟩ : Element).elements ++ e :: (⟨tag, after⟩ : Element).elements := by
  rw [elements_append, elements_append, List.append_assoc]
  rfl

/-- An element stands among the elements of what is around it. -/
theorem elements_around (e : Element) (s : Surrounding) :
    (s.around e).elements =
      (⟨s.tag, s.before⟩ : Element).elements ++ e :: (⟨s.tag, s.after⟩ : Element).elements :=
  elements_append s.tag s.before (.element e.tag e.children :: s.after)

/-- An element of another name is not looked at. -/
theorem child?_around_of_ne {e : Element} {name : String} (h : e.name ≠ name) (s : Surrounding) :
    (s.around e).child? name =
      ((⟨s.tag, s.before⟩ : Element).child? name).or ((⟨s.tag, s.after⟩ : Element).child? name) := by
  rw [child?, elements_around, List.find?_append, List.find?_cons_of_neg (by simpa using h)]
  rfl

/-- The first element of a name is found. -/
theorem child?_around {e : Element} {s : Surrounding}
    (h : (⟨s.tag, s.before⟩ : Element).child? e.name = none) : (s.around e).child? e.name = some e := by
  rw [child?, elements_around, List.find?_append, List.find?_cons_of_pos (by simp)]
  exact Option.or_eq_some_iff.2 (Or.inr ⟨h, rfl⟩)

/-- An element of another name is left out. -/
theorem childrenNamed_around_of_ne {e : Element} {name : String} (h : e.name ≠ name)
    (s : Surrounding) :
    (s.around e).childrenNamed name = (⟨s.tag, s.before⟩ : Element).childrenNamed name ++
      (⟨s.tag, s.after⟩ : Element).childrenNamed name := by
  rw [childrenNamed, elements_around, List.filter_append, List.filter_cons_of_neg (by simpa using h)]
  rfl

/-- An element of the name stands between the others. -/
theorem childrenNamed_around (e : Element) (s : Surrounding) :
    (s.around e).childrenNamed e.name = (⟨s.tag, s.before⟩ : Element).childrenNamed e.name ++
      e :: (⟨s.tag, s.after⟩ : Element).childrenNamed e.name := by
  rw [childrenNamed, elements_around, List.filter_append, List.filter_cons_of_pos (by simp)]
  rfl

end Element

end Xml

open Xml (Element Node Surrounding OpenElement)

variable {d : Dialect}

/-! ## The section of commands -/

/-- **Whether a start of a document breaks off in its section of commands**, inside the elements `inner`.
The section is the first of its name in the root element. -/
structure BreaksOffInCommands (before : String) (inner : List OpenElement)
    (commands root : OpenElement) : Prop where
  /-- The elements are open at its end. -/
  breaksOff : Xml.BreaksOff before (inner ++ [commands, root])
  /-- The section has the name of the section of commands. -/
  name : commands.tag.name = "commands"
  /-- There is none before it. -/
  first : root.soFar.child? "commands" = none

/-- **A registry is read around its section of commands.** With another section in its place it has the
declarations of that one, and is the same otherwise. -/
theorem Registry.ofElement_around {s : Surrounding} {e : Element} {r : Registry}
    (h : Registry.ofElement d (s.around e) = .ok r) (he : e.name = "commands")
    (hfirst : s.opened.soFar.child? "commands" = none) :
    readCommands d e = .ok r.commands ∧ indexCommands d r.commands = .ok r.index ∧ r.dialect = d ∧
      ∀ e' commands index, e'.name = "commands" → readCommands d e' = .ok commands →
        indexCommands d commands = .ok index →
        Registry.ofElement d (s.around e') = .ok (r.redeclare commands index) := by
  have hbefore : (⟨s.tag, s.before⟩ : Element).child? "commands" = none := by
    rwa [OpenElement.soFar, Surrounding.opened, List.reverse_reverse] at hfirst
  have hcommands : ∀ e' : Element, e'.name = "commands" →
      (s.around e').child? "commands" = some e' := by
    intro e' he'
    rw [← he'] at hbefore ⊢
    exact Element.child?_around hbefore
  have hchild : ∀ (e' : Element) (name : String), e'.name = "commands" → name ≠ "commands" →
      (s.around e').child? name = (s.around e).child? name := by
    intro e' name he' hname
    rw [Element.child?_around_of_ne (he' ▸ hname.symm), Element.child?_around_of_ne (he ▸ hname.symm)]
  have hfeatures : ∀ e' : Element, e'.name = "commands" →
      (s.around e').childrenNamed "feature" = (s.around e).childrenNamed "feature" := by
    intro e' he'
    rw [Element.childrenNamed_around_of_ne (he' ▸ by decide),
      Element.childrenNamed_around_of_ne (he ▸ by decide)]
  obtain ⟨features, hread⟩ := Registry.ofElement_eq_ok_iff.1 h
  obtain ⟨types, htypes, hdeclared⟩ := hread.types
  obtain ⟨listed, hlisted, hlist⟩ := hread.commands
  obtain ⟨extending, hextending, hextensions⟩ := hread.extensions
  rw [hcommands e he] at hlisted
  cases hlisted
  have hdialect : r.dialect = d := congrArg Registry.dialect hread.assembled
  refine ⟨hlist, hread.index, hdialect, fun e' commands index he' hlist' hindex' => ?_⟩
  refine Registry.ofElement_eq_ok_iff.2 ⟨features, {
    types := ⟨types, ?_, hdeclared⟩
    commands := ⟨e', hcommands e' he', hlist'⟩
    index := hindex'
    extensions := ⟨extending, ?_, hextensions⟩
    beside := ?_
    assembled := ?_ }⟩
  · rw [hchild e' _ he' (by decide), htypes]
  · rw [hchild e' _ he' (by decide), hextending]
  · rw [hfeatures e' he', hread.beside]
  · exact congrArg (Registry.redeclare · commands index) hread.assembled

/-- **A declaration that is put into the section** comes between the others. -/
theorem readCommands_insert {tag : Xml.Tag} {before after children : List Node} {e : Element}
    {commands : List Command} {c : Command} (hmeet : Node.Meet before after children)
    (h : readCommands d ⟨tag, children⟩ = .ok commands) (he : e.name = "command")
    (hc : Command.read d e = .ok c) :
    ∃ l₁ l₂, commands = l₁ ++ l₂ ∧
      readCommands d ⟨tag, before ++ [.element e.tag e.children] ++ after⟩ = .ok (l₁ ++ c :: l₂) := by
  unfold readCommands Element.childrenNamed at h ⊢
  rw [Element.elements_meet hmeet, List.filter_append, mapM_append_eq_ok_iff] at h
  obtain ⟨l₁, l₂, hl₁, hl₂, rfl⟩ := h
  refine ⟨l₁, l₂, rfl, ?_⟩
  rw [Element.elements_insert, List.filter_append, List.filter_cons_of_pos (by simpa using he),
    mapM_append_cons_eq_ok_iff]
  exact ⟨l₁, c, l₂, hl₁, hc, hl₂, rfl⟩

/-- **A declaration of the section can be exchanged**, without a change to the others. -/
theorem readCommands_around {s : Surrounding} {e : Element} {commands : List Command}
    (h : readCommands d (s.around e) = .ok commands) (he : e.name = "command") :
    ∃ l₁ c l₂, commands = l₁ ++ c :: l₂ ∧ Command.read d e = .ok c ∧
      ∀ e' c', e'.name = "command" → Command.read d e' = .ok c' →
        readCommands d (s.around e') = .ok (l₁ ++ c' :: l₂) := by
  have hnamed : ∀ e' : Element, e'.name = "command" → (s.around e').childrenNamed "command" =
      (⟨s.tag, s.before⟩ : Element).childrenNamed "command" ++
        e' :: (⟨s.tag, s.after⟩ : Element).childrenNamed "command" := by
    intro e' he'
    rw [← he']
    exact Element.childrenNamed_around e' s
  rw [readCommands, hnamed e he, mapM_append_cons_eq_ok_iff] at h
  obtain ⟨l₁, c, l₂, hl₁, hc, hl₂, rfl⟩ := h
  refine ⟨l₁, c, l₂, rfl, hc, fun e' c' he' hc' => ?_⟩
  rw [readCommands, hnamed e' he', mapM_append_cons_eq_ok_iff]
  exact ⟨l₁, c', l₂, hl₁, hc', hl₂, rfl⟩

/-! ## One definition -/

/-- The text of a child is the same whoever asks for it. -/
theorem requiredChildText_eq_ok_iff {e : Element} {child owner text : String} :
    requiredChildText e child owner = .ok text ↔ e.childText? child = some text := by
  unfold requiredChildText
  rcases e.childText? child with _ | text'
  · simp
  · simp

/-- A parameter is read in the same way whatever it is a parameter of. -/
theorem Param.read_eq_ok {owner : String} {e : Element} {p : Param} (h : Param.read d owner e = .ok p)
    (owner' : String) : Param.read d owner' e = .ok p := by
  obtain ⟨name, hname, h⟩ := bind_eq_ok_iff.1 h
  obtain ⟨type, htype, h⟩ := bind_eq_ok_iff.1 h
  rw [requiredChildText_eq_ok_iff] at hname htype
  refine bind_eq_ok_iff.2 ⟨name, requiredChildText_eq_ok_iff.2 hname, ?_⟩
  exact bind_eq_ok_iff.2 ⟨type, requiredChildText_eq_ok_iff.2 htype, h⟩

/-- What a definition is read from. -/
theorem Command.read_eq_ok_iff_of_definition {e : Element} (halias : e.attribute? "alias" = none)
    {c : Command} :
    Command.read d e = .ok c ↔
      ∃ proto name result params, e.child? "proto" = some proto ∧
        requiredChildText proto "name" "<proto>" = .ok name ∧
        requiredChildText proto "type" s!"<proto> of {name}" = .ok result ∧
        (e.childrenNamed "param").mapM (Param.read d name) = .ok params ∧
        c = ⟨name, e.attribute? "api", .definition ⟨result, params⟩⟩ := by
  unfold Command.read
  rw [halias]
  dsimp only
  rcases e.child? "proto" with _ | proto
  · simp [throw, throwThe, MonadExceptOf.throw]
  · dsimp only
    constructor
    · intro h
      obtain ⟨name, hname, h⟩ := bind_eq_ok_iff.1 h
      obtain ⟨result, hresult, h⟩ := bind_eq_ok_iff.1 h
      obtain ⟨params, hparams, h⟩ := bind_eq_ok_iff.1 h
      exact ⟨proto, name, result, params, rfl, hname, hresult, hparams, (Except.ok.inj h).symm⟩
    · rintro ⟨_, name, result, params, hproto, hname, hresult, hparams, rfl⟩
      cases hproto
      exact bind_eq_ok_iff.2 ⟨name, hname, bind_eq_ok_iff.2 ⟨result, hresult,
        bind_eq_ok_iff.2 ⟨params, hparams, rfl⟩⟩⟩

/-- **A parameter that is put into a definition** comes between the others. -/
theorem Command.read_insert {tag : Xml.Tag} {before after children : List Node} {e : Element}
    {c : Command} {p : Param} (hmeet : Node.Meet before after children)
    (h : Command.read d ⟨tag, children⟩ = .ok c)
    (halias : (⟨tag, children⟩ : Element).attribute? "alias" = none) (he : e.name = "param")
    {owner : String} (hp : Param.read d owner e = .ok p) :
    ∃ result ps qs, c.body = .definition ⟨result, ps ++ qs⟩ ∧
      ((⟨tag, before⟩ : Element).childrenNamed "param").mapM (Param.read d c.name) = .ok ps ∧
      Command.read d ⟨tag, before ++ [.element e.tag e.children] ++ after⟩ =
        .ok { c with body := .definition ⟨result, ps ++ p :: qs⟩ } := by
  obtain ⟨proto, name, result, params, hproto, hname, hresult, hparams, rfl⟩ :=
    (Command.read_eq_ok_iff_of_definition halias).1 h
  rw [Element.childrenNamed, Element.elements_meet hmeet, List.filter_append,
    mapM_append_eq_ok_iff] at hparams
  obtain ⟨ps, qs, hps, hqs, rfl⟩ := hparams
  refine ⟨result, ps, qs, rfl, hps, ?_⟩
  have halias' : (⟨tag, before ++ [.element e.tag e.children] ++ after⟩ : Element).attribute? "alias" =
      none := halias
  refine (Command.read_eq_ok_iff_of_definition halias').2
    ⟨proto, name, result, ps ++ p :: qs, ?_, hname, hresult, ?_, rfl⟩
  · -- a parameter is not the prototype
    rw [Element.child?, Element.elements_meet hmeet, List.find?_append] at hproto
    rw [Element.child?, Element.elements_insert, List.find?_append,
      List.find?_cons_of_neg (by simp [he])]
    exact hproto
  · rw [Element.childrenNamed, Element.elements_insert, List.filter_append,
      List.filter_cons_of_pos (by simpa using he), mapM_append_cons_eq_ok_iff]
    exact ⟨ps, p, qs, hps, Param.read_eq_ok hp name, hqs, rfl⟩

/-! ## A document in parts -/

/-- Two texts that are given by their characters, one after the other. -/
theorem append_eq_ofList {s t : String} {cs ds : List Char} (hs : s = String.ofList cs)
    (ht : t = String.ofList ds) : s ++ t = String.ofList (cs ++ ds) := by
  rw [hs, ht, String.ofList_append]

namespace Parted

/-- The start of a document, up to its section of commands. -/
def opening : String := "<registry>
<commands>
"

/-- The start of a definition, up to its parameters. -/
def definition : String := "<command><proto><type>void</type> <name>vkTrim</name></proto>
"

/-- The parameter of the definition. -/
def parameter : String := "<param><type>VkDevice</type> <name>device</name></param>"

/-- The rest of the document. -/
def closing : String := "
</command>
<command name=\"vkTrimKHR\" alias=\"vkTrim\"/>
<command><proto><type>T</type> <name>vkGetInstanceProcAddr</name></proto></command>
<command><proto><type>T</type> <name>vkGetDeviceProcAddr</name></proto>
<param><type>VkDevice</type> <name>device</name></param></command>
</commands>
<types>
<type category=\"handle\"><type>VK_DEFINE_HANDLE</type> <name>VkDevice</name></type>
</types>
<extensions/>
</registry>"

/-- The section of commands, where it starts. -/
def commands : OpenElement :=
  ⟨⟨"commands", []⟩, [.text "\n"]⟩

/-- The root element, where its section of commands starts. -/
def root : OpenElement :=
  ⟨⟨"registry", []⟩, [.text "\n"]⟩

/-- The registry in the document, when the definition has these parameters. -/
def registry (params : List Param) : Registry :=
  let device : Param := ⟨"VkDevice device", "device", "VkDevice", false⟩
  let trim : Command := ⟨"vkTrim", none, .definition ⟨"void", params⟩⟩
  let extended : Command := ⟨"vkTrimKHR", none, .sameAs "vkTrim"⟩
  let instanceResolver : Command := ⟨"vkGetInstanceProcAddr", none, .definition ⟨"T", []⟩⟩
  let deviceResolver : Command := ⟨"vkGetDeviceProcAddr", none, .definition ⟨"T", [device]⟩⟩
  { dialect := {}
    handles := ["VkDevice"]
    structs := []
    commands := [trim, extended, instanceResolver, deviceResolver]
    index := [deviceResolver, instanceResolver, extended, trim]
    extensions := []
    commandOwners := []
    typeOwners := []
    restrictedCommands := []
    restrictedTypes := [] }

/-- The parameter of the definition, as it is read. -/
def device : Param :=
  ⟨"VkDevice device", "device", "VkDevice", false⟩

set_option maxRecDepth 10000 in
/-- Reading the document gives its registry. -/
theorem read_document :
    Registry.read {} (opening ++ (definition ++ (parameter ++ closing))) = .ok (registry [device]) := by
  have hcharacters := append_eq_ofList (s := opening) rfl
    (append_eq_ofList (s := definition) rfl (append_eq_ofList (s := parameter) (t := closing) rfl rfl))
  rw [Registry.read, Xml.parse, wellNested_of_eq_ofList hcharacters]
  decide +kernel

/-- The start of the document breaks off in its section of commands. -/
theorem breaksOff_opening : BreaksOffInCommands opening [] commands root where
  breaksOff := ⟨[.start "registry".toList, .text "\n".toList, .start "commands".toList,
    .text "\n".toList], by decide +kernel, rfl⟩
  name := rfl
  first := rfl

end Parted

end LayerHeaders
