import LayerHeaders.Proofs.Registry.Section
import LayerHeaders.Proofs.Xml.Comments

/-!
# Reading without comments

Whatever is read of an element is read of its attributes, of the text below it, and of the elements of
some name other than `comment` among its children. So everything is read in the same way without comments,
from parameters up to the whole registry, and a comment anywhere in a document does not change the
registry in it.

* `mapM_uncommented`: what is read of the elements of a name.
* `Registry.ofElement_uncommented`: a registry is read in the same way without comments.
* `read_comment`: a document with a comment put in holds the same registry.
-/

namespace LayerHeaders

open Xml (Element OpenElement)

variable {d : Dialect}

/-! ## Parts of a declaration -/

/-- **What is read of the elements of a name**, if comments do not matter to each of them. -/
theorem mapM_uncommented {β : Type} {read : Element → Except RegistryError β} {name : String}
    (h : ∀ e : Element, read e.uncommented = read e) (hname : name ≠ "comment") (e : Element) :
    (e.uncommented.childrenNamed name).mapM read = (e.childrenNamed name).mapM read := by
  rw [Element.childrenNamed_uncommented hname, List.mapM_map]
  exact congrArg (List.mapM · (e.childrenNamed name)) (funext h)

/-- The same, if only those are read that pass a test. -/
theorem mapM_filter_uncommented {β : Type} {read : Element → Except RegistryError β}
    {p : Element → Bool} {name : String} (hp : ∀ e : Element, p e.uncommented = p e)
    (h : ∀ e : Element, read e.uncommented = read e) (hname : name ≠ "comment") (e : Element) :
    ((e.uncommented.childrenNamed name).filter p).mapM read =
      ((e.childrenNamed name).filter p).mapM read := by
  have hfilter : (p ∘ Element.uncommented) = p := funext hp
  rw [Element.childrenNamed_uncommented hname, List.filter_map, hfilter, List.mapM_map]
  exact congrArg (List.mapM · ((e.childrenNamed name).filter p)) (funext h)

theorem requiredChildText_uncommented {child : String} (h : child ≠ "comment") (e : Element)
    (owner : String) : requiredChildText e.uncommented child owner = requiredChildText e child owner := by
  unfold requiredChildText
  rw [Element.childText?_uncommented h]

/-! ## Declarations -/

theorem Member.read_uncommented (owner : String) (e : Element) :
    Member.read d owner e.uncommented = Member.read d owner e := by
  unfold Member.read
  rw [requiredChildText_uncommented (by decide), requiredChildText_uncommented (by decide),
    Element.text_uncommented]
  rfl

theorem Param.read_uncommented (owner : String) (e : Element) :
    Param.read d owner e.uncommented = Param.read d owner e := by
  unfold Param.read
  rw [requiredChildText_uncommented (by decide), requiredChildText_uncommented (by decide),
    Element.text_uncommented]
  rfl

theorem Struct.read_uncommented (e : Element) : Struct.read d e.uncommented = Struct.read d e := by
  unfold Struct.read
  simp only [mapM_uncommented (Member.read_uncommented _) (by decide : "member" ≠ "comment")]
  rfl

theorem Command.read_uncommented (e : Element) : Command.read d e.uncommented = Command.read d e := by
  have halias : e.uncommented.attribute? "alias" = e.attribute? "alias" := rfl
  unfold Command.read
  rw [halias, Element.child?_uncommented (by decide)]
  rcases e.attribute? "alias" with _ | target
  · rcases e.child? "proto" with _ | proto
    · rfl
    · simp only [Option.map_some, requiredChildText_uncommented (by decide : "name" ≠ "comment"),
        requiredChildText_uncommented (by decide : "type" ≠ "comment"),
        mapM_uncommented (Param.read_uncommented _) (by decide : "param" ≠ "comment")]
      rfl
  · rfl

theorem RequireBlock.read_uncommented (e : Element) :
    RequireBlock.read e.uncommented = RequireBlock.read e := by
  unfold RequireBlock.read
  rw [mapM_uncommented (fun _ => rfl) (by decide), mapM_uncommented (fun _ => rfl) (by decide)]
  rfl

theorem Extension.read_uncommented (e : Element) :
    Extension.read d e.uncommented = Extension.read d e := by
  unfold Extension.read
  simp only [mapM_uncommented RequireBlock.read_uncommented (by decide : "require" ≠ "comment")]
  rfl

theorem Feature.read_uncommented (e : Element) : Feature.read e.uncommented = Feature.read e := by
  unfold Feature.read
  simp only [mapM_uncommented RequireBlock.read_uncommented (by decide : "require" ≠ "comment")]
  rfl

/-! ## Sections -/

theorem readHandles_uncommented (e : Element) : readHandles d e.uncommented = readHandles d e := by
  have hdeclares : ∀ e : Element, declaresHandle d e.uncommented = declaresHandle d e := by
    intro e
    unfold declaresHandle
    rw [Element.childText?_uncommented (by decide)]
    rfl
  exact mapM_filter_uncommented hdeclares
    (fun e => requiredChildText_uncommented (by decide) e _) (by decide) e

theorem readStructs_uncommented (e : Element) : readStructs d e.uncommented = readStructs d e :=
  mapM_filter_uncommented (fun _ => rfl) Struct.read_uncommented (by decide) e

theorem readCommands_uncommented (e : Element) : readCommands d e.uncommented = readCommands d e :=
  mapM_uncommented Command.read_uncommented (by decide) e

/-- A section is the same, without its comments. -/
theorem requiredSection_uncommented {name : String} (h : name ≠ "comment") (root : Element) :
    requiredSection root.uncommented name = (requiredSection root name).map Element.uncommented := by
  unfold requiredSection
  rw [Element.child?_uncommented h]
  rcases root.child? name with _ | e
  · rfl
  · rfl

/-- **A registry is read in the same way without comments.** -/
theorem Registry.ofElement_uncommented (root : Element) :
    Registry.ofElement d root.uncommented = Registry.ofElement d root := by
  unfold Registry.ofElement
  rw [requiredSection_uncommented (by decide), requiredSection_uncommented (by decide),
    requiredSection_uncommented (by decide), mapM_uncommented Feature.read_uncommented (by decide)]
  rcases requiredSection root "types" with _ | types
  · rfl
  rcases requiredSection root "commands" with _ | commands
  · rfl
  rcases requiredSection root "extensions" with _ | extensions
  · rfl
  have hextensions := mapM_uncommented (Extension.read_uncommented (d := d))
    (by decide : "extension" ≠ "comment") extensions
  simp only [Except.map, bind, Except.bind, readHandles_uncommented, readStructs_uncommented,
    readCommands_uncommented, hextensions]

/-! ## A comment that is put in -/

/-- **Comments do not change a registry.** A comment that is put at a place inside the root element, outside
markup and references, leaves a document that holds the same registry. -/
theorem read_comment {before inserted after : String} {e : OpenElement} {outer : List OpenElement}
    {r : Registry} (h : Registry.read d (before ++ after) = .ok r)
    (hplace : Xml.BreaksOff before (e :: outer)) (hinserted : Xml.Comment inserted) :
    Registry.read d (before ++ inserted ++ after) = .ok r := by
  obtain ⟨root, hroot, hread⟩ := read_eq_ok_iff.1 h
  obtain ⟨root', hroot', hsame⟩ := Xml.parse_comment hplace hinserted hroot
  refine read_eq_ok_iff.2 ⟨root', hroot', ?_⟩
  rw [← Registry.ofElement_uncommented, hsame, Registry.ofElement_uncommented]
  exact hread

namespace Parted

/-- The start of the definition, up to a place in the text of its type. -/
def upToType : String := "<command><proto><type>vo"

/-- The definition from there on, up to its parameters. -/
def fromType : String := "id</type> <name>vkTrim</name></proto>
"

theorem definition_eq : definition = upToType ++ fromType := by
  decide +kernel

/-- The start of the document breaks off inside the type. -/
theorem breaksOff_upToType :
    Xml.BreaksOff (opening ++ upToType) (⟨⟨"type", []⟩, [.text "vo"]⟩ ::
      [⟨⟨"proto", []⟩, []⟩, ⟨⟨"command", []⟩, []⟩, commands, root]) :=
  ⟨[.start "registry".toList, .text "\n".toList, .start "commands".toList, .text "\n".toList,
    .start "command".toList, .start "proto".toList, .start "type".toList, .text "vo".toList],
    by decide +kernel, rfl⟩

end Parted

/-- A comment of either kind in the middle of a type. -/
theorem read_comment_upToType :
    Registry.read {} (Parted.opening ++ Parted.upToType ++ "<!-- a-b -->" ++
        (Parted.fromType ++ (Parted.parameter ++ Parted.closing))) =
        .ok (Parted.registry [Parted.device]) ∧
      Registry.read {} (Parted.opening ++ Parted.upToType ++ "<comment>a > b</comment>" ++
        (Parted.fromType ++ (Parted.parameter ++ Parted.closing))) =
        .ok (Parted.registry [Parted.device]) := by
  have hread : Registry.read {} (Parted.opening ++ Parted.upToType ++
      (Parted.fromType ++ (Parted.parameter ++ Parted.closing))) =
      .ok (Parted.registry [Parted.device]) := by
    have hdocument := Parted.read_document
    rwa [Parted.definition_eq, String.append_assoc, ← String.append_assoc] at hdocument
  exact ⟨read_comment hread Parted.breaksOff_upToType (.markup " a-b " (by decide) (by decide) (by decide)),
    read_comment hread Parted.breaksOff_upToType (.element "a > b" (by simp))⟩

end LayerHeaders
