import LayerHeaders.Proofs.Traversal
import LayerHeaders.Xml.Document

/-!
# Building a tree in one run

A document is checked for nesting and its tree is built in two passes over the tokens. Both are one run:
`Builder.step?` adds a token, unless it closes an element that is not the innermost open one. A run does
not look at the children that an open element has so far, so the tree it ends with is the same around
them, whatever they are.

* `parse_eq_ok_iff`: a document has a root element if a run over its tokens ends with it.
* `Builder.step?_frame`: what one token does around the earlier children of an open element.
* `Builder.rootAfter?_frame`: what the rest of a document does around them.
-/

namespace LayerHeaders.Xml

namespace Builder

/-! ## Runs -/

/-- Whether a token is no end tag, or the one of the innermost open element. -/
def admits (b : Builder) : Token → Bool
  | .stop name => b.stack.head?.map (·.tag.name) == some (String.ofList name)
  | _ => true

/-- The tree after one token, unless there is something wrong with it. -/
def step? (b : Builder) (t : Token) : Option Builder :=
  if b.admits t then (b.add t).toOption else none

/-- The tree after a run of tokens. -/
def run? (b : Builder) (ts : List Token) : Option Builder :=
  ts.foldlM step? b

/-- The root element that a document ends with, if `ts` are the tokens that are left. -/
def rootAfter? (b : Builder) (ts : List Token) : Option Element :=
  (b.run? ts).bind fun b => b.finish.toOption

@[simp] theorem run?_cons (b : Builder) (t : Token) (ts : List Token) :
    b.run? (t :: ts) = (b.step? t).bind (·.run? ts) := rfl

theorem run?_append (b : Builder) (ts us : List Token) :
    b.run? (ts ++ us) = (b.run? ts).bind (·.run? us) := by
  rw [run?, List.foldlM_append]
  rfl

@[simp] theorem rootAfter?_cons (b : Builder) (t : Token) (ts : List Token) :
    b.rootAfter? (t :: ts) = (b.step? t).bind (·.rootAfter? ts) := by
  rw [rootAfter?, run?_cons, Option.bind_assoc]
  rfl

theorem rootAfter?_append (b : Builder) (ts us : List Token) :
    b.rootAfter? (ts ++ us) = (b.run? ts).bind (·.rootAfter? us) := by
  rw [rootAfter?, run?_append, Option.bind_assoc]
  rfl

/-! ## Nesting -/

/-- The names of the open elements, innermost first. -/
def openNames (b : Builder) : List (List Char) :=
  b.stack.map (·.tag.name.toList)

@[simp] theorem openNames_attach (b : Builder) (e : Element) : (b.attach e).openNames = b.openNames := by
  rcases b with ⟨_ | ⟨o, stack⟩, root?⟩
  · rfl
  · rfl

@[simp] theorem openNames_addText (b : Builder) (content : List Char) :
    (b.addText content).openNames = b.openNames := by
  rcases b with ⟨_ | ⟨o, stack⟩, root?⟩
  · rfl
  · rfl

/-- The name of a tag is what stands before its attributes. -/
theorem toList_name_of_read {content : List Char} {tag : Tag} (h : Tag.read content = .ok tag) :
    tag.name.toList = tagName content := by
  obtain ⟨found, -, htag⟩ := bind_eq_ok_iff.1 h
  cases htag
  exact String.toList_ofList

theorem step?_eq_some_iff {b b' : Builder} {t : Token} :
    b.step? t = some b' ↔ b.admits t = true ∧ b.add t = .ok b' := by
  rw [step?]
  rcases b.add t with e | b''
  · simp [Except.toOption]
  · simp [Except.toOption]

/-- **The step of the nesting**: it goes on with the open elements after a token, if the token is
admitted. -/
theorem nestedFrom_cons_eq_none_iff {b b' : Builder} {t : Token} (h : b.add t = .ok b')
    (before ts : List Token) :
    (nestedFrom b.openNames before (t :: ts)).2 = none ↔
      b.admits t = true ∧ (nestedFrom b'.openNames (t :: before) ts).2 = none := by
  rcases t with raw | content | content | name | content | _
  · simp only [add] at h
    split at h
    · cases h
      simp [nestedFrom, admits]
    · split at h
      · cases h
        simp [nestedFrom, admits]
      · cases h
  · obtain ⟨tag, htag, hadd⟩ := bind_eq_ok_iff.1 h
    cases hadd
    simp [nestedFrom, admits, openNames, toList_name_of_read htag]
  · obtain ⟨tag, htag, hadd⟩ := bind_eq_ok_iff.1 h
    cases hadd
    simp [nestedFrom, admits]
  · rcases b with ⟨_ | ⟨o, stack⟩, root?⟩
    · cases h
    · cases h
      rw [openNames_attach]
      by_cases hname : name = o.tag.name.toList
      · subst hname
        simp [nestedFrom, admits, openNames]
      · have hne : o.tag.name ≠ String.ofList name := by
          rintro heq
          rw [heq, String.toList_ofList] at hname
          exact hname rfl
        simp [nestedFrom, admits, openNames, hname, hne]
  · cases h
    simp [nestedFrom, admits]
  · cases h
    simp [nestedFrom, admits]

/-- **A run is both passes at once.** -/
theorem run?_eq_some_iff {b b' : Builder} {ts : List Token} (before : List Token) :
    b.run? ts = some b' ↔
      (nestedFrom b.openNames before ts).2 = none ∧ ts.foldlM add b = .ok b' := by
  induction ts generalizing b before with
  | nil => simp [run?, nestedFrom, pure, Except.pure]
  | cons t ts ih =>
      rw [run?_cons, Option.bind_eq_some_iff, List.foldlM_cons, bind_eq_ok_iff]
      constructor
      · rintro ⟨b₁, hstep, hrun⟩
        obtain ⟨hadmits, hadd⟩ := step?_eq_some_iff.1 hstep
        obtain ⟨hnested, hrest⟩ := (ih (t :: before)).1 hrun
        exact ⟨(nestedFrom_cons_eq_none_iff hadd before ts).2 ⟨hadmits, hnested⟩, b₁, hadd, hrest⟩
      · rintro ⟨hnested, b₁, hadd, hrest⟩
        obtain ⟨hadmits, hnested⟩ := (nestedFrom_cons_eq_none_iff hadd before ts).1 hnested
        exact ⟨b₁, step?_eq_some_iff.2 ⟨hadmits, hadd⟩, (ih (t :: before)).2 ⟨hnested, hrest⟩⟩

end Builder

/-- Tokens that are all nested are all kept. -/
theorem nestedFrom_fst {names : List (List Char)} {before ts : List Token}
    (h : (nestedFrom names before ts).2 = none) :
    (nestedFrom names before ts).1 = before.reverse ++ ts := by
  induction names, before, ts using nestedFrom.induct with
  | case1 names before => simp [nestedFrom]
  | case2 names before ts content ih =>
      rw [nestedFrom] at h ⊢
      rw [ih h]
      simp
  | case3 before ts name => simp [nestedFrom] at h
  | case4 before ts expected names ih =>
      rw [nestedFrom, if_pos rfl] at h ⊢
      rw [ih h]
      simp
  | case5 before ts name expected names hne => simp [nestedFrom, hne] at h
  | case6 names before t ts hstart hstop ih =>
      rw [nestedFrom] at h ⊢
      · rw [ih h]
        simp
      all_goals assumption

/-- A document without a defect is cut into tokens without one, and their tags are nested. -/
theorem wellNested_eq_iff {document : String} {ts : List Token} :
    wellNested document = (ts, none) ↔ Token.scan document = (ts, none) ∧ (nested ts).2 = none := by
  have hpasses : wellNested document = ((nested (Token.scan document).1).1,
      ((nested (Token.scan document).1).2.map Error.form).or (Token.scan document).2) := rfl
  rw [hpasses]
  constructor
  · intro h
    obtain ⟨hkept, hdefect⟩ := Prod.mk.inj h
    obtain ⟨hform, hscan⟩ := Option.or_eq_none_iff.1 hdefect
    have hnested : (nested (Token.scan document).1).2 = none := Option.map_eq_none_iff.1 hform
    have hall : (nested (Token.scan document).1).1 = (Token.scan document).1 := nestedFrom_fst hnested
    rw [hall] at hkept
    exact ⟨Prod.ext hkept hscan, hkept ▸ hnested⟩
  · rintro ⟨hscan, hnested⟩
    have hall : (nested ts).1 = ts := nestedFrom_fst hnested
    rw [hscan]
    dsimp only
    rw [hall, hnested]
    rfl

/-- A tree is built from the tokens of a document without a defect. -/
theorem parse_eq_ok_iff_foldlM {document : String} {root : Element} :
    parse document = .ok root ↔ ∃ ts, wellNested document = (ts, none) ∧
      ∃ b, ts.foldlM Builder.add Builder.empty = .ok b ∧ b.finish = .ok root := by
  unfold parse
  generalize wellNested document = passes
  obtain ⟨ts, _ | e⟩ := passes
  · simp only [bind_eq_ok_iff, Prod.mk.injEq, and_true, exists_eq_left']
  · simp only [bind_eq_ok_iff, Prod.mk.injEq, reduceCtorEq, and_false, false_and, exists_false]

/-- A run over all tokens is the check of their nesting and the building of the tree. -/
theorem Builder.rootAfter?_empty_iff {ts : List Token} {root : Element} :
    empty.rootAfter? ts = some root ↔ (nested ts).2 = none ∧
      ∃ b, ts.foldlM add empty = .ok b ∧ b.finish = .ok root := by
  rw [rootAfter?, Option.bind_eq_some_iff]
  constructor
  · rintro ⟨b, hb, hroot⟩
    obtain ⟨hnested, hbuilt⟩ := (run?_eq_some_iff []).1 hb
    refine ⟨hnested, b, hbuilt, ?_⟩
    rcases hfinish : b.finish with e | root'
    · rw [hfinish] at hroot
      cases hroot
    · rw [hfinish] at hroot
      cases hroot
      rfl
  · rintro ⟨hnested, b, hbuilt, hfinish⟩
    exact ⟨b, (run?_eq_some_iff []).2 ⟨hnested, hbuilt⟩, by rw [hfinish]; rfl⟩

/-- **A document has a root element if a run over its tokens ends with it.** -/
theorem parse_eq_ok_iff {document : String} {root : Element} :
    parse document = .ok root ↔
      ∃ ts, Token.scan document = (ts, none) ∧ Builder.empty.rootAfter? ts = some root := by
  simp only [parse_eq_ok_iff_foldlM, wellNested_eq_iff, Builder.rootAfter?_empty_iff, and_assoc]

/-! ## Effects of tokens -/

/-- What a token does to a tree, once its references and attributes are read. -/
inductive Effect where
  /-- It changes nothing. -/
  | skip
  /-- It adds a run of text. -/
  | text (content : List Char)
  /-- It adds an element without children. -/
  | child (tag : Tag)
  /-- It opens an element. -/
  | enter (tag : Tag)
  /-- It closes an element of this name. -/
  | leave (name : String)

namespace Builder

/-- The tree after an effect, unless that closes an element that is not the innermost open one. -/
def after? (b : Builder) : Effect → Option Builder
  | .skip => some b
  | .text content => some (b.addText content)
  | .child tag => some (b.attach ⟨tag, []⟩)
  | .enter tag => some { b with stack := ⟨tag, []⟩ :: b.stack }
  | .leave name =>
    match b.stack with
    | e :: stack =>
      if e.tag.name = name then some ({ b with stack }.attach ⟨e.tag, e.children.reverse⟩) else none
    | [] => none

/-- **A token without a defect has one effect** on all trees, but for text outside all elements. -/
theorem exists_effect {b b' : Builder} {t : Token} (h : b.step? t = some b') :
    ∃ f : Effect, ∀ c : Builder, c.stack.isEmpty = b.stack.isEmpty → c.step? t = c.after? f := by
  obtain ⟨-, hadd⟩ := step?_eq_some_iff.1 h
  rcases t with raw | content | content | name | content | _
  · rw [add] at hadd
    rcases hempty : b.stack.isEmpty with _ | _
    · rw [hempty, if_neg Bool.false_ne_true] at hadd
      rcases htext : unescape raw with e | content
      · rw [htext] at hadd
        cases hadd
      · refine ⟨.text content, fun c hc => step?_eq_some_iff.2 ⟨rfl, ?_⟩⟩
        rw [add, hc, if_neg Bool.false_ne_true, htext]
    · refine ⟨.skip, fun c hc => step?_eq_some_iff.2 ⟨rfl, ?_⟩⟩
      rw [add, hc, if_pos rfl]
  · obtain ⟨tag, htag, -⟩ := bind_eq_ok_iff.1 hadd
    exact ⟨.enter tag, fun c _ => step?_eq_some_iff.2 ⟨rfl, bind_eq_ok_iff.2 ⟨tag, htag, rfl⟩⟩⟩
  · obtain ⟨tag, htag, -⟩ := bind_eq_ok_iff.1 hadd
    exact ⟨.child tag, fun c _ => step?_eq_some_iff.2 ⟨rfl, bind_eq_ok_iff.2 ⟨tag, htag, rfl⟩⟩⟩
  · refine ⟨.leave (String.ofList name), fun c _ => ?_⟩
    rcases c with ⟨_ | ⟨o, stack⟩, root?⟩
    · rfl
    · by_cases hname : o.tag.name = String.ofList name
      · simp [step?, admits, add, after?, hname, Except.toOption]
      · simp [step?, admits, after?, hname]
  · exact ⟨.text content, fun c _ => rfl⟩
  · exact ⟨.skip, fun c _ => rfl⟩

/-! ## Around the children so far -/

/-- A tree with an open element that has the children `earlier`. Since then it got the children `later`,
both in reverse, the elements `inner` were opened in it, and it stands in the elements `outer`. -/
def frame (inner : List OpenElement) (tag : Tag) (later earlier : List Node)
    (outer : List OpenElement) : Builder :=
  ⟨inner ++ ⟨tag, later ++ earlier⟩ :: outer, none⟩

/-- A new child does not look at the earlier ones. -/
theorem exists_frame_attach (inner outer : List OpenElement) (tag : Tag) (later : List Node)
    (e : Element) :
    ∃ inner' later', ∀ earlier,
      (frame inner tag later earlier outer).attach e = frame inner' tag later' earlier outer := by
  rcases inner with _ | ⟨o, inner⟩
  · exact ⟨[], .element e.tag e.children :: later, fun _ => rfl⟩
  · exact ⟨{ o with children := .element e.tag e.children :: o.children } :: inner, later,
      fun _ => rfl⟩

/-- A new run of text does not look at the earlier children. -/
theorem exists_frame_addText (inner outer : List OpenElement) (tag : Tag) (later : List Node)
    (content : List Char) :
    ∃ inner' later', ∀ earlier,
      (frame inner tag later earlier outer).addText content = frame inner' tag later' earlier outer := by
  rcases inner with _ | ⟨o, inner⟩
  · exact ⟨[], .text (String.ofList content) :: later, fun _ => rfl⟩
  · exact ⟨{ o with children := .text (String.ofList content) :: o.children } :: inner, later,
      fun _ => rfl⟩

/-- **The step around the earlier children**: a token leaves the element open, or it closes it with the
earlier children first. It does the same whatever they are. -/
theorem step?_frame {inner outer : List OpenElement} {tag : Tag} {later earlier : List Node} {t : Token}
    {b : Builder} (h : (frame inner tag later earlier outer).step? t = some b) :
    (∃ inner' later', ∀ earlier, (frame inner tag later earlier outer).step? t =
        some (frame inner' tag later' earlier outer)) ∨
      ∀ earlier, (frame inner tag later earlier outer).step? t =
        some (attach ⟨outer, none⟩ ⟨tag, earlier.reverse ++ later.reverse⟩) := by
  obtain ⟨f, hf⟩ := exists_effect h
  have hopen : ∀ earlier', (frame inner tag later earlier' outer).stack.isEmpty =
      (frame inner tag later earlier outer).stack.isEmpty := by
    rcases inner with _ | ⟨o, inner⟩
    · exact fun _ => rfl
    · exact fun _ => rfl
  have heffect : ∀ earlier', (frame inner tag later earlier' outer).step? t =
      (frame inner tag later earlier' outer).after? f := fun _ => hf _ (hopen _)
  rw [heffect] at h
  simp only [heffect]
  cases f with
  | skip => exact Or.inl ⟨inner, later, fun _ => rfl⟩
  | text content =>
      obtain ⟨inner', later', hframe⟩ := exists_frame_addText inner outer tag later content
      exact Or.inl ⟨inner', later', fun earlier => congrArg some (hframe earlier)⟩
  | child tag' =>
      obtain ⟨inner', later', hframe⟩ := exists_frame_attach inner outer tag later ⟨tag', []⟩
      exact Or.inl ⟨inner', later', fun earlier => congrArg some (hframe earlier)⟩
  | enter tag' => exact Or.inl ⟨⟨tag', []⟩ :: inner, later, fun _ => rfl⟩
  | leave name =>
      rcases inner with _ | ⟨o, inner⟩
      · -- the element itself is closed
        right
        intro earlier
        by_cases hname : tag.name = name
        · simp [after?, frame, hname]
        · simp [after?, frame, hname] at h
      · left
        obtain ⟨inner', later', hframe⟩ :=
          exists_frame_attach inner outer tag later ⟨o.tag, o.children.reverse⟩
        refine ⟨inner', later', fun earlier => ?_⟩
        by_cases hname : o.tag.name = name
        · rw [← hframe]
          simp [after?, frame, hname]
        · simp [after?, frame, hname] at h

/-- Once there is a root element, a token does not look at it. -/
theorem step?_root {stack : List OpenElement} {e : Element} {t : Token} {b : Builder}
    (h : (⟨stack, some e⟩ : Builder).step? t = some b) :
    ∃ stack', ∀ e', (⟨stack, some e'⟩ : Builder).step? t = some ⟨stack', some e'⟩ := by
  obtain ⟨f, hf⟩ := exists_effect h
  have heffect : ∀ e', (⟨stack, some e'⟩ : Builder).step? t = (⟨stack, some e'⟩ : Builder).after? f :=
    fun _ => hf _ rfl
  rw [heffect] at h
  simp only [heffect]
  cases f with
  | skip => exact ⟨stack, fun _ => rfl⟩
  | text content =>
      rcases stack with _ | ⟨o, stack⟩
      · exact ⟨[], fun _ => rfl⟩
      · exact ⟨_, fun _ => rfl⟩
  | child tag =>
      rcases stack with _ | ⟨o, stack⟩
      · exact ⟨[], fun _ => rfl⟩
      · exact ⟨_, fun _ => rfl⟩
  | enter tag => exact ⟨⟨tag, []⟩ :: stack, fun _ => rfl⟩
  | leave name =>
      rcases stack with _ | ⟨o, stack⟩
      · cases h
      · by_cases hname : o.tag.name = name
        · rcases stack with _ | ⟨p, stack⟩
          · exact ⟨[], fun _ => if_pos hname⟩
          · exact ⟨_, fun _ => if_pos hname⟩
        · simp [after?, hname] at h

/-- **The first root element is the root of the document**, whatever it is. -/
theorem rootAfter?_root {stack : List OpenElement} {e root : Element} {ts : List Token}
    (h : (⟨stack, some e⟩ : Builder).rootAfter? ts = some root) :
    ∀ e', (⟨stack, some e'⟩ : Builder).rootAfter? ts = some e' := by
  induction ts generalizing stack e with
  | nil =>
      rcases stack with _ | ⟨o, stack⟩
      · exact fun _ => rfl
      · cases h
  | cons t ts ih =>
      rw [rootAfter?_cons, Option.bind_eq_some_iff] at h
      obtain ⟨b, hstep, hrest⟩ := h
      obtain ⟨stack', hstack⟩ := step?_root hstep
      rw [hstack e] at hstep
      cases hstep
      intro e'
      rw [rootAfter?_cons, hstack e', Option.bind_some]
      exact ih hrest e'

end Builder

/-- An element around a place in a document, with its children before and after the one that holds the
place. -/
structure Surrounding where
  /-- The tag of the element. -/
  tag : Tag
  /-- The children before. -/
  before : List Node
  /-- The children after. -/
  after : List Node

namespace Surrounding

/-- The element as it stands open at the place. -/
def opened (s : Surrounding) : OpenElement :=
  ⟨s.tag, s.before.reverse⟩

/-- The element around one that holds the place. -/
def around (e : Element) (s : Surrounding) : Element :=
  ⟨s.tag, s.before ++ .element e.tag e.children :: s.after⟩

end Surrounding

namespace Builder

/-- **The run around the earlier children.** If the document has a root element, the open element ends
with the earlier children first, and the elements around it stand around it in the root element, all
the same whatever the earlier children are. -/
theorem rootAfter?_frame {inner outer : List OpenElement} {tag : Tag} {later earlier : List Node}
    {ts : List Token} {root : Element}
    (h : (frame inner tag later earlier outer).rootAfter? ts = some root) :
    ∃ (after : List Node) (surroundings : List Surrounding), surroundings.map (·.opened) = outer ∧
      ∀ earlier, (frame inner tag later earlier outer).rootAfter? ts =
        some (surroundings.foldl Surrounding.around ⟨tag, earlier.reverse ++ after⟩) := by
  induction ts generalizing inner outer tag later earlier with
  | nil =>
      -- an element is still open
      rcases inner with _ | ⟨o, inner⟩
      · cases h
      · cases h
  | cons t ts ih =>
      rw [rootAfter?_cons, Option.bind_eq_some_iff] at h
      obtain ⟨b, hstep, hrest⟩ := h
      simp only [rootAfter?_cons]
      rcases step?_frame hstep with ⟨inner', later', hframe⟩ | hclose
      · rw [hframe earlier] at hstep
        cases hstep
        obtain ⟨after, surroundings, houter, hroot⟩ := ih hrest
        refine ⟨after, surroundings, houter, fun earlier => ?_⟩
        rw [hframe earlier, Option.bind_some]
        exact hroot earlier
      · rw [hclose earlier] at hstep
        cases hstep
        rcases outer with _ | ⟨p, outer⟩
        · -- the element is the root
          refine ⟨later.reverse, [], rfl, fun earlier => ?_⟩
          rw [hclose earlier, Option.bind_some]
          exact rootAfter?_root hrest _
        · -- it is a child of the next element, and one of its earlier children from here on
          let children := Node.element tag (earlier.reverse ++ later.reverse) :: p.children
          have hparent : (frame [] p.tag [] children outer).rootAfter? ts = some root := hrest
          obtain ⟨after, surroundings, houter, hroot⟩ := ih hparent
          refine ⟨later.reverse, ⟨p.tag, p.children.reverse, after⟩ :: surroundings, ?_,
            fun earlier => ?_⟩
          · rw [List.map_cons, houter, Surrounding.opened, List.reverse_reverse]
          · rw [hclose earlier, Option.bind_some]
            refine (hroot (.element tag (earlier.reverse ++ later.reverse) :: p.children)).trans ?_
            rw [List.foldl_cons, Surrounding.around, List.reverse_cons, List.append_assoc]
            rfl

end Builder

end LayerHeaders.Xml
