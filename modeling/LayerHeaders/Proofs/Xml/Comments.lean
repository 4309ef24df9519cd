import LayerHeaders.Proofs.Xml.Writing

/-!
# Documents without their comments

A comment is an element of that name, or markup that adds nothing. Without comments, runs of text that
meet are one run. Two trees that are the same without their comments have the same text, and a comment that
is put into a document does not change the tree without comments.

* `uncommented`: children without their comments.
* `uncommented_append_congr`: what is the same without comments is the same after other children.
* `Comment`: a comment as it is written, of either kind.
* `parse_comment`: the tree of a document with a comment put in.
-/

namespace LayerHeaders.Xml

/-! ## Children without comments -/

/-- Adds a run of text before other children; before another run of text it becomes one with that. -/
def addRun (s : String) : List Node → List Node
  | .text t :: ns => .text (s ++ t) :: ns
  | ns => .text s :: ns

theorem sizeOf_lt_cons (n : Node) (ns : List Node) : sizeOf ns < sizeOf (n :: ns) := by
  simp only [List.cons.sizeOf_spec]
  omega

theorem sizeOf_lt_element_cons (tag : Tag) (children ns : List Node) :
    sizeOf children < sizeOf (Node.element tag children :: ns) := by
  simp only [List.cons.sizeOf_spec, Node.element.sizeOf_spec]
  omega

/-- Children without the comments among them and below them. -/
def uncommented : List Node → List Node
  | [] => []
  | .text s :: ns => addRun s (uncommented ns)
  | .element tag children :: ns =>
    if tag.name = "comment" then uncommented ns
    else .element tag (uncommented children) :: uncommented ns
termination_by ns => sizeOf ns
decreasing_by
  · exact sizeOf_lt_cons _ _
  · exact sizeOf_lt_cons _ _
  · exact sizeOf_lt_element_cons _ _ _
  · exact sizeOf_lt_cons _ _

/-- An element without the comments below it. -/
def Element.uncommented (e : Element) : Element :=
  ⟨e.tag, Xml.uncommented e.children⟩

section

variable {s t : String} {ms ns ns' before after children : List Node} {tag : Tag}

theorem uncommented_text : uncommented (.text s :: ns) = addRun s (uncommented ns) := by
  rw [uncommented]

theorem uncommented_comment (h : tag.name = "comment") :
    uncommented (.element tag children :: ns) = uncommented ns := by
  rw [uncommented, if_pos h]

theorem uncommented_element (h : tag.name ≠ "comment") :
    uncommented (.element tag children :: ns) =
      .element tag (uncommented children) :: uncommented ns := by
  rw [uncommented, if_neg h]

/-- Two runs of text that meet are one run. -/
theorem addRun_addRun (s t : String) (ns : List Node) : addRun s (addRun t ns) = addRun (s ++ t) ns := by
  rcases ns with _ | ⟨u | ⟨tag, children⟩, ns⟩
  · rfl
  · simp only [addRun, String.append_assoc]
  · rfl

/-- **What is the same without comments is the same after other children.** -/
theorem uncommented_append_congr (h : uncommented ns = uncommented ns') (ms : List Node) :
    uncommented (ms ++ ns) = uncommented (ms ++ ns') := by
  induction ms with
  | nil => exact h
  | cons m ms ih =>
      rw [List.cons_append, List.cons_append]
      rcases m with s | ⟨tag, children⟩
      · rw [uncommented_text, uncommented_text, ih]
      · by_cases hname : tag.name = "comment"
        · rw [uncommented_comment hname, uncommented_comment hname, ih]
        · rw [uncommented_element hname, uncommented_element hname, ih]

/-- Children that meet are the same as those that stay apart. -/
theorem uncommented_meet (h : Node.Meet before after children) :
    uncommented (before ++ after) = uncommented children := by
  cases h with
  | apart => rfl
  | run before after s t =>
      rw [List.append_assoc]
      refine uncommented_append_congr ?_ before
      rw [List.singleton_append, uncommented_text, uncommented_text, uncommented_text, addRun_addRun]

/-- An element around a place is the same if the one at the place is. -/
theorem Surrounding.uncommented_around {e e' : Element} (s : Surrounding) (htag : e'.tag = e.tag)
    (h : e'.uncommented = e.uncommented) : (s.around e').uncommented = (s.around e).uncommented := by
  have hchildren : uncommented e'.children = uncommented e.children := congrArg Element.children h
  have hplace : uncommented (.element e'.tag e'.children :: s.after) =
      uncommented (.element e.tag e.children :: s.after) := by
    rw [htag]
    by_cases hname : e.tag.name = "comment"
    · rw [uncommented_comment hname, uncommented_comment hname]
    · rw [uncommented_element hname, uncommented_element hname, hchildren]
  exact congrArg (Element.mk s.tag) (uncommented_append_congr hplace s.before)

/-- So are all elements around it. -/
theorem Surrounding.uncommented_foldl_around (surroundings : List Surrounding) {e e' : Element}
    (htag : e'.tag = e.tag) (h : e'.uncommented = e.uncommented) :
    (surroundings.foldl Surrounding.around e').uncommented =
      (surroundings.foldl Surrounding.around e).uncommented := by
  induction surroundings generalizing e e' with
  | nil => exact h
  | cons s surroundings ih => exact ih rfl (s.uncommented_around htag h)

end

/-! ## What is looked at -/

theorem textOf_addRun (s : String) (ns : List Node) : Node.textOf (addRun s ns) = s ++ Node.textOf ns := by
  rcases ns with _ | ⟨t | ⟨tag, children⟩, ns⟩
  · rfl
  · simp only [addRun, Node.textOf, Node.content, String.append_assoc]
  · rfl

/-- **Comments have no text.** -/
theorem textOf_uncommented (ns : List Node) : Node.textOf (uncommented ns) = Node.textOf ns := by
  induction ns using uncommented.induct with
  | case1 => rw [uncommented]
  | case2 s ns ih => rw [uncommented_text, textOf_addRun, ih, Node.textOf, Node.content]
  | case3 tag children ns hname ih =>
      rw [uncommented_comment hname, ih, Node.textOf, Node.content, if_pos hname, String.empty_append]
  | case4 tag children ns hname ihchildren ih =>
      rw [uncommented_element hname, Node.textOf, Node.textOf, Node.content, Node.content, if_neg hname,
        if_neg hname, ihchildren, ih]

namespace Element

variable {name : String}

theorem text_uncommented (e : Element) : e.uncommented.text = e.text :=
  textOf_uncommented e.children

theorem elements_text (tag : Tag) (s : String) (ns : List Node) :
    (⟨tag, .text s :: ns⟩ : Element).elements = (⟨tag, ns⟩ : Element).elements :=
  rfl

theorem elements_element (tag tag' : Tag) (children ns : List Node) :
    (⟨tag, .element tag' children :: ns⟩ : Element).elements =
      ⟨tag', children⟩ :: (⟨tag, ns⟩ : Element).elements :=
  rfl

theorem elements_addRun (tag : Tag) (s : String) (ns : List Node) :
    (⟨tag, addRun s ns⟩ : Element).elements = (⟨tag, ns⟩ : Element).elements := by
  rcases ns with _ | ⟨t | ⟨tag', children⟩, ns⟩
  · rfl
  · rfl
  · rfl

/-- The elements without comments are those that are no comments, each without its own. -/
theorem elements_uncommented (e : Element) :
    e.uncommented.elements = (e.elements.filter (·.name ≠ "comment")).map uncommented := by
  obtain ⟨tag, ns⟩ := e
  unfold Element.uncommented
  dsimp only
  induction ns with
  | nil =>
      rw [Xml.uncommented]
      rfl
  | cons n ns ih =>
      rcases n with s | ⟨tag', children⟩
      · rw [uncommented_text, elements_addRun, ih, elements_text]
      · rw [elements_element]
        by_cases hname : tag'.name = "comment"
        · rw [uncommented_comment hname, ih, List.filter_cons_of_neg]
          exact fun hother => of_decide_eq_true hother hname
        · rw [uncommented_element hname, elements_element, ih, List.filter_cons_of_pos]
          · rfl
          · exact decide_eq_true hname

/-- **The elements of a name** are the same, each without its comments. -/
theorem childrenNamed_uncommented (h : name ≠ "comment") (e : Element) :
    e.uncommented.childrenNamed name = (e.childrenNamed name).map uncommented := by
  unfold childrenNamed
  rw [elements_uncommented, List.filter_map, List.filter_filter]
  refine congrArg (List.map uncommented) (List.filter_congr fun e' _ => ?_)
  have hother : e'.name = name → e'.name ≠ "comment" := fun hname heq => h (hname.symm.trans heq)
  rw [Bool.eq_iff_iff, Bool.and_eq_true, decide_eq_true_eq, decide_eq_true_eq, Function.comp_apply,
    decide_eq_true_eq]
  exact and_iff_left_of_imp hother

/-- **The first element of a name** is the same, without its comments. -/
theorem child?_uncommented (h : name ≠ "comment") (e : Element) :
    e.uncommented.child? name = (e.child? name).map uncommented := by
  rw [child?_eq_head?, child?_eq_head?, childrenNamed_uncommented h, List.head?_map]

/-- **The text of the first element of a name** is the same. -/
theorem childText?_uncommented (h : name ≠ "comment") (e : Element) :
    e.uncommented.childText? name = e.childText? name := by
  unfold childText?
  rw [child?_uncommented h, Option.map_map]
  refine Option.map_congr fun child _ => ?_
  exact congrArg Text.trim child.text_uncommented

end Element

/-! ## Comments as they are written -/

/-- **Whether a text is a comment**, as markup or as an element. -/
inductive Comment : String → Prop
  /-- It is markup, if two hyphens come together nowhere but in its own. -/
  | markup (x : String) (hinside : ¬ ['-', '-'] <:+: x.toList) (hfirst : x.toList.head? ≠ some '-')
      (hlast : x.toList.getLast? ≠ some '-') : Comment ("<!--" ++ x ++ "-->")
  /-- It is an element that holds text without markup and references. -/
  | element (x : String) (h : ∀ c ∈ x.toList, c ≠ '<' ∧ c ≠ '&') :
      Comment ("<comment>" ++ x ++ "</comment>")

/-- The tag of a comment. -/
def commentTag : Tag :=
  ⟨"comment", []⟩

theorem wellFormed_commentTag : commentTag.WellFormed := by
  decide

/-- Markup of a comment ends at its own end. -/
theorem cutFrom_comment {cs : List Char} (hinside : ¬ ['-', '-'] <:+: cs) (hlast : cs.getLast? ≠ some '-')
    (before : List Char) :
    Token.cutFrom ['-', '-', '>'] before (cs ++ ['-', '-', '>']) = some (before.reverse ++ cs, []) := by
  induction cs generalizing before with
  | nil =>
      rw [List.append_nil]
      exact Token.cutFrom_of_dropStart? rfl
  | cons c cs ih =>
      have hstart : Text.dropStart? ['-', '-', '>'] (c :: (cs ++ ['-', '-', '>'])) = none := by
        by_cases hc : c = '-'
        · subst hc
          rcases cs with _ | ⟨d, cs⟩
          · exact absurd rfl hlast
          · have hd : d ≠ '-' := by
              rintro rfl
              exact hinside ⟨[], cs, rfl⟩
            simp [Text.dropStart?, hd.symm]
        · simp [Text.dropStart?, Ne.symm hc]
      have hinside' : ¬ ['-', '-'] <:+: cs := fun h => hinside (h.trans (List.suffix_cons c cs).isInfix)
      have hlast' : cs.getLast? ≠ some '-' := by
        rcases cs with _ | ⟨d, cs⟩
        · simp
        · rwa [List.getLast?_cons_cons] at hlast
      rw [List.cons_append, Token.cutFrom_cons hstart, ih hinside' hlast', List.reverse_cons,
        List.append_assoc, List.singleton_append]

/-- A text that spells children between pieces of markup is markup for them. -/
theorem Spells.isMarkup {text : String} {cs : List Char} {ts : List Token} {nodes : List Node}
    (h : Spells cs ts nodes) (htext : text.toList = cs) (hfirst : ∃ t ∈ ts.head?, t.isText = false)
    (hlast : ∃ t ∈ ts.getLast?, t.isText = false) : IsMarkup text nodes := by
  subst htext
  refine ⟨ts, h.scan, hfirst, hlast, fun e stack root? => ?_⟩
  rw [h.run, Builder.foldl_addNode]

/-- A comment is markup for children that are left out without comments. -/
theorem Comment.exists_isMarkup {text : String} (h : Comment text) :
    ∃ nodes, IsMarkup text nodes ∧ ∀ after, uncommented (nodes ++ after) = uncommented after := by
  rcases h with ⟨x, hinside, -, hlast⟩ | ⟨x, h⟩
  · have hcut : Token.cutAt "-->" (x.toList ++ ['-', '-', '>']) = some ([].reverse ++ x.toList, []) :=
      cutFrom_comment hinside hlast []
    have hnext : Token.next '<' ('!' :: '-' :: '-' :: (x.toList ++ ['-', '-', '>'])) = .ok (.aside, []) := by
      show Token.declaration ('-' :: '-' :: (x.toList ++ ['-', '-', '>'])) = _
      rw [Token.declaration, hcut]
    have hspells : Spells ('<' :: '!' :: '-' :: '-' :: (x.toList ++ ['-', '-', '>'])) [.aside] [] := {
      scan := by
        rw [Token.scanFrom_cons hnext, Token.scanFrom]
        rfl
      run := fun _ => rfl }
    refine ⟨[], hspells.isMarkup (by simp) ⟨_, rfl, rfl⟩ ⟨_, rfl, rfl⟩, fun _ => rfl⟩
  · have hinner : ∃ ts nodes, Spells x.toList ts nodes := by
      by_cases hx : x.toList = []
      · rw [hx]
        exact ⟨[], [], spells_nil⟩
      · exact ⟨_, _, spells_text hx (fun c hc => (h c hc).1) (unescape_of_forall fun c hc => (h c hc).2)⟩
    obtain ⟨ts, nodes, hinner⟩ := hinner
    have hlast : (Token.start commentTag.written :: (ts ++ [.stop commentTag.name.toList])).getLast? =
        some (.stop commentTag.name.toList) := by
      rw [← List.cons_append, List.getLast?_concat]
    refine ⟨[.element commentTag nodes],
      (spells_element wellFormed_commentTag hinner).isMarkup ?_ ⟨_, rfl, rfl⟩ ⟨_, hlast, rfl⟩,
      fun _ => uncommented_comment rfl⟩
    simp [Tag.opened, Tag.closed, Tag.written, commentTag]

/-! ## A comment that is put in -/

/-- **The tree of a document with a comment put in** is the same without comments. -/
theorem parse_comment {before inserted after : String} {e : OpenElement} {outer : List OpenElement}
    {root : Element} (hplace : BreaksOff before (e :: outer)) (hinserted : Comment inserted)
    (hroot : parse (before ++ after) = .ok root) :
    ∃ root', parse (before ++ inserted ++ after) = .ok root' ∧ root'.uncommented = root.uncommented := by
  obtain ⟨nodes, hmarkup, hnodes⟩ := hinserted.exists_isMarkup
  obtain ⟨rest, children, surroundings, -, hmeet, rfl, hparse⟩ := parse_insert hplace hmarkup hroot
  refine ⟨_, hparse, Surrounding.uncommented_foldl_around surroundings rfl ?_⟩
  have hinside : uncommented (e.children.reverse ++ nodes ++ rest) = uncommented children := by
    rw [List.append_assoc, uncommented_append_congr (hnodes rest), uncommented_meet hmeet]
  exact congrArg (Element.mk e.tag) hinside

end LayerHeaders.Xml
