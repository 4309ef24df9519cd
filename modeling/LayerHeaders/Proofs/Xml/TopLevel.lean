import LayerHeaders.Proofs.Xml.ReadsThrough
import LayerHeaders.Registry.Error

/-!
# The first element of a document

The root of a document is its first element outside all others. What is an element of the document is
stated for the tokens alone, by a grammar of elements and their children; text outside all elements is no
part of any, and may hold anything.

* `Children`, `TopLevel`: what tokens mean inside an element and outside all of them.
* `Children.foldlM_add`, `TopLevel.foldlM_add`: the tree has the children and the elements of the grammar.
* `parse_eq_ok_iff_topLevel`: the root of a document.
* `parse_decided`: what becomes of a document, and the stack of the tree at each of its tokens.
-/

namespace LayerHeaders.Xml

/-! ## Elements of a document -/

/-- Whether a token begins an element. -/
def Token.beginsElement : Token → Bool
  | .start _ | .empty _ => true
  | .text _ | .stop _ | .data _ | .aside => false

/-- **What tokens mean inside an element**: the children that they are. -/
inductive Children : List Token → List Node → Prop
  /-- There is none. -/
  | nil : Children [] []
  /-- A run of text, with its references replaced. -/
  | text {raw content : List Char} {rest : List Token} {nodes : List Node}
      (h : unescape raw = .ok content) (hrest : Children rest nodes) :
      Children (.text raw :: rest) (.text (String.ofList content) :: nodes)
  /-- Character data, as it is. -/
  | data (content : List Char) {rest : List Token} {nodes : List Node} (hrest : Children rest nodes) :
      Children (.data content :: rest) (.text (String.ofList content) :: nodes)
  /-- What is no child. -/
  | aside {rest : List Token} {nodes : List Node} (hrest : Children rest nodes) :
      Children (.aside :: rest) nodes
  /-- An element without children. -/
  | empty {content : List Char} {tag : Tag} {rest : List Token} {nodes : List Node}
      (htag : Tag.read content = .ok tag) (hrest : Children rest nodes) :
      Children (.empty content :: rest) (.element tag [] :: nodes)
  /-- An element with what its tags enclose. -/
  | element {content : List Char} {tag : Tag} {inner rest : List Token} {children nodes : List Node}
      (htag : Tag.read content = .ok tag) (hinner : Children inner children)
      (hrest : Children rest nodes) :
      Children (.start content :: (inner ++ .stop (tagName content) :: rest))
        (.element tag children :: nodes)

/-- **What tokens mean outside all elements**: the elements that they are. Text and character data are
no part of them. -/
inductive TopLevel : List Token → List Element → Prop
  /-- There is none. -/
  | nil : TopLevel [] []
  /-- What begins and ends no element. -/
  | other {t : Token} {rest : List Token} {elements : List Element} (ht : t.isLeaf = true)
      (hbegins : t.beginsElement = false) (hrest : TopLevel rest elements) :
      TopLevel (t :: rest) elements
  /-- An element without children. -/
  | empty {content : List Char} {tag : Tag} {rest : List Token} {elements : List Element}
      (htag : Tag.read content = .ok tag) (hrest : TopLevel rest elements) :
      TopLevel (.empty content :: rest) (⟨tag, []⟩ :: elements)
  /-- An element with what its tags enclose. -/
  | element {content : List Char} {tag : Tag} {inner rest : List Token} {children : List Node}
      {elements : List Element} (htag : Tag.read content = .ok tag) (hinner : Children inner children)
      (hrest : TopLevel rest elements) :
      TopLevel (.start content :: (inner ++ .stop (tagName content) :: rest))
        (⟨tag, children⟩ :: elements)

section

variable {ts : List Token} {nodes : List Node} {elements : List Element} {b : Builder}
  {o : OpenElement} {stack : List OpenElement} {root? : Option Element} {document : String}

theorem Children.closed (h : Children ts nodes) : Closed ts := by
  induction h with
  | nil => exact .nil
  | text _ _ ih | data _ _ ih | aside _ ih | empty _ _ ih => exact .leaf rfl ih
  | element _ _ _ ihinner ihrest => exact .element _ ihinner ihrest

theorem TopLevel.closed (h : TopLevel ts elements) : Closed ts := by
  induction h with
  | nil => exact .nil
  | other ht _ _ ih => exact .leaf ht ih
  | empty _ _ ih => exact .leaf rfl ih
  | element _ hinner _ ih => exact .element _ hinner.closed ih

/-- There is an element outside all others if a token begins one. -/
theorem TopLevel.eq_nil_iff (h : TopLevel ts elements) :
    elements = [] ↔ ∀ t ∈ ts, t.beginsElement = false := by
  induction h with
  | nil => simp
  | other _ hbegins _ ih => rw [ih, List.forall_mem_cons, and_iff_right hbegins]
  | empty | element => simp [Token.beginsElement]

/-! ## The tree of the elements -/

namespace Builder

/-- A tag that opens an element of the tree. -/
theorem add_start {content : List Char} {tag : Tag} (h : Tag.read content = .ok tag) (b : Builder) :
    b.add (.start content) = .ok { b with stack := ⟨tag, []⟩ :: b.stack } :=
  bind_eq_ok_iff.2 ⟨tag, h, rfl⟩

/-- A tag that is an element of its own. -/
theorem add_empty {content : List Char} {tag : Tag} (h : Tag.read content = .ok tag) (b : Builder) :
    b.add (.empty content) = .ok (b.attach ⟨tag, []⟩) :=
  bind_eq_ok_iff.2 ⟨tag, h, rfl⟩

/-- Text inside an element. -/
theorem add_text {raw content : List Char} (h : unescape raw = .ok content) :
    (⟨o :: stack, root?⟩ : Builder).add (.text raw) =
      .ok ⟨⟨o.tag, .text (String.ofList content) :: o.children⟩ :: stack, root?⟩ := by
  rw [add, h]
  rfl

theorem foldlM_add_cons {b b' : Builder} {t : Token} (h : b.add t = .ok b') (ts : List Token) :
    (t :: ts).foldlM add b = ts.foldlM add b' := by
  rw [List.foldlM_cons, h]
  rfl

/-- **An element is added** by its start tag, what adds its children, and an end tag. -/
theorem foldlM_add_element {content name : List Char} {tag : Tag} {children : List Node}
    {inner rest : List Token} (htag : Tag.read content = .ok tag)
    (hinner : inner.foldlM add ⟨⟨tag, []⟩ :: b.stack, b.root?⟩ =
      .ok ⟨⟨tag, children.reverse ++ []⟩ :: b.stack, b.root?⟩) :
    (.start content :: (inner ++ .stop name :: rest)).foldlM add b =
      rest.foldlM add (b.attach ⟨tag, children⟩) := by
  have hend : (⟨⟨tag, children.reverse ++ []⟩ :: b.stack, b.root?⟩ : Builder).add (.stop name) =
      .ok (b.attach ⟨tag, children⟩) := by
    simp [add]
  rw [foldlM_add_cons (add_start htag b), List.foldlM_append, hinner]
  exact foldlM_add_cons hend rest

end Builder

/-- **The tree inside an element** gets the children that the tokens are. -/
theorem Children.foldlM_add (h : Children ts nodes) (o : OpenElement) (stack : List OpenElement)
    (root? : Option Element) :
    ts.foldlM Builder.add ⟨o :: stack, root?⟩ =
      .ok ⟨⟨o.tag, nodes.reverse ++ o.children⟩ :: stack, root?⟩ := by
  induction h generalizing o stack with
  | nil => rfl
  | text h _ ih =>
      rw [Builder.foldlM_add_cons (Builder.add_text h), ih, List.reverse_cons, List.append_assoc]
      rfl
  | data content _ ih =>
      rw [Builder.foldlM_add_cons rfl, Builder.addText, ih, List.reverse_cons, List.append_assoc]
      rfl
  | aside _ ih => rw [Builder.foldlM_add_cons rfl, ih]
  | empty htag _ ih =>
      rw [Builder.foldlM_add_cons (Builder.add_empty htag _), Builder.attach, ih, List.reverse_cons,
        List.append_assoc]
      rfl
  | element htag _ _ ihinner ihrest =>
      rw [Builder.foldlM_add_element htag (ihinner _ _), Builder.attach, ihrest, List.reverse_cons,
        List.append_assoc]
      rfl

/-- Outside all elements, a token that neither begins nor ends one changes nothing. -/
theorem Builder.add_of_outside {t : Token} (ht : t.isLeaf = true) (hbegins : t.beginsElement = false)
    (root? : Option Element) : (⟨[], root?⟩ : Builder).add t = .ok ⟨[], root?⟩ := by
  cases t with
  | start | stop => cases ht
  | empty => cases hbegins
  | text | data | aside => rfl

/-- **The tree outside all elements** has the first element that the tokens are, unless it had one. -/
theorem TopLevel.foldlM_add (h : TopLevel ts elements) (root? : Option Element) :
    ts.foldlM Builder.add ⟨[], root?⟩ = .ok ⟨[], root?.or elements.head?⟩ := by
  induction h generalizing root? with
  | nil => simp [pure, Except.pure]
  | other ht hbegins _ ih =>
      rw [Builder.foldlM_add_cons (Builder.add_of_outside ht hbegins root?), ih]
  | empty htag _ ih =>
      rw [Builder.foldlM_add_cons (Builder.add_empty htag _), Builder.attach, ih, Option.or_assoc,
        Option.some_or]
      rfl
  | element htag hinner _ ih =>
      rw [Builder.foldlM_add_element htag (hinner.foldlM_add _ _ _), Builder.attach, ih, Option.or_assoc,
        Option.some_or]
      rfl

/-- **An element that was added** has the children that the tokens between its tags are. -/
theorem Builder.exists_of_foldlM_add_element {content name : List Char} {inner rest : List Token}
    {b' : Builder}
    (hinner : ∀ (o : OpenElement) (stack : List OpenElement) (b₁ : Builder),
      inner.foldlM add ⟨o :: stack, b.root?⟩ = .ok b₁ → ∃ children, Children inner children)
    (h : (.start content :: (inner ++ .stop name :: rest)).foldlM add b = .ok b') :
    ∃ tag children, Tag.read content = .ok tag ∧ Children inner children ∧
      rest.foldlM add (b.attach ⟨tag, children⟩) = .ok b' := by
  obtain ⟨b₁, hadd, hrest⟩ := foldlM_cons_eq_ok_iff.1 h
  obtain ⟨tag, htag, hreturn⟩ := bind_eq_ok_iff.1 hadd
  cases hreturn
  obtain ⟨b₂, hb₂, -⟩ := foldlM_append_eq_ok_iff.1 hrest
  obtain ⟨children, hchildren⟩ := hinner _ _ _ hb₂
  refine ⟨tag, children, htag, hchildren, ?_⟩
  rw [← foldlM_add_element htag (hchildren.foldlM_add _ _ _), h]

/-- Tokens that close what they open are children, if they can be added inside an element. -/
theorem Closed.exists_children (h : Closed ts)
    (hb : ts.foldlM Builder.add ⟨o :: stack, root?⟩ = .ok b) : ∃ nodes, Children ts nodes := by
  induction h generalizing o stack b with
  | nil => exact ⟨[], .nil⟩
  | @leaf t rest ht _ ih =>
      obtain ⟨b₁, hadd, hrest⟩ := foldlM_cons_eq_ok_iff.1 hb
      cases t with
      | start | stop => cases ht
      | text raw =>
          rcases hcontent : unescape raw with e | content
          · rw [Builder.add, hcontent] at hadd
            cases hadd
          · obtain rfl := Except.ok.inj ((Builder.add_text hcontent).symm.trans hadd)
            obtain ⟨nodes, hnodes⟩ := ih hrest
            exact ⟨_, .text hcontent hnodes⟩
      | empty content =>
          obtain ⟨tag, htag, hreturn⟩ := bind_eq_ok_iff.1 hadd
          cases hreturn
          obtain ⟨nodes, hnodes⟩ := ih hrest
          exact ⟨_, .empty htag hnodes⟩
      | data content =>
          cases hadd
          obtain ⟨nodes, hnodes⟩ := ih hrest
          exact ⟨_, .data content hnodes⟩
      | aside =>
          cases hadd
          obtain ⟨nodes, hnodes⟩ := ih hrest
          exact ⟨nodes, .aside hnodes⟩
  | element content _ _ ihinner ihrest =>
      obtain ⟨tag, children, htag, hchildren, hrest⟩ :=
        Builder.exists_of_foldlM_add_element (fun _ _ _ => ihinner) hb
      obtain ⟨nodes, hnodes⟩ := ihrest hrest
      exact ⟨_, .element htag hchildren hnodes⟩

/-- Tokens that close what they open are elements, if they can be added outside all elements. -/
theorem Closed.exists_topLevel (h : Closed ts) (hb : ts.foldlM Builder.add ⟨[], root?⟩ = .ok b) :
    ∃ elements, TopLevel ts elements := by
  induction h generalizing root? b with
  | nil => exact ⟨[], .nil⟩
  | @leaf t rest ht _ ih =>
      rcases hbegins : t.beginsElement with _ | _
      · rw [Builder.foldlM_add_cons (Builder.add_of_outside ht hbegins root?)] at hb
        obtain ⟨elements, helements⟩ := ih hb
        exact ⟨elements, .other ht hbegins helements⟩
      · obtain ⟨b₁, hadd, hrest⟩ := foldlM_cons_eq_ok_iff.1 hb
        cases t with
        | start => cases ht
        | text | stop | data | aside => cases hbegins
        | empty content =>
            obtain ⟨tag, htag, hreturn⟩ := bind_eq_ok_iff.1 hadd
            cases hreturn
            obtain ⟨elements, helements⟩ := ih hrest
            exact ⟨_, .empty htag helements⟩
  | element content hinner _ _ ihrest =>
      obtain ⟨tag, children, htag, hchildren, hrest⟩ :=
        Builder.exists_of_foldlM_add_element (fun _ _ _ => hinner.exists_children) hb
      obtain ⟨elements, helements⟩ := ihrest hrest
      exact ⟨_, .element htag hchildren helements⟩

/-! ## The root -/

/-- **The root of a document** is its first element outside all others. -/
theorem parse_eq_ok_iff_topLevel {root : Element} :
    parse document = .ok root ↔
      ∃ ts others, Token.scan document = (ts, none) ∧ TopLevel ts (root :: others) := by
  rw [parse_eq_ok_iff_foldlM]
  constructor
  · rintro ⟨ts, hpasses, b, hb, hroot⟩
    obtain ⟨hscan, hnested⟩ := wellNested_eq_iff.1 hpasses
    obtain ⟨names, hnames⟩ := nested_eq_none_iff.1 hnested
    have hopen := leavesOpen_of_foldlM_add hnames hb
    rcases hstack : b.openNames with _ | ⟨name, names⟩
    · rw [hstack] at hopen
      obtain ⟨elements, helements⟩ := hopen.closed_of_nil.exists_topLevel hb
      obtain rfl := Except.ok.inj ((helements.foldlM_add none).symm.trans hb)
      rcases elements with _ | ⟨e, others⟩
      · cases hroot
      · cases hroot
        exact ⟨ts, others, hscan, helements⟩
    · rw [Builder.finish_of_openNames_cons hstack] at hroot
      cases hroot
  · rintro ⟨ts, others, hscan, helements⟩
    exact ⟨ts, wellNested_eq_iff.2 ⟨hscan, (LeavesOpen.closed helements.closed).nested_eq_none⟩,
      _, helements.foldlM_add none, rfl⟩

/-- The root of a document that is read through is the first element that its tokens are. -/
theorem ReadsThrough.parse_eq_ok_iff_topLevel (h : ReadsThrough document ts) {root : Element} :
    parse document = .ok root ↔ ∃ others, TopLevel ts (root :: others) := by
  rw [Xml.parse_eq_ok_iff_topLevel]
  constructor
  · rintro ⟨ts', others, hscan, helements⟩
    obtain rfl := (Prod.mk.inj (hscan.symm.trans h.scan)).1
    exact ⟨others, helements⟩
  · rintro ⟨others, helements⟩
    exact ⟨ts, others, h.scan, helements⟩

/-- **A document has a root** if it is read through, all is closed and there is an element. -/
theorem ReadsThrough.exists_root_iff (h : ReadsThrough document ts) :
    (∃ root, parse document = .ok root) ↔ Closed ts ∧ ∃ t ∈ ts, t.beginsElement = true := by
  constructor
  · rintro ⟨root, hroot⟩
    obtain ⟨others, helements⟩ := h.parse_eq_ok_iff_topLevel.1 hroot
    refine ⟨helements.closed, ?_⟩
    have hne : ¬ ∀ t ∈ ts, t.beginsElement = false := fun hnone => by
      cases helements.eq_nil_iff.2 hnone
    simpa using hne
  · rintro ⟨hclosed, t, ht, hbegins⟩
    obtain ⟨b, hb, -, -⟩ := h.parse_eq_finish
    obtain ⟨elements, helements⟩ := hclosed.exists_topLevel hb
    rcases elements with _ | ⟨root, others⟩
    · rw [helements.eq_nil_iff.1 rfl t ht] at hbegins
      cases hbegins
    · exact ⟨root, h.parse_eq_ok_iff_topLevel.2 ⟨others, helements⟩⟩

/-- A document without an element has no root. -/
theorem ReadsThrough.parse_eq_noRoot (h : ReadsThrough document ts) (hclosed : Closed ts)
    (hnone : ∀ t ∈ ts, t.beginsElement = false) : parse document = .error .noRoot := by
  obtain ⟨b, hb, -, hfinish⟩ := h.parse_eq_finish
  obtain ⟨elements, helements⟩ := hclosed.exists_topLevel hb
  obtain rfl := helements.eq_nil_iff.2 hnone
  obtain rfl := Except.ok.inj ((helements.foldlM_add none).symm.trans hb)
  exact hfinish

/-- **A document that leaves elements open** fails with the innermost one. -/
theorem ReadsThrough.parse_eq_unclosed (h : ReadsThrough document ts) {name : List Char}
    {names : List (List Char)} (hopen : LeavesOpen (name :: names) ts) :
    parse document = .error (.unclosed (String.ofList name)) := by
  obtain ⟨b, -, hnames, hfinish⟩ := h.parse_eq_finish
  rw [hfinish, Builder.finish_of_openNames_cons (hnames.eq_foldl.trans hopen.eq_foldl.symm)]

/-- A document whose tokens are elements is read through. -/
theorem TopLevel.readsThrough (h : TopLevel ts elements) (hscan : Token.scan document = (ts, none)) :
    ReadsThrough document ts where
  scan := hscan
  nested := ⟨[], .closed h.closed⟩
  readable := (exists_foldlM_add_iff (.closed h.closed)).1 ⟨_, h.foldlM_add none⟩

/-- **What becomes of a document.** It is read through unless the reader reports a defect. If it is, then it
has a root exactly if all elements are closed and there is one, and the root is the first of the elements
outside all others; if elements are open at the end, the failure names the innermost one. At every token the
tree is in step with the reader, so that no document ends an element that was never begun. -/
theorem parse_decided (document : String) :
    ((∃ ts, ReadsThrough document ts) ↔ ∀ e, parse document = .error e → ¬ e.OfReader) ∧
    (∀ ts, ReadsThrough document ts →
      ((∃ root, parse document = .ok root) ↔ Closed ts ∧ ∃ t ∈ ts, t.beginsElement = true) ∧
      (∀ root, parse document = .ok root ↔ ∃ others, TopLevel ts (root :: others)) ∧
      (∀ name names, LeavesOpen (name :: names) ts →
        (parse document).mapError RegistryError.ofDocument =
          .error (.malformed s!"<{String.ofList name}>" "a closing tag")) ∧
      (Closed ts → (∀ t ∈ ts, t.beginsElement = false) →
        (parse document).mapError RegistryError.ofDocument =
          .error (.malformed "document" "a root element")) ∧
      ∀ before, before <+: ts → ∃ b, before.foldlM Builder.add Builder.empty = .ok b ∧ InStep b before) ∧
    (parse document).mapError RegistryError.ofDocument ≠
      .error (.malformed "document" "a matching start tag") := by
  refine ⟨exists_readsThrough_iff, fun ts h => ⟨h.exists_root_iff, fun root => h.parse_eq_ok_iff_topLevel,
    fun name names hopen => ?_, fun hclosed hnone => ?_, fun before => h.exists_inStep⟩, fun hstart => ?_⟩
  · rw [h.parse_eq_unclosed hopen]
    rfl
  · rw [h.parse_eq_noRoot hclosed hnone]
    rfl
  · obtain ⟨e, he, heq⟩ := mapError_eq_error_iff.1 hstart
    cases e with
    | noStart => exact parse_ne_noStart document he
    | notWellFormed | «attributes» => cases heq
    | unclosed name =>
        have hend := (RegistryError.malformed.inj heq).2
        revert hend
        decide
    | noRoot =>
        have hend := (RegistryError.malformed.inj heq).2
        revert hend
        decide

/-- A document with text, a wrong reference and character data outside its elements, and with a second
element. -/
def severalElements : String :=
  "\n<r a='1'>t &lt; u<!-- c --><e/></r><![CDATA[d]]> & <s></s>"

/-- The tokens of `severalElements`. -/
def severalTokens : List Token := [
  .text ['\n'],
  .start ['r', ' ', 'a', '=', '\x27', '1', '\x27'],
  .text ['t', ' ', '&', 'l', 't', ';', ' ', 'u'],
  .aside,
  .empty ['e'],
  .stop ['r'],
  .data ['d'],
  .text [' ', '&', ' '],
  .start ['s'],
  .stop ['s']]

/-- The elements of `severalElements`. -/
theorem topLevel_severalTokens :
    TopLevel severalTokens
      [⟨⟨"r", [("a", "1")]⟩, [.text "t < u", .element ⟨"e", []⟩ []]⟩, ⟨⟨"s", []⟩, []⟩] := by
  have hreferences : unescape ['t', ' ', '&', 'l', 't', ';', ' ', 'u'] = .ok ['t', ' ', '<', ' ', 'u'] := by
    decide
  have hinner : Children [.text ['t', ' ', '&', 'l', 't', ';', ' ', 'u'], .aside, .empty ['e']]
      [.text "t < u", .element ⟨"e", []⟩ []] :=
    .text hreferences (.aside (.empty (by decide) .nil))
  exact .other rfl rfl (.element (by decide) hinner
    (.other rfl rfl (.other rfl rfl (.element (by decide) .nil .nil))))

/-- A document with two elements, and one that leaves two open. -/
theorem parse_decided_sample :
    ReadsThrough severalElements severalTokens ∧
    parse severalElements = .ok ⟨⟨"r", [("a", "1")]⟩, [.text "t < u", .element ⟨"e", []⟩ []]⟩ ∧
    (parse "<a><b>").mapError RegistryError.ofDocument = .error (.malformed "<b>" "a closing tag") := by
  have hread : ReadsThrough severalElements severalTokens :=
    topLevel_severalTokens.readsThrough (by decide +kernel)
  have hopen : LeavesOpen [['b'], ['a']] [.start ['a'], .start ['b']] :=
    ((LeavesOpen.closed .nil).start ['a']).start ['b']
  have hunclosed : ReadsThrough "<a><b>" [.start ['a'], .start ['b']] :=
    ⟨by decide +kernel, ⟨_, hopen⟩, (exists_foldlM_add_iff hopen).1 ⟨_, rfl⟩⟩
  obtain ⟨-, hseveral, -⟩ := parse_decided severalElements
  obtain ⟨-, hend, -⟩ := parse_decided "<a><b>"
  exact ⟨hread, ((hseveral _ hread).2.1 _).2 ⟨_, topLevel_severalTokens⟩,
    (hend _ hunclosed).2.2.1 ['b'] [['a']] hopen⟩

end

end LayerHeaders.Xml
