import LayerHeaders.Proofs.Xml.Insertion
import LayerHeaders.Proofs.Xml.TagText

/-!
# Trees as they are written

A tree is written as text: runs of text with references in them, and elements as a start tag, the children
and an end tag. An element without children may be written as an empty-element tag instead. What is
written is read as the tree that was written, and text keeps every character.

* `Spells`: a text with the tokens it is cut into and the children that these add.
* `Spells.append`, `spells_text`, `spells_element`, `spells_empty`: what the parts of a text spell.
* `Regular`: the children that can be read back; no run of text is empty or next to another one.
* `Writes`: the texts that children may be written as.
* `parse_written`: what is written is read back.
-/

namespace LayerHeaders.Xml

/-! ## Spelling -/

/-- Adds a child to the innermost open element. Outside all elements, only the first one counts. -/
def Builder.addNode (b : Builder) : Node → Builder
  | .text s => b.addText s.toList
  | .element tag children => b.attach ⟨tag, children⟩

/-- The children of an open element after more of them. -/
theorem Builder.foldl_addNode (e : OpenElement) (stack : List OpenElement) (root? : Option Element)
    (nodes : List Node) :
    nodes.foldl addNode ⟨e :: stack, root?⟩ = ⟨⟨e.tag, nodes.reverse ++ e.children⟩ :: stack, root?⟩ := by
  induction nodes generalizing e with
  | nil => rfl
  | cons n nodes ih =>
      have hn : addNode ⟨e :: stack, root?⟩ n = ⟨⟨e.tag, n :: e.children⟩ :: stack, root?⟩ := by
        rcases n with s | ⟨tag, children⟩
        · simp [addNode, addText]
        · rfl
      rw [List.foldl_cons, hn, ih, List.reverse_cons, List.append_assoc]
      rfl

/-- **Whether a text spells children**: it is cut into tokens that add them, whatever is open. -/
structure Spells (cs : List Char) (ts : List Token) (nodes : List Node) : Prop where
  /-- The text is cut into the tokens. -/
  scan : Token.scanFrom [] cs = (ts, none)
  /-- The tokens add the children. -/
  run : ∀ b : Builder, b.run? ts = some (nodes.foldl Builder.addNode b)

theorem spells_nil : Spells [] [] [] where
  scan := by rw [Token.scanFrom]; rfl
  run := fun _ => rfl

section

variable {cs ds raw s inner : List Char} {ts us : List Token} {ms ns children : List Node} {tag : Tag}

/-- Two texts spell the children of both, unless a run of text goes over from the one to the other. -/
theorem Spells.append (h : Spells cs ts ms) (h' : Spells ds us ns)
    (hmeet : (∀ t ∈ ts.getLast?, t.isText = false) ∨ ∀ t ∈ us.head?, t.isText = false) :
    Spells (cs ++ ds) (ts ++ us) (ms ++ ns) where
  scan := by
    have hjoined : Token.joined ts us = ts ++ us := by
      rcases hmeet with hlast | hfirst
      · exact Token.joined_of_getLast hlast
      · exact Token.joined_of_head hfirst
    rw [Token.scanFrom_append h.scan, h'.scan, hjoined]
  run := by
    intro b
    rw [Builder.run?_append, h.run, Option.bind_some, h'.run, List.foldl_append]

/-- A run of text spells itself, with its references replaced. -/
theorem spells_text (hraw : raw ≠ []) (hmarkup : ∀ c ∈ raw, c ≠ '<') (h : unescape raw = .ok s) :
    Spells raw [.text raw] [.text (String.ofList s)] where
  scan := by
    obtain ⟨c, cs, rfl⟩ := List.exists_cons_of_ne_nil hraw
    obtain ⟨hc, hcs⟩ := List.forall_mem_cons.1 hmarkup
    have hpass : ∀ d ∈ cs, (d != '<') = true := fun d hd => bne_iff_ne.2 (hcs d hd)
    rw [Token.scanFrom_cons (Token.next_of_ne hc cs), List.takeWhile_eq_self_iff.2 hpass,
      List.dropWhile_eq_nil_iff.2 hpass, Token.scanFrom]
    rfl
  run := by
    rintro ⟨_ | ⟨e, stack⟩, root?⟩
    · -- text outside all elements is dropped
      rfl
    · rw [Builder.run?_cons, Builder.step?_text.2 ⟨s, h, rfl⟩, Builder.foldl_addNode]
      rfl

/-- A start tag as it is written. -/
def Tag.opened (tag : Tag) : List Char :=
  '<' :: (tag.written ++ ['>'])

/-- An end tag as it is written. -/
def Tag.closed (tag : Tag) : List Char :=
  '<' :: '/' :: (tag.name.toList ++ ['>'])

/-- An empty-element tag as it is written. -/
def Tag.alone (tag : Tag) : List Char :=
  '<' :: (tag.written ++ ['/', '>'])

/-- **The tags of an element spell it**, around what spells its children. -/
theorem spells_element (htag : tag.WellFormed) (h : Spells inner ts children) :
    Spells (tag.opened ++ inner ++ tag.closed)
      (.start tag.written :: (ts ++ [.stop tag.name.toList])) [.element tag children] where
  scan := by
    have hend : Token.scanFrom [] tag.closed = ([.stop tag.name.toList], none) := by
      rw [Tag.closed, Token.scanFrom_cons (Token.next_stop htag.name []), Token.scanFrom]
      rfl
    have hinside : Token.scanFrom [] (inner ++ tag.closed) = (ts ++ [.stop tag.name.toList], none) := by
      rw [Token.scanFrom_append h.scan, hend, Token.joined_of_head]
      intro t ht
      rw [← Option.some.inj ht]
      rfl
    have hstart := Token.scanFrom_cons (Token.next_start htag (inner ++ tag.closed))
    rw [hinside] at hstart
    rw [← hstart, Tag.opened]
    simp
  run := by
    intro b
    have hstart : b.step? (.start tag.written) = some { b with stack := ⟨tag, []⟩ :: b.stack } :=
      Builder.step?_eq_some_iff.2 ⟨rfl, bind_eq_ok_iff.2 ⟨tag, Tag.read_written htag, rfl⟩⟩
    have hend : (⟨⟨tag, children.reverse⟩ :: b.stack, b.root?⟩ : Builder).step?
        (.stop tag.name.toList) = some (b.attach ⟨tag, children⟩) := by
      simp [Builder.step?_eq_some_iff, Builder.admits, Builder.add]
    rw [Builder.run?_cons, hstart, Option.bind_some, Builder.run?_append, h.run, Builder.foldl_addNode,
      List.append_nil, Option.bind_some, Builder.run?_cons, hend]
    rfl

/-- An empty-element tag spells an element without children. -/
theorem spells_empty (htag : tag.WellFormed) :
    Spells tag.alone [.empty tag.written] [.element tag []] where
  scan := by
    rw [Tag.alone, Token.scanFrom_cons (Token.next_empty htag []), Token.scanFrom]
    rfl
  run := by
    intro b
    have hstep : b.step? (.empty tag.written) = some (b.attach ⟨tag, []⟩) :=
      Builder.step?_eq_some_iff.2 ⟨rfl, bind_eq_ok_iff.2 ⟨tag, Tag.read_written htag, rfl⟩⟩
    rw [Builder.run?_cons, hstep]
    rfl

end

/-! ## Trees that can be written -/

/-- **Whether children can be read back as they are**: their tags can be written, no run of text is empty,
and none follows another one. -/
inductive Regular : List Node → Prop
  /-- There are no children. -/
  | nil : Regular []
  /-- A run of text comes before other children. -/
  | text {s : String} {ns : List Node} (hs : s ≠ "") (hapart : ∀ t, ns.head? ≠ some (.text t))
      (h : Regular ns) : Regular (.text s :: ns)
  /-- An element comes before other children. -/
  | element {tag : Tag} {children ns : List Node} (htag : tag.WellFormed) (hchildren : Regular children)
      (h : Regular ns) : Regular (.element tag children :: ns)

/-- **Whether children may be written as a text.** Each element without children may be written in either
of two ways. -/
inductive Writes : List Node → List Char → Prop
  /-- No children are written as no text. -/
  | nil : Writes [] []
  /-- A run of text is written with references. -/
  | text (s : String) {ns : List Node} {cs : List Char} (h : Writes ns cs) :
      Writes (.text s :: ns) (escape s.toList ++ cs)
  /-- An element is written as a start tag, its children and an end tag. -/
  | element (tag : Tag) {children ns : List Node} {inner cs : List Char} (hchildren : Writes children inner)
      (h : Writes ns cs) : Writes (.element tag children :: ns) (tag.opened ++ inner ++ tag.closed ++ cs)
  /-- An element without children is written as an empty-element tag. -/
  | empty (tag : Tag) {ns : List Node} {cs : List Char} (h : Writes ns cs) :
      Writes (.element tag [] :: ns) (tag.alone ++ cs)

/-- Children can be written. -/
theorem exists_writes {ns : List Node} (h : Regular ns) : ∃ cs, Writes ns cs := by
  induction h with
  | nil => exact ⟨_, .nil⟩
  | text hs hapart _ ih =>
      obtain ⟨cs, hcs⟩ := ih
      exact ⟨_, .text _ hcs⟩
  | element htag _ _ ihchildren ih =>
      obtain ⟨inner, hinner⟩ := ihchildren
      obtain ⟨cs, hcs⟩ := ih
      exact ⟨_, .element _ hinner hcs⟩

/-- An element is written from its `<` on. -/
theorem head?_of_writes {tag : Tag} {children ns : List Node} {cs : List Char}
    (h : Writes (.element tag children :: ns) cs) : cs.head? = some '<' := by
  cases h with
  | element => rfl
  | empty => rfl

/-- **What is written spells the children** that were written, and it starts with text only if they do. -/
theorem exists_spells {ns : List Node} {cs : List Char} (hregular : Regular ns) (h : Writes ns cs) :
    ∃ ts, Spells cs ts ns ∧ ((∀ s, ns.head? ≠ some (.text s)) → ∀ t ∈ ts.head?, t.isText = false) := by
  induction h with
  | nil => exact ⟨[], spells_nil, fun _ t ht => nomatch ht⟩
  | text s _ ih =>
      cases hregular with
      | text hs hapart hns =>
          obtain ⟨ts, hts, hfirst⟩ := ih hns
          have hraw : escape s.toList ≠ [] := by
            intro hnil
            have hread := unescape_escape s.toList
            rw [hnil] at hread
            exact hs (String.toList_eq_nil_iff.1 (Except.ok.inj hread).symm)
          have htext := spells_text hraw (fun c hc => (ne_of_mem_escape hc).1) (unescape_escape s.toList)
          rw [String.ofList_toList] at htext
          exact ⟨_, htext.append hts (Or.inr (hfirst hapart)), fun hhead => absurd rfl (hhead s)⟩
  | element tag _ _ ihchildren ih =>
      cases hregular with
      | element htag hchildren hns =>
          obtain ⟨us, hus, -⟩ := ihchildren hchildren
          obtain ⟨ts, hts, -⟩ := ih hns
          refine ⟨_, (spells_element htag hus).append hts (Or.inl ?_), fun _ t ht => ?_⟩
          · intro t ht
            rw [← List.cons_append, List.getLast?_concat] at ht
            rw [← Option.some.inj ht]
            rfl
          · rw [← Option.some.inj ht]
            rfl
  | empty tag _ ih =>
      cases hregular with
      | element htag _ hns =>
          obtain ⟨ts, hts, -⟩ := ih hns
          refine ⟨_, (spells_empty htag).append hts (Or.inl ?_), fun _ t ht => ?_⟩
          · intro t ht
            rw [← Option.some.inj ht]
            rfl
          · rw [← Option.some.inj ht]
            rfl

/-! ## Reading back -/

/-- **What is written is read back.** Every tree that is regular can be written as a document, and reading
any document that it may be written as gives just that tree. -/
theorem parse_written {e : Element} (h : Regular [.element e.tag e.children]) :
    (∃ document : String, Writes [.element e.tag e.children] document.toList) ∧
      ∀ document : String, Writes [.element e.tag e.children] document.toList →
        parse document = .ok e := by
  constructor
  · obtain ⟨cs, hcs⟩ := exists_writes h
    exact ⟨String.ofList cs, by rwa [String.toList_ofList]⟩
  · intro document hdocument
    obtain ⟨ts, hts, -⟩ := exists_spells h hdocument
    refine parse_eq_ok_iff.2 ⟨ts, ?_, ?_⟩
    · -- a document that starts with a tag has no byte order mark
      have hmark : ∀ cs : List Char, cs.head? = some '<' → Token.dropMark cs = cs := by
        rintro (_ | ⟨c, cs⟩) hhead
        · rfl
        · cases hhead
          rfl
      rw [Token.scan, hmark document.toList (head?_of_writes hdocument)]
      exact hts.scan
    · rw [Builder.rootAfter?, hts.run]
      rfl

/-- An element with text around its children, two of which are empty. -/
def mixed : Element :=
  ⟨⟨"member", [("len", "a<\"b\">"), ("altlen", "'c'")]⟩,
    [.text "const ", .element ⟨"type", []⟩ [.text "char"], .text "\n & ", .element ⟨"name", []⟩ [],
      .element ⟨"comment", []⟩ []]⟩

/-- An element with text around its children is read back, from one of the documents that it may be
written as. -/
theorem parse_written_mixed :
    Regular [.element mixed.tag mixed.children] ∧
      parse "<member len=\"a&lt;&quot;b&quot;&gt;\" altlen=\"&apos;c&apos;\">const <type>char</type>
 &amp; <name></name><comment/></member>" = .ok mixed := by
  have hregular : Regular [.element mixed.tag mixed.children] := by
    refine .element (by decide) (.text (by decide) (by simp) (.element (by decide) ?_ ?_)) .nil
    · exact .text (by decide) (by simp) .nil
    · refine .text (by decide) (by simp) (.element (by decide) .nil ?_)
      exact .element (by decide) .nil .nil
  have hwrites : Writes [.element mixed.tag mixed.children] _ :=
    .element _ (.text _ (.element _ (.text _ .nil) (.text _ (.element _ .nil (.empty _ .nil))))) .nil
  refine ⟨hregular, (parse_written hregular).2 _ ?_⟩
  refine Eq.subst (motive := Writes [.element mixed.tag mixed.children]) ?_ hwrites
  decide +kernel

end LayerHeaders.Xml
