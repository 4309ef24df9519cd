import LayerHeaders.Proofs.Xml.OpenElements
import Mathlib.Data.List.Infix
import Mathlib.Data.List.Induction

/-!
# Reading a document to its end

The reader of a document cuts it into tokens, checks the nesting of its tags, and reads attributes and
references where they are asked for. It reports the first defect that it meets. In a document without one,
every token can be added to the tree, and the tree ends with the elements that the tokens leave open.

* `ReadsThrough`: the documents in which the reader finds no defect, and their tokens.
* `Builder.ofReader_of_add`, `ofReader_of_foldlM_add`: a token or a run of tokens fails only with a defect of
  the reader.
* `Builder.exists_add_iff`, `exists_foldlM_add_iff`: which tokens can be added.
* `exists_readsThrough_iff`: a document is read through, or it fails with a defect of the reader.
* `ReadsThrough.exists_inStep`: at every token, the tree holds the elements that the reader has open.
-/

namespace LayerHeaders.Xml

/-! ## Reading to the end -/

/-- Whether a token can be read where elements of these names are open: the attributes of a tag have no
defect, nor have the references in a text. Text outside all elements is not looked at. -/
def Token.Readable (names : List (List Char)) : Token → Prop
  | .text raw => names ≠ [] → ∃ content, unescape raw = .ok content
  | .start content | .empty content => ∃ tag, Tag.read content = .ok tag
  | .stop _ | .data _ | .aside => True

/-- **Whether the reader finds no defect in a document**: it is cut into tokens to its end, each end tag is
the one of the innermost open element, and each token can be read where it stands. -/
structure ReadsThrough (document : String) (ts : List Token) : Prop where
  /-- These are all its tokens. -/
  scan : Token.scan document = (ts, none)
  /-- They are nested. -/
  nested : ∃ names, LeavesOpen names ts
  /-- They can be read. -/
  readable : ∀ before t names, before ++ [t] <+: ts → LeavesOpen names before → t.Readable names

/-- Whether a failure is one that the reader reports. -/
def DocumentError.OfReader : DocumentError → Prop
  | .notWellFormed _ | .attributes _ => True
  | .unclosed _ | .noRoot | .noStart => False

section

variable {b b' : Builder} {t : Token} {ts : List Token} {names : List (List Char)} {e : DocumentError}
  {document : String}

/-- The attributes of a tag fail with a defect of the reader. -/
theorem ofReader_of_attributesFrom {found : List FoundAttribute} {expected : Expectation} {pos : ℕ}
    {cs : List Char} (h : attributesFrom found expected pos cs = .error e) : e.OfReader := by
  induction cs generalizing found expected pos with
  | nil =>
      cases expected with
      | «attribute» => cases h
      | _ =>
          cases h
          trivial
  | cons c cs ih =>
      unfold attributesFrom at h
      cases expected with
      | «attribute» =>
          dsimp only at h
          split_ifs at h
          · exact ih h
          · exact ih h
      | quote start key =>
          dsimp only at h
          split_ifs at h
          · exact ih h
          · exact ih h
          · cases h
            trivial
      | value start key mark rest =>
          dsimp only at h
          split_ifs at h
          · split at h
            · exact ih h
            · cases h
              trivial
          · exact ih h
      | key start rest =>
          dsimp only at h
          split_ifs at h
          · split at h
            · exact ih h
            · cases h
              trivial
          · exact ih h
          · exact ih h
      | equals start key =>
          dsimp only at h
          split_ifs at h
          · split at h
            · exact ih h
            · cases h
              trivial
          · exact ih h
          · cases h
            trivial

/-- A tag fails with a defect of the reader. -/
theorem ofReader_of_read {content : List Char} (h : Tag.read content = .error e) : e.OfReader := by
  rcases bind_eq_error_iff.1 h with hfound | ⟨found, -, hreturn⟩
  · exact ofReader_of_attributesFrom hfound
  · cases hreturn

namespace Builder

theorem openNames_eq_nil_iff : b.openNames = [] ↔ b.stack = [] :=
  List.map_eq_nil_iff

/-- **The step on the tree fails** only with a defect of the reader, if an end tag closes something. -/
theorem ofReader_of_add (hopen : ∀ name, t = .stop name → b.openNames ≠ []) (h : b.add t = .error e) :
    e.OfReader := by
  cases t with
  | text raw =>
      rw [add] at h
      split at h
      · cases h
      · split at h
        · cases h
        · cases h
          trivial
  | start content | empty content =>
      rcases bind_eq_error_iff.1 h with hread | ⟨tag, -, hreturn⟩
      · exact ofReader_of_read hread
      · cases hreturn
  | stop name =>
      rcases b with ⟨_ | ⟨o, stack⟩, root?⟩
      · exact absurd rfl (hopen name rfl)
      · cases h
  | data | aside => cases h

/-- **A token can be added** if it can be read, and closes something if it is an end tag. -/
theorem exists_add_iff (hopen : ∀ name, t = .stop name → b.openNames ≠ []) :
    (∃ b', b.add t = .ok b') ↔ t.Readable b.openNames := by
  have hreturn : ∀ {content : List Char} {f : Tag → Builder},
      (∃ b', (Tag.read content >>= fun tag => .ok (f tag)) = .ok b') ↔
        ∃ tag, Tag.read content = .ok tag := by
    intro content f
    simp only [bind_eq_ok_iff, Except.ok.injEq]
    exact ⟨fun ⟨_, tag, htag, _⟩ => ⟨tag, htag⟩, fun ⟨tag, htag⟩ => ⟨f tag, tag, htag, rfl⟩⟩
  cases t with
  | text raw =>
      rw [Token.Readable, ne_eq, openNames_eq_nil_iff, add]
      rcases hstack : b.stack with _ | ⟨o, stack⟩
      · simp
      · rcases unescape raw with cause | content
        · simp
        · simp
  | start content | empty content => exact hreturn
  | stop name =>
      rcases b with ⟨_ | ⟨o, stack⟩, root?⟩
      · exact absurd rfl (hopen name rfl)
      · exact ⟨fun _ => trivial, fun _ => ⟨_, rfl⟩⟩
  | data | aside => exact ⟨fun _ => trivial, fun _ => ⟨_, rfl⟩⟩

end Builder

/-- An end tag closes something in the tree if it does in the document. -/
theorem openNames_ne_nil_of_stop (h : LeavesOpen names (ts ++ [t]))
    (hb : ts.foldlM Builder.add Builder.empty = .ok b) : ∀ name, t = .stop name → b.openNames ≠ [] := by
  rintro name rfl hnil
  obtain ⟨names', hnames'⟩ := h.exists_of_append
  have hhead := (leavesOpen_of_foldlM_add hnames' hb).head?_of_stop h
  rw [hnil] at hhead
  cases hhead

/-- **The run on the tree** goes on to the end if each token can be read where it stands. -/
theorem exists_foldlM_add_iff (h : LeavesOpen names ts) :
    (∃ b, ts.foldlM Builder.add Builder.empty = .ok b) ↔
      ∀ before t names, before ++ [t] <+: ts → LeavesOpen names before → t.Readable names := by
  induction ts using List.reverseRecOn generalizing names with
  | nil =>
      refine ⟨fun _ before t names hwithin => ?_, fun _ => ⟨Builder.empty, rfl⟩⟩
      simp at hwithin
  | append_singleton ts t ih =>
      obtain ⟨names', hnames'⟩ := h.exists_of_append
      have hlast : ∀ {b}, ts.foldlM Builder.add Builder.empty = .ok b →
          ((∃ b', b.add t = .ok b') ↔ ∀ names, LeavesOpen names ts → t.Readable names) := by
        intro b hb
        rw [Builder.exists_add_iff (openNames_ne_nil_of_stop h hb)]
        have hopen := leavesOpen_of_foldlM_add hnames' hb
        refine ⟨fun ht names hnames => ?_, fun ht => ht _ hopen⟩
        rwa [hnames.eq_foldl, ← hopen.eq_foldl]
      constructor
      · rintro ⟨b', hb'⟩ before u names hwithin hnames
        obtain ⟨b, hb, hrest⟩ := foldlM_append_eq_ok_iff.1 hb'
        obtain ⟨b₁, hadd, -⟩ := foldlM_cons_eq_ok_iff.1 hrest
        rcases List.prefix_concat_iff.1 hwithin with heq | hwithin
        · obtain ⟨rfl, hu⟩ := List.append_inj' heq rfl
          obtain rfl := List.singleton_inj.1 hu
          exact (hlast hb).1 ⟨b₁, hadd⟩ names hnames
        · exact (ih hnames').1 ⟨b, hb⟩ before u names hwithin hnames
      · intro hall
        obtain ⟨b, hb⟩ := (ih hnames').2 fun before u names hwithin =>
          hall before u names (hwithin.trans (List.prefix_append ts [t]))
        obtain ⟨b', hb'⟩ := (hlast hb).2 fun names => hall ts t names List.prefix_rfl
        exact ⟨b', foldlM_append_eq_ok_iff.2 ⟨b, hb, foldlM_cons_eq_ok_iff.2 ⟨b', hb', rfl⟩⟩⟩

/-- **The run on the tree fails** only with a defect of the reader. -/
theorem ofReader_of_foldlM_add (h : LeavesOpen names ts)
    (he : ts.foldlM Builder.add Builder.empty = .error e) : e.OfReader := by
  obtain ⟨before, t, after, b, rfl, hb, hadd⟩ := foldlM_eq_error_iff.1 he
  rw [← List.singleton_append, ← List.append_assoc] at h
  obtain ⟨names', hnames'⟩ := h.exists_of_append
  exact Builder.ofReader_of_add (openNames_ne_nil_of_stop hnames' hb) hadd

/-! ## What becomes of a document -/

/-- Parsing a document is building the tree, reporting a defect of the reader, and finishing. -/
theorem parse_eq (document : String) :
    parse document = (wellNested document).1.foldlM Builder.add Builder.empty >>= fun b =>
      match (wellNested document).2 with
      | some e => .error (.notWellFormed e)
      | none => b.finish :=
  rfl

/-- What is read of a document leaves some elements open. -/
theorem exists_leavesOpen_wellNested (document : String) :
    ∃ names, LeavesOpen names (wellNested document).1 :=
  exists_leavesOpen_nestedFrom (.closed .nil) (Token.scan document).1

/-- **A document that is read through** is parsed to what the tree is finished to, and the tree holds the
elements that its tokens leave open. -/
theorem ReadsThrough.parse_eq_finish (h : ReadsThrough document ts) :
    ∃ b, ts.foldlM Builder.add Builder.empty = .ok b ∧ LeavesOpen b.openNames ts ∧
      parse document = b.finish := by
  obtain ⟨names, hnames⟩ := h.nested
  obtain ⟨b, hb⟩ := (exists_foldlM_add_iff hnames).2 h.readable
  refine ⟨b, hb, leavesOpen_of_foldlM_add hnames hb, ?_⟩
  rw [parse_eq, wellNested_eq_iff.2 ⟨h.scan, hnames.nested_eq_none⟩, hb]
  rfl

namespace Builder

/-- A tree with open elements is finished with the innermost one. -/
theorem finish_of_openNames_cons {name : List Char} (h : b.openNames = name :: names) :
    b.finish = .error (.unclosed (String.ofList name)) := by
  rcases b with ⟨_ | ⟨o, stack⟩, root?⟩
  · cases h
  · obtain ⟨rfl, -⟩ := List.cons.inj h
    rw [String.ofList_toList]
    rfl

/-- A tree is not finished with a defect of the reader. -/
theorem not_ofReader_of_finish (h : b.finish = .error e) : ¬ e.OfReader ∧ e ≠ .noStart := by
  rcases b with ⟨_ | ⟨o, stack⟩, _ | root⟩
  · cases h
    exact ⟨id, nofun⟩
  · cases h
  all_goals
    cases h
    exact ⟨id, nofun⟩

end Builder

/-- **A document is read through** if it is parsed, or fails for another reason than a defect of the
reader. -/
theorem exists_readsThrough_iff :
    (∃ ts, ReadsThrough document ts) ↔ ∀ e, parse document = .error e → ¬ e.OfReader := by
  constructor
  · rintro ⟨ts, h⟩ e he
    obtain ⟨b, -, -, hfinish⟩ := h.parse_eq_finish
    exact (Builder.not_ofReader_of_finish (hfinish.symm.trans he)).1
  · intro h
    rw [parse_eq] at h
    obtain ⟨names, hnames⟩ := exists_leavesOpen_wellNested document
    rcases hpasses : wellNested document with ⟨ts, defect?⟩
    rw [hpasses] at h hnames
    rcases hb : ts.foldlM Builder.add Builder.empty with e | b
    · exact absurd (ofReader_of_foldlM_add hnames hb) (h e (bind_eq_error_iff.2 (Or.inl hb)))
    · rcases defect? with _ | e
      · exact ⟨ts, (wellNested_eq_iff.1 hpasses).1, ⟨names, hnames⟩,
          (exists_foldlM_add_iff hnames).1 ⟨b, hb⟩⟩
      · exact absurd trivial (h _ (bind_eq_error_iff.2 (Or.inr ⟨b, hb, rfl⟩)))

/-- No element ends that was never begun. -/
theorem parse_ne_noStart (document : String) : parse document ≠ .error .noStart := by
  intro h
  have hread : ∀ e, parse document = .error e → ¬ e.OfReader := by
    intro e he
    obtain rfl := Except.error.inj (h.symm.trans he)
    exact id
  obtain ⟨ts, hts⟩ := exists_readsThrough_iff.2 hread
  obtain ⟨b, -, -, hfinish⟩ := hts.parse_eq_finish
  exact (Builder.not_ofReader_of_finish (hfinish.symm.trans h)).2 rfl

/-! ## At every token -/

/-- **Whether a tree is in step with the reader** after some tokens: its unfinished elements are those that
the tokens leave open, and the check of the nesting goes on with their names, whatever comes next. -/
structure InStep (b : Builder) (before : List Token) : Prop where
  /-- The tree holds the open elements. -/
  tree : LeavesOpen b.openNames before
  /-- The reader holds their names. -/
  reader : ∀ after, nested (before ++ after) = nestedFrom b.openNames before.reverse after

/-- **The tree is in step with the reader at every token.** -/
theorem ReadsThrough.exists_inStep (h : ReadsThrough document ts) {before : List Token}
    (hwithin : before <+: ts) :
    ∃ b, before.foldlM Builder.add Builder.empty = .ok b ∧ InStep b before := by
  obtain ⟨after, rfl⟩ := hwithin
  obtain ⟨names, hnames⟩ := h.nested
  obtain ⟨names', hbefore⟩ := hnames.exists_of_append
  obtain ⟨b, hb⟩ := (exists_foldlM_add_iff hbefore).2 fun earlier t names hearlier =>
    h.readable earlier t names (hearlier.trans (List.prefix_append before after))
  have hopen := leavesOpen_of_foldlM_add hbefore hb
  exact ⟨b, hb, hopen, hopen.nested⟩

end

end LayerHeaders.Xml
