import LayerHeaders.Proofs.Xml.Building
import LayerHeaders.Proofs.Xml.Scanning

/-!
# Markup put into a document

Markup that is put at a place inside an element adds its children there and changes nothing else. The
place may be in the middle of a run of text, which then becomes two.

* `unescape_append`: the references of a text in two parts.
* `BreaksOff`: a start of a document, up to a place inside an element.
* `IsMarkup`: a text that adds the same children wherever it stands.
* `parse_insert`: the tree of a document with markup put in.
-/

namespace LayerHeaders.Xml

/-! ## References of a text in two parts -/

/-- What a reference stands for does not depend on where it is. -/
theorem referenced_eq_ok {start : Nat} {name : List Char} {c : Char}
    (h : referenced start name = .ok c) (start' : Nat) : referenced start' name = .ok c := by
  unfold referenced at h ⊢
  split at h
  · exact h
  · split at h
    · exact h
    · cases h

/-- A text without a defect is read in the same way wherever it stands and whatever was read before. -/
theorem unescapeFrom_eq_ok {length pos : Nat} {out cs x : List Char} {name? : Option (Nat × List Char)}
    (h : unescapeFrom length out name? pos cs = .ok x) :
    ∃ y, x = out.reverse ++ y ∧ ∀ length' out' pos' name?', name?'.map (·.2) = name?.map (·.2) →
      unescapeFrom length' out' name?' pos' cs = .ok (out'.reverse ++ y) := by
  induction cs generalizing out name? pos with
  | nil =>
      rcases name? with _ | ⟨start, name⟩
      · cases h
        refine ⟨[], by simp, fun length' out' pos' name?' hname => ?_⟩
        rw [Option.map_none, Option.map_eq_none_iff] at hname
        rw [hname, unescapeFrom, List.append_nil]
      · cases h
  | cons c cs ih =>
      rcases name? with _ | ⟨start, name⟩
      · simp only [unescapeFrom] at h
        split_ifs at h with hc
        · -- a reference starts
          obtain ⟨y, hx, hall⟩ := ih h
          refine ⟨y, hx, fun length' out' pos' name?' hname => ?_⟩
          rw [Option.map_none, Option.map_eq_none_iff] at hname
          simp only [hname, unescapeFrom, if_pos hc]
          exact hall _ _ _ _ rfl
        · obtain ⟨y, hx, hall⟩ := ih h
          refine ⟨c :: y, by simp [hx], fun length' out' pos' name?' hname => ?_⟩
          rw [Option.map_none, Option.map_eq_none_iff] at hname
          simp only [hname, unescapeFrom, if_neg hc]
          rw [hall length' (c :: out') _ none rfl]
          simp
      · have hstart : ∀ name?' : Option (Nat × List Char), name?'.map (·.2) = some name →
            ∃ start', name?' = some (start', name) := by
          intro name?' hname
          obtain ⟨⟨start', name'⟩, rfl, rfl⟩ := Option.map_eq_some_iff.1 hname
          exact ⟨start', rfl⟩
        simp only [unescapeFrom] at h
        split_ifs at h with hand hend
        · -- the reference ends
          rcases href : referenced (start + 1) name.reverse with e | a
          · rw [href] at h
            cases h
          · rw [href] at h
            obtain ⟨y, hx, hall⟩ := ih h
            refine ⟨a :: y, by simp [hx], fun length' out' pos' name?' hname => ?_⟩
            obtain ⟨start', rfl⟩ := hstart name?' hname
            simp only [unescapeFrom, if_neg hand, if_pos hend, referenced_eq_ok href]
            rw [hall length' (a :: out') _ none rfl]
            simp
        · obtain ⟨y, hx, hall⟩ := ih h
          refine ⟨y, hx, fun length' out' pos' name?' hname => ?_⟩
          obtain ⟨start', rfl⟩ := hstart name?' hname
          simp only [unescapeFrom, if_neg hand, if_neg hend]
          exact hall _ _ _ _ rfl

/-- After a text without a defect, what follows is read with the text before it. -/
theorem unescapeFrom_append {length pos : Nat} {out s x : List Char} {name? : Option (Nat × List Char)}
    (h : unescapeFrom length out name? pos s = .ok x) (length' : Nat) (t : List Char) :
    ∃ pos', unescapeFrom length' out name? pos (s ++ t) = unescapeFrom length' x.reverse none pos' t := by
  induction s generalizing out name? pos with
  | nil =>
      rcases name? with _ | ⟨start, name⟩
      · cases h
        exact ⟨pos, by simp⟩
      · cases h
  | cons c s ih =>
      rcases name? with _ | ⟨start, name⟩
      · simp only [unescapeFrom] at h
        simp only [List.cons_append, unescapeFrom]
        split_ifs at h ⊢
        · exact ih h
        · exact ih h
      · simp only [unescapeFrom] at h
        simp only [List.cons_append, unescapeFrom]
        split_ifs at h ⊢
        · rcases href : referenced (start + 1) name.reverse with e | a
          · rw [href] at h
            cases h
          · rw [href] at h
            exact ih h
        · exact ih h

/-- **The references of a text in two parts**: if the first part has no defect and the whole has none, the
second part has none. -/
theorem unescape_append {s t s' x : List Char} (hs : unescape s = .ok s')
    (h : unescape (s ++ t) = .ok x) : ∃ t', unescape t = .ok t' ∧ x = s' ++ t' := by
  obtain ⟨pos, hrest⟩ := unescapeFrom_append hs (byteLength (s ++ t)) t
  rw [unescape, hrest] at h
  obtain ⟨t', rfl, hall⟩ := unescapeFrom_eq_ok h
  refine ⟨t', ?_, by rw [List.reverse_reverse]⟩
  have ht := hall (byteLength t) [] 0 none rfl
  rwa [List.reverse_nil, List.nil_append] at ht

/-! ## Where two runs of children meet -/

/-- Two runs of children, one after the other. Where a run of text meets another one, they may be one
run. -/
inductive Node.Meet : List Node → List Node → List Node → Prop
  /-- They stay apart. -/
  | apart (before after : List Node) : Meet before after (before ++ after)
  /-- Text becomes one run. -/
  | run (before after : List Node) (s t : String) :
      Meet (before ++ [.text s]) (.text t :: after) (before ++ .text (s ++ t) :: after)

/-! ## Markup that is put in -/

/-- Whether tokens add these children to the innermost open element, whatever is open. -/
def Token.Adds (ts : List Token) (nodes : List Node) : Prop :=
  ∀ e stack root?, (⟨e :: stack, root?⟩ : Builder).run? ts =
    some ⟨⟨e.tag, nodes.reverse ++ e.children⟩ :: stack, root?⟩

/-- **Whether a text is markup for these children**: it has no defect, it starts and ends with a piece of
markup, and it adds these children wherever it stands. -/
def IsMarkup (text : String) (nodes : List Node) : Prop :=
  ∃ ts, Token.scanFrom [] text.toList = (ts, none) ∧ (∃ t ∈ ts.head?, t.isText = false) ∧
    (∃ t ∈ ts.getLast?, t.isText = false) ∧ Token.Adds ts nodes

/-- **Whether a start of a document breaks off inside these elements**, innermost first, which are not
closed yet. -/
def BreaksOff (text : String) (stack : List OpenElement) : Prop :=
  ∃ ts, Token.scan text = (ts, none) ∧ Builder.empty.run? ts = some ⟨stack, none⟩

namespace Token

theorem dropMark_append {u : List Char} (hu : u ≠ []) (v : List Char) :
    dropMark (u ++ v) = dropMark u ++ v := by
  rcases u with _ | ⟨c, u⟩
  · exact absurd rfl hu
  · by_cases hc : c = '\ufeff'
    · subst hc
      rfl
    · have hne : ∀ cs ds : List Char, c :: cs = '\ufeff' :: ds → False := by
        intro cs ds heq
        cases heq
        exact hc rfl
      rw [List.cons_append, dropMark, dropMark, List.cons_append]
      · exact hne u
      · exact hne (u ++ v)

/-- The tokens of a document that goes on. -/
theorem scan_append {u : String} {ts : List Token} (hu : u ≠ "") (h : scan u = (ts, none)) (v : String) :
    scan (u ++ v) = (joined ts (scanFrom [] v.toList).1, (scanFrom [] v.toList).2) := by
  have hne : u.toList ≠ [] := by
    simpa using hu
  rw [scan, String.toList_append, dropMark_append hne]
  exact scanFrom_append h v.toList

end Token

/-- A start of a document that breaks off inside an element is not empty. -/
theorem BreaksOff.ne_empty {text : String} {e : OpenElement} {outer : List OpenElement}
    (h : BreaksOff text (e :: outer)) : text ≠ "" := by
  rintro rfl
  obtain ⟨ts, hscan, hrun⟩ := h
  have hempty : Token.scan "" = ([], none) := by
    simp [Token.scan, Token.dropMark, Token.scanFrom]
  rw [hempty] at hscan
  cases hscan
  cases hrun

/-- A run of text in an element is added with its references replaced. -/
theorem Builder.step?_text {e : OpenElement} {stack : List OpenElement} {root? : Option Element}
    {raw : List Char} {b : Builder} :
    (⟨e :: stack, root?⟩ : Builder).step? (.text raw) = some b ↔
      ∃ s, unescape raw = .ok s ∧
        b = ⟨⟨e.tag, .text (String.ofList s) :: e.children⟩ :: stack, root?⟩ := by
  rw [step?_eq_some_iff]
  rcases h : unescape raw with err | s
  · simp [add, h]
  · simp [add, admits, h, addText, eq_comm]

/-- **The tree around tokens that are put in.** -/
theorem Builder.rootAfter?_insert {ts ws us : List Token} {e : OpenElement} {outer : List OpenElement}
    {nodes : List Node} {root : Element} (hts : empty.run? ts = some ⟨e :: outer, none⟩)
    (hws : Token.Adds ws nodes) (hroot : empty.rootAfter? (Token.joined ts us) = some root) :
    ∃ (rest children : List Node) (surroundings : List Surrounding),
      surroundings.map (·.opened) = outer ∧ Node.Meet e.children.reverse rest children ∧
        root = surroundings.foldl Surrounding.around ⟨e.tag, children⟩ ∧
        empty.rootAfter? (ts ++ ws ++ us) = some
          (surroundings.foldl Surrounding.around ⟨e.tag, e.children.reverse ++ nodes ++ rest⟩) := by
  have hinserted : empty.rootAfter? (ts ++ ws ++ us) =
      (frame [] e.tag [] (nodes.reverse ++ e.children) outer).rootAfter? us := by
    rw [rootAfter?_append, run?_append, hts, Option.bind_some, hws e outer none, Option.bind_some]
    rfl
  rcases Token.joined_eq_or ts us with hjoined | ⟨ts₀, a, b, us₀, rfl, rfl, hjoined⟩
  · rw [hjoined, rootAfter?_append, hts, Option.bind_some] at hroot
    have hframe : (frame [] e.tag [] e.children outer).rootAfter? us = some root := hroot
    obtain ⟨after, surroundings, houter, hall⟩ := rootAfter?_frame hframe
    refine ⟨after, e.children.reverse ++ after, surroundings, houter, .apart _ _, ?_, ?_⟩
    · rw [hall] at hframe
      exact (Option.some.inj hframe).symm
    · rw [hinserted, hall, List.reverse_append, List.reverse_reverse]
  · -- the run of text at the end of `ts` goes on in `us`
    rw [run?_append] at hts
    obtain ⟨b₀, hts₀, hlast⟩ := Option.bind_eq_some_iff.1 hts
    rw [run?_cons, Option.bind_eq_some_iff] at hlast
    obtain ⟨b₁, hlast, hb₁⟩ := hlast
    cases hb₁
    rcases b₀ with ⟨_ | ⟨e₀, stack⟩, root?⟩
    · cases hlast
    · obtain ⟨s, hs, hb⟩ := step?_text.1 hlast
      cases hb
      rw [hjoined, rootAfter?_append, hts₀, Option.bind_some, rootAfter?_cons,
        Option.bind_eq_some_iff] at hroot
      obtain ⟨b₂, hstep, hrest⟩ := hroot
      obtain ⟨x, hx, rfl⟩ := step?_text.1 hstep
      obtain ⟨t, ht, rfl⟩ := unescape_append hs hx
      have hframe : (frame [] e₀.tag [] (.text (String.ofList (s ++ t)) :: e₀.children)
          outer).rootAfter? us₀ = some root := hrest
      obtain ⟨after, surroundings, houter, hall⟩ := rootAfter?_frame hframe
      refine ⟨.text (String.ofList t) :: after,
        e₀.children.reverse ++ .text (String.ofList s ++ String.ofList t) :: after, surroundings,
        houter, ?_, ?_, ?_⟩
      · rw [List.reverse_cons]
        exact .run _ _ _ _
      · rw [hall] at hframe
        rw [← Option.some.inj hframe, String.ofList_append]
        simp
      · have htext : (frame [] e₀.tag [] (nodes.reverse ++ .text (String.ofList s) :: e₀.children)
            outer).step? (.text b) = some (frame [] e₀.tag [] (.text (String.ofList t) ::
              (nodes.reverse ++ .text (String.ofList s) :: e₀.children)) outer) :=
          step?_text.2 ⟨t, ht, rfl⟩
        rw [hinserted, rootAfter?_cons, htext, Option.bind_some, hall]
        simp

/-- **The tree of a document with markup put in.** At the place, the children of the markup stand between
those that came before and those that come after; without the markup those meet there. -/
theorem parse_insert {before inserted after : String} {e : OpenElement} {outer : List OpenElement}
    {nodes : List Node} {root : Element} (hbefore : BreaksOff before (e :: outer))
    (hinserted : IsMarkup inserted nodes) (hroot : parse (before ++ after) = .ok root) :
    ∃ (rest children : List Node) (surroundings : List Surrounding),
      surroundings.map (·.opened) = outer ∧ Node.Meet e.children.reverse rest children ∧
        root = surroundings.foldl Surrounding.around ⟨e.tag, children⟩ ∧
        parse (before ++ inserted ++ after) = .ok
          (surroundings.foldl Surrounding.around ⟨e.tag, e.children.reverse ++ nodes ++ rest⟩) := by
  have hne := hbefore.ne_empty
  obtain ⟨ts, hscan, hts⟩ := hbefore
  obtain ⟨ws, hwscan, ⟨first, hfirst, hfirstText⟩, ⟨last, hlast, hlastText⟩, hws⟩ := hinserted
  obtain ⟨tokens, htokens, hrun⟩ := parse_eq_ok_iff.1 hroot
  rw [Token.scan_append hne hscan] at htokens
  obtain ⟨rfl, hdefect⟩ := Prod.ext_iff.1 htokens
  obtain ⟨rest, children, surroundings, houter, hmeet, hchildren, hinsert⟩ :=
    Builder.rootAfter?_insert hts hws hrun
  refine ⟨rest, children, surroundings, houter, hmeet, hchildren, parse_eq_ok_iff.2 ⟨_, ?_, hinsert⟩⟩
  -- markup runs into text at neither end
  have hscan' : Token.scan (before ++ inserted) = (ts ++ ws, none) := by
    rw [Token.scan_append hne hscan, hwscan, Token.joined_of_head]
    intro t ht
    rwa [Option.mem_unique ht hfirst]
  have hlast' : ∀ t ∈ (ts ++ ws).getLast?, t.isText = false := by
    intro t ht
    rw [List.getLast?_append, Option.mem_def.1 hlast, Option.some_or] at ht
    rwa [← Option.some.inj ht]
  rw [Token.scan_append (by simp [hne]) hscan', Token.joined_of_getLast hlast']
  exact Prod.ext rfl hdefect

end LayerHeaders.Xml
