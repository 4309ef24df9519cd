import LayerHeaders.Proofs.Xml.Building

/-!
# Open elements

Two stacks are kept along the tokens of a document: the names of the open elements, by which end tags are
checked, and the unfinished elements of the tree. Neither is part of what tokens mean. Which elements are
open is stated here for the tokens alone, by how start and end tags pair up, and both stacks hold just
these at every token.

* `Closed`, `LeavesOpen`: tokens that close what they open, and the elements that others leave open.
* `LeavesOpen.nested`, `nested_eq_none_iff`: the check of the nesting holds the names of the open elements.
* `Builder.openNames_of_add`, `Builder.openNames_of_foldlM_add`: a token and a run of tokens on the tree.
* `leavesOpen_of_foldlM_add`: the tree holds the open elements.
-/

namespace LayerHeaders.Xml

/-! ## Pairs of tags -/

/-- Whether a token neither begins nor ends an element with content. -/
def Token.isLeaf : Token → Bool
  | .start _ | .stop _ => false
  | .text _ | .empty _ | .data _ | .aside => true

/-- **Whether tokens close what they open**, and nothing else. -/
inductive Closed : List Token → Prop
  /-- There is none. -/
  | nil : Closed []
  /-- A token that is no start or end tag. -/
  | leaf {t : Token} {rest : List Token} (ht : t.isLeaf = true) (hrest : Closed rest) : Closed (t :: rest)
  /-- A start tag, the content of the element and its end tag. -/
  | element (content : List Char) {inner rest : List Token} (hinner : Closed inner) (hrest : Closed rest) :
      Closed (.start content :: (inner ++ .stop (tagName content) :: rest))

/-- **Which elements tokens leave open**, by their names, innermost first. -/
inductive LeavesOpen : List (List Char) → List Token → Prop
  /-- None is open. -/
  | closed {ts : List Token} (h : Closed ts) : LeavesOpen [] ts
  /-- One more was opened, and what came after it is closed. -/
  | opened {names : List (List Char)} {ts inner : List Token} (content : List Char)
      (h : LeavesOpen names ts) (hinner : Closed inner) :
      LeavesOpen (tagName content :: names) (ts ++ .start content :: inner)

section

variable {names names' : List (List Char)} {before ts us : List Token}

theorem Closed.append (h : Closed ts) (h' : Closed us) : Closed (ts ++ us) := by
  induction h with
  | nil => exact h'
  | leaf ht _ ih => exact .leaf ht ih
  | element content hinner _ _ ih =>
      rw [List.cons_append, List.append_assoc, List.cons_append]
      exact .element content hinner ih

namespace LeavesOpen

/-- Tokens that are closed change nothing. -/
theorem append (h : LeavesOpen names ts) (h' : Closed us) : LeavesOpen names (ts ++ us) := by
  cases h with
  | closed h => exact .closed (h.append h')
  | opened content h hinner =>
      rw [List.append_assoc, List.cons_append]
      exact .opened content h (hinner.append h')

/-- A start tag opens an element. -/
theorem start (h : LeavesOpen names ts) (content : List Char) :
    LeavesOpen (tagName content :: names) (ts ++ [.start content]) :=
  .opened content h .nil

/-- The end tag of the innermost element closes it. -/
theorem stop {name : List Char} (h : LeavesOpen (name :: names) ts) :
    LeavesOpen names (ts ++ [.stop name]) := by
  cases h with
  | opened content h hinner =>
      rw [List.append_assoc, List.cons_append]
      exact h.append (.element content hinner .nil)

/-- Nothing is open if all is closed. -/
theorem closed_of_nil (h : LeavesOpen [] ts) : Closed ts := by
  cases h with
  | closed h => exact h

end LeavesOpen

/-! ## The check of the nesting -/

/-- Tokens that close what they open are passed over by the check. -/
theorem Closed.nestedFrom (h : Closed ts) (names : List (List Char)) (before after : List Token) :
    nestedFrom names before (ts ++ after) = nestedFrom names (ts.reverse ++ before) after := by
  induction h generalizing names before after with
  | nil => rfl
  | @leaf t rest ht _ ih =>
      have hstep : Xml.nestedFrom names before (t :: (rest ++ after)) =
          Xml.nestedFrom names (t :: before) (rest ++ after) := by
        cases t with
        | start | stop => cases ht
        | _ => rfl
      rw [List.cons_append, hstep, ih, List.reverse_cons, List.append_assoc]
      rfl
  | element content _ _ ihinner ihrest =>
      rw [List.cons_append, Xml.nestedFrom, List.append_assoc, ihinner, List.cons_append, Xml.nestedFrom,
        if_pos rfl, ihrest]
      simp

/-- **The check of the nesting holds the names of the open elements.** -/
theorem LeavesOpen.nested (h : LeavesOpen names ts) (after : List Token) :
    nested (ts ++ after) = nestedFrom names ts.reverse after := by
  induction h generalizing after with
  | closed h =>
      rw [Xml.nested, h.nestedFrom, List.append_nil]
  | opened content _ hinner ih =>
      rw [List.append_assoc, ih, List.cons_append, nestedFrom, hinner.nestedFrom]
      simp

/-- The check finds nothing in what leaves some elements open. -/
theorem LeavesOpen.nested_eq_none (h : LeavesOpen names ts) : (Xml.nested ts).2 = none := by
  have hend := h.nested []
  rw [List.append_nil] at hend
  rw [hend]
  rfl

/-- **What the check lets pass** leaves some elements open, if what came before does. -/
theorem exists_leavesOpen_nestedFrom (h : LeavesOpen names before) (ts : List Token) :
    ∃ names', LeavesOpen names' (nestedFrom names before.reverse ts).1 := by
  induction ts generalizing names before with
  | nil =>
      refine ⟨names, ?_⟩
      rw [nestedFrom, List.reverse_reverse]
      exact h
  | cons t ts ih =>
      have hreverse : t :: before.reverse = (before ++ [t]).reverse := by simp
      have hleaf : t.isLeaf = true →
          ∃ names', LeavesOpen names' (nestedFrom names (t :: before.reverse) ts).1 := by
        intro ht
        rw [hreverse]
        exact ih (h.append (.leaf ht .nil))
      have hhere : ∃ names', LeavesOpen names' before.reverse.reverse :=
        ⟨names, by rwa [List.reverse_reverse]⟩
      cases t with
      | start content =>
          rw [nestedFrom, hreverse]
          exact ih (h.start content)
      | stop name =>
          rcases names with _ | ⟨expected, names⟩
          · exact hhere
          · rw [nestedFrom]
            split_ifs with hname
            · subst hname
              rw [hreverse]
              exact ih h.stop
            · exact hhere
      | text | empty | data | aside => exact hleaf rfl

/-- **Which tokens pass the check**: those that leave some elements open. -/
theorem nested_eq_none_iff : (nested ts).2 = none ↔ ∃ names, LeavesOpen names ts := by
  constructor
  · intro h
    have hall : (nested ts).1 = ts := nestedFrom_fst h
    obtain ⟨names, hnames⟩ := exists_leavesOpen_nestedFrom (.closed .nil) ts
    exact ⟨names, hall ▸ hnames⟩
  · rintro ⟨names, h⟩
    exact h.nested_eq_none

/-- The check that passes some tokens passes the first of them. -/
theorem nestedFrom_eq_none_of_append (h : (nestedFrom names before (ts ++ us)).2 = none) :
    (nestedFrom names before ts).2 = none := by
  induction names, before, ts using nestedFrom.induct with
  | case1 names before => rfl
  | case2 names before ts content ih => exact ih h
  | case3 before ts name => cases h
  | case4 before ts expected names ih =>
      rw [List.cons_append, nestedFrom, if_pos rfl] at h
      rw [nestedFrom, if_pos rfl]
      exact ih h
  | case5 before ts name expected names hne => simp [nestedFrom, hne] at h
  | case6 names before t ts hstart hstop ih =>
      rw [List.cons_append, nestedFrom] at h
      · rw [nestedFrom]
        · exact ih h
        all_goals assumption
      all_goals assumption

/-- The first of some tokens leave some elements open as well. -/
theorem LeavesOpen.exists_of_append (h : LeavesOpen names (ts ++ us)) : ∃ names', LeavesOpen names' ts :=
  nested_eq_none_iff.1 (nestedFrom_eq_none_of_append h.nested_eq_none)

/-- An end tag that passes the check is the one of the innermost open element. -/
theorem LeavesOpen.head?_of_stop {name : List Char} (h : LeavesOpen names ts)
    (h' : LeavesOpen names' (ts ++ [.stop name])) : names.head? = some name := by
  have hnone := h'.nested_eq_none
  rw [h.nested] at hnone
  rcases names with _ | ⟨expected, names⟩
  · cases hnone
  · rw [nestedFrom] at hnone
    split_ifs at hnone with hname
    rw [hname]
    rfl

/-! ## The tree under construction -/

/-- The names of the open elements after a token. -/
def Token.openAfter (names : List (List Char)) : Token → List (List Char)
  | .start content => tagName content :: names
  | .stop _ => names.tail
  | .text _ | .empty _ | .data _ | .aside => names

theorem Closed.foldl_openAfter (h : Closed ts) (names : List (List Char)) :
    ts.foldl Token.openAfter names = names := by
  induction h generalizing names with
  | nil => rfl
  | @leaf t rest ht _ ih =>
      have hstep : Token.openAfter names t = names := by
        cases t with
        | start | stop => cases ht
        | _ => rfl
      rw [List.foldl_cons, hstep, ih]
  | element content _ _ ihinner ihrest =>
      rw [List.foldl_cons, List.foldl_append, ihinner, List.foldl_cons, ihrest]
      rfl

/-- **The elements that tokens leave open** are determined by them. -/
theorem LeavesOpen.eq_foldl (h : LeavesOpen names ts) : names = ts.foldl Token.openAfter [] := by
  induction h with
  | closed h => exact (h.foldl_openAfter []).symm
  | opened content _ hinner ih =>
      rw [List.foldl_append, List.foldl_cons, ← ih, hinner.foldl_openAfter]
      rfl

namespace Builder

variable {b b' : Builder} {t : Token}

/-- **The step on the tree**: a token opens and closes elements of the tree as it does in the document. -/
theorem openNames_of_add (h : b.add t = .ok b') : b'.openNames = t.openAfter b.openNames := by
  cases t with
  | text raw =>
      rw [add] at h
      split at h
      · cases h
        rfl
      · split at h
        · cases h
          exact openNames_addText _ _
        · cases h
  | start content =>
      obtain ⟨tag, htag, hadd⟩ := bind_eq_ok_iff.1 h
      cases hadd
      rw [openNames, List.map_cons, toList_name_of_read htag]
      rfl
  | empty content =>
      obtain ⟨tag, -, hadd⟩ := bind_eq_ok_iff.1 h
      cases hadd
      exact openNames_attach _ _
  | stop name =>
      rcases b with ⟨_ | ⟨o, stack⟩, root?⟩
      · cases h
      · cases h
        exact openNames_attach _ _
  | data content =>
      cases h
      exact openNames_addText _ _
  | aside =>
      cases h
      rfl

/-- **The run on the tree**: the open elements after some tokens. -/
theorem openNames_of_foldlM_add (h : ts.foldlM add b = .ok b') :
    b'.openNames = ts.foldl Token.openAfter b.openNames := by
  induction ts generalizing b with
  | nil =>
      cases h
      rfl
  | cons t ts ih =>
      obtain ⟨b₁, hstep, hrest⟩ := foldlM_cons_eq_ok_iff.1 h
      rw [ih hrest, openNames_of_add hstep, List.foldl_cons]

end Builder

/-- **The tree holds the open elements**, and it holds no other. -/
theorem leavesOpen_of_foldlM_add {b : Builder} (h : LeavesOpen names ts)
    (hb : ts.foldlM Builder.add Builder.empty = .ok b) : LeavesOpen b.openNames ts := by
  rw [Builder.openNames_of_foldlM_add hb]
  exact h.eq_foldl ▸ h

end

end LayerHeaders.Xml
