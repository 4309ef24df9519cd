import LayerHeaders.Text.Literal
import LayerHeaders.Proofs.Header.ReadLines

/-!
# The comment of a line

A comment starts at two slashes and goes on to the end of its line. Slashes in a literal start none, so a
line is read with the place where each character stands: in the code, in a literal, or behind a backslash
in a literal. The lines of a text are joined before comments are taken away, so that a comment whose line is
continued goes on in the next line.

* `withoutComment`: a line without its comment.
* `codeLines`: what is left of a text.
* `IsCodeText`: text that is code, whatever follows it; `isCodeText_quote`: a literal is, whatever is in it.
* `withoutComment_comment`: the code before a comment is left.
* `LeavesCode`: what is left of a part of a text; `leavesCode_comment`: a comment and the line behind it.
-/

namespace LayerHeaders.Preprocessor

/-- Where in a line a character stands. -/
inductive Place where
  /-- In the code. -/
  | code
  /-- In a literal that ends with this mark. -/
  | literal (mark : Char)
  /-- Behind a backslash in such a literal. -/
  | escape (mark : Char)
deriving DecidableEq

/-- The place behind a character. -/
def Place.next (c : Char) : Place → Place
  | code => if c = '\x22' ∨ c = '\x27' then literal c else code
  | literal mark => if c = '\\' then escape mark else if c = mark then code else literal mark
  | escape mark => literal mark

/-- The rest of a line without its comment, from a place on. -/
def codeFrom (place : Place) : List Char → List Char
  | [] => []
  | c :: cs =>
    if place = .code ∧ c = '/' ∧ cs.head? = some '/' then [] else c :: codeFrom (place.next c) cs

/-- **A line without its comment.** -/
def withoutComment (line : String) : String :=
  .ofList (codeFrom .code line.toList)

/-- **What is left of a text** when its lines are joined and then their comments are taken away. -/
def codeLines (text : String) : List String :=
  (readLines text).map withoutComment

/-! ## Code -/

/-- **Whether a text is code**, whatever follows it: no comment starts in it, and no literal is open at its
end. -/
def IsCodeText (text : String) : Prop :=
  ∀ rest, codeFrom .code (text.toList ++ rest) = text.toList ++ codeFrom .code rest

/-- Whether a character in the code starts neither a comment nor a literal. -/
def isPlain (c : Char) : Bool :=
  c != '/' && c != '\x22' && c != '\x27'

section

variable {a b line : String}

theorem IsCodeText.append (ha : IsCodeText a) (hb : IsCodeText b) : IsCodeText (a ++ b) := by
  intro rest
  rw [String.toList_append, List.append_assoc, ha, hb, List.append_assoc]

/-- Plain characters are code. -/
theorem isCodeText_of_isPlain (h : ∀ c ∈ a.toList, isPlain c = true) : IsCodeText a := by
  unfold IsCodeText
  intro rest
  generalize a.toList = cs at h
  induction cs with
  | nil => rfl
  | cons c cs ih =>
      obtain ⟨hc, hcs⟩ := List.forall_mem_cons.1 h
      simp only [isPlain, Bool.and_eq_true, bne_iff_ne] at hc
      obtain ⟨⟨hslash, hquote⟩, happostrophe⟩ := hc
      simp [codeFrom, Place.next, hslash, hquote, happostrophe, ih hcs]

/-- A character of a literal leads back into the literal. -/
theorem codeFrom_encodeChar (c : Char) (rest : List Char) :
    codeFrom (.literal '\x22') (Text.Literal.encodeChar c ++ rest) =
      Text.Literal.encodeChar c ++ codeFrom (.literal '\x22') rest := by
  unfold Text.Literal.encodeChar
  split_ifs with hquote hback hfeed
  · simp [codeFrom, Place.next]
  · simp [codeFrom, Place.next]
  · simp [codeFrom, Place.next]
  · simp [codeFrom, Place.next, hquote, hback]

/-- **A literal is code**, also if there are slashes in it. -/
theorem isCodeText_quote (s : String) : IsCodeText (Text.Literal.quote s) := by
  have hencode : ∀ cs rest, codeFrom (.literal '\x22') (Text.Literal.encode cs ++ rest) =
      Text.Literal.encode cs ++ codeFrom (.literal '\x22') rest := by
    intro cs rest
    induction cs with
    | nil => rfl
    | cons c cs ih =>
        rw [Text.Literal.encode_cons, List.append_assoc, codeFrom_encodeChar, ih, List.append_assoc]
  intro rest
  have hopen : Place.code.next '\x22' = .literal '\x22' := rfl
  have hclose : (Place.literal '\x22').next '\x22' = .code := rfl
  rw [Text.Literal.quote, String.toList_ofList]
  simp [codeFrom, hopen, hencode, hclose]

/-! ## Comments -/

/-- Code has no comment. -/
theorem withoutComment_eq_self (h : IsCodeText line) : withoutComment line = line := by
  have hline := h []
  have hend : codeFrom .code [] = [] := rfl
  rw [List.append_nil, hend, List.append_nil] at hline
  rw [withoutComment, hline, String.ofList_toList]

/-- A line without slashes has no comment. -/
theorem withoutComment_of_not_mem (h : '/' ∉ line.toList) : withoutComment line = line := by
  have hcode : ∀ place cs, '/' ∉ cs → codeFrom place cs = cs := by
    intro place cs hcs
    induction cs generalizing place with
    | nil => rfl
    | cons c cs ih =>
        obtain ⟨hc, hcs⟩ := not_or.1 (mt List.mem_cons.2 hcs)
        rw [codeFrom, if_neg fun h => hc h.2.1.symm, ih _ hcs]
  rw [withoutComment, hcode _ _ h, String.ofList_toList]

/-- **The code before a comment is left.** -/
theorem withoutComment_comment (h : IsCodeText a) {comment : List Char}
    (hline : line.toList = a.toList ++ '/' :: '/' :: comment) : withoutComment line = a := by
  have hcomment : codeFrom .code ('/' :: '/' :: comment) = [] := rfl
  rw [withoutComment, hline, h, hcomment, List.append_nil, String.ofList_toList]

end

/-! ## Parts of a text -/

section

variable {part part' code code' : List String}

/-- **What is left of the code of a part**, whatever follows it. -/
def LeavesCode (part code : List String) : Prop :=
  ∀ rest, (readFrom [] (chars part ++ rest)).map withoutComment =
    code ++ (readFrom [] rest).map withoutComment

/-- Lines that are not continued lose their own comments only. -/
theorem leavesCode_of_not_continued (h : ∀ line ∈ part, '\n' ∉ line.toList)
    (hpart : ∀ line ∈ part, isContinued line = false) : LeavesCode part (part.map withoutComment) := by
  intro rest
  rw [readFrom_chars_append h hpart, List.map_append]

/-- Lines that are not continued and have no comments are left. -/
theorem leavesCode_self (h : ∀ line ∈ part, '\n' ∉ line.toList)
    (hpart : ∀ line ∈ part, isContinued line = false)
    (hcode : ∀ line ∈ part, withoutComment line = line) : LeavesCode part part := by
  have hleaves := leavesCode_of_not_continued h hpart
  rwa [List.map_congr_left hcode, List.map_id'] at hleaves

/-- **A comment that is continued hides the next line**, and any other leaves it. -/
theorem leavesCode_comment {line next a : String} {comment : List Char} (ha : IsCodeText a)
    (hcomment : line.toList = a.toList ++ '/' :: '/' :: comment) (hline : '\n' ∉ line.toList)
    (hnext : '\n' ∉ next.toList) (hlast : isContinued next = false) :
    LeavesCode [line, next] (if isContinued line then [a] else [a, withoutComment next]) := by
  intro rest
  rw [readFrom_chars_pair hline hnext hlast, List.map_append]
  congr 1
  split_ifs with hcontinued
  · -- the two slashes are no backslash, so the comment keeps them
    have hne : comment ≠ [] := by
      rintro rfl
      rw [isContinued, hcomment] at hcontinued
      simp at hcontinued
    have hjoined : line.toList.dropLast ++ next.toList =
        a.toList ++ '/' :: '/' :: (comment.dropLast ++ next.toList) := by
      rw [hcomment, List.dropLast_append_of_ne_nil (List.cons_ne_nil _ _), List.dropLast_cons_cons,
        List.dropLast_cons_of_ne_nil hne]
      simp
    rw [List.map_singleton, withoutComment_comment ha (by rw [String.toList_ofList, hjoined])]
  · rw [List.map_cons, List.map_singleton, withoutComment_comment ha hcomment]

theorem LeavesCode.append (h : LeavesCode part code) (h' : LeavesCode part' code') :
    LeavesCode (part ++ part') (code ++ code') := by
  intro rest
  rw [chars_append, List.append_assoc, h, h', List.append_assoc]

theorem leavesCode_flatMap {α : Type} {parts codes : α → List String} {l : List α}
    (h : ∀ x ∈ l, LeavesCode (parts x) (codes x)) : LeavesCode (l.flatMap parts) (l.flatMap codes) := by
  induction l with
  | nil => exact fun _ => rfl
  | cons x l ih =>
      obtain ⟨hx, hl⟩ := List.forall_mem_cons.1 h
      exact hx.append (ih hl)

/-- What is left of a text, if all of its lines are a part. -/
theorem LeavesCode.codeLines (h : LeavesCode part code) :
    codeLines (String.join (part.map (· ++ "\n"))) = code := by
  have hall := h []
  have hend : (readFrom [] []).map withoutComment = [] := rfl
  rwa [List.append_nil, hend, List.append_nil, ← toList_join_lines] at hall

end

end LayerHeaders.Preprocessor
