import Mathlib.Data.List.Basic
import Mathlib.Data.Nat.Notation

/-!
# The lines that are read from a text

Before anything else is done with a text, each backslash at the end of a line is taken away, together with
the line feed. So the lines that are read are those that the text is made of exactly if none of these ends
in a backslash; else a line is read as the rest of the one before, as in a comment.

* `readLines`: the lines that are read from a text.
* `readFrom_line`: what happens at the end of a line.
* `readLines_continued`: a line that ends in a backslash is read with the next.
* `readLines_eq_iff`: when a text is read as the lines that it is made of.
-/

namespace LayerHeaders.Preprocessor

/-! ## Lines and their ends -/

/-- Whether a line ends in a backslash, so that the next line continues it. -/
def isContinued (line : String) : Bool :=
  line.toList.getLast? == some '\\'

/-- The lines that are read from the rest of a text, where `line` is what is read of a line. -/
def readFrom (line : List Char) : List Char → List String
  | [] => if line.isEmpty then [] else [.ofList line]
  | '\\' :: '\n' :: cs => readFrom line cs
  | '\n' :: cs => .ofList line :: readFrom [] cs
  | c :: cs => readFrom (line ++ [c]) cs

/-- **The lines that are read from a text.** A backslash at the end of a line is taken away with the line
feed, so that the next line continues it. -/
def readLines (text : String) : List String :=
  readFrom [] text.toList

section

variable {a b : String}

theorem isContinued_append_of_ne (a : String) (hb : b ≠ "") : isContinued (a ++ b) = isContinued b := by
  have hne : b.toList ≠ [] := by simpa using hb
  rw [isContinued, String.toList_append, List.getLast?_append_of_ne_nil _ hne, isContinued]

theorem isContinued_append_of_not (ha : isContinued a = false) (b : String) :
    isContinued (a ++ b) = isContinued b := by
  by_cases hb : b = ""
  · rw [hb, String.append_empty, ha]
    rfl
  · exact isContinued_append_of_ne a hb

/-- A line that is given by its characters. -/
theorem isContinued_of_eq_ofList {cs : List Char} (h : a = String.ofList cs)
    (hcs : cs.getLast? ≠ some '\\') : isContinued a = false := by
  rw [isContinued, h, String.toList_ofList]
  exact beq_eq_false_iff_ne.2 hcs

theorem isContinued_append_of_eq_ofList {c : Char} {cs : List Char} (h : b = String.ofList (c :: cs))
    (hcs : (c :: cs).getLast? ≠ some '\\') : isContinued (a ++ b) = false := by
  have hne : b ≠ "" := by
    rintro rfl
    simpa using congrArg String.toList h
  rw [isContinued_append_of_ne a hne]
  exact isContinued_of_eq_ofList h hcs

/-- A line without a backslash is not continued. -/
theorem isContinued_of_not_mem (h : '\\' ∉ a.toList) : isContinued a = false :=
  beq_eq_false_iff_ne.2 fun hlast => h (List.mem_of_getLast? hlast)

end

/-! ## Reading -/

/-- A line is read to its end, or goes on with the next. -/
theorem readFrom_line {l : List Char} (hl : '\n' ∉ l) (line rest : List Char) :
    readFrom line (l ++ '\n' :: rest) =
      if l.getLast? = some '\\' then readFrom (line ++ l.dropLast) rest
      else .ofList (line ++ l) :: readFrom [] rest := by
  induction l generalizing line with
  | nil => simp [readFrom]
  | cons c l ih =>
      obtain ⟨hc, hl⟩ := not_or.1 (mt List.mem_cons.2 hl)
      rcases l with _ | ⟨d, l⟩
      · by_cases hback : c = '\\'
        · subst hback
          simp [readFrom]
        · simp [readFrom, Ne.symm hc, hback]
      · have hd : d ≠ '\n' := fun h => hl (h ▸ List.mem_cons_self)
        have hnext := ih hl (line ++ [c])
        simp only [List.cons_append] at hnext ⊢
        rw [readFrom]
        · rw [hnext, List.getLast?_cons_cons, List.dropLast_cons_cons]
          simp
        · intro cs _ h
          exact hd (List.cons.inj h).1
        · exact fun h => hc h.symm

/-- The characters of some lines, each with its line feed. -/
def chars (lines : List String) : List Char :=
  lines.flatMap fun line => line.toList ++ ['\n']

theorem chars_cons (line : String) (lines : List String) :
    chars (line :: lines) = line.toList ++ '\n' :: chars lines := by
  simp [chars]

theorem chars_append (a b : List String) : chars (a ++ b) = chars a ++ chars b :=
  List.flatMap_append

theorem toList_join_lines (lines : List String) :
    (String.join (lines.map (· ++ "\n"))).toList = chars lines := by
  simp [String.toList_join, chars, List.flatMap_map]

/-- Lines that are not continued are read as they are, whatever follows them. -/
theorem readFrom_chars_append {lines : List String} (h : ∀ line ∈ lines, '\n' ∉ line.toList)
    (hlines : ∀ line ∈ lines, isContinued line = false) (rest : List Char) :
    readFrom [] (chars lines ++ rest) = lines ++ readFrom [] rest := by
  induction lines with
  | nil => rfl
  | cons l lines ih =>
      obtain ⟨hl, h⟩ := List.forall_mem_cons.1 h
      obtain ⟨hcontinued, hlines⟩ := List.forall_mem_cons.1 hlines
      rw [chars_cons, List.append_assoc, List.cons_append, readFrom_line hl,
        if_neg (beq_eq_false_iff_ne.1 hcontinued), ih h hlines, List.nil_append, String.ofList_toList,
        List.cons_append]

theorem readFrom_chars {lines : List String} (h : ∀ line ∈ lines, '\n' ∉ line.toList)
    (hlines : ∀ line ∈ lines, isContinued line = false) : readFrom [] (chars lines) = lines := by
  simpa [readFrom] using readFrom_chars_append h hlines []

/-- **A line that is continued is read with the next**, which is then not a line of its own. -/
theorem readLines_continued {before after : List String} {line next : String}
    (h : ∀ l ∈ before ++ line :: next :: after, '\n' ∉ l.toList)
    (hbefore : ∀ l ∈ before, isContinued l = false) (hline : isContinued line = true)
    (hafter : ∀ l ∈ next :: after, isContinued l = false) :
    readLines (String.join ((before ++ line :: next :: after).map (· ++ "\n"))) =
      before ++ .ofList (line.toList.dropLast ++ next.toList) :: after := by
  simp only [List.forall_mem_append, List.forall_mem_cons] at h hafter
  obtain ⟨hb, hl, hn, ha⟩ := h
  rw [readLines, toList_join_lines, chars_append, readFrom_chars_append hb hbefore, chars_cons,
    readFrom_line hl, if_pos (eq_of_beq hline), chars_cons, readFrom_line hn, if_neg (beq_eq_false_iff_ne.1 hafter.1),
    readFrom_chars ha hafter.2, List.nil_append]

/-- Two lines are read as one if the first is continued, and the second is not. -/
theorem readFrom_chars_pair {line next : String} (hline : '\n' ∉ line.toList)
    (hnext : '\n' ∉ next.toList) (hlast : isContinued next = false) (rest : List Char) :
    readFrom [] (chars [line, next] ++ rest) =
      (if isContinued line then [.ofList (line.toList.dropLast ++ next.toList)] else [line, next]) ++
        readFrom [] rest := by
  have hlast : ¬ next.toList.getLast? = some '\\' := beq_eq_false_iff_ne.1 hlast
  rw [chars_cons, chars_cons, List.append_assoc, List.cons_append, List.append_assoc, List.cons_append,
    readFrom_line hline, readFrom_line hnext, readFrom_line hnext, if_neg hlast, if_neg hlast]
  by_cases hcontinued : line.toList.getLast? = some '\\'
  · have hopen : isContinued line = true := by rw [isContinued, hcontinued, beq_self_eq_true]
    rw [if_pos hcontinued, if_pos hopen]
    rfl
  · have hopen : ¬ isContinued line = true := by simpa [isContinued] using hcontinued
    rw [if_neg hcontinued, if_neg hopen]
    simp [chars]

/-- Each line that is continued is read with two characters less. -/
theorem length_readFrom {lines : List String} (h : ∀ line ∈ lines, '\n' ∉ line.toList) (line : List Char) :
    (chars (readFrom line (chars lines))).length + 2 * lines.countP isContinued ≤
      line.length + (chars lines).length + 1 := by
  induction lines generalizing line with
  | nil =>
      rcases line with _ | ⟨c, line⟩
      · simp [chars, readFrom]
      · simp [chars, readFrom]
  | cons l lines ih =>
      obtain ⟨hl, h⟩ := List.forall_mem_cons.1 h
      rw [chars_cons, readFrom_line hl, List.countP_cons, List.length_append, List.length_cons]
      by_cases hlast : l.toList.getLast? = some '\\'
      · have hcontinued : isContinued l = true := by rw [isContinued, hlast, beq_self_eq_true]
        have hpos : 0 < l.toList.length := by
          rw [List.length_pos_iff]
          rintro heq
          rw [heq] at hlast
          cases hlast
        have hnext := ih h (line ++ l.toList.dropLast)
        rw [List.length_append, List.length_dropLast] at hnext
        rw [if_pos hlast, if_pos hcontinued]
        omega
      · have hcontinued : ¬ isContinued l = true := by simpa [isContinued] using hlast
        have hnext := ih h []
        have hread : (chars (.ofList (line ++ l.toList) :: readFrom [] (chars lines))).length =
            line.length + l.toList.length + 1 + (chars (readFrom [] (chars lines))).length := by
          simp [chars]
          omega
        rw [List.length_nil] at hnext
        rw [if_neg hlast, if_neg hcontinued, hread]
        omega

/-- **A text is read as the lines that it is made of** exactly if none of them is continued. -/
theorem readLines_eq_iff {lines : List String} (h : ∀ line ∈ lines, '\n' ∉ line.toList) :
    readLines (String.join (lines.map (· ++ "\n"))) = lines ↔ ∀ line ∈ lines, isContinued line = false := by
  rw [readLines, toList_join_lines]
  constructor
  · intro heq
    have hlength := length_readFrom h []
    rw [heq, List.length_nil] at hlength
    have hnone : lines.countP isContinued = 0 := by omega
    intro line hline
    exact Bool.eq_false_iff.2 (List.countP_eq_zero.1 hnone line hline)
  · exact readFrom_chars h

end LayerHeaders.Preprocessor
