import LayerHeaders.Text.Blank
import LayerHeaders.Proofs.Bound.Words

/-!
# The names that lines declare

A line that ends in an opening brace opens a scope, and one that starts with a closing brace closes it.
Names are declared by lines in such scopes: structures in a namespace, enumerations and fields with a default
in a structure, and enumerators in an enumeration. An enumerator is a name in the scope around its enumeration,
and so is a field that is declared where the enumeration ends. This module reads lines of code for themselves,
without regard to where they come from. Directives are passed over, and functions declare nothing here.

* `Declared`: a name with its kind and its scopes.
* `declare`: what a line declares, and the scopes behind it.
* `declareAll`: the same for all lines.
* `declareAll_append`, `declareAll_flatMap`: parts one after the other.
* `words_three`: the words that a line starts with.
-/

namespace LayerHeaders.Scoping

/-! ## Reading -/

/-- A scope. -/
inductive Scope where
  /-- A namespace, in which structures are declared. -/
  | space
  /-- A structure, in which fields are declared. -/
  | record (name : String)
  /-- An enumeration, in which enumerators are declared. -/
  | enumeration
  /-- Any other block. -/
  | block
deriving DecidableEq

/-- What a name stands for. -/
inductive Kind where
  /-- A structure or an enumeration. -/
  | type
  /-- A field of a structure. -/
  | field
  /-- An enumerator. -/
  | enumerator
deriving DecidableEq

/-- A declared name. -/
structure Declared where
  /-- What it stands for. -/
  kind : Kind
  /-- The scopes that it is declared in, from the inside. -/
  scopes : List Scope
  /-- The name. -/
  name : String
deriving DecidableEq

/-- The first character of a line that is not blank. -/
def firstChar? (line : String) : Option Char :=
  (Text.trimStart line.toList).head?

/-- The last character of a line. -/
def lastChar? (line : String) : Option Char :=
  line.toList.getLast?

/-- What stands before a mark at the end of a word. -/
def before? (mark : Char) (word : String) : Option String :=
  if lastChar? word = some mark then some (.ofList word.toList.dropLast) else none

/-- The scope that a line with these words opens. -/
def opened : List String → Scope
  | "namespace" :: _ => .space
  | "struct" :: name :: _ => .record name
  | "enum" :: _ => .enumeration
  | _ => .block

/-- What a line with these words declares in these scopes. -/
def declared? : List Scope → List String → Option Declared
  | .space :: around, "struct" :: name :: _ => some ⟨.type, .space :: around, name⟩
  | .record r :: around, _ :: name :: "=" :: _ => some ⟨.field, .record r :: around, name⟩
  | .record r :: around, "enum" :: name :: _ => some ⟨.type, .record r :: around, name⟩
  | .enumeration :: around, [word] => (before? ',' word).map (⟨.enumerator, around, ·⟩)
  | _, _ => none

/-- What a line with these words declares that closes the first of these scopes. -/
def declaredBehind? : List Scope → List String → Option Declared
  | _ :: around, ["\x7d", word] => (before? ';' word).map (⟨.field, around, ·⟩)
  | _, _ => none

/-- **What a line declares**, and the scopes behind it. -/
def declare (scopes : List Scope) (line : String) : List Declared × List Scope :=
  let words := Text.words line
  match firstChar? line with
  | none => ([], scopes)
  | some c =>
    if c = '#' then ([], scopes)
    else if c = '\x7d' then ((declaredBehind? scopes words).toList, scopes.tail)
    else ((declared? scopes words).toList,
      if lastChar? line = some '\x7b' then opened words :: scopes else scopes)

/-- **What lines declare**, and the scopes behind them. -/
def declareAll (scopes : List Scope) : List String → List Declared × List Scope
  | [] => ([], scopes)
  | line :: lines =>
    let (names, after) := declare scopes line
    let (others, last) := declareAll after lines
    (names ++ others, last)

/-! ## Parts -/

section

variable {scopes after last : List Scope} {part part' lines : List String} {line : String}
  {names names' : List Declared}

theorem declareAll_nil (scopes : List Scope) : declareAll scopes [] = ([], scopes) :=
  rfl

theorem declareAll_cons (h : declare scopes line = (names, after))
    (h' : declareAll after lines = (names', last)) :
    declareAll scopes (line :: lines) = (names ++ names', last) := by
  rw [declareAll, h]
  dsimp only
  rw [h']

/-- What a part declares does not depend on what follows. -/
theorem declareAll_append (h : declareAll scopes part = (names, after))
    (h' : declareAll after part' = (names', last)) :
    declareAll scopes (part ++ part') = (names ++ names', last) := by
  induction part generalizing scopes names with
  | nil =>
      obtain ⟨rfl, rfl⟩ := Prod.mk.inj h
      exact h'
  | cons line part ih =>
      obtain ⟨rfl, hafter⟩ := Prod.mk.inj h
      rw [List.cons_append, List.append_assoc]
      exact declareAll_cons rfl (ih (Prod.ext rfl hafter))

/-- Parts that leave the scopes declare their names one after the other. -/
theorem declareAll_flatMap {α : Type} {l : List α} {parts : α → List String}
    {declared : α → List Declared}
    (h : ∀ x ∈ l, declareAll scopes (parts x) = (declared x, scopes)) :
    declareAll scopes (l.flatMap parts) = (l.flatMap declared, scopes) := by
  induction l with
  | nil => rfl
  | cons x l ih =>
      obtain ⟨hx, hl⟩ := List.forall_mem_cons.1 h
      rw [List.flatMap_cons, List.flatMap_cons]
      exact declareAll_append hx (ih hl)

/-- Lines that declare nothing. -/
theorem declareAll_nothing (h : ∀ line ∈ part, declare scopes line = ([], scopes)) :
    declareAll scopes part = ([], scopes) := by
  induction part with
  | nil => rfl
  | cons line part ih =>
      obtain ⟨hline, hpart⟩ := List.forall_mem_cons.1 h
      exact declareAll_cons hline (ih hpart)

end

/-! ## One line -/

section

variable {scopes : List Scope} {line : String} {c : Char}

/-- The first character behind blanks. -/
theorem firstChar?_of_toList {blanks cs : List Char} (h : line.toList = blanks ++ c :: cs)
    (hblanks : ∀ b ∈ blanks, Text.isBlank b = true) (hc : Text.isBlank c = false) :
    firstChar? line = some c := by
  rw [firstChar?, Text.trimStart, h, List.dropWhile_append_of_pos hblanks,
    List.dropWhile_cons_of_neg (Bool.eq_false_iff.1 hc), List.head?_cons]

/-- The last character of a text that is given by its characters. -/
theorem lastChar?_of_eq_ofList {cs : List Char} (h : line = .ofList cs) (hcs : cs.getLast? = some c) :
    lastChar? line = some c := by
  rw [lastChar?, h, String.toList_ofList, hcs]

theorem lastChar?_append {a b : String} (h : lastChar? b = some c) : lastChar? (a ++ b) = some c := by
  rw [lastChar?, String.toList_append, List.getLast?_append, ← lastChar?, h, Option.some_or]

/-- The last character of a text whose end is given by its characters. -/
theorem lastChar?_append_of_eq_ofList {a b : String} {cs : List Char} (h : b = .ofList cs)
    (hcs : cs.getLast? = some c) : lastChar? (a ++ b) = some c :=
  lastChar?_append (lastChar?_of_eq_ofList h hcs)

/-- What stands before the mark that a word ends in. -/
theorem before?_append (word : String) (mark : Char) : before? mark (word ++ .singleton mark) = some word := by
  have hlast : lastChar? (word ++ .singleton mark) = some mark := lastChar?_append (by simp [lastChar?])
  rw [before?, if_pos hlast]
  simp

/-- A blank line declares nothing. -/
theorem declare_blank (h : firstChar? line = none) : declare scopes line = ([], scopes) := by
  rw [declare, h]

/-- A directive declares nothing. -/
theorem declare_directive (h : firstChar? line = some '#') : declare scopes line = ([], scopes) := by
  rw [declare, h]
  exact if_pos rfl

/-- A closing brace closes a scope. -/
theorem declare_close (h : firstChar? line = some '\x7d') :
    declare scopes line = ((declaredBehind? scopes (Text.words line)).toList, scopes.tail) := by
  rw [declare, h]
  dsimp only
  rw [if_neg (by decide), if_pos rfl]

/-- A line of code, by its words. -/
theorem declare_code (h : firstChar? line = some c) (hc : isWordChar c = true) :
    declare scopes line = ((declared? scopes (Text.words line)).toList,
      if lastChar? line = some '\x7b' then opened (Text.words line) :: scopes else scopes) := by
  have hpassed : ¬ c = '#' := by
    rintro rfl
    cases hc
  have hclosing : ¬ c = '\x7d' := by
    rintro rfl
    cases hc
  rw [declare, h]
  dsimp only
  rw [if_neg hpassed, if_neg hclosing]

/-- In a block nothing is declared. -/
theorem declare_block (h : firstChar? line = some c) (hc : isWordChar c = true)
    (hlast : lastChar? line ≠ some '\x7b') :
    declare (.block :: scopes) line = ([], .block :: scopes) := by
  rw [declare_code h hc, if_neg hlast]
  rfl

/-- What opens a block in a structure declares no field if it has no default, and no enumeration. -/
theorem declared?_record {r w₁ w₂ w₃ : String} {ws : List String} (h : ∀ ws, opened (w₁ :: ws) = .block)
    (hne : w₃ ≠ "=") : declared? (.record r :: scopes) (w₁ :: w₂ :: w₃ :: ws) = none := by
  have henum : w₁ ≠ "enum" := by
    rintro rfl
    cases h []
  simp [declared?, hne, henum]

/-- What is opened behind a parenthesis is a block. -/
theorem opened_eq_block {w : String} {ws : List String} (h : '(' ∈ w.toList) :
    opened (w :: ws) = .block := by
  unfold opened
  split
  case h_4 => rfl
  all_goals
    next heq =>
      rw [(List.cons.inj heq).1] at h
      exact absurd h (by decide)

end

/-! ## Words -/

/-- Whether a text is one word. -/
structure IsWord (w : String) : Prop where
  /-- It is not empty. -/
  nonempty : w ≠ ""
  /-- It has no blanks. -/
  solid : ∀ c ∈ w.toList, Text.isBlank c = false

theorem IsWord.append {a b : String} (ha : IsWord a) (hb : ∀ c ∈ b.toList, Text.isBlank c = false) :
    IsWord (a ++ b) where
  nonempty := by simp [ha.nonempty]
  solid c hc := by
    rw [String.toList_append] at hc
    exact (List.mem_append.1 hc).elim (ha.solid c) (hb c)

/-- Whether a text starts with a word character. -/
def StartsWord (w : String) : Prop :=
  ∃ c cs, w.toList = c :: cs ∧ isWordChar c = true

/-- A text that is given by its characters. -/
theorem startsWord_of_eq_ofList {w : String} {c : Char} {cs : List Char} (h : w = String.ofList (c :: cs))
    (hc : isWordChar c = true) : StartsWord w :=
  ⟨c, cs, by rw [h, String.toList_ofList], hc⟩

theorem StartsWord.append {a : String} (h : StartsWord a) (b : String) : StartsWord (a ++ b) := by
  obtain ⟨c, cs, ha, hc⟩ := h
  exact ⟨c, cs ++ b.toList, by rw [String.toList_append, ha, List.cons_append], hc⟩

/-- A line whose first word is one starts with a character of it. -/
theorem StartsWord.exists_firstChar? {w line : String} {blanks cs : List Char} (h : StartsWord w)
    (hline : line.toList = blanks ++ (w.toList ++ cs)) (hblanks : ∀ b ∈ blanks, Text.isBlank b = true) :
    ∃ c, firstChar? line = some c ∧ isWordChar c = true := by
  obtain ⟨c, rest, hw, hc⟩ := h
  rw [hw, List.cons_append] at hline
  exact ⟨c, firstChar?_of_toList hline hblanks (not_isBlank_of_isWordChar hc), hc⟩

section

variable {s w : String} {b : Char} {cs : List Char}

/-- Blanks before a text are in none of its words. -/
theorem words_indented {blanks : List Char} (hblanks : ∀ c ∈ blanks, Text.isBlank c = true)
    (h : s.toList = blanks ++ cs) : Text.words s = Text.words (.ofList cs) := by
  rw [Text.words, Text.words, h, String.toList_ofList]
  clear h
  induction blanks with
  | nil => rfl
  | cons c blanks ih =>
      obtain ⟨hc, hblanks⟩ := List.forall_mem_cons.1 hblanks
      rw [List.cons_append, List.splitOnP_cons_eq_if_modifyHead, if_pos hc]
      exact ih hblanks

/-- The first word of a text. -/
theorem words_cons (hw : IsWord w) (hb : Text.isBlank b = true) (h : s.toList = w.toList ++ b :: cs) :
    Text.words s = w :: Text.words (.ofList cs) := by
  have hne : w.toList.isEmpty = false := by simpa using hw.nonempty
  rw [Text.words, Text.words, h, String.toList_ofList,
    List.splitOnP_append_cons_of_forall_mem hw.solid b hb, List.filterMap_cons, hne]
  simp

theorem words_singleton (hw : IsWord w) : Text.words w = [w] := by
  have hne : w.toList.isEmpty = false := by simpa using hw.nonempty
  rw [Text.words, List.splitOnP_eq_singleton hw.solid, List.filterMap_cons, hne]
  simp

/-- The words that a text starts with, behind two blanks. -/
theorem words_three {w₁ w₂ w₃ : String} (h₁ : IsWord w₁) (h₂ : IsWord w₂) (h₃ : IsWord w₃)
    (h : s.toList = [' ', ' '] ++ (w₁.toList ++ ' ' :: (w₂.toList ++ ' ' :: (w₃.toList ++ ' ' :: cs)))) :
    Text.words s = w₁ :: w₂ :: w₃ :: Text.words (.ofList cs) := by
  have hspace : Text.isBlank ' ' = true := rfl
  rw [words_indented (by decide) h, words_cons h₁ hspace String.toList_ofList,
    words_cons h₂ hspace String.toList_ofList, words_cons h₃ hspace String.toList_ofList]

end

end LayerHeaders.Scoping
