import LayerHeaders.Bound
import LayerHeaders.Manifest.Typing
import Mathlib.Data.List.TakeWhile

/-!
# Words of an expression

A text consists of words, which are maximal runs of word characters, and of other characters between
them. Qualification goes over the text word by word: the text comes out with the object in front of some
words, and otherwise as it was.

* `isWordChar_of_isIdentifier`: what identifiers consist of.
* `words_induction`: a text is built from words and other characters.
* `qualifyFrom_word`, `qualifyFrom_other`: qualification of a text that starts with either.
* `InsertsAt`, `InsertsAt.text_unique`: a text with insertions at some of its positions, and without them.
* `isWordAt_iff`: where a word stands, and which.
* `insertsAt_qualifyFrom`: qualification inserts the object before the words that name siblings.
-/

namespace LayerHeaders

/-! ## Word characters -/

/-- What holds of the characters in a list is decided by going through the list. Without the instance it may
be decided by going through all characters. -/
instance decidableForallMemChar {p : Char → Prop} [DecidablePred p] (l : List Char) :
    Decidable (∀ c ∈ l, p c) :=
  List.decidableBAll p l

theorem isDigit_iff {c : Char} : c.isDigit = true ↔ 48 ≤ c.toNat ∧ c.toNat ≤ 57 := by
  simp [Char.isDigit, UInt32.le_iff_toNat_le]

theorem isWordChar_iff {c : Char} :
    isWordChar c = true ↔ (65 ≤ c.toNat ∧ c.toNat ≤ 90) ∨ (97 ≤ c.toNat ∧ c.toNat ≤ 122) ∨
      (48 ≤ c.toNat ∧ c.toNat ≤ 57) ∨ c.toNat = 95 := by
  have hupper : c.isUpper = decide ('A'.val ≤ c.val ∧ c.val ≤ 'Z'.val) := rfl
  have hlower : c.isLower = (decide ('a'.val ≤ c.val) && decide (c.val ≤ 'z'.val)) := rfl
  have hletter : c.isAlpha = (c.isUpper || c.isLower) := rfl
  simp [isWordChar, Char.isAlphanum, hletter, hupper, hlower, isDigit_iff, UInt32.le_iff_toNat_le,
    ← Char.toNat_inj, or_assoc]

theorem not_isBlank_of_isWordChar {c : Char} (h : isWordChar c = true) : Text.isBlank c = false := by
  rw [isWordChar_iff] at h
  simp only [Text.isBlank, Bool.or_eq_false_iff, Bool.and_eq_false_iff, decide_eq_false_iff_not,
    beq_eq_false_iff_ne]
  omega

/-- An identifier consists of word characters. -/
theorem isWordChar_of_isIdentifier {key : String} (h : isIdentifier key = true) :
    ∀ c ∈ key.toList, isWordChar c = true := by
  unfold isIdentifier at h
  generalize key.toList = chars at h
  rcases chars with _ | ⟨c, cs⟩
  · cases h
  · obtain ⟨hstart, hrest⟩ := Bool.and_eq_true_iff.1 h
    have hc : isWordChar c = true := by
      simp only [isIdentifierStart, Bool.or_eq_true] at hstart
      simp only [isWordChar, Char.isAlphanum, Bool.or_eq_true]
      exact hstart.imp_left Or.inl
    exact List.forall_mem_cons.2 ⟨hc, List.all_eq_true.1 hrest⟩

/-! ## Word by word -/

/-- Whether a text does not go on with a word character. -/
def EndsWord (rest : List Char) : Prop :=
  ∀ c ∈ rest.head?, isWordChar c = false

/-- A word is what is taken of the text that starts with it. -/
theorem takeWhile_word_append {word rest : List Char} (hword : ∀ c ∈ word, isWordChar c = true)
    (hrest : EndsWord rest) : (word ++ rest).takeWhile isWordChar = word := by
  rw [List.takeWhile_append_of_pos hword]
  rcases rest with _ | ⟨c, rest⟩
  · simp
  · rw [List.takeWhile_cons_of_neg (by simp [hrest c rfl]), List.append_nil]

/-- **A text is built from words and other characters**, the last one first. -/
theorem words_induction {motive : List Char → Prop} (nil : motive [])
    (word : ∀ w rest, w ≠ [] → (∀ c ∈ w, isWordChar c = true) → EndsWord rest → motive rest →
      motive (w ++ rest))
    (other : ∀ c rest, isWordChar c = false → motive rest → motive (c :: rest)) (text : List Char) :
    motive text := by
  induction hn : text.length using Nat.strong_induction_on generalizing text with
  | _ n ih =>
      subst hn
      rcases text with _ | ⟨c, rest⟩
      · exact nil
      · rcases hc : isWordChar c with _ | _
        · exact other c rest hc (ih _ (by simp) rest rfl)
        · have hsplit := List.takeWhile_append_dropWhile (p := isWordChar) (l := c :: rest)
          have hne : (c :: rest).takeWhile isWordChar ≠ [] := by simp [hc]
          have hshorter : ((c :: rest).dropWhile isWordChar).length < (c :: rest).length := by
            have hlength := congrArg List.length hsplit
            have hpos := List.length_pos_iff.2 hne
            rw [List.length_append] at hlength
            omega
          rw [← hsplit]
          refine word _ _ hne (fun d hd => List.mem_takeWhile_imp hd) ?_ (ih _ hshorter _ rfl)
          intro d hd
          have hnot := List.head?_dropWhile_not isWordChar (c :: rest)
          rw [hd] at hnot
          exact hnot

section

variable {siblings : List (List Char)} {object before : List Char}

/-- Qualification of a text that starts with the rest of a word. -/
theorem qualifyFrom_word {w rest : List Char} (hw : ∀ c ∈ w, isWordChar c = true) (hrest : EndsWord rest)
    (read : List Char) :
    qualifyFrom siblings object before read (w ++ rest) =
      qualifyWord siblings object before (read.reverse ++ w) ++
        qualifyFrom siblings object (w.reverse ++ read ++ before) [] rest := by
  induction w generalizing read with
  | nil =>
      rcases rest with _ | ⟨c, rest⟩
      · simp [qualifyFrom, qualifyWord]
      · have hc : isWordChar c = false := hrest c rfl
        simp [qualifyFrom, qualifyWord, hc]
  | cons c w ih =>
      have hc : isWordChar c = true := hw c List.mem_cons_self
      rw [List.cons_append, qualifyFrom, if_pos hc, ih fun d hd => hw d (List.mem_cons_of_mem c hd)]
      simp

/-- Qualification of a text that starts with another character. -/
theorem qualifyFrom_other {c : Char} {rest : List Char} (hc : isWordChar c = false) :
    qualifyFrom siblings object before [] (c :: rest) =
      c :: qualifyFrom siblings object (c :: before) [] rest := by
  simp [qualifyFrom, qualifyWord, hc]

end

/-! ## Insertions -/

/-- **Whether a text has insertions at some positions**: it is the given text, whose first character is
at position `n`, with `added` in front of the characters at these positions and nowhere else. -/
inductive InsertsAt (added : List Char) (positions : ℕ → Prop) : ℕ → List Char → List Char → Prop
  /-- At the end. -/
  | nil (n : ℕ) : InsertsAt added positions n [] []
  /-- A character with nothing in front of it. -/
  | kept {n : ℕ} {text result : List Char} (c : Char) (h : ¬ positions n)
      (hrest : InsertsAt added positions (n + 1) text result) :
      InsertsAt added positions n (c :: text) (c :: result)
  /-- A character with an insertion in front of it. -/
  | inserted {n : ℕ} {text result : List Char} (c : Char) (h : positions n)
      (hrest : InsertsAt added positions (n + 1) text result) :
      InsertsAt added positions n (c :: text) (added ++ c :: result)

namespace InsertsAt

variable {added : List Char} {positions : ℕ → Prop} {n : ℕ} {a b r : List Char}

/-- A part without insertions, followed by another part. -/
theorem append_of_forall (ha : ∀ k < a.length, ¬ positions (n + k))
    (hb : InsertsAt added positions (n + a.length) b r) :
    InsertsAt added positions n (a ++ b) (a ++ r) := by
  induction a generalizing n with
  | nil => exact hb
  | cons c a ih =>
      refine .kept c (ha 0 (by simp)) (ih (fun k hk => ?_) ?_)
      · have hk' := ha (k + 1) (by simpa using hk)
        rwa [← Nat.add_assoc, Nat.add_right_comm] at hk'
      · rwa [List.length_cons, ← Nat.add_assoc, Nat.add_right_comm] at hb

/-- A part with an insertion in front only, followed by another part. -/
theorem append_of_head (hne : a ≠ []) (hhead : positions n)
    (htail : ∀ k < a.length, 0 < k → ¬ positions (n + k))
    (hb : InsertsAt added positions (n + a.length) b r) :
    InsertsAt added positions n (a ++ b) (added ++ a ++ r) := by
  rcases a with _ | ⟨c, a⟩
  · exact absurd rfl hne
  · rw [List.cons_append, List.append_assoc, List.cons_append]
    refine .inserted c hhead (append_of_forall (fun k hk => ?_) ?_)
    · have hk' := htail (k + 1) (by simpa using hk) (Nat.succ_pos k)
      rwa [← Nat.add_assoc, Nat.add_right_comm] at hk'
    · rwa [List.length_cons, ← Nat.add_assoc, Nat.add_right_comm] at hb

/-- **Without the insertions the text is there again**: the result and the positions determine it. -/
theorem text_unique {text text' result : List Char} (h : InsertsAt added positions n text result)
    (h' : InsertsAt added positions n text' result) : text = text' := by
  induction h generalizing text' with
  | nil n =>
      generalize hr : ([] : List Char) = result at h'
      cases h' with
      | nil => rfl
      | kept c => cases hr
      | inserted c => simp at hr
  | @kept n text result c h hrest ih =>
      generalize hr : c :: result = whole at h'
      cases h' with
      | nil => cases hr
      | kept d _ hrest' =>
          obtain ⟨rfl, rfl⟩ := List.cons.inj hr
          rw [ih hrest']
      | inserted _ hpos => exact absurd hpos h
  | @inserted n text result c h hrest ih =>
      generalize hr : added ++ c :: result = whole at h'
      cases h' with
      | nil => simp at hr
      | kept _ hnot => exact absurd h hnot
      | inserted d _ hrest' =>
          obtain ⟨rfl, rfl⟩ := List.cons.inj (List.append_cancel_left hr)
          rw [ih hrest']

end InsertsAt

/-! ## Where words stand -/

/-- **Whether a word stands at a position of a text**: it is a maximal run of word characters. -/
structure IsWordAt (text : List Char) (n : ℕ) (word : List Char) : Prop where
  /-- It has characters. -/
  nonempty : word ≠ []
  /-- They stand at the position. -/
  stands : word <+: text.drop n
  /-- All are word characters. -/
  wordChars : ∀ c ∈ word, isWordChar c = true
  /-- None stands before them. -/
  starts : ∀ c ∈ (text.take n).getLast?, isWordChar c = false
  /-- None stands behind them. -/
  ends : ∀ c ∈ (text.drop (n + word.length)).head?, isWordChar c = false

/-- Whether a text ends in the sign of a member access, but for blanks. -/
def EndsInAccess (before : List Char) : Prop :=
  ['.'] <:+ Text.trimEnd before ∨ ['-', '>'] <:+ Text.trimEnd before

instance (before : List Char) : Decidable (EndsInAccess before) :=
  inferInstanceAs (Decidable (_ ∨ _))

/-- **Whether a word that names a sibling stands at a position**: it does not start with a digit, is one
of the siblings, and is no member of something else. -/
def NamesSibling (siblings : List (List Char)) (text : List Char) (n : ℕ) : Prop :=
  ∃ word, IsWordAt text n word ∧ (∀ c ∈ word.head?, c.isDigit = false) ∧ word ∈ siblings ∧
    ¬ EndsInAccess (text.take n)

/-- The text before a word is looked at from its end. -/
theorem followsAccess_iff {before : List Char} :
    followsAccess before = true ↔ EndsInAccess before.reverse := by
  unfold followsAccess EndsInAccess Text.trimEnd
  rw [List.reverse_reverse]
  generalize before.dropWhile Text.isBlank = cs
  have hdot : ['.'] <:+ cs.reverse ↔ ['.'] <+: cs := @List.reverse_suffix _ ['.'] cs
  have harrow : ['-', '>'] <:+ cs.reverse ↔ ['>', '-'] <+: cs := @List.reverse_suffix _ ['>', '-'] cs
  rw [hdot, harrow]
  split
  · simp
  · simp
  · next hndot hnarrow =>
      simp only [Bool.false_eq_true, false_iff, not_or]
      constructor
      · rintro ⟨rest, rfl⟩
        exact hndot rest rfl
      · rintro ⟨rest, rfl⟩
        exact hnarrow rest rfl

section

variable {siblings : List (List Char)} {text before word rest : List Char} {n : ℕ}

/-- A word ends where the word characters end. -/
theorem IsWordAt.eq_takeWhile (h : IsWordAt text n word) :
    word = (text.drop n).takeWhile isWordChar := by
  obtain ⟨rest, hrest⟩ := h.stands
  have hends := h.ends
  rw [← List.drop_drop, ← hrest, List.drop_left] at hends
  rw [← hrest, takeWhile_word_append h.wordChars hends]

/-- **Which word stands at a position** behind a given text, that does not end within a word. -/
theorem isWordAt_iff (hw : word ≠ []) (hword : ∀ c ∈ word, isWordChar c = true) (hrest : EndsWord rest)
    (hbefore : ∀ c ∈ before.getLast?, isWordChar c = false) {w : List Char} :
    IsWordAt (before ++ (word ++ rest)) before.length w ↔ w = word := by
  constructor
  · intro h
    rw [h.eq_takeWhile, List.drop_left, takeWhile_word_append hword hrest]
  · rintro rfl
    refine ⟨hw, ?_, hword, ?_, ?_⟩
    · rw [List.drop_left]
      exact List.prefix_append _ _
    · rwa [List.take_left]
    · rw [← List.drop_drop, List.drop_left, List.drop_left]
      exact hrest

/-- No word stands behind a word character. -/
theorem not_isWordAt_of_getLast? {c : Char} (hc : isWordChar c = true)
    (hlast : (text.take n).getLast? = some c) : ¬ IsWordAt text n word := by
  intro h
  have hstarts := h.starts c hlast
  rw [hc] at hstarts
  cases hstarts

/-- No word stands at another character. -/
theorem not_isWordAt_of_head? {c : Char} (hc : isWordChar c = false)
    (hhead : (text.drop n).head? = some c) : ¬ IsWordAt text n word := by
  intro h
  rcases word with _ | ⟨d, word⟩
  · exact h.nonempty rfl
  · obtain ⟨rest, hrest⟩ := h.stands
    have hd := h.wordChars d List.mem_cons_self
    rw [← hrest, List.cons_append, List.head?_cons, Option.some.injEq] at hhead
    rw [hhead, hc] at hd
    cases hd

/-- A word names a sibling exactly if it is qualified. -/
theorem namesSibling_iff (hw : word ≠ []) (hword : ∀ c ∈ word, isWordChar c = true)
    (hrest : EndsWord rest) (hbefore : ∀ c ∈ before.getLast?, isWordChar c = false) :
    NamesSibling siblings (before ++ (word ++ rest)) before.length ↔
      (∀ c ∈ word.head?, c.isDigit = false) ∧ word ∈ siblings ∧ ¬ EndsInAccess before := by
  unfold NamesSibling
  simp only [isWordAt_iff hw hword hrest hbefore, exists_eq_left, List.take_left]

/-- No name of a sibling stands inside a word. -/
theorem not_namesSibling_inside {k : ℕ} (hword : ∀ c ∈ word, isWordChar c = true) (hk : k < word.length)
    (hpos : 0 < k) : ¬ NamesSibling siblings (before ++ (word ++ rest)) (before.length + k) := by
  rintro ⟨w, hw, -⟩
  obtain ⟨j, rfl⟩ : ∃ j, k = j + 1 := ⟨k - 1, by omega⟩
  have hlast : ((before ++ (word ++ rest)).take (before.length + (j + 1))).getLast? = some word[j] := by
    rw [List.take_length_add_append, List.take_append_of_le_length (by omega), List.getLast?_append,
      List.getLast?_take]
    simp [List.getElem?_eq_getElem (show j < word.length by omega)]
  exact not_isWordAt_of_getLast? (hword _ (List.getElem_mem _)) hlast hw

end

/-! ## What qualification inserts -/

section

variable {siblings : List (List Char)} {object before word : List Char}

/-- The test that decides whether a word is qualified. -/
theorem qualifies_iff {c : Char} :
    (!c.isDigit && !followsAccess before && siblings.contains (c :: word)) = true ↔
      (∀ d ∈ (c :: word).head?, d.isDigit = false) ∧ (c :: word) ∈ siblings ∧
        ¬ EndsInAccess before.reverse := by
  rw [← followsAccess_iff, Bool.and_eq_true, Bool.and_eq_true, Bool.not_eq_true', Bool.not_eq_true',
    List.contains_iff_mem, Bool.not_eq_true]
  simp [and_assoc, and_comm (a := followsAccess before = false)]

/-- **Qualification inserts the object** in front of the words that name siblings, and changes nothing
else. Here `before` is the text before, in reverse, and what follows it does not continue a word. -/
theorem insertsAt_qualifyFrom (text : List Char) (hbefore : EndsWord before ∨ EndsWord text) :
    InsertsAt (object ++ ['.']) (NamesSibling siblings (before.reverse ++ text)) before.length text
      (qualifyFrom siblings object before [] text) := by
  induction text using words_induction generalizing before with
  | nil => exact .nil _
  | word w rest hne hw hrest ih =>
      -- a word stands here, so the text before does not end within a word
      have hstart : ∀ c ∈ before.reverse.getLast?, isWordChar c = false := by
        rw [List.getLast?_reverse]
        rcases hbefore with hbefore | hword
        · exact hbefore
        · rcases w with _ | ⟨c, w⟩
          · exact absurd rfl hne
          · have hc := hw c List.mem_cons_self
            rw [hword c rfl] at hc
            cases hc
      have hnames : NamesSibling siblings (before.reverse ++ (w ++ rest)) before.reverse.length ↔ _ :=
        namesSibling_iff hne hw hrest hstart
      have hinside : ∀ k < w.length, 0 < k →
          ¬ NamesSibling siblings (before.reverse ++ (w ++ rest)) (before.reverse.length + k) :=
        fun k => not_namesSibling_inside hw
      have hnext := @ih (w.reverse ++ before) (Or.inr hrest)
      rw [List.reverse_append, List.reverse_reverse, List.append_assoc, List.length_append,
        List.length_reverse, Nat.add_comm] at hnext
      rw [qualifyFrom_word hw hrest, List.reverse_nil, List.nil_append, List.append_nil]
      rw [List.length_reverse] at hnames hinside
      rcases w with _ | ⟨c, w⟩
      · exact absurd rfl hne
      · rw [qualifyWord]
        split_ifs with hq
        · have hhead := hnames.2 (qualifies_iff.1 hq)
          have hparts : object ++ '.' :: c :: w = object ++ ['.'] ++ c :: w := List.append_cons ..
          rw [hparts]
          exact .append_of_head hne hhead hinside hnext
        · have hhead : ¬ NamesSibling siblings (before.reverse ++ (c :: w ++ rest)) before.length :=
            fun h => hq (qualifies_iff.2 (hnames.1 h))
          refine .append_of_forall (fun k hk => ?_) hnext
          rcases Nat.eq_zero_or_pos k with rfl | hpos
          · exact hhead
          · exact hinside k hk hpos
  | other c rest hc ih =>
      have hnone : ¬ NamesSibling siblings (before.reverse ++ (c :: rest)) before.length := by
        rintro ⟨w, hw, -⟩
        refine not_isWordAt_of_head? hc ?_ hw
        rw [← List.length_reverse, List.drop_left, List.head?_cons]
      have hfresh : EndsWord (c :: before) := by
        intro d hd
        cases hd
        exact hc
      have hnext := @ih (c :: before) (Or.inl hfresh)
      rw [List.reverse_cons, ← List.append_cons] at hnext
      rw [qualifyFrom_other hc]
      exact .kept c hnone hnext

end

end LayerHeaders
