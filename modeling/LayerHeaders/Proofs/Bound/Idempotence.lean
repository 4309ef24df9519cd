import LayerHeaders.Proofs.Bound.Words

/-!
# Qualification twice

The text that comes out of qualification is read again with other text before each of its words. What
decides about a word is the same, though: only what stands between it and the word before is looked at, and
that is the same text, or else the dot that was inserted.

* `followsAccess_eq_of_alikeBefore`: how far back a word looks.
* `qualifyFrom_qualifyFrom`: qualification of what was qualified, from any place.
* `qualify_qualify`: nothing is left to qualify.
-/

namespace LayerHeaders

/-! ## Looking back -/

/-- **Whether two texts are alike before a word**: they are the same back to the last word character. Both
are in reverse. -/
def AlikeBefore (before before' : List Char) : Prop :=
  before.takeWhile (fun c => !isWordChar c) = before'.takeWhile (fun c => !isWordChar c)

theorem AlikeBefore.refl (before : List Char) : AlikeBefore before before :=
  rfl

/-- Behind a character that both go on with. -/
theorem AlikeBefore.cons {before before' : List Char} (c : Char) (h : AlikeBefore before before') :
    AlikeBefore (c :: before) (c :: before') := by
  unfold AlikeBefore at h ⊢
  rw [List.takeWhile_cons, List.takeWhile_cons, h]

/-- Behind a word, whatever is before it. -/
theorem AlikeBefore.of_word {w : List Char} (hne : w ≠ []) (hw : ∀ c ∈ w, isWordChar c = true)
    (before before' : List Char) : AlikeBefore (w.reverse ++ before) (w.reverse ++ before') := by
  obtain ⟨c, cs, hcs⟩ := List.exists_cons_of_ne_nil (List.reverse_ne_nil_iff.2 hne)
  have hc : isWordChar c = true := hw c (List.mem_reverse.1 (hcs ▸ List.mem_cons_self))
  simp [AlikeBefore, hcs, hc]

/-- A word character is none of the others. -/
theorem ne_of_isWordChar {c d : Char} (hc : isWordChar c = true) (hd : isWordChar d = false) : c ≠ d := by
  rintro rfl
  rw [hc] at hd
  cases hd

/-- One character further back. -/
theorem followsAccess_cons (c : Char) (before : List Char) :
    followsAccess (c :: before) = if Text.isBlank c then followsAccess before
      else c == '.' || (c == '>' && before.head? == some '-') := by
  unfold followsAccess
  rw [List.dropWhile_cons]
  split_ifs with hblank
  · rfl
  · split
    · next heq =>
        cases heq
        rfl
    · next heq =>
        cases heq
        rfl
    · next hdot harrow =>
        have hc : c ≠ '.' := fun h => hdot before (by rw [h])
        rcases before with _ | ⟨d, before⟩
        · simp [hc]
        · have hd : c = '>' → d ≠ '-' := fun h hd => harrow before (by rw [h, hd])
          simpa [hc] using hd

/-- A word looks no further back than to the word before. -/
theorem followsAccess_takeWhile (before : List Char) :
    followsAccess (before.takeWhile (fun c => !isWordChar c)) = followsAccess before := by
  induction before with
  | nil => rfl
  | cons c before ih =>
      rcases hc : isWordChar c with _ | _
      · rw [List.takeWhile_cons_of_pos (by simp [hc]), followsAccess_cons, followsAccess_cons, ih]
        have hhead : ((before.takeWhile (fun c => !isWordChar c)).head? == some '-') =
            (before.head? == some '-') := by
          rcases before with _ | ⟨d, before⟩
          · rfl
          · rcases hd : isWordChar d with _ | _
            · simp [hd]
            · have hminus : d ≠ '-' := ne_of_isWordChar hd (by decide)
              simp [hd, hminus]
        rw [hhead]
      · have hdot : c ≠ '.' := ne_of_isWordChar hc (by decide)
        have harrow : c ≠ '>' := ne_of_isWordChar hc (by decide)
        rw [List.takeWhile_cons_of_neg (by simp [hc]), followsAccess_cons,
          if_neg (by simp [not_isBlank_of_isWordChar hc])]
        simp [followsAccess, hdot, harrow]

/-- **Texts that are alike before a word** tell the same about it. -/
theorem followsAccess_eq_of_alikeBefore {before before' : List Char} (h : AlikeBefore before before') :
    followsAccess before' = followsAccess before := by
  rw [← followsAccess_takeWhile before', ← h, followsAccess_takeWhile]

/-! ## What was qualified -/

section

variable {siblings : List (List Char)} {object before word : List Char}

/-- A word that names no sibling stays as it is. -/
theorem qualifyWord_of_not_mem (h : word ∉ siblings) : qualifyWord siblings object before word = word := by
  rcases word with _ | ⟨c, cs⟩
  · rfl
  · rw [qualifyWord, if_neg]
    intro hq
    exact h (qualifies_iff.1 hq).2.1

/-- A member of something else stays as it is. -/
theorem qualifyWord_of_followsAccess (h : followsAccess before = true) :
    qualifyWord siblings object before word = word := by
  rcases word with _ | ⟨c, cs⟩
  · rfl
  · rw [qualifyWord, if_neg]
    simp [h]

/-- A word comes out as it is, or with the object in front. -/
theorem qualifyWord_eq_or (siblings : List (List Char)) (object before word : List Char) :
    qualifyWord siblings object before word = word ∨
      qualifyWord siblings object before word = object ++ '.' :: word := by
  rcases word with _ | ⟨c, cs⟩
  · exact Or.inl rfl
  · rw [qualifyWord]
    split_ifs
    · exact Or.inr rfl
    · exact Or.inl rfl

/-- Alike texts before a word decide the same about it. -/
theorem qualifyWord_of_alikeBefore {before' : List Char} (h : AlikeBefore before before') :
    qualifyWord siblings object before' word = qualifyWord siblings object before word := by
  unfold qualifyWord
  rw [followsAccess_eq_of_alikeBefore h]

/-- What follows a word is no word character after qualification either. -/
theorem EndsWord.qualifyFrom {rest : List Char} (h : EndsWord rest) :
    EndsWord (qualifyFrom siblings object before [] rest) := by
  rcases rest with _ | ⟨c, rest⟩
  · exact h
  · rw [qualifyFrom_other (h c rfl)]
    exact h

/-- **What was qualified stays as it is**, with any text before it that is alike to the text that was
before it. The induction is on the words of the text that was qualified first. -/
theorem qualifyFrom_qualifyFrom (hobject : ∀ c ∈ object, isWordChar c = true) (hnot : object ∉ siblings)
    (text : List Char) {before before' : List Char} (h : AlikeBefore before before') :
    qualifyFrom siblings object before' [] (qualifyFrom siblings object before [] text) =
      qualifyFrom siblings object before [] text := by
  induction text using words_induction generalizing before before' with
  | nil => rfl
  | word w rest hne hw hrest ih =>
      have hends : EndsWord (qualifyFrom siblings object (w.reverse ++ before) [] rest) := hrest.qualifyFrom
      have hrun : ∀ (b : List Char),
          qualifyFrom siblings object b [] (w ++ qualifyFrom siblings object (w.reverse ++ before) [] rest) =
            qualifyWord siblings object b w ++ qualifyFrom siblings object (w.reverse ++ before) [] rest := by
        intro b
        rw [qualifyFrom_word hw hends, List.reverse_nil, List.nil_append, List.append_nil,
          ih (.of_word hne hw before b)]
      rw [qualifyFrom_word hw hrest, List.reverse_nil, List.nil_append, List.append_nil]
      rcases qualifyWord_eq_or siblings object before w with hkept | hadded
      · rw [hkept, hrun, qualifyWord_of_alikeBefore h, hkept]
      · -- the object is a word of its own, and what follows its dot is a member of it
        have hdot : EndsWord ('.' :: (w ++ qualifyFrom siblings object (w.reverse ++ before) [] rest)) := by
          intro c hc
          cases hc
          decide
        rw [hadded, List.append_assoc, List.cons_append, qualifyFrom_word hobject hdot, List.reverse_nil,
          List.nil_append, List.append_nil, qualifyWord_of_not_mem hnot, qualifyFrom_other (by decide), hrun,
          qualifyWord_of_followsAccess rfl]
  | other c rest hc ih =>
      rw [qualifyFrom_other hc, qualifyFrom_other hc, ih (h.cons c)]

end

/-! ## Qualification twice -/

section

variable {object : String} {siblings : List String}

/-- **Qualification is idempotent** if the object is an identifier and no sibling: what was qualified is
not qualified again. -/
theorem qualify_qualify (hobject : isIdentifier object = true) (hnot : object ∉ siblings)
    (expression : String) :
    qualify (qualify expression siblings object) siblings object = qualify expression siblings object := by
  have hchars : object.toList ∉ siblings.map (·.toList) := by
    rintro hmem
    obtain ⟨s, hs, heq⟩ := List.mem_map.1 hmem
    exact hnot (String.toList_injective heq ▸ hs)
  have hword := isWordChar_of_isIdentifier hobject
  unfold qualify
  rw [String.toList_ofList, qualifyFrom_qualifyFrom hword hchars expression.toList (.refl [])]

/-- A text with a member of something else, a number, a character beyond ASCII and words that only contain
a sibling. -/
theorem qualify_qualify_sample :
    let expression := "info.count + p ->count + é*count2 + 2count + count"
    isIdentifier "v" = true ∧ "v" ∉ ["count", "info"] ∧
      qualify (qualify expression ["count", "info"] "v") ["count", "info"] "v" =
        qualify expression ["count", "info"] "v" := by
  have hobject : isIdentifier "v" = true := by decide
  have hnot : "v" ∉ ["count", "info"] := by decide
  exact ⟨hobject, hnot, qualify_qualify hobject hnot _⟩

/-- An object that is a sibling itself is qualified again. -/
example :
    qualify "count" ["count", "v"] "v" = "v.count" ∧ qualify "v.count" ["count", "v"] "v" = "v.v.count" := by
  decide

end

end LayerHeaders
