import LayerHeaders.Proofs.Traversal
import LayerHeaders.Xml.Token

/-!
# The tokens of a text that goes on

Cutting a text up looks no further than the end of a piece of markup, so a text without a defect keeps its
tokens when more follows. Only a run of text at its end is not complete: it takes in the text that
follows.

* `next_append`: the first token of a text that goes on.
* `joined`: two lists of tokens, with the runs of text where they meet as one.
* `scanFrom_append`: the tokens of a text that goes on.
-/

namespace LayerHeaders.Xml

/-- A start that a text has is the start of the longer text. -/
theorem dropStart?_append {start text rest : List Char} (h : Text.dropStart? start text = some rest)
    (v : List Char) : Text.dropStart? start (text ++ v) = some (rest ++ v) := by
  rw [Text.dropStart?_eq_some_iff] at h ⊢
  rw [h, List.append_assoc]

/-- A start that a text does not have, though it is long enough, is no start of the longer text. -/
theorem dropStart?_append_eq_none {start text : List Char} (h : Text.dropStart? start text = none)
    (hlen : start.length ≤ text.length) (v : List Char) : Text.dropStart? start (text ++ v) = none := by
  rw [Option.eq_none_iff_forall_ne_some] at h ⊢
  intro rest hrest
  rw [Text.dropStart?_eq_some_iff] at hrest
  obtain ⟨rest', rfl⟩ := List.prefix_of_prefix_length_le ⟨rest, hrest.symm⟩ (List.prefix_append text v)
    hlen
  exact h rest' (Text.dropStart?_eq_some_iff.2 rfl)

namespace Token

/-! ## Pieces of markup -/

/-- A text that starts with the mark is cut there. -/
theorem cutFrom_of_dropStart? {mark before cs rest : List Char}
    (h : Text.dropStart? mark cs = some rest) : cutFrom mark before cs = some (before.reverse, rest) := by
  rw [cutFrom.eq_def, h]

/-- A text that does not start with the mark is cut further on. -/
theorem cutFrom_cons {mark before cs : List Char} {c : Char}
    (h : Text.dropStart? mark (c :: cs) = none) :
    cutFrom mark before (c :: cs) = cutFrom mark (c :: before) cs := by
  rw [cutFrom.eq_def, h]

/-- A text that can be cut at a mark has room for it. -/
theorem length_le_of_cutFrom {mark before cs a rest : List Char}
    (h : cutFrom mark before cs = some (a, rest)) : mark.length ≤ cs.length := by
  induction cs generalizing before with
  | nil =>
      rw [cutFrom] at h
      split at h
      · next hstart =>
          rw [Text.dropStart?_eq_some_iff.1 hstart, List.length_append]
          exact Nat.le_add_right _ _
      · cases h
  | cons c cs ih =>
      rw [cutFrom] at h
      split at h
      · next hstart =>
          rw [Text.dropStart?_eq_some_iff.1 hstart, List.length_append]
          exact Nat.le_add_right _ _
      · exact Nat.le_succ_of_le (ih h)

theorem cutFrom_append {mark before cs a rest : List Char}
    (h : cutFrom mark before cs = some (a, rest)) (v : List Char) :
    cutFrom mark before (cs ++ v) = some (a, rest ++ v) := by
  induction cs generalizing before with
  | nil =>
      rw [cutFrom] at h
      split at h
      · next hstart =>
          cases h
          exact cutFrom_of_dropStart? (dropStart?_append hstart v)
      · cases h
  | cons c cs ih =>
      have hlen := length_le_of_cutFrom h
      rw [cutFrom] at h
      split at h
      · next hstart =>
          cases h
          exact cutFrom_of_dropStart? (dropStart?_append hstart v)
      · next hstart =>
          rw [List.cons_append, cutFrom_cons]
          · exact ih h
          · exact dropStart?_append_eq_none hstart hlen v

theorem cutTagFrom_append {quote? : Option Char} {before cs a rest : List Char}
    (h : cutTagFrom quote? before cs = some (a, rest)) (v : List Char) :
    cutTagFrom quote? before (cs ++ v) = some (a, rest ++ v) := by
  induction cs generalizing quote? before with
  | nil => cases h
  | cons c cs ih =>
      unfold cutTagFrom at h
      rw [List.cons_append]
      unfold cutTagFrom
      rcases quote? with _ | quote
      · dsimp only at h ⊢
        split_ifs at h ⊢
        · cases h
          rfl
        · exact ih h
        · exact ih h
      · exact ih h

theorem cutBalancedFrom_append {depth : Nat} {before cs a rest : List Char}
    (h : cutBalancedFrom depth before cs = some (a, rest)) (v : List Char) :
    cutBalancedFrom depth before (cs ++ v) = some (a, rest ++ v) := by
  induction cs generalizing depth before with
  | nil => cases h
  | cons c cs ih =>
      unfold cutBalancedFrom at h
      rw [List.cons_append]
      unfold cutBalancedFrom
      split_ifs at h ⊢
      · rcases depth with _ | depth
        · cases h
          rfl
        · exact ih h
      · exact ih h
      · exact ih h

theorem dropWord?_append {word cs rest : List Char} (h : dropWord? word cs = some rest)
    (v : List Char) : dropWord? word (cs ++ v) = some (rest ++ v) := by
  induction word generalizing cs with
  | nil =>
      cases h
      rfl
  | cons w word ih =>
      rcases cs with _ | ⟨c, cs⟩
      · cases h
      · rw [dropWord?] at h
        rw [List.cons_append, dropWord?]
        split_ifs at h ⊢
        exact ih h

theorem declaration_append {cs rest : List Char} {t : Token} (h : declaration cs = .ok (t, rest))
    (v : List Char) : declaration (cs ++ v) = .ok (t, rest ++ v) := by
  unfold declaration at h
  split at h
  · -- a comment
    next cs =>
      split at h
      · next hcut =>
          cases h
          simp only [List.cons_append, declaration, cutAt, cutFrom_append hcut]
      · cases h
  · cases h
  · -- a character data section
    next cs =>
      split at h
      · cases h
      · next hstart =>
          split at h
          · next hcut =>
              cases h
              simp only [List.cons_append, declaration, cutAt, dropStart?_append hstart,
                cutFrom_append hcut]
          · cases h
  · -- a document type
    next c cs hcomment hdash hdata =>
      split_ifs at h with hword
      split at h
      · cases h
      · next content rest hcut =>
          split_ifs at h with hblank
          cases h
          obtain ⟨name, hname, hbalanced⟩ := Option.bind_eq_some_iff.1 hcut
          have hcut' : (dropWord? "OCTYPE".toList (cs ++ v)).bind cutBalanced =
              some (content, rest ++ v) := by
            rw [dropWord?_append hname, Option.bind_some]
            exact cutBalancedFrom_append hbalanced v
          rw [List.cons_append, declaration, if_pos hword, hcut']
          · simp [hblank]
          · exact fun _ hc _ => hdash hc
          · exact hdash
          · exact hdata
  · cases h

theorem instruction_append {cs rest : List Char} {t : Token} (h : instruction cs = .ok (t, rest))
    (v : List Char) : instruction (cs ++ v) = .ok (t, rest ++ v) := by
  unfold instruction at h
  split at h
  · cases h
  · next hend =>
      split at h
      · next hcut =>
          cases h
          rcases cs with _ | ⟨c, cs⟩
          · cases hcut
          · rw [List.cons_append, instruction, ← List.cons_append, cutAt, cutFrom_append hcut]
            rintro rest ⟨rfl, -⟩
            exact hend cs rfl
      · cases h

theorem endTag_append {cs rest : List Char} {t : Token} (h : endTag cs = .ok (t, rest))
    (v : List Char) : endTag (cs ++ v) = .ok (t, rest ++ v) := by
  unfold endTag at h
  split at h
  · next hcut =>
      cases h
      rw [endTag, cutTag, cutTagFrom_append hcut]
  · cases h

theorem startTag_append {cs rest : List Char} {t : Token} (h : startTag cs = .ok (t, rest))
    (v : List Char) : startTag (cs ++ v) = .ok (t, rest ++ v) := by
  unfold startTag at h
  split at h
  · next hcut =>
      rw [startTag, cutTag, cutTagFrom_append hcut]
      dsimp only
      split at h
      · cases h
        rfl
      · cases h
        rfl
  · cases h

/-! ## One token -/

/-- Whether a token is a run of text. -/
def isText : Token → Bool
  | .text _ => true
  | _ => false

/-- No piece of markup is a run of text. -/
theorem isText_of_next_markup {cs rest : List Char} {t : Token} (h : next '<' cs = .ok (t, rest)) :
    t.isText = false := by
  unfold next at h
  rw [if_pos rfl] at h
  split at h
  · unfold declaration at h
    repeat' split at h
    all_goals cases h
    all_goals rfl
  · unfold instruction at h
    repeat' split at h
    all_goals cases h
    all_goals rfl
  · unfold endTag at h
    split at h
    all_goals cases h
    all_goals rfl
  · unfold startTag at h
    repeat' split at h
    all_goals cases h
    all_goals rfl

/-- **A piece of markup stays the first token of a text that goes on.** -/
theorem next_markup_append {cs rest : List Char} {t : Token} (h : next '<' cs = .ok (t, rest))
    (v : List Char) : next '<' (cs ++ v) = .ok (t, rest ++ v) := by
  unfold next at h
  rw [if_pos rfl] at h
  split at h
  · exact declaration_append h v
  · exact instruction_append h v
  · exact endTag_append h v
  · next hdeclaration hinstruction hend =>
      rcases cs with _ | ⟨c, cs⟩
      · cases h
      · unfold next
        rw [if_pos rfl]
        split
        · next heq =>
            cases heq
            exact absurd rfl (hdeclaration cs)
        · next heq =>
            cases heq
            exact absurd rfl (hinstruction cs)
        · next heq =>
            cases heq
            exact absurd rfl (hend cs)
        · exact startTag_append h v

/-- What does not start a piece of markup starts a run of text, up to the next piece. -/
theorem next_of_ne {c : Char} (hc : c ≠ '<') (cs : List Char) :
    next c cs = .ok (.text (c :: cs.takeWhile (· != '<')), cs.dropWhile (· != '<')) := by
  unfold next
  rw [if_neg hc]

/-- **The first token of a text that goes on** is the first token of the text, unless that is a run of
text up to its end. -/
theorem next_append {c : Char} {cs rest : List Char} {t : Token} (h : next c cs = .ok (t, rest))
    (ht : t.isText = true → rest ≠ []) (v : List Char) : next c (cs ++ v) = .ok (t, rest ++ v) := by
  by_cases hc : c = '<'
  · subst hc
    exact next_markup_append h v
  · rw [next_of_ne hc] at h ⊢
    cases h
    have hrest := ht rfl
    have hlen : (cs.takeWhile (· != '<')).length ≠ cs.length := by
      intro hlen
      have hsplit := congrArg List.length (cs.takeWhile_append_dropWhile (p := (· != '<')))
      rw [List.length_append, hlen, Nat.add_eq_left] at hsplit
      exact hrest (List.length_eq_zero_iff.1 hsplit)
    rw [List.takeWhile_append, if_neg hlen, List.dropWhile_append, if_neg]
    simpa using hrest

/-- A run of text up to the end of a text takes in the text that follows. -/
theorem next_text_append {c : Char} {cs : List Char} {t : Token} (h : next c cs = .ok (t, []))
    (ht : t.isText = true) (v : List Char) :
    t = .text (c :: cs) ∧
      next c (cs ++ v) = .ok (.text (c :: cs ++ v.takeWhile (· != '<')), v.dropWhile (· != '<')) := by
  by_cases hc : c = '<'
  · subst hc
    rw [isText_of_next_markup h] at ht
    cases ht
  · rw [next_of_ne hc] at h ⊢
    obtain ⟨rfl, hdrop⟩ := Prod.ext_iff.1 (Except.ok.inj h)
    have htake : cs.takeWhile (· != '<') = cs := by
      have hsplit := cs.takeWhile_append_dropWhile (p := (· != '<'))
      dsimp only at hdrop
      rwa [hdrop, List.append_nil] at hsplit
    refine ⟨by rw [htake], ?_⟩
    rw [List.takeWhile_append, if_pos (by rw [htake]), List.dropWhile_append, if_pos]
    · rfl
    · exact List.isEmpty_iff.2 hdrop

/-! ## All tokens -/

theorem scanFrom_of_next {c : Char} {cs rest : List Char} {t : Token}
    (h : next c cs = .ok (t, rest)) (before : List Token) :
    scanFrom before (c :: cs) = scanFrom (t :: before) rest := by
  rw [scanFrom]
  split
  · next h' =>
      rw [h] at h'
      cases h'
      rfl
  · next h' =>
      rw [h] at h'
      cases h'

theorem scanFrom_of_error {c : Char} {cs : List Char} {e : Error} (h : next c cs = .error e)
    (before : List Token) : scanFrom before (c :: cs) = (before.reverse, some e) := by
  rw [scanFrom]
  split
  · next h' =>
      rw [h] at h'
      cases h'
  · next h' =>
      rw [h] at h'
      cases h'
      rfl

/-- The tokens so far come before the others. -/
theorem scanFrom_eq (before : List Token) (cs : List Char) :
    scanFrom before cs = (before.reverse ++ (scanFrom [] cs).1, (scanFrom [] cs).2) := by
  -- the induction is on the text, for any tokens so far
  have hall : ∀ seen before : List Token,
      scanFrom before cs = (before.reverse ++ (scanFrom [] cs).1, (scanFrom [] cs).2) := by
    intro seen
    induction seen, cs using scanFrom.induct with
    | case1 => simp [scanFrom]
    | case2 _ c cs t rest h ih =>
        intro before
        rw [scanFrom_of_next h, scanFrom_of_next h, ih (t :: before), ih [t]]
        simp
    | case3 _ c cs e h =>
        intro before
        rw [scanFrom_of_error h, scanFrom_of_error h]
        simp
  exact hall [] before

/-- The first token comes before the tokens of what follows it. -/
theorem scanFrom_cons {c : Char} {cs rest : List Char} {t : Token} (h : next c cs = .ok (t, rest)) :
    scanFrom [] (c :: cs) = (t :: (scanFrom [] rest).1, (scanFrom [] rest).2) := by
  rw [scanFrom_of_next h, scanFrom_eq]
  rfl

/-- A text without tokens and without a defect is empty. -/
theorem eq_nil_of_scanFrom {cs : List Char} (h : scanFrom [] cs = ([], none)) : cs = [] := by
  rcases cs with _ | ⟨c, cs⟩
  · rfl
  · rcases hnext : next c cs with e | ⟨t, rest⟩
    · rw [scanFrom_of_error hnext] at h
      cases h
    · rw [scanFrom_cons hnext] at h
      cases h

/-! ## Where two texts meet -/

/-- The tokens of two texts, one after the other. Where a run of text meets another one, they are one
run. -/
def joined : List Token → List Token → List Token
  | [], us => us
  | [.text a], .text b :: us => .text (a ++ b) :: us
  | t :: ts, us => t :: joined ts us

/-- The tokens of two texts are those of the one and then those of the other, but for a run of text that
goes over from the one to the other. -/
theorem joined_eq_or (ts us : List Token) :
    joined ts us = ts ++ us ∨
      ∃ ts₀ a b us₀, ts = ts₀ ++ [.text a] ∧ us = .text b :: us₀ ∧
        joined ts us = ts₀ ++ .text (a ++ b) :: us₀ := by
  induction ts, us using joined.induct with
  | case1 us => exact Or.inl rfl
  | case2 a b us => exact Or.inr ⟨[], a, b, us, rfl, rfl, rfl⟩
  | case3 t ts us hmeet ih =>
      rw [joined]
      · rcases ih with h | ⟨ts₀, a, b, us₀, rfl, rfl, h⟩
        · exact Or.inl (by rw [h, List.cons_append])
        · exact Or.inr ⟨t :: ts₀, a, b, us₀, rfl, rfl, by rw [h, List.cons_append]⟩
      · exact hmeet

/-- Tokens do not run into markup. -/
theorem joined_of_head {ts us : List Token} (h : ∀ t ∈ us.head?, t.isText = false) :
    joined ts us = ts ++ us := by
  rcases joined_eq_or ts us with heq | ⟨ts₀, a, b, us₀, -, rfl, -⟩
  · exact heq
  · cases h (.text b) rfl

/-- Markup does not run into what follows. -/
theorem joined_of_getLast {ts us : List Token} (h : ∀ t ∈ ts.getLast?, t.isText = false) :
    joined ts us = ts ++ us := by
  rcases joined_eq_or ts us with heq | ⟨ts₀, a, b, us₀, rfl, -, -⟩
  · exact heq
  · cases h (.text a) (by simp)

/-- A run of text takes in the text at the start of what follows. -/
theorem joined_text_scanFrom (a v : List Char) :
    (joined [.text a] (scanFrom [] v).1, (scanFrom [] v).2) =
      (.text (a ++ v.takeWhile (· != '<')) :: (scanFrom [] (v.dropWhile (· != '<'))).1,
        (scanFrom [] (v.dropWhile (· != '<'))).2) := by
  rcases v with _ | ⟨c, v⟩
  · simp [scanFrom, joined]
  · by_cases hc : c = '<'
    · subst hc
      have hhead : ∀ t ∈ (scanFrom [] ('<' :: v)).1.head?, t.isText = false := by
        rcases hnext : next '<' v with e | ⟨t, rest⟩
        · rw [scanFrom_of_error hnext]
          simp
        · rw [scanFrom_cons hnext]
          simpa using isText_of_next_markup hnext
      rw [joined_of_head hhead]
      simp
    · rw [scanFrom_cons (next_of_ne hc v)]
      simp [joined, hc]

/-- **The tokens of a text that goes on.** The tokens of what follows are added to those of the text. -/
theorem scanFrom_append {u : List Char} {ts : List Token} (h : scanFrom [] u = (ts, none))
    (v : List Char) :
    scanFrom [] (u ++ v) = (joined ts (scanFrom [] v).1, (scanFrom [] v).2) := by
  have hall : ∀ seen : List Token, ∀ ts, scanFrom [] u = (ts, none) →
      scanFrom [] (u ++ v) = (joined ts (scanFrom [] v).1, (scanFrom [] v).2) := by
    clear h
    intro seen
    induction seen, u using scanFrom.induct with
    | case1 =>
        intro ts h
        rw [scanFrom] at h
        cases h
        rfl
    | case2 _ c cs t rest hnext ih =>
        intro ts h
        rw [scanFrom_cons hnext] at h
        obtain ⟨rfl, hdefect⟩ := Prod.ext_iff.1 h
        have hrest : scanFrom [] rest = ((scanFrom [] rest).1, none) := Prod.ext rfl hdefect
        by_cases htext : t.isText = true ∧ rest = []
        · obtain ⟨ht, rfl⟩ := htext
          obtain ⟨rfl, hnext'⟩ := next_text_append hnext ht v
          rw [List.cons_append, scanFrom_cons hnext', scanFrom]
          exact (joined_text_scanFrom (c :: cs) v).symm
        · have hnext' := next_append hnext (fun ht hrest => htext ⟨ht, hrest⟩) v
          rw [List.cons_append, scanFrom_cons hnext', ih _ hrest, joined]
          -- the first token is no run of text that meets what follows
          intro a b us _ ht hlast
          rw [hlast] at hrest
          exact htext ⟨by rw [ht]; rfl, eq_nil_of_scanFrom hrest⟩
    | case3 _ c cs e hnext =>
        intro ts h
        rw [scanFrom_of_error hnext] at h
        cases h
  exact hall [] ts h

end Token

end LayerHeaders.Xml
