import Mathlib.Tactic.SplitIfs
import LayerHeaders.Text.Literal

/-!
# Where a literal ends

A reader of literals that takes any character for itself, unless it starts an escape, ends the literal or is
a line feed, reads the literal of a text back, whatever follows it. It stops right behind the closing
quotation mark.

* `readFrom?`, `read?`: the reader.
* `readFrom?_of_decode?`: what `decode?` reads is read alike.
* `exists_literal`: what is read is told by the literal alone.
* `quote_read_back`: the literal of a text is read back, and none of its proper beginnings is a literal.
-/

namespace LayerHeaders.Text.Literal

/-! ## Reading -/

/-- What is read, with one more character before it. -/
def push (c : Char) (p : List Char × List Char) : List Char × List Char :=
  (c :: p.1, p.2)

/-- Reads a literal after its opening quotation mark: its text, and what follows the closing mark, which is
the first mark that no backslash escapes. A backslash starts an escape if a quotation mark, a backslash or an
`n` is behind it. There is no literal if the closing mark is missing or a line feed comes before it, and any
other character stands for itself. -/
def readFrom? : List Char → Option (List Char × List Char)
  | [] => none
  | '\x22' :: cs => some ([], cs)
  | '\n' :: _ => none
  | '\\' :: '\x22' :: cs => (readFrom? cs).map (push '\x22')
  | '\\' :: '\\' :: cs => (readFrom? cs).map (push '\\')
  | '\\' :: 'n' :: cs => (readFrom? cs).map (push '\n')
  | c :: cs => (readFrom? cs).map (push c)

/-- **Reads the literal at the start of a text**: what it stands for, and what follows it. -/
def read? (text : String) : Option (String × String) :=
  match text.toList with
  | '\x22' :: cs => (readFrom? cs).map fun p => (.ofList p.1, .ofList p.2)
  | _ => none

/-! ## What is read -/

theorem map_push_eq_some {o : Option (List Char × List Char)} {c : Char} {value rest : List Char} :
    o.map (push c) = some (value, rest) ↔ ∃ cs, o = some (cs, rest) ∧ value = c :: cs := by
  constructor
  · intro h
    obtain ⟨⟨cs, after⟩, ho, hp⟩ := Option.map_eq_some_iff.1 h
    obtain ⟨hvalue, hrest⟩ := Prod.mk.inj hp
    exact ⟨cs, by rw [ho, ← hrest], hvalue.symm⟩
  · rintro ⟨cs, rfl, rfl⟩
    rfl

/-- A character that neither ends a literal nor starts an escape. -/
theorem readFrom?_cons {c : Char} (hquote : c ≠ '\x22') (hfeed : c ≠ '\n') {cs : List Char}
    (hescape : c = '\\' → ∀ d ∈ cs.head?, d ≠ '\x22' ∧ d ≠ '\\' ∧ d ≠ 'n') :
    readFrom? (c :: cs) = (readFrom? cs).map (push c) := by
  rw [readFrom?]
  · exact hquote
  · exact hfeed
  · rintro tail rfl rfl
    exact (hescape rfl _ rfl).1 rfl
  · rintro tail rfl rfl
    exact (hescape rfl _ rfl).2.1 rfl
  · rintro tail rfl rfl
    exact (hescape rfl _ rfl).2.2 rfl

/-- What is read by the reader that lets no backslash stand for itself is read alike. -/
theorem readFrom?_of_decode? {text : List Char} {p : List Char × List Char}
    (h : decode? text = some p) : readFrom? text = some p := by
  fun_induction decode? text generalizing p with
  | case1 => cases h
  | case2 rest => exact h
  | case3 d rest e cs after hrest hescape ih =>
      have hread := ih hrest
      obtain rfl := Option.some.inj h
      -- each of the three escapes is a pattern of its own
      unfold decodeEscape? at hescape
      split_ifs at hescape with hmark hn
      · obtain rfl := Option.some.inj hescape
        rcases hmark with rfl | rfl
        · rw [readFrom?, hread]
          rfl
        · rw [readFrom?, hread]
          rfl
      · obtain rfl := Option.some.inj hescape
        subst hn
        rw [readFrom?, hread]
        rfl
  | case4 => cases h
  | case5 => cases h
  | case6 c rest hquote _ hc ih =>
      obtain ⟨hback, hfeed⟩ := not_or.1 hc
      obtain ⟨⟨cs, after⟩, hrest, rfl⟩ := Option.map_eq_some_iff.1 h
      rw [readFrom?_cons hquote hfeed (fun heq => absurd heq hback), ih hrest]
      rfl

/-- What is read is told by the literal alone, whatever follows it. -/
theorem exists_literal {text value rest : List Char} (h : readFrom? text = some (value, rest)) :
    ∃ literal, text = literal ++ rest ∧ ∀ more, readFrom? (literal ++ more) = some (value, more) := by
  fun_induction readFrom? text generalizing value with
  | case1 => cases h
  | case2 rest =>
      obtain ⟨rfl, rfl⟩ := Prod.mk.inj (Option.some.inj h)
      exact ⟨['\x22'], rfl, fun more => rfl⟩
  | case3 => cases h
  | case4 cs ih | case5 cs ih | case6 cs ih =>
      obtain ⟨value, hcs, rfl⟩ := map_push_eq_some.1 h
      obtain ⟨literal, rfl, hliteral⟩ := ih hcs
      exact ⟨_ :: _ :: literal, rfl, fun more => map_push_eq_some.2 ⟨value, hliteral more, rfl⟩⟩
  | case7 c cs hquote hfeed hmark hback hletter ih =>
      obtain ⟨value, hcs, rfl⟩ := map_push_eq_some.1 h
      obtain ⟨literal, rfl, hliteral⟩ := ih hcs
      refine ⟨c :: literal, rfl, fun more => ?_⟩
      -- the literal goes on behind `c`, so `more` does not decide whether `c` starts an escape
      rcases literal with _ | ⟨d, literal⟩
      · cases hliteral []
      · have hescape : c = '\\' → ∀ d' ∈ (d :: literal ++ more).head?,
            d' ≠ '\x22' ∧ d' ≠ '\\' ∧ d' ≠ 'n' := by
          rintro hc d' ⟨⟩
          refine ⟨?_, ?_, ?_⟩
          · rintro rfl
            exact hmark _ hc rfl
          · rintro rfl
            exact hback _ hc rfl
          · rintro rfl
            exact hletter _ hc rfl
        exact (readFrom?_cons hquote hfeed hescape).trans
          (map_push_eq_some.2 ⟨value, hliteral more, rfl⟩)

/-! ## Literals of texts -/

theorem readFrom?_encode (cs rest : List Char) :
    readFrom? (encode cs ++ '\x22' :: rest) = some (cs, rest) :=
  readFrom?_of_decode? (decode?_encode cs rest)

theorem toList_quote (s : String) : (quote s).toList = '\x22' :: (encode s.toList ++ ['\x22']) := by
  rw [quote, String.toList_ofList, List.cons_append]

theorem read?_eq_some_iff {text value rest : String} : read? text = some (value, rest) ↔
    ∃ cs, text.toList = '\x22' :: cs ∧ readFrom? cs = some (value.toList, rest.toList) := by
  unfold read?
  constructor
  · intro h
    split at h
    · next cs hcs =>
        obtain ⟨p, hp, heq⟩ := Option.map_eq_some_iff.1 h
        obtain ⟨rfl, rfl⟩ := Prod.mk.inj heq
        exact ⟨cs, hcs, by simpa using hp⟩
    · cases h
  · rintro ⟨cs, hcs, hread⟩
    rw [hcs]
    simp [hread]

theorem read?_quote (s r : String) : read? (quote s ++ r) = some (s, r) := by
  refine read?_eq_some_iff.2 ⟨_, ?_, readFrom?_encode s.toList r.toList⟩
  simp [toList_quote]

/-- What follows a literal has no part in it. -/
theorem read?_append {text value rest : String} (h : read? text = some (value, rest)) (more : String) :
    read? (text ++ more) = some (value, rest ++ more) := by
  obtain ⟨cs, hcs, hread⟩ := read?_eq_some_iff.1 h
  obtain ⟨literal, rfl, hliteral⟩ := exists_literal hread
  refine read?_eq_some_iff.2 ⟨literal ++ (rest ++ more).toList, ?_, hliteral _⟩
  simp [hcs]

/-- **A literal is read back, and ends where it is written to end**: whatever its text is and whatever
follows it, both are what is read, and nothing shorter that the literal begins with is a literal. -/
theorem quote_read_back (s r : String) :
    read? (quote s ++ r) = some (s, r) ∧
      ∀ before after, quote s = before ++ after → after ≠ "" → read? before = none := by
  refine ⟨read?_quote s r, fun before after hquote hafter => ?_⟩
  rcases hbefore : read? before with _ | ⟨value, rest⟩
  · rfl
  · have hwhole : read? (before ++ after) = some (s, "") := by
      rw [← hquote, ← String.append_empty (s := quote s), read?_quote]
    rw [read?_append hbefore] at hwhole
    obtain ⟨-, hempty⟩ := Prod.mk.inj (Option.some.inj hwhole)
    exact absurd (String.append_eq_empty_iff.1 hempty).2 hafter

/-- A text that ends in a backslash and a quotation mark, with another mark behind its literal. Without its
own closing mark the literal is none, although it ends in a quotation mark. -/
theorem quote_read_back_marks :
    read? (quote "\\\"" ++ "\";") = some ("\\\"", "\";") ∧
      quote "\\\"" = "\"\\\\\\\"" ++ "\"" ∧ "\"" ≠ "" ∧ read? "\"\\\\\\\"" = none := by
  have hquote : quote "\\\"" = "\"\\\\\\\"" ++ "\"" := by decide
  have hmark : "\"" ≠ "" := by decide
  obtain ⟨hread, hpart⟩ := quote_read_back "\\\"" "\";"
  exact ⟨hread, hquote, hmark, hpart _ _ hquote hmark⟩

end LayerHeaders.Text.Literal
