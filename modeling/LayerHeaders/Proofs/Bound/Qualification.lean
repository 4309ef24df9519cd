import LayerHeaders.Proofs.Bound.Words
import Mathlib.Data.String.Basic

/-!
# What qualification does

Qualification puts the object in front of the words that name siblings, and changes nothing else. It can
be done over the bytes of an expression: a word starts at a byte that is a letter, a digit or an
underscore, anything else is taken character by character, and every part is cut out of the text by the
positions of its bytes. A cut inside a character would fail; none does.

* `slice?`: a part of a text by the positions of its bytes.
* `qualifyBytesFrom?`: qualification over the bytes.
* `qualifyBytesFrom?_eq`: it gives what `qualifyFrom` gives, from every place that it comes to.
* `qualify_inserts`: what is inserted where.
-/

namespace LayerHeaders

open String (utf8Len utf8EncodeChar)

/-! ## Bytes -/

/-- The bytes of a text in UTF-8. -/
def bytes (s : String) : List UInt8 :=
  s.toUTF8.data.toList

/-- Whether a byte is a digit. -/
def isDigitByte (b : UInt8) : Bool :=
  48 ≤ b && b ≤ 57

/-- Whether a byte is a letter, a digit or an underscore. -/
def isWordByte (b : UInt8) : Bool :=
  (65 ≤ b && b ≤ 90) || (97 ≤ b && b ≤ 122) || isDigitByte b || b == 95

theorem bytes_ofList (l : List Char) : bytes (.ofList l) = l.flatMap utf8EncodeChar := by
  simp [bytes, List.utf8Encode]

theorem length_flatMap_utf8EncodeChar (l : List Char) :
    (l.flatMap utf8EncodeChar).length = utf8Len l := by
  induction l with
  | nil => rfl
  | cons c l ih =>
      rw [List.flatMap_cons, List.length_append, String.length_utf8EncodeChar, ih, String.utf8Len_cons,
        Nat.add_comm]

/-- The bytes behind the first part of a text. -/
theorem drop_bytes_ofList (l r : List Char) :
    (bytes (.ofList (l ++ r))).drop (utf8Len l) = r.flatMap utf8EncodeChar := by
  rw [bytes_ofList, List.flatMap_append, ← length_flatMap_utf8EncodeChar, List.drop_left]

theorem isDigitByte_iff {b : UInt8} : isDigitByte b = true ↔ 48 ≤ b.toNat ∧ b.toNat ≤ 57 := by
  simp [isDigitByte, UInt8.le_iff_toNat_le]

theorem isWordByte_iff {b : UInt8} :
    isWordByte b = true ↔ (65 ≤ b.toNat ∧ b.toNat ≤ 90) ∨ (97 ≤ b.toNat ∧ b.toNat ≤ 122) ∨
      (48 ≤ b.toNat ∧ b.toNat ≤ 57) ∨ b.toNat = 95 := by
  simp [isWordByte, isDigitByte_iff, UInt8.le_iff_toNat_le, ← UInt8.toNat_inj, or_assoc]

/-- **The first byte of a character** tells whether it is a word character, and a word character has no
other byte. -/
theorem utf8EncodeChar_eq_cons (c : Char) :
    ∃ b bs, utf8EncodeChar c = b :: bs ∧ isWordByte b = isWordChar c ∧ isDigitByte b = c.isDigit ∧
      (isWordChar c = true → bs = []) := by
  have hv : c.val.toNat = c.toNat := rfl
  -- beyond ASCII, the first byte is none of the bytes that words consist of
  have hbeyond : ∀ {b : UInt8} {bs : List UInt8}, 127 < c.toNat → 127 < b.toNat →
      isWordByte b = isWordChar c ∧ isDigitByte b = c.isDigit ∧ (isWordChar c = true → bs = []) := by
    intro b bs hc hb
    rw [Bool.eq_iff_iff, Bool.eq_iff_iff (a := isDigitByte b), isWordByte_iff, isWordChar_iff,
      isDigitByte_iff, isDigit_iff]
    omega
  unfold utf8EncodeChar
  simp only [hv]
  split_ifs with h1 h2 h3
  · have hb : (UInt8.ofNat c.toNat).toNat = c.toNat := by
      rw [UInt8.toNat_ofNat']
      omega
    refine ⟨_, _, rfl, ?_, ?_, fun _ => rfl⟩
    · rw [Bool.eq_iff_iff, isWordByte_iff, isWordChar_iff, hb]
    · rw [Bool.eq_iff_iff, isDigitByte_iff, isDigit_iff, hb]
  all_goals
    refine ⟨_, _, rfl, hbeyond (by omega) ?_⟩
    rw [UInt8.toNat_ofNat']
    omega

/-! ## Qualification over the bytes -/

/-- **The part of a text between two positions of its bytes**; `none` if one of them is inside a
character or behind the end, or they are out of order. -/
def slice? (s : String) (start stop : ℕ) : Option String :=
  if (⟨start⟩ : String.Pos.Raw).isValid s ∧ (⟨stop⟩ : String.Pos.Raw).isValid s ∧ start ≤ stop then
    some (String.Pos.Raw.extract s ⟨start⟩ ⟨stop⟩)
  else none

/-- Where the word bytes end that start at a position. -/
def wordEnd (s : String) (i : ℕ) : ℕ :=
  i + (((bytes s).drop i).takeWhile isWordByte).length

/-- The number of bytes of the first character, or one if there is none. -/
def firstWidth (s : String) : ℕ :=
  (s.toList.head?.map Char.utf8Size).getD 1

theorem lt_wordEnd {s : String} {i : ℕ} (h : i < (bytes s).length) (hb : isWordByte (bytes s)[i] = true) :
    i < wordEnd s i := by
  rw [wordEnd, List.drop_eq_getElem_cons h, List.takeWhile_cons_of_pos hb, List.length_cons]
  omega

theorem firstWidth_pos (s : String) : 0 < firstWidth s := by
  unfold firstWidth
  rcases s.toList with _ | ⟨c, cs⟩
  · exact Nat.one_pos
  · exact c.utf8Size_pos

/-- **Qualifies an expression from a position of its bytes on**; `none` if a cut fails. -/
def qualifyBytesFrom? (siblings : List String) (object s : String) (i : ℕ) : Option String :=
  if h : i < (bytes s).length then
    if hb : isWordByte (bytes s)[i] = true then do
      let word ← slice? s i (wordEnd s i)
      let before ← slice? s 0 i
      let rest ← qualifyBytesFrom? siblings object s (wordEnd s i)
      if isDigitByte (bytes s)[i] = false ∧ word ∈ siblings ∧ ¬ EndsInAccess before.toList then
        some (object ++ "." ++ word ++ rest)
      else some (word ++ rest)
    else do
      let behind ← slice? s i (bytes s).length
      let character ← slice? s i (i + firstWidth behind)
      let rest ← qualifyBytesFrom? siblings object s (i + firstWidth behind)
      some (character ++ rest)
  else some ""
termination_by (bytes s).length - i
decreasing_by
  · have hlt := lt_wordEnd h hb
    omega
  · have hpos := firstWidth_pos behind
    omega

/-! ### One turn -/

section

variable {siblings : List String} {object s : String} {i : ℕ} {b : UInt8} {bs : List UInt8}

/-- At the end nothing is left. -/
theorem qualifyBytesFrom?_end (h : (bytes s).drop i = []) :
    qualifyBytesFrom? siblings object s i = some "" := by
  have hend : ¬ i < (bytes s).length := by
    have hlength := congrArg List.length h
    rw [List.length_drop, List.length_nil] at hlength
    omega
  rw [qualifyBytesFrom?, dif_neg hend]

/-- The byte at a position is the first one from there on. -/
theorem getElem_bytes_of_drop (h : (bytes s).drop i = b :: bs) :
    ∃ hi : i < (bytes s).length, (bytes s)[i] = b := by
  have hi : i < (bytes s).length := by
    have hlength := congrArg List.length h
    rw [List.length_drop, List.length_cons] at hlength
    omega
  rw [List.drop_eq_getElem_cons hi, List.cons.injEq] at h
  exact ⟨hi, h.1⟩

/-- At a word byte a word is taken. -/
theorem qualifyBytesFrom?_word (h : (bytes s).drop i = b :: bs) (hb : isWordByte b = true) :
    qualifyBytesFrom? siblings object s i = (do
      let word ← slice? s i (wordEnd s i)
      let before ← slice? s 0 i
      let rest ← qualifyBytesFrom? siblings object s (wordEnd s i)
      if isDigitByte b = false ∧ word ∈ siblings ∧ ¬ EndsInAccess before.toList then
        some (object ++ "." ++ word ++ rest)
      else some (word ++ rest)) := by
  obtain ⟨hi, rfl⟩ := getElem_bytes_of_drop h
  rw [qualifyBytesFrom?, dif_pos hi, dif_pos hb]

/-- At any other byte a character is taken. -/
theorem qualifyBytesFrom?_other (h : (bytes s).drop i = b :: bs) (hb : isWordByte b = false) :
    qualifyBytesFrom? siblings object s i = (do
      let behind ← slice? s i (bytes s).length
      let character ← slice? s i (i + firstWidth behind)
      let rest ← qualifyBytesFrom? siblings object s (i + firstWidth behind)
      some (character ++ rest)) := by
  obtain ⟨hi, rfl⟩ := getElem_bytes_of_drop h
  rw [qualifyBytesFrom?, dif_pos hi, dif_neg (by rw [hb]; exact Bool.false_ne_true)]

end

/-! ### The cuts -/

/-- A cut between characters gives what is between them. -/
theorem slice?_ofList (l m r : List Char) {start stop : ℕ} (hstart : start = utf8Len l)
    (hstop : stop = utf8Len l + utf8Len m) :
    slice? (.ofList (l ++ (m ++ r))) start stop = some (.ofList m) := by
  have hfirst : (⟨start⟩ : String.Pos.Raw).isValid (.ofList (l ++ (m ++ r))) = true := by
    rw [String.Pos.Raw.isValid_eq_true_iff, String.Pos.Raw.isValid_ofList]
    exact ⟨l.length, by rw [List.take_left, String.utf8ByteSize_ofList, hstart]⟩
  have hlast : (⟨stop⟩ : String.Pos.Raw).isValid (.ofList (l ++ (m ++ r))) = true := by
    rw [String.Pos.Raw.isValid_eq_true_iff, String.Pos.Raw.isValid_ofList, ← List.append_assoc]
    exact ⟨(l ++ m).length, by
      rw [List.take_left, String.utf8ByteSize_ofList, hstop, String.utf8Len_append]⟩
  rw [slice?, if_pos ⟨hfirst, hlast, by omega⟩, hstart, hstop, ← List.append_assoc,
    String.extract_of_valid]

/-- The word bytes of a text that starts with a word are those of the word. -/
theorem takeWhile_isWordByte {w rest : List Char} (hw : ∀ c ∈ w, isWordChar c = true)
    (hrest : EndsWord rest) :
    ((w ++ rest).flatMap utf8EncodeChar).takeWhile isWordByte = w.flatMap utf8EncodeChar := by
  induction w with
  | nil =>
      rcases rest with _ | ⟨c, rest⟩
      · rfl
      · obtain ⟨b, bs, hc, hb, -⟩ := utf8EncodeChar_eq_cons c
        rw [hrest c rfl] at hb
        rw [List.nil_append, List.flatMap_cons, hc, List.cons_append,
          List.takeWhile_cons_of_neg (by rw [hb]; exact Bool.false_ne_true), List.flatMap_nil]
  | cons c w ih =>
      obtain ⟨b, bs, hc, hb, -, hbs⟩ := utf8EncodeChar_eq_cons c
      have hword := hw c List.mem_cons_self
      obtain rfl := hbs hword
      rw [List.cons_append, List.flatMap_cons, List.flatMap_cons, hc, List.singleton_append,
        List.takeWhile_cons_of_pos (hb.trans hword), ih fun d hd => hw d (List.mem_cons_of_mem c hd),
        List.singleton_append]

/-- A word ends where its last character does. -/
theorem wordEnd_ofList (before : List Char) {w rest : List Char} (hw : ∀ c ∈ w, isWordChar c = true)
    (hrest : EndsWord rest) :
    wordEnd (.ofList (before ++ (w ++ rest))) (utf8Len before) = utf8Len before + utf8Len w := by
  rw [wordEnd, drop_bytes_ofList, takeWhile_isWordByte hw hrest, length_flatMap_utf8EncodeChar]

/-- A word as the two ways of reading it write it. -/
theorem ofList_qualifyWord (siblings : List String) (object : String) (before : List Char) (c : Char)
    (w : List Char) :
    String.ofList (qualifyWord (siblings.map (·.toList)) object.toList before.reverse (c :: w)) =
      if c.isDigit = false ∧ String.ofList (c :: w) ∈ siblings ∧ ¬ EndsInAccess before then
        object ++ "." ++ .ofList (c :: w)
      else .ofList (c :: w) := by
  have hsibling : String.ofList (c :: w) ∈ siblings ↔ c :: w ∈ siblings.map (·.toList) := by
    rw [List.mem_map]
    constructor
    · exact fun h => ⟨_, h, String.toList_ofList⟩
    · rintro ⟨s, hs, heq⟩
      rwa [← heq, String.ofList_toList]
  have htest := @qualifies_iff (siblings.map (·.toList)) before.reverse w c
  have hhead : (∀ d ∈ (c :: w).head?, d.isDigit = false) ↔ c.isDigit = false := by simp
  rw [List.reverse_reverse, ← hsibling, hhead] at htest
  rw [qualifyWord]
  simp only [htest]
  split_ifs with hq
  · rw [← String.toList_inj]
    simp
  · rfl

/-- **Qualification over the bytes agrees with that over the characters**, from every place between two
of them; in particular it ends, and no cut fails. -/
theorem qualifyBytesFrom?_eq (siblings : List String) (object : String) (before text : List Char) :
    qualifyBytesFrom? siblings object (.ofList (before ++ text)) (utf8Len before) =
      some (.ofList (qualifyFrom (siblings.map (·.toList)) object.toList before.reverse [] text)) := by
  induction text using words_induction generalizing before with
  | nil =>
      rw [qualifyBytesFrom?_end (by rw [drop_bytes_ofList, List.flatMap_nil])]
      rfl
  | word w rest hne hw hrest ih =>
      rcases w with _ | ⟨c, w⟩
      · exact absurd rfl hne
      · obtain ⟨b, bs, hc, hb, hdigit, -⟩ := utf8EncodeChar_eq_cons c
        have hhead : (bytes (.ofList (before ++ (c :: w ++ rest)))).drop (utf8Len before) =
            b :: (bs ++ (w ++ rest).flatMap utf8EncodeChar) := by
          rw [drop_bytes_ofList, List.cons_append, List.flatMap_cons, hc, List.cons_append]
        have hbefore : slice? (.ofList (before ++ (c :: w ++ rest))) 0 (utf8Len before) =
            some (.ofList before) := slice?_ofList [] before _ rfl (Nat.zero_add _).symm
        have hnext := ih (before ++ c :: w)
        rw [List.append_assoc, String.utf8Len_append] at hnext
        rw [qualifyBytesFrom?_word hhead (hb.trans (hw c List.mem_cons_self)), wordEnd_ofList before hw hrest,
          slice?_ofList before (c :: w) rest rfl rfl, hbefore, hnext, hdigit, qualifyFrom_word hw hrest,
          String.ofList_append, List.reverse_nil, List.nil_append, ofList_qualifyWord, List.append_nil,
          List.reverse_append]
        simp only [Option.bind_eq_bind, Option.bind_some, String.toList_ofList]
        split_ifs <;> rfl
  | other c rest hc ih =>
      obtain ⟨b, bs, hbytes, hb, -⟩ := utf8EncodeChar_eq_cons c
      have hhead : (bytes (.ofList (before ++ c :: rest))).drop (utf8Len before) =
          b :: (bs ++ rest.flatMap utf8EncodeChar) := by
        rw [drop_bytes_ofList, List.flatMap_cons, hbytes, List.cons_append]
      have hbehind : slice? (.ofList (before ++ c :: rest)) (utf8Len before)
          (bytes (.ofList (before ++ c :: rest))).length = some (.ofList (c :: rest)) := by
        rw [bytes_ofList, length_flatMap_utf8EncodeChar, String.utf8Len_append]
        have hall := slice?_ofList before (c :: rest) [] rfl rfl
        rwa [List.append_nil] at hall
      have hwidth : firstWidth (.ofList (c :: rest)) = utf8Len [c] := by
        simp [firstWidth]
      have hnext := ih (before ++ [c])
      rw [List.append_assoc, List.singleton_append, String.utf8Len_append, List.reverse_append,
        List.reverse_singleton, List.singleton_append] at hnext
      rw [qualifyBytesFrom?_other hhead (hb.trans hc), hbehind]
      simp only [Option.bind_eq_bind, Option.bind_some]
      have hcut : slice? (.ofList (before ++ c :: rest)) (utf8Len before) (utf8Len before + utf8Len [c]) =
          some (.ofList [c]) := slice?_ofList before [c] rest rfl rfl
      rw [hwidth, hcut, hnext, qualifyFrom_other hc]
      simp only [Option.bind_some]
      rw [← String.ofList_append, List.singleton_append]

/-! ## What is inserted -/

/-- **What qualification does.** The object and a dot are inserted in front of the words that do not
start with a digit, are siblings and do not follow the sign of a member access; nothing else changes, so
that without the insertions the expression is there again. Going over the bytes gives the same: it comes
to its end without a cut inside a character. -/
theorem qualify_inserts (expression : String) (siblings : List String) (object : String) :
    let added := object.toList ++ ['.']
    let positions := NamesSibling (siblings.map (·.toList)) expression.toList
    let qualified := qualify expression siblings object
    InsertsAt added positions 0 expression.toList qualified.toList ∧
      (∀ text, InsertsAt added positions 0 text qualified.toList → text = expression.toList) ∧
      qualifyBytesFrom? siblings object expression 0 = some qualified := by
  have hstart : EndsWord [] ∨ EndsWord expression.toList := Or.inl fun c hc => absurd hc (by simp)
  have hinserts :=
    @insertsAt_qualifyFrom (siblings.map (·.toList)) object.toList [] expression.toList hstart
  have hbytes := qualifyBytesFrom?_eq siblings object [] expression.toList
  rw [List.reverse_nil, List.nil_append, List.length_nil] at hinserts
  rw [List.nil_append, String.ofList_toList] at hbytes
  dsimp only
  rw [qualify, String.toList_ofList]
  exact ⟨hinserts, fun text htext => htext.text_unique hinserts, hbytes⟩

example :
    qualify "info.count + p ->count + é*count2 + 2count + count" ["count", "info"] "v" =
      "v.info.count + p ->count + é*count2 + 2count + v.count" := by
  rfl

end LayerHeaders
