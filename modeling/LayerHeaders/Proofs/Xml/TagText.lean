import LayerHeaders.Proofs.Traversal
import LayerHeaders.Xml.Document
import Mathlib.Data.List.TakeWhile

/-!
# Tags as they are written

A tag is written as its name and its attributes, each after one space, with its value in double quotes and
references in place of five characters. What is written is found as one tag, and it is read as the tag that
was written.

* `unescape_escape`: references are read as the characters that they were written for.
* `Tag.read_written`: a tag is read as it was written.
* `Token.next_start`, `Token.next_empty`, `Token.next_stop`: written tags are found, whatever follows them.
-/

namespace LayerHeaders.Xml

/-! ## References -/

/-- References contain neither of the characters that end a run of text or a value. -/
theorem ne_of_mem_escapeChar {c d : Char} (h : d ∈ escapeChar c) : d ≠ '<' ∧ d ≠ '\x22' := by
  have hall : (escapeChar c).all (fun d => d ≠ '<' ∧ d ≠ '\x22') = true := by
    unfold escapeChar
    split
    · rfl
    · rfl
    · rfl
    · rfl
    · rfl
    · next hlt _ _ _ hquote =>
        rw [List.all_cons, List.all_nil, Bool.and_true]
        exact decide_eq_true ⟨hlt, hquote⟩
  exact of_decide_eq_true (List.all_eq_true.1 hall d h)

theorem ne_of_mem_escape {cs : List Char} {d : Char} (h : d ∈ escape cs) : d ≠ '<' ∧ d ≠ '\x22' := by
  obtain ⟨c, -, hd⟩ := List.mem_flatMap.1 h
  exact ne_of_mem_escapeChar hd

/-- What is written for a character is read as that character. -/
theorem unescapeFrom_escapeChar (length pos : Nat) (out : List Char) (c : Char) (cs : List Char) :
    ∃ pos', unescapeFrom length out none pos (escapeChar c ++ cs) =
      unescapeFrom length (c :: out) none pos' cs := by
  unfold escapeChar
  split
  · exact ⟨_, rfl⟩
  · exact ⟨_, rfl⟩
  · exact ⟨_, rfl⟩
  · exact ⟨_, rfl⟩
  · exact ⟨_, rfl⟩
  · next _ _ hand _ _ =>
      refine ⟨pos + c.utf8Size, ?_⟩
      rw [List.singleton_append, unescapeFrom]
      exact if_neg hand

theorem unescapeFrom_escape (length pos : Nat) (out cs : List Char) :
    unescapeFrom length out none pos (escape cs) = .ok (out.reverse ++ cs) := by
  induction cs generalizing out pos with
  | nil =>
      rw [List.append_nil]
      rfl
  | cons c cs ih =>
      obtain ⟨pos', hc⟩ := unescapeFrom_escapeChar length pos out c (escape cs)
      have hcons : escape (c :: cs) = escapeChar c ++ escape cs := rfl
      rw [hcons, hc, ih, List.reverse_cons, List.append_assoc, List.singleton_append]

/-- **References are read as the characters that they were written for.** -/
theorem unescape_escape (cs : List Char) : unescape (escape cs) = .ok cs :=
  unescapeFrom_escape (byteLength (escape cs)) 0 [] cs

/-- A text without references is read as it is. -/
theorem unescape_of_forall {cs : List Char} (h : ∀ c ∈ cs, c ≠ '&') : unescape cs = .ok cs := by
  have hrun : ∀ (length pos : Nat) (out : List Char),
      unescapeFrom length out none pos cs = .ok (out.reverse ++ cs) := by
    induction cs with
    | nil =>
        intro length pos out
        rw [List.append_nil]
        rfl
    | cons c cs ih =>
        obtain ⟨hc, hcs⟩ := List.forall_mem_cons.1 h
        intro length pos out
        rw [unescapeFrom, if_neg hc, ih hcs, List.reverse_cons, List.append_assoc, List.singleton_append]
  exact hrun (byteLength cs) 0 []

/-! ## Names -/

/-- The characters that names are written with. -/
def isNameChar (c : Char) : Bool :=
  c.isAlphanum || c == '_' || c == '-' || c == '.' || c == ':'

/-- Whether a text is a name. -/
structure IsName (name : String) : Prop where
  /-- It is not empty. -/
  ne_empty : name ≠ ""
  /-- It has the characters of names. -/
  chars : ∀ c ∈ name.toList, isNameChar c = true

theorem isName_iff {name : String} :
    IsName name ↔ name ≠ "" ∧ name.toList.all isNameChar = true :=
  ⟨fun h => ⟨h.ne_empty, List.all_eq_true.2 h.chars⟩, fun h => ⟨h.1, List.all_eq_true.1 h.2⟩⟩

instance (name : String) : Decidable (IsName name) :=
  decidable_of_iff' _ isName_iff

theorem ne_of_isNameChar {c d : Char} (hc : isNameChar c = true) (hd : isNameChar d = false) : c ≠ d := by
  rintro rfl
  rw [hc] at hd
  cases hd

theorem isSpace_of_isNameChar {c : Char} (h : isNameChar c = true) : isSpace c = false := by
  unfold isSpace
  rw [beq_false_of_ne (ne_of_isNameChar h (d := ' ') (by decide)),
    beq_false_of_ne (ne_of_isNameChar h (d := '\t') (by decide)),
    beq_false_of_ne (ne_of_isNameChar h (d := '\r') (by decide)),
    beq_false_of_ne (ne_of_isNameChar h (d := '\n') (by decide))]
  rfl

/-- A name has a first character. -/
theorem IsName.exists_cons {name : String} (h : IsName name) :
    ∃ c cs, name.toList = c :: cs ∧ isNameChar c = true ∧ ∀ d ∈ cs, isNameChar d = true := by
  rcases hname : name.toList with _ | ⟨c, cs⟩
  · exact absurd (String.toList_eq_nil_iff.1 hname) h.ne_empty
  · have hchars := h.chars
    rw [hname] at hchars
    exact ⟨c, cs, rfl, List.forall_mem_cons.1 hchars⟩

/-! ## Tags -/

/-- Whether a tag can be written. -/
structure Tag.WellFormed (tag : Tag) : Prop where
  /-- The element has a name. -/
  name : IsName tag.name
  /-- So has every attribute. -/
  keys : ∀ a ∈ tag.attributes, IsName a.1
  /-- No two attributes have the same. -/
  distinct : (tag.attributes.map (·.1)).Nodup

theorem Tag.wellFormed_iff {tag : Tag} :
    tag.WellFormed ↔ IsName tag.name ∧ tag.attributes.all (fun a => IsName a.1) = true ∧
      (tag.attributes.map (·.1)).Nodup := by
  have hkeys : tag.attributes.all (fun a => IsName a.1) = true ↔ ∀ a ∈ tag.attributes, IsName a.1 := by
    simp only [List.all_eq_true, decide_eq_true_eq]
  rw [hkeys]
  exact ⟨fun h => ⟨h.name, h.keys, h.distinct⟩, fun h => ⟨h.1, h.2.1, h.2.2⟩⟩

instance (tag : Tag) : Decidable tag.WellFormed :=
  decidable_of_iff' _ Tag.wellFormed_iff

/-- An attribute as it is written, after one space. -/
def writtenAttribute (a : String × String) : List Char :=
  ' ' :: (a.1.toList ++ '=' :: '\x22' :: (escape a.2.toList ++ ['\x22']))

/-- What is written between `<` and the end of a tag. -/
def Tag.written (tag : Tag) : List Char :=
  tag.name.toList ++ tag.attributes.flatMap writtenAttribute

/-! ## Reading attributes -/

section

variable {found : List FoundAttribute} {pos start : Nat} {key rest cs ks : List Char} {mark : Char}

/-- The characters of a key are taken in. -/
theorem attributesFrom_key (h : ∀ c ∈ ks, isNameChar c = true) (found : List FoundAttribute)
    (start pos : Nat) (rest cs : List Char) :
    ∃ pos', attributesFrom found (.key start rest) pos (ks ++ cs) =
      attributesFrom found (.key start (ks.reverse ++ rest)) pos' cs := by
  induction ks generalizing rest pos with
  | nil => exact ⟨pos, rfl⟩
  | cons c ks ih =>
      obtain ⟨hc, hks⟩ := List.forall_mem_cons.1 h
      obtain ⟨pos', hrest⟩ := ih hks (pos + c.utf8Size) (c :: rest)
      refine ⟨pos', ?_⟩
      have hspace : ¬ isSpace c = true := by simp [isSpace_of_isNameChar hc]
      rw [List.cons_append, attributesFrom, List.reverse_cons, List.append_assoc, List.singleton_append,
        ← hrest, if_neg (ne_of_isNameChar hc (by decide)), if_neg hspace]

/-- The characters of a value are taken in. -/
theorem attributesFrom_value (h : ∀ c ∈ ks, c ≠ mark) (found : List FoundAttribute) (start pos : Nat)
    (key rest cs : List Char) :
    ∃ pos', attributesFrom found (.value start key mark rest) pos (ks ++ cs) =
      attributesFrom found (.value start key mark (ks.reverse ++ rest)) pos' cs := by
  induction ks generalizing rest pos with
  | nil => exact ⟨pos, rfl⟩
  | cons c ks ih =>
      obtain ⟨hc, hks⟩ := List.forall_mem_cons.1 h
      obtain ⟨pos', hrest⟩ := ih hks (pos + c.utf8Size) (c :: rest)
      refine ⟨pos', ?_⟩
      rw [List.cons_append, attributesFrom, List.reverse_cons, List.append_assoc, List.singleton_append,
        ← hrest]
      exact if_neg hc

/-- **The step of the attributes**: one that is written is read, if no earlier one has its key. -/
theorem attributesFrom_written {a : String × String} (hname : IsName a.1)
    (hnew : ∀ earlier ∈ found, earlier.key ≠ a.1.toList) (pos : Nat) (cs : List Char) :
    ∃ start pos', attributesFrom found .attribute pos (writtenAttribute a ++ cs) =
      attributesFrom (⟨start, a.1.toList, a.2.toList⟩ :: found) .attribute pos' cs := by
  obtain ⟨k, ks, hkey, hk, hks⟩ := hname.exists_cons
  have hspace : ¬ isSpace k = true := by simp [isSpace_of_isNameChar hk]
  have hfirst : found.find? (·.key = a.1.toList) = none := by
    simpa using hnew
  have hvalue : ∀ c ∈ escape a.2.toList, c ≠ '\x22' := fun c hc => (ne_of_mem_escape hc).2
  let start := pos + ' '.utf8Size
  obtain ⟨atEquals, hafterKey⟩ := attributesFrom_key hks found start (start + k.utf8Size) [k]
    ('=' :: '\x22' :: (escape a.2.toList ++ '\x22' :: cs))
  obtain ⟨atEnd, hafterValue⟩ := attributesFrom_value hvalue found start
    (atEquals + '='.utf8Size + '\x22'.utf8Size) a.1.toList [] ('\x22' :: cs)
  refine ⟨start, atEnd + '\x22'.utf8Size, ?_⟩
  have hwritten : writtenAttribute a ++ cs =
      ' ' :: k :: (ks ++ '=' :: '\x22' :: (escape a.2.toList ++ '\x22' :: cs)) := by
    simp [writtenAttribute, hkey]
  calc attributesFrom found .attribute pos (writtenAttribute a ++ cs)
      = attributesFrom found .attribute start
          (k :: (ks ++ '=' :: '\x22' :: (escape a.2.toList ++ '\x22' :: cs))) := by
        rw [hwritten, attributesFrom]
        rfl
    _ = attributesFrom found (.key start [k]) (start + k.utf8Size)
          (ks ++ '=' :: '\x22' :: (escape a.2.toList ++ '\x22' :: cs)) := by
        rw [attributesFrom]
        exact if_neg hspace
    _ = attributesFrom found (.key start (ks.reverse ++ [k])) atEquals
          ('=' :: '\x22' :: (escape a.2.toList ++ '\x22' :: cs)) := hafterKey
    _ = attributesFrom found (.quote start a.1.toList) (atEquals + '='.utf8Size)
          ('\x22' :: (escape a.2.toList ++ '\x22' :: cs)) := by
        have hreverse : (ks.reverse ++ [k]).reverse = a.1.toList := by
          simp [hkey]
        rw [attributesFrom]
        simp only [if_pos, hreverse, Expectation.afterEquals, hfirst]
    _ = attributesFrom found (.value start a.1.toList '\x22' [])
          (atEquals + '='.utf8Size + '\x22'.utf8Size) (escape a.2.toList ++ '\x22' :: cs) := rfl
    _ = attributesFrom found (.value start a.1.toList '\x22' ((escape a.2.toList).reverse ++ [])) atEnd
          ('\x22' :: cs) := hafterValue
    _ = attributesFrom (⟨start, a.1.toList, a.2.toList⟩ :: found) .attribute (atEnd + '\x22'.utf8Size)
          cs := by
        rw [attributesFrom]
        simp only [if_pos, List.append_nil, List.reverse_reverse, unescape_escape]

/-- **The run of the attributes**: those that are written are read, in order. -/
theorem attributesFrom_flatMap_written {attributes : List (String × String)}
    (hnames : ∀ a ∈ attributes, IsName a.1) (hdistinct : (attributes.map (·.1)).Nodup)
    (hnew : ∀ earlier ∈ found, ∀ a ∈ attributes, earlier.key ≠ a.1.toList) (pos : Nat) :
    ∃ later, attributesFrom found .attribute pos (attributes.flatMap writtenAttribute) =
        .ok (found.reverse ++ later) ∧
      later.map (fun a => (String.ofList a.key, String.ofList a.value)) = attributes := by
  induction attributes generalizing found pos with
  | nil => exact ⟨[], by rw [List.append_nil]; rfl, rfl⟩
  | cons a attributes ih =>
      obtain ⟨ha, hnames⟩ := List.forall_mem_cons.1 hnames
      obtain ⟨hfresh, hdistinct⟩ := List.nodup_cons.1 hdistinct
      obtain ⟨start, pos', hstep⟩ := attributesFrom_written ha
        (fun earlier hearlier => hnew earlier hearlier a List.mem_cons_self) pos
        (attributes.flatMap writtenAttribute)
      have hnew' : ∀ earlier ∈ (⟨start, a.1.toList, a.2.toList⟩ :: found : List FoundAttribute),
          ∀ b ∈ attributes, earlier.key ≠ b.1.toList := by
        refine List.forall_mem_cons.2 ⟨fun b hb heq => ?_, fun earlier hearlier b hb =>
          hnew earlier hearlier b (List.mem_cons_of_mem a hb)⟩
        exact hfresh (List.mem_map.2 ⟨b, hb, (String.toList_inj.1 heq).symm⟩)
      obtain ⟨later, hrun, hlater⟩ := ih hnames hdistinct hnew' pos'
      refine ⟨⟨start, a.1.toList, a.2.toList⟩ :: later, ?_, ?_⟩
      · rw [List.flatMap_cons, hstep, hrun, List.reverse_cons, List.append_assoc, List.singleton_append]
      · rw [List.map_cons, hlater, String.ofList_toList, String.ofList_toList]

end

/-! ## Reading a tag -/

/-- The name of a tag goes up to its attributes. -/
theorem span_written {tag : Tag} (h : tag.WellFormed) :
    tagName tag.written = tag.name.toList ∧
      tag.written.dropWhile (!isSpace ·) = tag.attributes.flatMap writtenAttribute := by
  have hname : ∀ c ∈ tag.name.toList, (!isSpace c) = true := by
    intro c hc
    rw [isSpace_of_isNameChar (h.name.chars c hc)]
    rfl
  unfold tagName Tag.written
  rw [List.takeWhile_append_of_pos hname, List.dropWhile_append_of_pos hname]
  rcases tag.attributes with _ | ⟨a, attributes⟩
  · exact ⟨List.append_nil _, rfl⟩
  · exact ⟨List.append_nil _, rfl⟩

/-- **A tag is read as it was written.** -/
theorem Tag.read_written {tag : Tag} (h : tag.WellFormed) : Tag.read tag.written = .ok tag := by
  obtain ⟨hname, hattributes⟩ := span_written h
  have hnone : ∀ earlier ∈ ([] : List FoundAttribute), ∀ a ∈ tag.attributes,
      earlier.key ≠ a.1.toList := fun _ hearlier => absurd hearlier List.not_mem_nil
  obtain ⟨found, hfound, hread⟩ :=
    attributesFrom_flatMap_written h.keys h.distinct hnone (byteLength tag.name.toList)
  refine bind_eq_ok_iff.2 ⟨found, ?_, ?_⟩
  · rw [hname, hattributes]
    exact hfound
  · rw [hname, hread, String.ofList_toList]
    rfl

/-! ## Finding a tag -/

namespace Token

/-- Whether a tag goes on after these characters, with no quote open. -/
def Passed (w : List Char) : Prop :=
  ∀ before cs, cutTagFrom none before (w ++ cs) = cutTagFrom none (w.reverse ++ before) cs

theorem Passed.append {v w : List Char} (hv : Passed v) (hw : Passed w) : Passed (v ++ w) := by
  intro before cs
  rw [List.append_assoc, hv, hw, List.reverse_append, List.append_assoc]

/-- Characters outside quotes. -/
theorem passed_of_forall {w : List Char} (h : ∀ c ∈ w, c ≠ '>' ∧ c ≠ '\x22' ∧ c ≠ '\x27') : Passed w := by
  intro before cs
  induction w generalizing before with
  | nil => rfl
  | cons c w ih =>
      obtain ⟨⟨hend, hdouble, hsingle⟩, hw⟩ := List.forall_mem_cons.1 h
      rw [List.cons_append, cutTagFrom, if_neg hend, if_neg (not_or.2 ⟨hdouble, hsingle⟩), ih hw,
        List.reverse_cons, List.append_assoc, List.singleton_append]

/-- Inside a quote, only that quote counts. -/
theorem cutTagFrom_some {quote : Char} {w : List Char} (h : ∀ c ∈ w, c ≠ quote) (before cs : List Char) :
    cutTagFrom (some quote) before (w ++ quote :: cs) =
      cutTagFrom none (quote :: (w.reverse ++ before)) cs := by
  induction w generalizing before with
  | nil =>
      rw [List.nil_append, cutTagFrom, if_pos rfl]
      rfl
  | cons c w ih =>
      obtain ⟨hc, hw⟩ := List.forall_mem_cons.1 h
      rw [List.cons_append, cutTagFrom, if_neg hc, ih hw, List.reverse_cons, List.append_assoc,
        List.singleton_append]

/-- A value in quotes. -/
theorem passed_quoted {w : List Char} (h : ∀ c ∈ w, c ≠ '\x22') :
    Passed ('\x22' :: (w ++ ['\x22'])) := by
  intro before cs
  have hopen : cutTagFrom none before ('\x22' :: (w ++ ['\x22']) ++ cs) =
      cutTagFrom (some '\x22') ('\x22' :: before) (w ++ '\x22' :: cs) := by
    rw [List.cons_append, List.append_assoc]
    rfl
  rw [hopen, cutTagFrom_some h]
  simp

theorem passed_of_isNameChar {w : List Char} (h : ∀ c ∈ w, isNameChar c = true) : Passed w :=
  passed_of_forall fun c hc => ⟨ne_of_isNameChar (h c hc) (by decide),
    ne_of_isNameChar (h c hc) (by decide), ne_of_isNameChar (h c hc) (by decide)⟩

theorem passed_writtenAttribute {a : String × String} (h : IsName a.1) : Passed (writtenAttribute a) := by
  have hspace : Passed [' '] := passed_of_forall (by simp)
  have hequals : Passed ['='] := passed_of_forall (by simp)
  have hvalue : ∀ c ∈ escape a.2.toList, c ≠ '\x22' := fun c hc => (ne_of_mem_escape hc).2
  have hparts := ((hspace.append (passed_of_isNameChar h.chars)).append hequals).append
    (passed_quoted hvalue)
  rwa [List.append_assoc, List.append_assoc] at hparts

theorem passed_flatMap_written {attributes : List (String × String)} (h : ∀ a ∈ attributes, IsName a.1) :
    Passed (attributes.flatMap writtenAttribute) := by
  induction attributes with
  | nil => exact fun _ _ => rfl
  | cons a attributes ih =>
      obtain ⟨ha, hattributes⟩ := List.forall_mem_cons.1 h
      exact (passed_writtenAttribute ha).append (ih hattributes)

/-- A written tag goes on up to its end. -/
theorem passed_written {tag : Tag} (h : tag.WellFormed) : Passed tag.written :=
  (passed_of_isNameChar h.name.chars).append (passed_flatMap_written h.keys)

/-- A tag is cut at its end. -/
theorem Passed.cutTag {w : List Char} (h : Passed w) (cs : List Char) :
    cutTag (w ++ '>' :: cs) = some (w, cs) := by
  have hend : Token.cutTag (w ++ '>' :: cs) = some ((w.reverse ++ []).reverse, cs) := h [] ('>' :: cs)
  rwa [List.append_nil, List.reverse_reverse] at hend

/-- A written tag does not end with the slash of an empty element. -/
theorem getLast?_written {tag : Tag} (h : tag.WellFormed) : ∀ c ∈ tag.written.getLast?, c ≠ '/' := by
  intro c hc
  rcases tag.attributes.eq_nil_or_concat with hnil | ⟨attributes, a, hsplit⟩
  · have hname : tag.written = tag.name.toList := by
      rw [Tag.written, hnil]
      exact List.append_nil _
    rw [hname] at hc
    exact ne_of_isNameChar (h.name.chars c (List.mem_of_getLast? hc)) (by decide)
  · have hend : writtenAttribute a =
        ' ' :: (a.1.toList ++ '=' :: '\x22' :: escape a.2.toList) ++ ['\x22'] := by
      simp [writtenAttribute]
    have hquote : tag.written.getLast? = some '\x22' := by
      rw [Tag.written, hsplit, List.concat_eq_append, List.flatMap_append, List.flatMap_singleton, hend,
        ← List.append_assoc, ← List.append_assoc, List.getLast?_concat]
    rw [hquote] at hc
    rw [← Option.some.inj hc]
    decide

/-- What starts like a name is a start tag or an empty-element tag. -/
theorem next_of_isNameChar {c : Char} (h : isNameChar c = true) (cs : List Char) :
    next '<' (c :: cs) = startTag (c :: cs) := by
  have hdeclaration : c ≠ '!' := ne_of_isNameChar h (by decide)
  have hinstruction : c ≠ '?' := ne_of_isNameChar h (by decide)
  have hend : c ≠ '/' := ne_of_isNameChar h (by decide)
  unfold next
  rw [if_pos rfl]
  split
  · next heq => exact absurd (List.cons.inj heq).1 hdeclaration
  · next heq => exact absurd (List.cons.inj heq).1 hinstruction
  · next heq => exact absurd (List.cons.inj heq).1 hend
  · rfl

/-- A written tag starts like a name. -/
theorem next_written {tag : Tag} (h : tag.WellFormed) (cs : List Char) :
    next '<' (tag.written ++ cs) = startTag (tag.written ++ cs) := by
  obtain ⟨c, name, hname, hc, -⟩ := h.name.exists_cons
  rw [Tag.written, hname]
  exact next_of_isNameChar hc _

/-- **A start tag is found**, whatever follows it. -/
theorem next_start {tag : Tag} (h : tag.WellFormed) (cs : List Char) :
    next '<' (tag.written ++ '>' :: cs) = .ok (.start tag.written, cs) := by
  rw [next_written h, startTag, (passed_written h).cutTag]
  dsimp only
  split
  · next inner heq =>
      have hlast : tag.written.getLast? = some '/' := by
        rw [← List.head?_reverse, heq]
        rfl
      exact absurd rfl (getLast?_written h '/' hlast)
  · rfl

/-- **An empty-element tag is found**, whatever follows it. -/
theorem next_empty {tag : Tag} (h : tag.WellFormed) (cs : List Char) :
    next '<' (tag.written ++ '/' :: '>' :: cs) = .ok (.empty tag.written, cs) := by
  have hslash : Passed (tag.written ++ ['/']) := (passed_written h).append (passed_of_forall (by simp))
  have hcut := hslash.cutTag cs
  rw [List.append_assoc] at hcut
  rw [next_written h, startTag]
  have hcut' : cutTag (tag.written ++ '/' :: '>' :: cs) = some (tag.written ++ ['/'], cs) := hcut
  rw [hcut']
  simp

/-- A name is the name of its end tag. -/
theorem endName_of_isName {name : String} (h : IsName name) : endName name.toList = name.toList := by
  obtain ⟨c, cs, hname, hc, -⟩ := h.exists_cons
  have hblank : ¬ name.toList.all isSpace = true := by
    rw [hname, List.all_cons, isSpace_of_isNameChar hc]
    exact Bool.false_ne_true
  have hlast : name.toList.reverse.dropWhile isSpace = name.toList.reverse := by
    refine List.dropWhile_eq_self_iff.2 fun hpos => ?_
    have hmem := List.getElem_mem hpos
    rw [isSpace_of_isNameChar (h.chars _ (List.mem_reverse.1 hmem))]
    exact Bool.false_ne_true
  rw [endName, if_neg hblank, hlast, List.reverse_reverse]

/-- **An end tag is found**, whatever follows it. -/
theorem next_stop {name : String} (h : IsName name) (cs : List Char) :
    next '<' ('/' :: (name.toList ++ '>' :: cs)) = .ok (.stop name.toList, cs) := by
  have hfound : next '<' ('/' :: (name.toList ++ '>' :: cs)) = endTag (name.toList ++ '>' :: cs) := rfl
  rw [hfound, endTag, (passed_of_isNameChar h.chars).cutTag]
  dsimp only
  rw [endName_of_isName h]

end Token

end LayerHeaders.Xml
