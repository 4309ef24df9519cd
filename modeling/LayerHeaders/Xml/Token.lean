import LayerHeaders.Text.Start
import LayerHeaders.Xml.Error

/-!
# Tokens of a document

A document is a sequence of runs of text and pieces of markup. `Token.scan` cuts it up; what a piece
contains is looked at later, so the first defect of the cutting comes after the tokens before it.

* `rest_length_lt_of_next`: a token takes at least one character, so scanning ends.
-/

namespace LayerHeaders.Xml

/-- The characters that separate names and attributes in markup. -/
def isSpace (c : Char) : Bool :=
  c == ' ' || c == '\t' || c == '\r' || c == '\n'

/-- A piece of a document. -/
inductive Token where
  /-- A run of text, with its references. -/
  | text (raw : List Char)
  /-- A start tag, by what stands between `<` and `>`. -/
  | start (content : List Char)
  /-- An empty-element tag, by what stands between `<` and `/>`. -/
  | empty (content : List Char)
  /-- An end tag, by its name. -/
  | stop (name : List Char)
  /-- A character data section. -/
  | data (content : List Char)
  /-- A comment, a processing instruction, a declaration or a document type. -/
  | aside
deriving DecidableEq, Repr

namespace Token

/-! ## Finding the end of markup -/

/-- Cuts a text at the first occurrence of `mark`. `before` is what was passed so far, in reverse. -/
def cutFrom (mark : List Char) (before : List Char) (cs : List Char) :
    Option (List Char × List Char) :=
  match Text.dropStart? mark cs with
  | some rest => some (before.reverse, rest)
  | none =>
    match cs with
    | [] => none
    | c :: cs => cutFrom mark (c :: before) cs

/-- Cuts a text at the first occurrence of `mark`. -/
def cutAt (mark : String) (cs : List Char) : Option (List Char × List Char) :=
  cutFrom mark.toList [] cs

/-- Cuts a tag at the first `>` outside quotes. `quote?` is the quote that is open, `before` what was
passed so far, in reverse. -/
def cutTagFrom (quote? : Option Char) (before : List Char) :
    List Char → Option (List Char × List Char)
  | [] => none
  | c :: cs =>
    match quote? with
    | some quote => cutTagFrom (if c = quote then none else some quote) (c :: before) cs
    | none =>
      if c = '>' then some (before.reverse, cs)
      else if c = '\x22' ∨ c = '\x27' then cutTagFrom (some c) (c :: before) cs
      else cutTagFrom none (c :: before) cs

/-- Cuts a tag at the first `>` outside quotes. -/
def cutTag (cs : List Char) : Option (List Char × List Char) :=
  cutTagFrom none [] cs

/-- Cuts a document type at the `>` that balances the `<` inside it. `depth` of them are open. -/
def cutBalancedFrom (depth : Nat) (before : List Char) : List Char → Option (List Char × List Char)
  | [] => none
  | c :: cs =>
    if c = '>' then
      match depth with
      | 0 => some (before.reverse, cs)
      | depth + 1 => cutBalancedFrom depth (c :: before) cs
    else if c = '<' then cutBalancedFrom (depth + 1) (c :: before) cs
    else cutBalancedFrom depth (c :: before) cs

/-- Cuts a document type at the `>` that balances the `<` inside it. -/
def cutBalanced (cs : List Char) : Option (List Char × List Char) :=
  cutBalancedFrom 0 [] cs

/-- What follows `word`, if the text starts with it in any case of its ASCII letters. -/
def dropWord? : List Char → List Char → Option (List Char)
  | [], cs => some cs
  | _ :: _, [] => none
  | w :: word, c :: cs => if w.toUpper = c.toUpper then dropWord? word cs else none

/-! ## One token -/

/-- The markup after `<!`. -/
def declaration : List Char → Except Error (Token × List Char)
  | '-' :: '-' :: cs =>
    match cutAt "-->" cs with
    | some (_, rest) => .ok (.aside, rest)
    | none => .error (.markup .comment)
  | '-' :: _ => .error (.markup .comment)
  | '[' :: cs =>
    match Text.dropStart? "CDATA[".toList cs with
    | none => .error (.markup .characterData)
    | some cs =>
      match cutAt "]]>" cs with
      | some (content, rest) => .ok (.data content, rest)
      | none => .error (.markup .characterData)
  | c :: cs =>
    if c = 'D' ∨ c = 'd' then
      match (dropWord? "OCTYPE".toList cs).bind cutBalanced with
      | none => .error (.markup .documentType)
      | some (content, rest) =>
        if content.all isSpace then .error (.form .namelessDocumentType) else .ok (.aside, rest)
    else .error (.markup .unknown)
  | [] => .error (.markup .unknown)

/-- The markup after `<?`. -/
def instruction : List Char → Except Error (Token × List Char)
  | '>' :: _ => .error (.markup .instruction)
  | cs =>
    match cutAt "?>" cs with
    | some (_, rest) => .ok (.aside, rest)
    | none => .error (.markup .instruction)

/-- The name of an end tag: its content without the spaces at the end, unless there is nothing
else. -/
def endName (content : List Char) : List Char :=
  if content.all isSpace then content else (content.reverse.dropWhile isSpace).reverse

/-- The markup after `</`. -/
def endTag (cs : List Char) : Except Error (Token × List Char) :=
  match cutTag cs with
  | some (content, rest) => .ok (.stop (endName content), rest)
  | none => .error (.markup .tag)

/-- The start tag or empty-element tag after `<`. -/
def startTag (cs : List Char) : Except Error (Token × List Char) :=
  match cutTag cs with
  | some (content, rest) =>
    match content.reverse with
    | '/' :: inner => .ok (.empty inner.reverse, rest)
    | _ => .ok (.start content, rest)
  | none => .error (.markup .tag)

/-- The first token of a text that starts with `c` and goes on with `cs`, and what follows it. -/
def next (c : Char) (cs : List Char) : Except Error (Token × List Char) :=
  if c = '<' then
    match cs with
    | '!' :: cs => declaration cs
    | '?' :: cs => instruction cs
    | '/' :: cs => endTag cs
    | cs => startTag cs
  else .ok (.text (c :: cs.takeWhile (· != '<')), cs.dropWhile (· != '<'))

/-! ## Each token takes a character -/

theorem length_cutFrom_le {mark before cs a rest : List Char}
    (h : cutFrom mark before cs = some (a, rest)) : rest.length ≤ cs.length := by
  induction cs generalizing before with
  | nil =>
    rw [cutFrom] at h
    split at h
    · next r hr =>
      have := Text.length_dropStart?_le hr
      cases h; exact this
    · cases h
  | cons c cs ih =>
    rw [cutFrom] at h
    split at h
    · next r hr =>
      have := Text.length_dropStart?_le hr
      cases h; exact this
    · have := ih h; simp only [List.length_cons]; omega

theorem length_cutTagFrom_lt {quote? : Option Char} {before cs a rest : List Char}
    (h : cutTagFrom quote? before cs = some (a, rest)) : rest.length < cs.length := by
  induction cs generalizing quote? before with
  | nil => simp [cutTagFrom] at h
  | cons c cs ih =>
    simp only [cutTagFrom] at h
    simp only [List.length_cons]
    split at h
    · have := ih h; omega
    · split at h
      · cases h; omega
      · split at h <;> · have := ih h; omega

theorem length_cutBalancedFrom_lt {depth : Nat} {before cs a rest : List Char}
    (h : cutBalancedFrom depth before cs = some (a, rest)) : rest.length < cs.length := by
  induction cs generalizing depth before with
  | nil => simp [cutBalancedFrom] at h
  | cons c cs ih =>
    simp only [cutBalancedFrom] at h
    simp only [List.length_cons]
    split at h
    · split at h
      · cases h; omega
      · have := ih h; omega
    · split at h <;> · have := ih h; omega

theorem length_dropWord?_le {word cs rest : List Char} (h : dropWord? word cs = some rest) :
    rest.length ≤ cs.length := by
  induction word generalizing cs with
  | nil => simp [dropWord?] at h; simp [h]
  | cons w word ih =>
    cases cs with
    | nil => simp [dropWord?] at h
    | cons c cs =>
      simp only [dropWord?] at h
      split at h
      · have := ih h; simp only [List.length_cons]; omega
      · cases h

theorem length_declaration_le {cs rest : List Char} {t : Token}
    (h : declaration cs = .ok (t, rest)) : rest.length ≤ cs.length := by
  unfold declaration at h
  split at h
  · split at h
    · next hc => cases h; have := length_cutFrom_le hc; simp only [List.length_cons]; omega
    · cases h
  · cases h
  · split at h
    · cases h
    · next hp =>
      split at h
      · next hc =>
        cases h
        have := length_cutFrom_le hc
        have := Text.length_dropStart?_le hp
        simp only [List.length_cons]; omega
      · cases h
  · split at h
    · split at h
      · cases h
      · next hc =>
        split at h
        · cases h
        · cases h
          obtain ⟨w, hw, hb⟩ := Option.bind_eq_some_iff.1 hc
          have := length_dropWord?_le hw
          have := length_cutBalancedFrom_lt hb
          simp only [List.length_cons]; omega
    · cases h
  · cases h

theorem length_instruction_le {cs rest : List Char} {t : Token}
    (h : instruction cs = .ok (t, rest)) : rest.length ≤ cs.length := by
  unfold instruction at h
  split at h
  · cases h
  · split at h
    · next hc => cases h; exact length_cutFrom_le hc
    · cases h

theorem length_endTag_lt {cs rest : List Char} {t : Token} (h : endTag cs = .ok (t, rest)) :
    rest.length < cs.length := by
  unfold endTag at h
  split at h
  · next hc => cases h; exact length_cutTagFrom_lt hc
  · cases h

theorem length_startTag_lt {cs rest : List Char} {t : Token} (h : startTag cs = .ok (t, rest)) :
    rest.length < cs.length := by
  unfold startTag at h
  split at h
  · next hc =>
    split at h <;> · cases h; exact length_cutTagFrom_lt hc
  · cases h

/-- What follows the first token is shorter than the text. -/
theorem rest_length_lt_of_next {c : Char} {cs rest : List Char} {t : Token}
    (h : next c cs = .ok (t, rest)) : rest.length < (c :: cs).length := by
  unfold next at h
  simp only [List.length_cons]
  split at h
  · split at h
    · have := length_declaration_le h; simp only [List.length_cons]; omega
    · have := length_instruction_le h; simp only [List.length_cons]; omega
    · have := length_endTag_lt h; simp only [List.length_cons]; omega
    · have := length_startTag_lt h; omega
  · cases h
    have := (List.dropWhile_sublist (l := cs) (· != '<')).length_le
    omega

/-! ## All tokens -/

/-- The tokens of a text up to its first defect. `before` are the tokens so far, in reverse. -/
def scanFrom (before : List Token) (cs : List Char) : List Token × Option Error :=
  match cs with
  | [] => (before.reverse, none)
  | c :: cs =>
    match _h : next c cs with
    | .ok (t, rest) => scanFrom (t :: before) rest
    | .error e => (before.reverse, some e)
termination_by cs.length
decreasing_by exact rest_length_lt_of_next _h

/-- The text without a byte order mark at its start. -/
def dropMark : List Char → List Char
  | '\ufeff' :: cs => cs
  | cs => cs

/-- The tokens of a document up to its first defect, and that defect. -/
def scan (document : String) : List Token × Option Error :=
  scanFrom [] (dropMark document.toList)

end Token

end LayerHeaders.Xml
