/-!
# What can be wrong with a document

The causes for which a document is refused, from single references up to whole markup, with one
wording each. A cause may rest on a smaller one; `Error.chain` lists the wordings from the outermost
to the innermost.
-/

namespace LayerHeaders.Xml

/-! ## Causes -/

/-- Why a numeric character reference stands for no character. -/
inductive ReferenceError where
  /-- The number starts with a sign. -/
  | signed
  /-- There is no digit. -/
  | noDigits
  /-- A character of the number is no digit of its base. -/
  | invalidDigit
  /-- The number exceeds 32 bits. -/
  | tooLarge
  /-- The number is zero. -/
  | zero
  /-- The number is no Unicode scalar value. -/
  | notScalar (code : Nat)
deriving DecidableEq, Repr

/-- Why the references in a text cannot be replaced. Positions are byte offsets in that text. -/
inductive EntityError where
  /-- No `;` follows the `&` at `start`; `stop` is the length of the text. -/
  | unterminated (start stop : Nat)
  /-- The name between `start` and `stop` is not known. -/
  | unknown (start stop : Nat) (name : String)
  /-- A numeric reference is wrong. -/
  | reference (cause : ReferenceError)
deriving DecidableEq, Repr

/-- Why the attributes of a tag cannot be read. Positions are byte offsets in the tag's content. -/
inductive AttributeError where
  /-- A key is followed by something other than `=`. -/
  | missingEquals (pos : Nat)
  /-- The tag ends after `=`. -/
  | missingValue (pos : Nat)
  /-- A value does not start with a quote. -/
  | unquotedValue (pos : Nat)
  /-- The tag ends inside a quoted value. -/
  | missingQuote (pos : Nat) (quote : Char)
  /-- A key occurs again; `previous` is where it stood first. -/
  | duplicate (pos previous : Nat)
deriving DecidableEq, Repr

/-- Markup that does not come to its end. -/
inductive MarkupError where
  /-- Neither a comment, a character data section nor a document type follows `<!`. -/
  | unknown
  /-- A comment is not closed. -/
  | comment
  /-- A character data section is not closed. -/
  | characterData
  /-- A document type is not closed. -/
  | documentType
  /-- A processing instruction or a declaration is not closed. -/
  | instruction
  /-- A tag is not closed. -/
  | tag
deriving DecidableEq, Repr

/-- Markup that is complete but out of place. -/
inductive FormError where
  /-- An end tag names another element than the innermost open one. -/
  | mismatchedEnd (expected found : String)
  /-- An end tag stands where no element is open. -/
  | unmatchedEnd (found : String)
  /-- A document type has no name. -/
  | namelessDocumentType
deriving DecidableEq, Repr

/-- Why a document is not well-formed. -/
inductive Error where
  /-- Markup does not come to its end. -/
  | markup (cause : MarkupError)
  /-- Markup is out of place. -/
  | form (cause : FormError)
  /-- A text or a value has a wrong reference. -/
  | entity (cause : EntityError)
deriving DecidableEq, Repr

/-- Why a document yields no element tree. -/
inductive DocumentError where
  /-- The document is not well-formed. -/
  | notWellFormed (cause : Error)
  /-- An attribute cannot be read. -/
  | attributes (cause : AttributeError)
  /-- An element is still open at the end. -/
  | unclosed (name : String)
  /-- There is no element. -/
  | noRoot
  /-- An element ends that was never begun. -/
  | noStart
deriving DecidableEq, Repr

/-! ## Wording -/

/-- The wording of a wrong number. -/
def ReferenceError.message : ReferenceError → String
  | signed => "unexpected number sign"
  | noDigits => "cannot parse integer from empty string"
  | invalidDigit => "invalid digit found in string"
  | tooLarge => "number too large to fit in target type"
  | zero => "0x0 character is not permitted in XML"
  | notScalar code => s!"`{code}` is not a valid codepoint"

/-- The wordings of a wrong number: a defect of its digits is a cause of its own. -/
def ReferenceError.chain (e : ReferenceError) : List String :=
  match e with
  | noDigits | invalidDigit | tooLarge => [e.message, e.message]
  | _ => [e.message]

/-- The wording of a wrong reference. -/
def EntityError.message : EntityError → String
  | unterminated start stop =>
    s!"Error while escaping character at range {start}..{stop}: Cannot find ';' after '&'"
  | unknown start stop name => s!"at {start}..{stop}: unrecognized entity `{name}`"
  | reference cause => "invalid character reference: " ++ cause.message

/-- The wordings of a wrong reference and of what lies below it. -/
def EntityError.chain (e : EntityError) : List String :=
  match e with
  | reference cause => e.message :: cause.chain
  | _ => [e.message]

/-- The wording of a wrong attribute. -/
def AttributeError.message : AttributeError → String
  | missingEquals pos =>
    s!"position {pos}: attribute key must be directly followed by `=` or space"
  | missingValue pos => s!"position {pos}: `=` must be followed by an attribute value"
  | unquotedValue pos => s!"position {pos}: attribute value must be enclosed in `\"` or `'`"
  | missingQuote pos quote => s!"position {pos}: missing closing quote `{quote}` in attribute value"
  | duplicate pos previous =>
    s!"position {pos}: duplicated attribute, previous declaration at position {previous}"

/-- The wording of unfinished markup. -/
def MarkupError.message : MarkupError → String
  | unknown => "unknown or missed symbol in markup"
  | comment => "comment not closed: `-->` not found before end of input"
  | characterData => "CDATA not closed: `]]>` not found before end of input"
  | documentType => "DOCTYPE not closed: `>` not found before end of input"
  | instruction =>
    "processing instruction or xml declaration not closed: `?>` not found before end of input"
  | tag => "tag not closed: `>` not found before end of input"

/-- The wording of misplaced markup. -/
def FormError.message : FormError → String
  | mismatchedEnd expected found => s!"expected `</{expected}>`, but `</{found}>` was found"
  | unmatchedEnd found => s!"close tag `</{found}>` does not match any open tag"
  | namelessDocumentType => "`<!DOCTYPE>` declaration does not contain a name of a document type"

/-- The wording of a document's defect. -/
def Error.message : Error → String
  | markup cause => "syntax error: " ++ cause.message
  | form cause => "ill-formed document: " ++ cause.message
  | entity cause => cause.message

/-- The wordings of a document's defect, from the outermost to the innermost. -/
def Error.chain (e : Error) : List String :=
  match e with
  | markup cause => [e.message, cause.message]
  | form cause => [e.message, cause.message]
  | entity cause => e.message :: cause.chain

end LayerHeaders.Xml
