import LayerHeaders.Header.Error

/-!
# Headers

A header is a list of instructions, and each instruction is written as one line. Before a header is
written it is checked: no line contains a line break, and guards are closed by their own token before
the next one opens.

* `Header.check`: the first defect of a header.
* `Header.render`: the text of a header without defect.
-/

namespace LayerHeaders

/-! ## Instructions -/

/-- How a guard asks for its condition. -/
inductive GuardTest where
  /-- Whether a token is defined. -/
  | defined
  /-- Whether an expression holds. -/
  | expression
deriving DecidableEq, Repr

/-- How the end of a guard is written. -/
inductive GuardEnd where
  /-- Without a comment. -/
  | plain
  /-- With the token as a comment. -/
  | annotated
deriving DecidableEq, Repr

/-- One line of a header. -/
inductive Instruction where
  /-- A line of code. -/
  | line (indent : Nat) (text : String)
  /-- An empty line. -/
  | blank
  /-- The start of a guard. -/
  | openGuard (indent : Nat) (token : String) (test : GuardTest)
  /-- The end of a guard. -/
  | closeGuard (indent : Nat) (token : String) (style : GuardEnd)
deriving DecidableEq, Repr

/-- A header under its default file name. -/
structure Header where
  /-- The default file name. -/
  name : String
  /-- The lines, in order. -/
  body : List Instruction
deriving DecidableEq, Repr

/-- The lines, inside a guard for `token?` if there is one. -/
def guarded (indent : Nat) (token? : Option String) (style : GuardEnd) (body : List Instruction) :
    List Instruction :=
  match token? with
  | some token => .openGuard indent token .defined :: body ++ [.closeGuard indent token style]
  | none => body

/-- A declaration with one parameter a line, between `head` and `tail`. -/
def signatureLines (indent : Nat) (head : String) (params : List String) (tail : String) :
    List Instruction :=
  match params.getLast? with
  | none => [.line indent (head ++ "()" ++ tail)]
  | some last =>
    .line indent (head ++ "(") :: params.dropLast.map (fun p => .line (indent + 1) (p ++ ",")) ++
      [.line (indent + 1) (last ++ ")" ++ tail)]

namespace Header

/-! ## Checking -/

/-- The first defect of the instructions from position `index` on, while `open?` is open. -/
def checkFrom (name : String) (open? : Option String) (index : Nat) :
    List Instruction → Except HeaderError Unit
  | [] =>
    match open? with
    | none => .ok ()
    | some token => .error (.unbalancedGuard name (.neverClosed token))
  | i :: is =>
    match i with
    | .line _ text =>
      if text.contains '\n' then .error (.embeddedNewline name index)
      else checkFrom name open? (index + 1) is
    | .blank => checkFrom name open? (index + 1) is
    | .openGuard _ token _ =>
      match open? with
      | some outer => .error (.nestedGuard name outer token)
      | none => checkFrom name (some token) (index + 1) is
    | .closeGuard _ token _ =>
      match open? with
      | none => .error (.unbalancedGuard name (.notOpen token))
      | some current =>
        if current = token then checkFrom name none (index + 1) is
        else .error (.unbalancedGuard name (.closesOther token current))

/-- The first defect of a header. -/
def check (h : Header) : Except HeaderError Unit :=
  checkFrom h.name none 0 h.body

/-! ## Writing -/

/-- Two spaces for each level. -/
def indentation (indent : Nat) : String :=
  String.ofList (List.replicate (2 * indent) ' ')

/-- The text of an instruction, without the line feed after it. -/
def renderLine : Instruction → String
  | .line indent text => indentation indent ++ text
  | .blank => ""
  | .openGuard indent token .defined => indentation indent ++ "#ifdef " ++ token
  | .openGuard indent token .expression => indentation indent ++ "#if " ++ token
  | .closeGuard indent _ .plain => indentation indent ++ "#endif"
  | .closeGuard indent token .annotated => indentation indent ++ "#endif // " ++ token

/-- The text of a header, if it has no defect. -/
def render (h : Header) : Except HeaderError String := do
  h.check
  return String.join (h.body.map fun i => renderLine i ++ "\n")

end Header

end LayerHeaders
