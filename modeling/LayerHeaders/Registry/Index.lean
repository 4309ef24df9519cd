import LayerHeaders.Registry.Basic
import LayerHeaders.Registry.Error

/-!
# The index of commands

A name may be declared once for the standard API and once for the safety-critical one; the index then
leads to the standard declaration. Declarations are added in document order, and a later one counts
before an earlier one.
-/

namespace LayerHeaders

/-- Adds a declaration to an index. Of one name, a standard declaration replaces a safety-critical
one, and two of the same kind are refused. -/
def addToIndex (d : Dialect) (index : List Command) (c : Command) :
    Except RegistryError (List Command) :=
  match index.find? (·.name = c.name) with
  | none => .ok (c :: index)
  | some earlier =>
    match d.isSafetyCritical earlier.api?, d.isSafetyCritical c.api? with
    | true, false => .ok (c :: index)
    | false, true => .ok index
    | _, _ => .error (.duplicateCommand c.name)

/-- The index of a list of declarations. -/
def indexCommands (d : Dialect) (commands : List Command) : Except RegistryError (List Command) :=
  commands.foldlM (addToIndex d) []

end LayerHeaders
