import LayerHeaders.Header.DispatchTable
import LayerHeaders.Header.DriverInterface
import LayerHeaders.Header.StreamOperators

/-!
# Kinds of headers

The headers that are made from a registry alone.
-/

namespace LayerHeaders

/-- A header that is made from a registry. -/
inductive HeaderKind where
  /-- The dispatch tables. -/
  | dispatchTables
  /-- The interfaces of a driver. -/
  | driverInterface
  /-- The stream operators. -/
  | streamOperators
deriving DecidableEq, Repr

namespace HeaderKind

/-- The default file name. -/
def fileName : HeaderKind → String
  | dispatchTables => DispatchTable.fileName
  | driverInterface => DriverInterface.fileName
  | streamOperators => StreamOperators.fileName

/-- The header of a registry. -/
def header (kind : HeaderKind) (r : Registry) : Except HeaderError Header :=
  match kind with
  | dispatchTables => DispatchTable.header r
  | driverInterface => DriverInterface.header r
  | streamOperators => .ok (StreamOperators.header r)

/-- The text of the header of a registry. -/
def text (kind : HeaderKind) (r : Registry) : Except HeaderError String := do
  let header ← kind.header r
  header.render

end HeaderKind

end LayerHeaders
