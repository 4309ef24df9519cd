import LayerHeaders.Files.Error
import LayerHeaders.Xml.Error

/-!
# Why a registry is refused

The causes that reading a registry and looking up its commands can meet. `RegistryError.chain` lists
the wordings of a cause and of what lies below it.
-/

namespace LayerHeaders

open Files (FileError)

/-- Why a registry cannot be read or used. -/
inductive RegistryError where
  /-- A required section of the document is absent. -/
  | missingSection (name : String)
  /-- An element lacks a child or an attribute that it needs. -/
  | malformed (element what : String)
  /-- A command is declared twice for one API variant. -/
  | duplicateCommand (name : String)
  /-- A command is an alias of one that is not declared. -/
  | unresolvedAlias (command target : String)
  /-- The aliases of a command lead back to one that was passed. -/
  | aliasCycle (name : String)
  /-- A command is not declared. -/
  | unknownCommand (name : String)
  /-- The document is not well-formed. -/
  | xml (cause : Xml.Error)
  /-- An attribute cannot be read. -/
  | attributes (cause : Xml.AttributeError)
  /-- The file cannot be read. -/
  | unreadable (path : String) (cause : FileError)
deriving DecidableEq, Repr

namespace RegistryError

/-- A document without an element tree, as a defect of the registry in it. -/
def ofDocument : Xml.DocumentError → RegistryError
  | .notWellFormed cause => .xml cause
  | .attributes cause => .attributes cause
  | .unclosed name => .malformed s!"<{name}>" "a closing tag"
  | .noRoot => .malformed "document" "a root element"
  | .noStart => .malformed "document" "a matching start tag"

/-- The wording of a defect. -/
def message : RegistryError → String
  | missingSection name => s!"schema error: required section <{name}> is missing"
  | malformed element what => s!"schema error: {element} is missing {what}"
  | duplicateCommand name => s!"schema error: command {name} is declared more than once"
  | unresolvedAlias command target =>
    s!"unresolved alias: {command} aliases {target}, which is not declared"
  | aliasCycle name => s!"alias cycle detected while resolving {name}"
  | unknownCommand name => s!"unknown command: {name}"
  | xml cause => "xml error: " ++ cause.message
  | attributes cause => "xml attribute error: " ++ cause.message
  | unreadable path cause => s!"failed to read {path}: {cause.message}"

/-- The wordings of a defect and of what lies below it. -/
def chain (e : RegistryError) : List String :=
  e.message ::
    match e with
    | xml cause => cause.chain
    | attributes cause => [cause.message]
    | unreadable _ cause => [cause.message]
    | _ => []

end RegistryError

end LayerHeaders
