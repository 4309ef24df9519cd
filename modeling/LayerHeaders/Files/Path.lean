/-!
# Paths

A path is a text of names between slashes. A single dot is the directory itself and two dots are the one
above it. Paths are kept as they are spelled.

* `names`: the names that a path consists of.
* `join`: an absolute path replaces what it is joined to, and nothing is put before the first name.
-/

namespace LayerHeaders.Files.Path

/-- Whether a path starts at the root. -/
def isAbsolute (path : String) : Bool :=
  path.toList.head? == some '/'

/-- Whether a path ends in a slash. -/
def endsInSlash (path : String) : Bool :=
  path.toList.getLast? == some '/'

/-- What stands between the slashes of a path, where that is not empty. -/
def segments (path : String) : List String :=
  ((path.toList.splitOn '/').filter (!·.isEmpty)).map String.ofList

/-- The segments of a path without the single dots, except for one that starts it. -/
def names (path : String) : List String :=
  match segments path with
  | [] => []
  | first :: others =>
    (if first == "." && isAbsolute path then [] else [first]) ++ others.filter (· != ".")

/-- The path of some names. -/
def ofNames (absolute : Bool) (names : List String) : String :=
  (if absolute then "/" else "") ++ "/".intercalate names

/-- The path without its last name, if it has one. -/
def parent? (path : String) : Option String :=
  match names path with
  | [] => none
  | ns => some (ofNames (isAbsolute path) ns.dropLast)

/-- The directory that a file is in. -/
def directory (path : String) : String :=
  match parent? path with
  | some parent => if parent = "" then "." else parent
  | none => "."

/-- The path of something inside a directory. -/
def join (directory inner : String) : String :=
  if isAbsolute inner || directory = "" then inner
  else if endsInSlash directory then directory ++ inner
  else directory ++ "/" ++ inner

end LayerHeaders.Files.Path
