/-!
# Blank characters

White space in the sense of the Unicode property `White_Space`, and what is cut along it:
trimmed text, the words of a text, the entries of a comma-separated list.

* `trim`, `words`, `entries`: a text without the blanks at its ends, its words, and what it lists.
-/

namespace LayerHeaders.Text

/-- The characters with the property `White_Space`. The zero width space and the byte order mark
are not among them. -/
def isBlank (c : Char) : Bool :=
  let n := c.toNat
  (0x09 ≤ n && n ≤ 0x0D) || n == 0x20 || n == 0x85 || n == 0xA0 || n == 0x1680 ||
    (0x2000 ≤ n && n ≤ 0x200A) || n == 0x2028 || n == 0x2029 || n == 0x202F || n == 0x205F ||
    n == 0x3000

/-- The text without the blanks it starts with. -/
def trimStart (cs : List Char) : List Char :=
  cs.dropWhile isBlank

/-- The text without the blanks it ends with. -/
def trimEnd (cs : List Char) : List Char :=
  (cs.reverse.dropWhile isBlank).reverse

/-- The text without the blanks at either end. -/
def trim (s : String) : String :=
  String.ofList (trimEnd (trimStart s.toList))

/-- The maximal runs of characters that are not blank. -/
def words (s : String) : List String :=
  (s.toList.splitOnP isBlank).filterMap fun cs =>
    if cs.isEmpty then none else some (String.ofList cs)

/-- The entries of a comma-separated list: trimmed, and without the empty ones. -/
def entries (s : String) : List String :=
  (s.toList.splitOn ',').filterMap fun cs =>
    let entry := trimEnd (trimStart cs)
    if entry.isEmpty then none else some (String.ofList entry)

end LayerHeaders.Text
