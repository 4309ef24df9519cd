/-!
# Starts of texts

`dropStart?` takes a start off a text, if the text has it.

* `dropStart?_eq_some_iff`: what it leaves is what follows the start.
-/

namespace LayerHeaders.Text

/-- What follows `start` in a text that starts with it. -/
def dropStart? : List Char → List Char → Option (List Char)
  | [], text => some text
  | _ :: _, [] => none
  | s :: start, c :: text => if s = c then dropStart? start text else none

theorem dropStart?_eq_some_iff {start text rest : List Char} :
    dropStart? start text = some rest ↔ text = start ++ rest := by
  induction start generalizing text with
  | nil => simp [dropStart?]
  | cons s start ih =>
    cases text with
    | nil => simp [dropStart?]
    | cons c text =>
      by_cases h : s = c
      · subst h; simp [dropStart?, ih]
      · simp [dropStart?, h, Ne.symm h]

theorem length_dropStart?_le {start text rest : List Char} (h : dropStart? start text = some rest) :
    rest.length ≤ text.length := by
  rw [dropStart?_eq_some_iff.1 h, List.length_append]
  exact Nat.le_add_left _ _

end LayerHeaders.Text
