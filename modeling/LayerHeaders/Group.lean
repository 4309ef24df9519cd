/-!
# Grouping by a key

`groupBy` splits a list into groups of one key each. The groups stand in the order in which their keys
are first met, and the items of a group keep their order.

* `map_key_addToGroups`: adding an item adds its key at the end, unless it is there already.
-/

namespace LayerHeaders

/-- Items that share a key. -/
structure Group (κ α : Type) where
  /-- The key. -/
  key : κ
  /-- The items, in order. -/
  items : List α
deriving DecidableEq, Repr

variable {κ α : Type} [DecidableEq κ]

/-- Adds an item to the group of its key, or as a new last group. -/
def addToGroups (key : κ) (a : α) : List (Group κ α) → List (Group κ α)
  | [] => [⟨key, [a]⟩]
  | g :: gs =>
    if g.key = key then { g with items := g.items ++ [a] } :: gs else g :: addToGroups key a gs

/-- The groups of a list by a key. -/
def groupBy (key : α → κ) (l : List α) : List (Group κ α) :=
  l.foldl (fun gs a => addToGroups (key a) a gs) []

theorem map_key_addToGroups (key : κ) (a : α) (gs : List (Group κ α)) :
    (addToGroups key a gs).map (·.key) =
      if key ∈ gs.map (·.key) then gs.map (·.key) else gs.map (·.key) ++ [key] := by
  induction gs with
  | nil => simp [addToGroups]
  | cons g gs ih =>
    by_cases h : g.key = key
    · simp [addToGroups, h]
    · have h' : key ≠ g.key := fun e => h e.symm
      by_cases hm : key ∈ gs.map (·.key)
      · simp_all [addToGroups]
      · simp_all [addToGroups]

end LayerHeaders
