import Mathlib.Data.List.Forall2

/-!
# Lists that are related one by one

What is computed from two lists in the same way is related as the items are. The statements are about
`List.Forall₂` and about results that do not tell related items apart.

* `find?_forall₂`: what is found in related lists.
* `filter_forall₂`: what a test keeps of related lists.
* `map_eq_of_forall₂`, `flatMap_eq_of_forall₂`: when the results are the same.
* `exists_mem_of_forall₂`: what an item is related to.
* `forall₂_exchange`: a list and one with an item exchanged.
-/

namespace LayerHeaders

variable {α β γ : Type} {R : α → β → Prop} {as : List α} {bs : List β}

/-- **What is found in related lists** is nothing in both, or related. -/
theorem find?_forall₂ {p : α → Bool} {q : β → Bool} (hpq : ∀ a b, R a b → q b = p a)
    (h : List.Forall₂ R as bs) : Option.Rel R (as.find? p) (bs.find? q) := by
  induction h with
  | nil => exact .none
  | @cons a b as bs hab _ ih =>
      rw [List.find?_cons, List.find?_cons, hpq a b hab]
      rcases p a with _ | _
      · exact ih
      · exact .some hab

/-- A result that does not tell related items apart is the same, if there is one. -/
theorem map_eq_of_rel {f : α → γ} {g : β → γ} (hfg : ∀ a b, R a b → g b = f a) {a? : Option α}
    {b? : Option β} (h : Option.Rel R a? b?) : b?.map g = a?.map f := by
  cases h with
  | none => rfl
  | some hab => exact congrArg some (hfg _ _ hab)

/-- A test that does not tell related items apart keeps related ones. -/
theorem filter_forall₂ {p : α → Bool} {q : β → Bool} (hpq : ∀ a b, R a b → q b = p a)
    (h : List.Forall₂ R as bs) : List.Forall₂ R (as.filter p) (bs.filter q) := by
  refine List.rel_filter (fun a b hab => ?_) h
  show p a = true ↔ q b = true
  rw [hpq a b hab]

/-- Results that do not tell related items apart are the same. -/
theorem map_eq_of_forall₂ {f : α → γ} {g : β → γ} (hfg : ∀ a b, R a b → g b = f a)
    (h : List.Forall₂ R as bs) : bs.map g = as.map f := by
  induction h with
  | nil => rfl
  | cons hab _ ih => rw [List.map_cons, List.map_cons, hfg _ _ hab, ih]

/-- Lists of results that do not tell related items apart are the same. -/
theorem flatMap_eq_of_forall₂ {f : α → List γ} {g : β → List γ} (hfg : ∀ a b, R a b → g b = f a)
    (h : List.Forall₂ R as bs) : bs.flatMap g = as.flatMap f := by
  rw [List.flatMap_def, List.flatMap_def, map_eq_of_forall₂ hfg h]

/-- An item of the second list is related to one of the first. -/
theorem exists_mem_of_forall₂ (h : List.Forall₂ R as bs) {b : β} (hb : b ∈ bs) : ∃ a ∈ as, R a b := by
  induction h with
  | nil => cases hb
  | @cons a b' as bs hab _ ih =>
      rcases List.mem_cons.1 hb with rfl | hb
      · exact ⟨a, List.mem_cons_self, hab⟩
      · obtain ⟨a, ha, hab⟩ := ih hb
        exact ⟨a, List.mem_cons_of_mem _ ha, hab⟩

/-- A list with one item exchanged for a related one. -/
theorem forall₂_exchange {R : α → α → Prop} (hrefl : ∀ a, R a a) {a b : α} (hab : R a b)
    (l₁ l₂ : List α) : List.Forall₂ R (l₁ ++ a :: l₂) (l₁ ++ b :: l₂) := by
  have hsame : ∀ l : List α, List.Forall₂ R l l := fun l => List.forall₂_same.2 fun x _ => hrefl x
  exact List.rel_append (hsame l₁) (.cons hab (hsame l₂))

end LayerHeaders
