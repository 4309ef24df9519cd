import Mathlib.Data.List.Forall2
import Mathlib.Data.List.Perm.Basic

/-!
# Traversals that may fail

`xs.mapM f` runs `f` over a list and stops at the first failure. The statements say when it succeeds
and which failure it reports, for the items of a list that pass a test.

* `mapM_eq_ok_iff`: a traversal succeeds when each item does, and holds the results in order.
* `exists_mapM_eq_ok_of_perm`: a traversal of the same items in another order.
* `exists_mapM_eq_ok_of_forall₂`: two traversals whose items and results are related one by one.
* `filter_mapM_eq_error_iff`: a traversal reports the failure of the first item that fails.
* `foldlM_eq_error_iff`: a fold fails at one item, after a part that succeeds.
* `exists_foldlM_eq_ok_of_forall₂`: two folds whose items and states are related one by one.
-/

namespace LayerHeaders

section traversal

variable {α β ε : Type} {f : α → Except ε β}

/-- A result that is there can be named. -/
theorem exists_eq_ok_of_isOk {x : Except ε α} (h : x.isOk = true) : ∃ a, x = .ok a := by
  cases x with
  | error e => cases h
  | ok a => exact ⟨a, rfl⟩

/-- There is a result if there is no failure. -/
theorem exists_eq_ok_iff {x : Except ε α} : (∃ a, x = .ok a) ↔ ∀ e, x ≠ .error e := by
  cases x with
  | error e => simp
  | ok a => simp

/-- A sequence of two steps succeeds when both do. -/
theorem bind_eq_ok_iff {x : Except ε α} {g : α → Except ε β} {b : β} :
    x >>= g = .ok b ↔ ∃ a, x = .ok a ∧ g a = .ok b := by
  cases x with
  | error e => simp [bind, Except.bind]
  | ok a => simp [bind, Except.bind]

/-- A sequence of two steps fails when the first does, or the second after it. -/
theorem bind_eq_error_iff {x : Except ε α} {g : α → Except ε β} {e : ε} :
    x >>= g = .error e ↔ x = .error e ∨ ∃ a, x = .ok a ∧ g a = .error e := by
  cases x with
  | error e' => simp [bind, Except.bind]
  | ok a => simp [bind, Except.bind]

/-- Wording a failure in another way does not change when there is a result. -/
theorem mapError_eq_ok_iff {ε' : Type} {x : Except ε α} {g : ε → ε'} {a : α} :
    x.mapError g = .ok a ↔ x = .ok a := by
  cases x with
  | error e => simp [Except.mapError]
  | ok a => simp [Except.mapError]

/-- A failure that is worded in another way. -/
theorem mapError_eq_error_iff {ε' : Type} {x : Except ε α} {g : ε → ε'} {e' : ε'} :
    x.mapError g = .error e' ↔ ∃ e, x = .error e ∧ g e = e' := by
  cases x with
  | error e => simp [Except.mapError]
  | ok a => simp [Except.mapError]

/-- The first item of a traversal decides first. -/
theorem mapM_cons_eq_error_iff {a : α} {as : List α} {e : ε} :
    (a :: as).mapM f = .error e ↔
      f a = .error e ∨ (∃ b, f a = .ok b) ∧ as.mapM f = .error e := by
  rw [List.mapM_cons, bind_eq_error_iff]
  refine or_congr_right ?_
  constructor
  · rintro ⟨b, hb, h⟩
    rcases bind_eq_error_iff.1 h with h | ⟨bs, -, h⟩
    · exact ⟨⟨b, hb⟩, h⟩
    · cases h
  · rintro ⟨⟨b, hb⟩, h⟩
    exact ⟨b, hb, bind_eq_error_iff.2 (Or.inl h)⟩

/-- **A traversal succeeds when each item does**, and its results stand in the order of the items. -/
theorem mapM_eq_ok_iff {as : List α} {bs : List β} :
    as.mapM f = .ok bs ↔ List.Forall₂ (fun a b => f a = .ok b) as bs := by
  induction as generalizing bs with
  | nil =>
      rw [List.mapM_nil, List.forall₂_nil_left_iff]
      exact ⟨fun h => (Except.ok.inj h).symm, fun h => h ▸ rfl⟩
  | cons a as ih =>
      rw [List.mapM_cons, bind_eq_ok_iff, List.forall₂_cons_left_iff]
      constructor
      · rintro ⟨b, hb, h⟩
        obtain ⟨rest, hrest, hbs⟩ := bind_eq_ok_iff.1 h
        exact ⟨b, rest, hb, ih.1 hrest, (Except.ok.inj hbs).symm⟩
      · rintro ⟨b, rest, hb, hrest, rfl⟩
        exact ⟨b, hb, bind_eq_ok_iff.2 ⟨rest, ih.2 hrest, rfl⟩⟩

/-- A traversal of the same items in another order has the same results in another order. -/
theorem exists_mapM_eq_ok_of_perm {as as' : List α} {bs : List β} (hperm : as'.Perm as)
    (h : as.mapM f = .ok bs) : ∃ bs', as'.mapM f = .ok bs' ∧ bs'.Perm bs := by
  obtain ⟨bs', hbs', hperm'⟩ := List.perm_comp_forall₂ hperm (mapM_eq_ok_iff.1 h)
  exact ⟨bs', mapM_eq_ok_iff.2 hbs', hperm'⟩

/-- A traversal of two lists, one after the other. -/
theorem mapM_append_eq_ok_iff {as as' : List α} {bs : List β} :
    (as ++ as').mapM f = .ok bs ↔
      ∃ l l', as.mapM f = .ok l ∧ as'.mapM f = .ok l' ∧ bs = l ++ l' := by
  rw [List.mapM_append, bind_eq_ok_iff]
  constructor
  · rintro ⟨l, hl, h⟩
    obtain ⟨l', hl', hbs⟩ := bind_eq_ok_iff.1 h
    exact ⟨l, l', hl, hl', (Except.ok.inj hbs).symm⟩
  · rintro ⟨l, l', hl, hl', rfl⟩
    exact ⟨l, hl, bind_eq_ok_iff.2 ⟨l', hl', rfl⟩⟩

/-- A traversal of one item between others. -/
theorem mapM_append_cons_eq_ok_iff {as as' : List α} {a : α} {bs : List β} :
    (as ++ a :: as').mapM f = .ok bs ↔
      ∃ l b l', as.mapM f = .ok l ∧ f a = .ok b ∧ as'.mapM f = .ok l' ∧ bs = l ++ b :: l' := by
  rw [mapM_append_eq_ok_iff]
  constructor
  · rintro ⟨l, l', hl, hl', rfl⟩
    rw [List.mapM_cons] at hl'
    obtain ⟨b, hb, h⟩ := bind_eq_ok_iff.1 hl'
    obtain ⟨rest, hrest, hl'⟩ := bind_eq_ok_iff.1 h
    exact ⟨l, b, rest, hl, hb, hrest, by rw [← Except.ok.inj hl']⟩
  · rintro ⟨l, b, l', hl, hb, hl', rfl⟩
    refine ⟨l, b :: l', hl, ?_, rfl⟩
    rw [List.mapM_cons]
    exact bind_eq_ok_iff.2 ⟨b, hb, bind_eq_ok_iff.2 ⟨l', hl', rfl⟩⟩

/-- **A traversal of other items**, each of which gives a result if the item in its place does. -/
theorem exists_mapM_eq_ok_of_forall₂ {α' β' ε' : Type} {f' : α' → Except ε' β'} {R : α → α' → Prop}
    {S : β → β' → Prop} (hstep : ∀ a a' b, R a a' → f a = .ok b → ∃ b', f' a' = .ok b' ∧ S b b')
    {as : List α} {as' : List α'} {bs : List β} (has : List.Forall₂ R as as')
    (h : as.mapM f = .ok bs) : ∃ bs', as'.mapM f' = .ok bs' ∧ List.Forall₂ S bs bs' := by
  simp only [mapM_eq_ok_iff] at h ⊢
  induction has generalizing bs with
  | nil =>
      cases h
      exact ⟨[], .nil, .nil⟩
  | cons ha _ ih =>
      obtain ⟨b, rest, hb, hrest, rfl⟩ := List.forall₂_cons_left_iff.1 h
      obtain ⟨b', hb', hS⟩ := hstep _ _ _ ha hb
      obtain ⟨rest', hrest', hS'⟩ := ih hrest
      exact ⟨b' :: rest', .cons hb' hrest', .cons hS hS'⟩

/-- A traversal either succeeds at each item or reports a failure. -/
theorem exists_mapM_eq_ok_iff {as : List α} :
    (∃ bs, as.mapM f = .ok bs) ↔ ∀ a ∈ as, ∃ b, f a = .ok b := by
  induction as with
  | nil => exact ⟨fun _ a ha => absurd ha List.not_mem_nil, fun _ => ⟨[], rfl⟩⟩
  | cons a as ih =>
      simp only [mapM_eq_ok_iff, List.forall₂_cons_left_iff, List.forall_mem_cons] at ih ⊢
      rw [← ih]
      constructor
      · rintro ⟨_, b, bs, hb, hbs, rfl⟩
        exact ⟨⟨b, hb⟩, bs, hbs⟩
      · rintro ⟨⟨b, hb⟩, bs, hbs⟩
        exact ⟨b :: bs, b, bs, hb, hbs, rfl⟩

/-- **A traversal reports the first failure**, among the items that pass the test `p`. -/
theorem filter_mapM_eq_error_iff {p : α → Bool} {as : List α} {e : ε} :
    (as.filter p).mapM f = .error e ↔
      ∃ before a after, as = before ++ a :: after ∧ p a = true ∧ f a = .error e ∧
        ∀ b ∈ before, p b = true → ∃ y, f b = .ok y := by
  induction as with
  | nil =>
      constructor
      · intro h
        cases h
      · rintro ⟨before, a, after, h, -⟩
        exact absurd h (by simp)
  | cons x as ih =>
      -- the failure is at `x`, or `x` is no failure and the failure is further on
      have hsplit : (∃ before a after, x :: as = before ++ a :: after ∧ p a = true ∧
            f a = .error e ∧ ∀ b ∈ before, p b = true → ∃ y, f b = .ok y) ↔
          (p x = true ∧ f x = .error e) ∨
            (p x = true → ∃ y, f x = .ok y) ∧ (as.filter p).mapM f = .error e := by
        rw [ih]
        constructor
        · rintro ⟨before, a, after, heq, hp, hfa, hbefore⟩
          rcases List.cons_eq_append_iff.1 heq with ⟨rfl, hcons⟩ | ⟨rest, rfl, rfl⟩
          · cases hcons
            exact Or.inl ⟨hp, hfa⟩
          · exact Or.inr ⟨hbefore x List.mem_cons_self, rest, a, after, rfl, hp, hfa,
              fun b hb => hbefore b (List.mem_cons_of_mem x hb)⟩
        · rintro (⟨hp, hfx⟩ | ⟨hx, before, a, after, rfl, hp, hfa, hbefore⟩)
          · exact ⟨[], x, as, rfl, hp, hfx, fun b hb => absurd hb List.not_mem_nil⟩
          · exact ⟨x :: before, a, after, rfl, hp, hfa, List.forall_mem_cons.2 ⟨hx, hbefore⟩⟩
      rw [hsplit]
      rcases hp : p x with _ | _
      · simp [hp]
      · rw [List.filter_cons_of_pos hp, mapM_cons_eq_error_iff]
        simp

/-- A fold over one more item succeeds when the item does, and the rest after it. -/
theorem foldlM_cons_eq_ok_iff {σ : Type} {step : σ → α → Except ε σ} {a : α} {as : List α} {s t : σ} :
    (a :: as).foldlM step s = .ok t ↔ ∃ u, step s a = .ok u ∧ as.foldlM step u = .ok t := by
  rw [List.foldlM_cons, bind_eq_ok_iff]

/-- A fold over two lists succeeds when both do, one after the other. -/
theorem foldlM_append_eq_ok_iff {σ : Type} {step : σ → α → Except ε σ} {as as' : List α} {s t : σ} :
    (as ++ as').foldlM step s = .ok t ↔ ∃ u, as.foldlM step s = .ok u ∧ as'.foldlM step u = .ok t := by
  rw [List.foldlM_append, bind_eq_ok_iff]

/-- **A fold fails at one item**, in the state that the items before it lead to. -/
theorem foldlM_eq_error_iff {σ : Type} {step : σ → α → Except ε σ} {as : List α} {s : σ} {e : ε} :
    as.foldlM step s = .error e ↔
      ∃ before a after t, as = before ++ a :: after ∧ before.foldlM step s = .ok t ∧
        step t a = .error e := by
  induction as generalizing s with
  | nil =>
      constructor
      · intro h
        cases h
      · rintro ⟨before, a, after, t, h, -⟩
        exact absurd h (by simp)
  | cons x as ih =>
      rw [List.foldlM_cons, bind_eq_error_iff]
      constructor
      · rintro (hx | ⟨t, ht, hrest⟩)
        · exact ⟨[], x, as, s, rfl, rfl, hx⟩
        · obtain ⟨before, a, after, u, rfl, hbefore, ha⟩ := ih.1 hrest
          refine ⟨x :: before, a, after, u, rfl, ?_, ha⟩
          rw [List.foldlM_cons]
          exact bind_eq_ok_iff.2 ⟨t, ht, hbefore⟩
      · rintro ⟨before, a, after, t, heq, hbefore, ha⟩
        rcases List.cons_eq_append_iff.1 heq with ⟨rfl, hcons⟩ | ⟨rest, rfl, rfl⟩
        · -- the fold fails at the first item
          cases hcons
          cases hbefore
          exact Or.inl ha
        · rw [List.foldlM_cons] at hbefore
          obtain ⟨u, hu, hrest⟩ := bind_eq_ok_iff.1 hbefore
          exact Or.inr ⟨u, hu, ih.2 ⟨rest, a, after, t, rfl, hrest, ha⟩⟩

/-- **A fold over other items**, each of which leads from related states to related ones. -/
theorem exists_foldlM_eq_ok_of_forall₂ {α' σ τ ε' : Type} {step : σ → α → Except ε σ}
    {step' : τ → α' → Except ε' τ} {R : α → α' → Prop} {S : σ → τ → Prop}
    (hstep : ∀ a a' s t s₁, R a a' → S s t → step s a = .ok s₁ →
      ∃ t₁, step' t a' = .ok t₁ ∧ S s₁ t₁)
    {as : List α} {as' : List α'} (has : List.Forall₂ R as as') {s s₁ : σ} {t : τ} (hst : S s t)
    (h : as.foldlM step s = .ok s₁) : ∃ t₁, as'.foldlM step' t = .ok t₁ ∧ S s₁ t₁ := by
  induction has generalizing s t with
  | nil =>
      cases h
      exact ⟨t, rfl, hst⟩
  | cons ha _ ih =>
      rw [List.foldlM_cons] at h
      obtain ⟨s', hs', hrest⟩ := bind_eq_ok_iff.1 h
      obtain ⟨t', ht', hnext⟩ := hstep _ _ _ _ _ ha hst hs'
      obtain ⟨t₁, ht₁, hend⟩ := ih hnext hrest
      refine ⟨t₁, ?_, hend⟩
      rw [List.foldlM_cons]
      exact bind_eq_ok_iff.2 ⟨t', ht', ht₁⟩

end traversal

end LayerHeaders
