import LayerHeaders.Group
import Mathlib.Data.List.Forall2
import Mathlib.Data.List.Nodup
import Mathlib.Data.List.Perm.Basic

/-!
# Groups lose nothing

Adding an item to groups keeps the others, and puts it into a group of its own key. So the groups of a
list hold the items of the list, each in the group of its key.

* `perm_groupBy`: the groups of a list, one after the other, are a rearrangement of it.
* `mem_groupBy_iff`: what the group of a key holds.
* `mem_items_iff`: what a group holds, since no two groups have one key.
* `filter_groupBy`: the items of one key keep their order.
* `forall₂_groupBy`: lists that are related one by one have groups that are.
-/

namespace LayerHeaders

variable {κ α : Type} {key : α → κ} {l : List α} {gs : List (Group κ α)}

/-- Whether every item is in a group of its own key. -/
def Keyed (key : α → κ) (gs : List (Group κ α)) : Prop :=
  ∀ g ∈ gs, ∀ a ∈ g.items, key a = g.key

variable [DecidableEq κ]

/-! ## Adding an item -/

/-- Adding an item adds it to what the groups hold. -/
theorem perm_addToGroups (k : κ) (a : α) (gs : List (Group κ α)) :
    ((addToGroups k a gs).flatMap (·.items)).Perm (gs.flatMap (·.items) ++ [a]) := by
  induction gs with
  | nil => exact .refl _
  | cons g gs ih =>
      rw [addToGroups]
      split_ifs
      · rw [List.flatMap_cons, List.flatMap_cons, List.append_assoc, List.append_assoc]
        exact List.perm_append_comm.append_left _
      · rw [List.flatMap_cons, List.flatMap_cons, List.append_assoc]
        exact ih.append_left _

/-- Adding an item under its key keeps items in the groups of their keys. -/
theorem Keyed.addToGroups (h : Keyed key gs) (a : α) : Keyed key (addToGroups (key a) a gs) := by
  induction gs with
  | nil => simp [Keyed, LayerHeaders.addToGroups]
  | cons g gs ih =>
      obtain ⟨hg, hgs⟩ := List.forall_mem_cons.1 h
      rw [LayerHeaders.addToGroups]
      split_ifs with hkey
      · refine List.forall_mem_cons.2 ⟨fun b hb => ?_, hgs⟩
        rcases List.mem_append.1 hb with hb | hb
        · exact hg b hb
        · rw [List.mem_singleton.1 hb]
          exact hkey.symm
      · exact List.forall_mem_cons.2 ⟨hg, ih hgs⟩

/-! ## The groups of a list -/

/-- Adding the items of a list, one after the other, adds them to what the groups hold. -/
theorem perm_foldl_addToGroups (key : α → κ) (l : List α) (gs : List (Group κ α)) :
    ((l.foldl (fun gs a => addToGroups (key a) a gs) gs).flatMap (·.items)).Perm
      (gs.flatMap (·.items) ++ l) := by
  induction l generalizing gs with
  | nil => rw [List.append_nil, List.foldl_nil]
  | cons a l ih =>
      refine (ih _).trans (((perm_addToGroups (key a) a gs).append_right l).trans ?_)
      rw [List.append_assoc, List.singleton_append]

/-- **The groups of a list hold its items**: one after the other, they are a rearrangement of it. -/
theorem perm_groupBy (key : α → κ) (l : List α) : ((groupBy key l).flatMap (·.items)).Perm l :=
  perm_foldl_addToGroups key l []

/-- Adding the items of a list under their keys keeps items in the groups of their keys. -/
theorem Keyed.foldl_addToGroups (h : Keyed key gs) (l : List α) :
    Keyed key (l.foldl (fun gs a => LayerHeaders.addToGroups (key a) a gs) gs) := by
  induction l generalizing gs with
  | nil => exact h
  | cons a l ih => exact ih (h.addToGroups a)

/-- Every item of a list is in the group of its key. -/
theorem keyed_groupBy (key : α → κ) (l : List α) : Keyed key (groupBy key l) :=
  Keyed.foldl_addToGroups (by simp [Keyed]) l

/-- What the group of a key holds: the items of the list that have the key. -/
theorem mem_groupBy_iff {k : κ} {a : α} :
    (∃ g ∈ groupBy key l, g.key = k ∧ a ∈ g.items) ↔ a ∈ l ∧ key a = k := by
  have hmem : a ∈ l ↔ ∃ g ∈ groupBy key l, a ∈ g.items := by
    rw [← (perm_groupBy key l).mem_iff, List.mem_flatMap]
  rw [hmem]
  constructor
  · rintro ⟨g, hg, rfl, ha⟩
    exact ⟨⟨g, hg, ha⟩, keyed_groupBy key l g hg a ha⟩
  · rintro ⟨⟨g, hg, ha⟩, rfl⟩
    exact ⟨g, hg, (keyed_groupBy key l g hg a ha).symm, ha⟩

/-! ## Keys -/

/-- Adding an item keeps the keys distinct. -/
theorem nodup_keys_addToGroups (h : (gs.map (·.key)).Nodup) (k : κ) (a : α) :
    ((addToGroups k a gs).map (·.key)).Nodup := by
  rw [map_key_addToGroups]
  split_ifs with hk
  · exact h
  · refine List.nodup_append.2 ⟨h, List.nodup_singleton k, fun k' hk' k'' hk'' heq => ?_⟩
    rw [List.mem_singleton.1 hk''] at heq
    exact hk (heq ▸ hk')

/-- Adding the items of a list keeps the keys distinct. -/
theorem nodup_keys_foldl_addToGroups (h : (gs.map (·.key)).Nodup) (key : α → κ) (l : List α) :
    ((l.foldl (fun gs a => addToGroups (key a) a gs) gs).map (·.key)).Nodup := by
  induction l generalizing gs with
  | nil => exact h
  | cons a l ih => exact ih (nodup_keys_addToGroups h (key a) a)

/-- No two groups of a list have one key. -/
theorem nodup_keys_groupBy (key : α → κ) (l : List α) : ((groupBy key l).map (·.key)).Nodup := by
  have hnil : (([] : List (Group κ α)).map (·.key)).Nodup := List.nodup_nil
  exact nodup_keys_foldl_addToGroups hnil key l

/-- **What a group holds**: the items of the list that have its key. -/
theorem mem_items_iff {g : Group κ α} (hg : g ∈ groupBy key l) {a : α} :
    a ∈ g.items ↔ a ∈ l ∧ key a = g.key := by
  constructor
  · intro ha
    exact mem_groupBy_iff.1 ⟨g, hg, rfl, ha⟩
  · intro ha
    obtain ⟨g', hg', hkey, ha'⟩ := mem_groupBy_iff.2 ha
    have hsame : g' = g := List.inj_on_of_nodup_map (nodup_keys_groupBy key l) hg' hg hkey
    rwa [← hsame]

/-! ## Order -/

/-- Groups that are keyed hold no item of a key that none of them has. -/
theorem Keyed.filter_eq_nil (h : Keyed key gs) {k : κ} (hk : k ∉ gs.map (·.key)) :
    (gs.flatMap (·.items)).filter (key · = k) = [] := by
  refine List.filter_eq_nil_iff.2 fun b hb => ?_
  obtain ⟨g, hg, hbg⟩ := List.mem_flatMap.1 hb
  rw [decide_eq_true_eq, h g hg b hbg]
  rintro rfl
  exact hk (List.mem_map_of_mem hg)

/-- **The step of the order**: adding an item under its key adds it after the items of that key, and keeps
the order of the others. -/
theorem filter_addToGroups (hkeys : (gs.map (·.key)).Nodup) (h : Keyed key gs) (a : α) (k : κ) :
    ((addToGroups (key a) a gs).flatMap (·.items)).filter (key · = k) =
      (gs.flatMap (·.items) ++ [a]).filter (key · = k) := by
  induction gs with
  | nil => rfl
  | cons g gs ih =>
      obtain ⟨hg, hgs⟩ := List.forall_mem_cons.1 h
      obtain ⟨hnot, hkeys⟩ := List.nodup_cons.1 hkeys
      rw [addToGroups]
      split_ifs with hkey
      · rw [List.flatMap_cons, List.flatMap_cons, List.append_assoc, List.append_assoc,
          List.filter_append, List.filter_append]
        by_cases hk : key a = k
        · -- no later group has the key
          have hothers : (gs.flatMap (·.items)).filter (key · = k) = [] :=
            Keyed.filter_eq_nil hgs (hk ▸ hkey ▸ hnot)
          rw [List.filter_append, List.filter_append, hothers, List.append_nil, List.nil_append]
        · have hnone : [a].filter (key · = k) = [] := List.filter_cons_of_neg (by simpa using hk)
          rw [List.filter_append, List.filter_append, hnone, List.append_nil, List.nil_append]
      · rw [List.flatMap_cons, List.flatMap_cons, List.append_assoc, List.filter_append,
          List.filter_append, ih hkeys hgs]

/-- **The run**: adding the items of a list adds them in order to the items of each key. -/
theorem filter_foldl_addToGroups (hkeys : (gs.map (·.key)).Nodup) (h : Keyed key gs) (l : List α)
    (k : κ) :
    ((l.foldl (fun gs a => addToGroups (key a) a gs) gs).flatMap (·.items)).filter (key · = k) =
      (gs.flatMap (·.items) ++ l).filter (key · = k) := by
  induction l generalizing gs with
  | nil => rw [List.append_nil, List.foldl_nil]
  | cons a l ih =>
      rw [List.foldl_cons, ih (nodup_keys_addToGroups hkeys (key a) a) (h.addToGroups a),
        List.filter_append, filter_addToGroups hkeys h, ← List.filter_append, List.append_assoc,
        List.singleton_append]

/-- **The groups of a list keep its order**: the items of one key stand in them as they do in the list. -/
theorem filter_groupBy (key : α → κ) (l : List α) (k : κ) :
    ((groupBy key l).flatMap (·.items)).filter (key · = k) = l.filter (key · = k) := by
  have hkeys : (([] : List (Group κ α)).map (·.key)).Nodup := List.nodup_nil
  exact filter_foldl_addToGroups hkeys (by simp [Keyed]) l k

/-! ## Groups of related lists -/

section related

variable {β : Type} {R : α → β → Prop}

/-- Whether two groups have the same key and items that are related one by one. -/
structure Group.Related (R : α → β → Prop) (g : Group κ α) (g' : Group κ β) : Prop where
  /-- The key is the same. -/
  key : g'.key = g.key
  /-- The items are related, in order. -/
  items : List.Forall₂ R g.items g'.items

/-- Adding related items under one key keeps groups related. -/
theorem forall₂_addToGroups {k : κ} {a : α} {b : β} (hab : R a b) {gs : List (Group κ α)}
    {gs' : List (Group κ β)} (h : List.Forall₂ (Group.Related R) gs gs') :
    List.Forall₂ (Group.Related R) (addToGroups k a gs) (addToGroups k b gs') := by
  induction h with
  | nil => exact .cons ⟨rfl, .cons hab .nil⟩ .nil
  | cons hg hgs ih =>
      rw [addToGroups, addToGroups, hg.key]
      split_ifs
      · exact .cons ⟨rfl, List.rel_append hg.items (.cons hab .nil)⟩ hgs
      · exact .cons hg ih

/-- **Related lists have related groups**, if related items have the same key. -/
theorem forall₂_groupBy {key : α → κ} {key' : β → κ} (hkey : ∀ a b, R a b → key' b = key a)
    {as : List α} {bs : List β} (h : List.Forall₂ R as bs) :
    List.Forall₂ (Group.Related R) (groupBy key as) (groupBy key' bs) := by
  have hstep : ∀ gs gs', List.Forall₂ (Group.Related R) gs gs' → ∀ a b, R a b →
      List.Forall₂ (Group.Related R) (addToGroups (key a) a gs) (addToGroups (key' b) b gs') := by
    intro gs gs' hgs a b hab
    rw [hkey a b hab]
    exact forall₂_addToGroups hab hgs
  exact List.rel_foldl (fun gs gs' hgs a b => hstep gs gs' hgs a b) .nil h

end related

end LayerHeaders
