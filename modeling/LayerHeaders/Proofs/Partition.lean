import LayerHeaders.Proofs.Group
import Mathlib.Data.List.Induction

/-!
# Grouping as a partition

The groups of a list stand in the order in which their keys are first met, and the group of a key holds the
items with that key, in order. What is grouped already keeps its groups.

Groups need not be looked for. An index can say for each key at which position its group stands. As long as
each of its entries is the position of a group with that key, and each group has an entry, an item is added
where `groupBy` adds it, and no position is behind the last group.

* `map_key_groupBy`: the keys of the groups.
* `items_eq_filter`: the items of a group.
* `groupBy_flatMap_items`: what is grouped already keeps its groups.
* `IndexedGroups.Coherent`: an index that agrees with the groups.
* `IndexedGroups.Coherent.exists_add?`, `IndexedGroups.Coherent.exists_foldlM_add?`: adding one item, and a
  list of them.
* `groupBy_partitions`: what the groups of a list are, with or without an index.
-/

namespace LayerHeaders

variable {κ α : Type} [DecidableEq κ] {key : α → κ} {l : List α} {gs : List (Group κ α)} {k : κ} {a : α}

/-! ## The groups of a list -/

theorem groupBy_append_singleton (key : α → κ) (l : List α) (a : α) :
    groupBy key (l ++ [a]) = addToGroups (key a) a (groupBy key l) := by
  rw [groupBy, List.foldl_append]
  rfl

/-- **The keys of the groups** are those of the items, each where it is first met. -/
theorem map_key_groupBy (key : α → κ) (l : List α) :
    (groupBy key l).map (·.key) = (l.map key).eraseDups := by
  induction l using List.reverseRecOn with
  | nil => rfl
  | append_singleton l a ih =>
      rw [groupBy_append_singleton, map_key_addToGroups, ih, List.map_append, List.map_singleton,
        List.eraseDups_append]
      split_ifs with h
      · have hmet : [key a].removeAll (l.map key) = [] := by
          simpa [List.removeAll] using List.mem_eraseDups.1 h
        rw [hmet, List.eraseDups_nil, List.append_nil]
      · have hnew : [key a].removeAll (l.map key) = [key a] := by
          simpa [List.removeAll] using fun hmem => h (List.mem_eraseDups.2 hmem)
        rw [hnew]
        rfl

/-- Groups that are keyed hold each item of a group's key in that group. -/
theorem filter_flatMap_items (hkeys : (gs.map (·.key)).Nodup) (h : Keyed key gs) {g : Group κ α}
    (hg : g ∈ gs) : (gs.flatMap (·.items)).filter (key · = g.key) = g.items := by
  induction gs with
  | nil => exact absurd hg List.not_mem_nil
  | cons g' gs ih =>
      obtain ⟨hg', hgs⟩ := List.forall_mem_cons.1 h
      obtain ⟨hnot, hkeys⟩ := List.nodup_cons.1 hkeys
      rw [List.flatMap_cons, List.filter_append]
      rcases List.mem_cons.1 hg with rfl | hg
      · rw [Keyed.filter_eq_nil hgs hnot, List.append_nil]
        exact List.filter_eq_self.2 fun b hb => decide_eq_true (hg' b hb)
      · have hne : g'.key ≠ g.key := fun heq => hnot (List.mem_map.2 ⟨g, hg, heq.symm⟩)
        have hnone : g'.items.filter (key · = g.key) = [] := by
          refine List.filter_eq_nil_iff.2 fun b hb => ?_
          rw [decide_eq_true_eq, hg' b hb]
          exact hne
        rw [hnone, List.nil_append, ih hkeys hgs hg]

/-- **The items of a group** are those of the list that have its key, in order. -/
theorem items_eq_filter {g : Group κ α} (hg : g ∈ groupBy key l) :
    g.items = l.filter (key · = g.key) := by
  rw [← filter_groupBy, filter_flatMap_items (nodup_keys_groupBy key l) (keyed_groupBy key l) hg]

/-- No group is empty. -/
theorem items_ne_nil {g : Group κ α} (hg : g ∈ groupBy key l) : g.items ≠ [] := by
  have hkey : g.key ∈ (l.map key).eraseDups := map_key_groupBy key l ▸ List.mem_map_of_mem hg
  obtain ⟨a, ha, heq⟩ := List.mem_map.1 (List.mem_eraseDups.1 hkey)
  exact List.ne_nil_of_mem ((mem_items_iff hg).2 ⟨ha, heq⟩)

/-! ## What is grouped already -/

/-- An item with a new key gets a group of its own at the end. -/
theorem addToGroups_of_not_mem (h : k ∉ gs.map (·.key)) (a : α) :
    addToGroups k a gs = gs ++ [⟨k, [a]⟩] := by
  induction gs with
  | nil => rfl
  | cons g gs ih =>
      rw [List.map_cons, List.mem_cons, not_or] at h
      rw [addToGroups, if_neg (Ne.symm h.1), ih h.2, List.cons_append]

/-- An item with the key of the last group is added to it. -/
theorem addToGroups_concat (h : k ∉ gs.map (·.key)) (items : List α) (a : α) :
    addToGroups k a (gs ++ [⟨k, items⟩]) = gs ++ [⟨k, items ++ [a]⟩] := by
  induction gs with
  | nil => simp [addToGroups]
  | cons g gs ih =>
      rw [List.map_cons, List.mem_cons, not_or] at h
      rw [List.cons_append, addToGroups, if_neg (Ne.symm h.1), ih h.2, List.cons_append]

/-- Items with one key, which is new, are one group. -/
theorem foldl_addToGroups_of_not_mem {items : List α} (hnot : k ∉ gs.map (·.key)) (hne : items ≠ [])
    (hitems : ∀ a ∈ items, key a = k) :
    items.foldl (fun gs a => addToGroups (key a) a gs) gs = gs ++ [⟨k, items⟩] := by
  induction items using List.reverseRecOn with
  | nil => exact absurd rfl hne
  | append_singleton items a ih =>
      rw [List.forall_mem_append, List.forall_mem_singleton] at hitems
      rw [List.foldl_append, List.foldl_cons, List.foldl_nil, hitems.2]
      rcases List.eq_nil_or_concat items with rfl | ⟨_, _, rfl⟩
      · exact addToGroups_of_not_mem hnot a
      · rw [ih (by simp) hitems.1, addToGroups_concat hnot]

/-- **What is grouped already keeps its groups.** -/
theorem groupBy_flatMap_items (hkeys : (gs.map (·.key)).Nodup) (h : Keyed key gs)
    (hne : ∀ g ∈ gs, g.items ≠ []) : groupBy key (gs.flatMap (·.items)) = gs := by
  induction gs using List.reverseRecOn with
  | nil => rfl
  | append_singleton gs g ih =>
      rw [List.map_append, List.map_singleton, List.nodup_append] at hkeys
      obtain ⟨hkeys, -, hdisjoint⟩ := hkeys
      obtain ⟨hgs, hg⟩ := List.forall_mem_append.1 h
      obtain ⟨hnes, hne⟩ := List.forall_mem_append.1 hne
      have hnot : g.key ∉ gs.map (·.key) := fun hmem =>
        hdisjoint g.key hmem g.key List.mem_cons_self rfl
      rw [List.flatMap_append, List.flatMap_singleton, groupBy, List.foldl_append, ← groupBy,
        ih hkeys hgs hnes]
      exact foldl_addToGroups_of_not_mem hnot (hne g List.mem_cons_self) (hg g List.mem_cons_self)

/-! ## Grouping with an index -/

/-- At the position of its group, an item is added as `groupBy` adds it. -/
theorem addToGroups_eq_modify {slot : ℕ} (hkeys : (gs.map (·.key)).Nodup)
    (hslot : (gs.map (·.key))[slot]? = some k) (a : α) :
    addToGroups k a gs = gs.modify slot fun g => { g with items := g.items ++ [a] } := by
  induction gs generalizing slot with
  | nil => cases hslot
  | cons g gs ih =>
      rw [List.map_cons, List.nodup_cons] at hkeys
      rcases slot with _ | slot
      · cases hslot
        rw [addToGroups, if_pos rfl, List.modify_zero_cons]
      · rw [List.map_cons, List.getElem?_cons_succ] at hslot
        have hne : g.key ≠ k := by
          rintro rfl
          exact hkeys.1 (List.mem_of_getElem? hslot)
        rw [addToGroups, if_neg hne, ih hkeys.2 hslot, List.modify_succ_cons]

/-- Groups with an index of their positions. -/
structure IndexedGroups (κ α : Type) [DecidableEq κ] [Hashable κ] where
  /-- The groups, in order. -/
  groups : List (Group κ α)
  /-- The position of the group of a key. -/
  index : Std.HashMap κ ℕ

namespace IndexedGroups

variable [Hashable κ] {s : IndexedGroups κ α} {slot : ℕ}

/-- There are no groups. -/
def empty : IndexedGroups κ α :=
  ⟨[], ∅⟩

/-- The entry of a key. A key that has none gets one, and a new last group without items. -/
def entry (s : IndexedGroups κ α) (k : κ) : ℕ × IndexedGroups κ α :=
  match s.index[k]? with
  | some slot => (slot, s)
  | none => (s.groups.length, ⟨s.groups ++ [⟨k, []⟩], s.index.insert k s.groups.length⟩)

/-- Adds an item to the group at a position; `none` if that is behind the last group. -/
def push? (s : IndexedGroups κ α) (slot : ℕ) (a : α) : Option (IndexedGroups κ α) :=
  if slot < s.groups.length then
    some { s with groups := s.groups.modify slot fun g => { g with items := g.items ++ [a] } }
  else none

/-- Adds an item to the group that the entry of its key points to. -/
def add? (s : IndexedGroups κ α) (k : κ) (a : α) : Option (IndexedGroups κ α) :=
  (s.entry k).2.push? (s.entry k).1 a

/-- **Whether the index agrees with the groups**: an entry is the position of a group with its key, and
each group has an entry. -/
def Coherent (s : IndexedGroups κ α) : Prop :=
  ∀ (k : κ) (slot : ℕ), s.index[k]? = some slot ↔ (s.groups.map (·.key))[slot]? = some k

theorem coherent_empty : (empty : IndexedGroups κ α).Coherent := by
  intro k slot
  simp [empty]

namespace Coherent

/-- No two groups have one key. -/
theorem nodup_keys (h : s.Coherent) : (s.groups.map (·.key)).Nodup := by
  refine List.nodup_iff_getElem?_ne_getElem?.2 fun i j hij hj heq => ?_
  rw [List.getElem?_eq_getElem hj] at heq
  have hi := (h _ _).2 heq
  have hj := (h _ _).2 (List.getElem?_eq_getElem hj)
  rw [hi] at hj
  exact absurd (Option.some.inj hj) (Nat.ne_of_lt hij)

/-- A key without an entry has no group. -/
theorem not_mem_keys (h : s.Coherent) (hk : s.index[k]? = none) : k ∉ s.groups.map (·.key) := by
  intro hmem
  obtain ⟨slot, hslot⟩ := List.mem_iff_getElem?.1 hmem
  rw [(h k slot).2 hslot] at hk
  cases hk

/-- **An entry points to the group of its key**, also if it is new. -/
theorem entry (h : s.Coherent) (k : κ) :
    (s.entry k).2.Coherent ∧ ((s.entry k).2.groups.map (·.key))[(s.entry k).1]? = some k ∧
      ∀ a, addToGroups k a (s.entry k).2.groups = addToGroups k a s.groups := by
  unfold IndexedGroups.entry
  rcases hk : s.index[k]? with _ | slot
  · have hnot := h.not_mem_keys hk
    refine ⟨fun k' slot => ?_, by simp, fun a => ?_⟩
    · rw [Std.HashMap.getElem?_insert, List.map_append, List.map_singleton, List.getElem?_append,
        List.length_map]
      split_ifs with heq hslot hslot
      · obtain rfl := eq_of_beq heq
        constructor
        · rintro ⟨⟩
          exact absurd hslot (Nat.lt_irrefl _)
        · intro hmem
          exact absurd (List.mem_of_getElem? hmem) hnot
      · obtain rfl := eq_of_beq heq
        rw [Option.some.injEq, List.getElem?_singleton]
        simp only [Option.ite_none_right_eq_some, and_true]
        omega
      · exact h k' slot
      · have hne : k ≠ k' := fun heq' => heq (beq_iff_eq.2 heq')
        have hbehind : s.index[k']? ≠ some slot := by
          rw [Ne, h k' slot, List.getElem?_eq_none (by simpa using hslot)]
          exact nofun
        simp [hbehind, List.getElem?_singleton, hne]
    · rw [addToGroups_concat hnot, addToGroups_of_not_mem hnot]
      rfl
  · exact ⟨h, (h k slot).1 hk, fun _ => rfl⟩

/-- **The step**: an item is added where `groupBy` adds it, and the index still agrees with the groups. -/
theorem exists_add? (h : s.Coherent) (k : κ) (a : α) :
    ∃ s', s.add? k a = some s' ∧ s'.groups = addToGroups k a s.groups ∧ s'.Coherent := by
  obtain ⟨hentry, hslot, hgroups⟩ := h.entry k
  have hlt : (s.entry k).1 < (s.entry k).2.groups.length := by
    obtain ⟨hlt, -⟩ := List.getElem?_eq_some_iff.1 hslot
    rwa [List.length_map] at hlt
  have hadded := addToGroups_eq_modify hentry.nodup_keys hslot a
  refine ⟨_, if_pos hlt, ?_, fun k' slot => ?_⟩
  · rw [← hgroups a, hadded]
  · -- the keys of the groups are what they were
    rw [hentry k' slot, ← hadded, map_key_addToGroups, if_pos (List.mem_of_getElem? hslot)]

/-- **The run**: a list is grouped as `groupBy` groups it, and no position is behind the last group. -/
theorem exists_foldlM_add? (h : s.Coherent) (key : α → κ) (l : List α) :
    ∃ s', l.foldlM (fun s a => s.add? (key a) a) s = some s' ∧
      s'.groups = l.foldl (fun gs a => addToGroups (key a) a gs) s.groups := by
  induction l generalizing s with
  | nil => exact ⟨s, rfl, rfl⟩
  | cons a l ih =>
      obtain ⟨s₁, hadd, hgroups, hs₁⟩ := h.exists_add? (key a) a
      obtain ⟨s', hrun, hend⟩ := ih hs₁
      refine ⟨s', ?_, ?_⟩
      · rw [List.foldlM_cons, hadd]
        exact hrun
      · rw [hend, hgroups, List.foldl_cons]

end Coherent

end IndexedGroups

/-- The groups of a list by a key, found by an index; `none` if an entry of it is behind the last group. -/
def groupByIndex? [Hashable κ] (key : α → κ) (l : List α) : Option (List (Group κ α)) :=
  (l.foldlM (fun s a => IndexedGroups.add? s (key a) a) .empty).map (·.groups)

/-! ## What grouping does -/

/-- **Grouping is a partition.** The groups stand in the order in which their keys are first met, each has
items, and these are all items with its key, in order. So the groups, one after the other, are a
rearrangement of the list, and grouping that again gives the same groups. With an index of the positions of
the groups, the same groups are found. -/
theorem groupBy_partitions [Hashable κ] (key : α → κ) (l : List α) :
    (groupBy key l).map (·.key) = (l.map key).eraseDups ∧
      (∀ g ∈ groupBy key l, g.items ≠ [] ∧ g.items = l.filter (key · = g.key)) ∧
      ((groupBy key l).flatMap (·.items)).Perm l ∧
      groupBy key ((groupBy key l).flatMap (·.items)) = groupBy key l ∧
      groupByIndex? key l = some (groupBy key l) := by
  have hregroup := groupBy_flatMap_items (nodup_keys_groupBy key l) (keyed_groupBy key l)
    fun g => items_ne_nil
  obtain ⟨s, hrun, hgroups⟩ :=
    (IndexedGroups.coherent_empty (κ := κ) (α := α)).exists_foldlM_add? key l
  refine ⟨map_key_groupBy key l, fun g hg => ⟨items_ne_nil hg, items_eq_filter hg⟩,
    perm_groupBy key l, hregroup, ?_⟩
  rw [groupByIndex?, hrun, Option.map_some, hgroups]
  rfl

example : groupBy Prod.snd [('a', some 1), ('b', none), ('c', some 1), ('d', some 2), ('e', none)] =
    [⟨some 1, [('a', some 1), ('c', some 1)]⟩, ⟨none, [('b', none), ('e', none)]⟩,
      ⟨some 2, [('d', some 2)]⟩] := by
  decide

end LayerHeaders
