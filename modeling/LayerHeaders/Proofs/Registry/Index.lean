import LayerHeaders.Proofs.Traversal
import LayerHeaders.Registry.Index
import Mathlib.Data.List.Nodup

/-!
# What the index of commands holds

The index is built by one pass over the declarations. The invariant `Indexes` relates it to the
declarations seen so far: the standard ones have distinct names, a name without a standard declaration
has at most one safety-critical one, and the index leads to the standard declaration if there is one
and to the safety-critical one otherwise.

* `Indexes.add`: a declaration that is accepted keeps the invariant.
* `indexes_of_indexCommands`: a complete index satisfies it over all declarations.
-/

namespace LayerHeaders

variable {d : Dialect}

/-! ## The invariant -/

/-- Whether a declaration is of the standard kind. -/
def Command.isStandard (d : Dialect) (c : Command) : Bool :=
  !d.isSafetyCritical c.api?

/-- Whether this is a declaration of `name`, of the standard kind or not. -/
def Command.declares (d : Dialect) (name : String) (standard : Bool) (c : Command) : Bool :=
  c.name == name && c.isStandard d == standard

/-- The test of `Command.declares`, read as a proposition. -/
theorem Command.declares_iff {name : String} {standard : Bool} {c : Command} :
    c.declares d name standard = true ↔ c.name = name ∧ c.isStandard d = standard := by
  simp [Command.declares]

/-- The declaration that a name should lead to: the standard one, or else the safety-critical one. -/
def Dialect.declaration? (d : Dialect) (commands : List Command) (name : String) : Option Command :=
  (commands.find? (·.declares d name true)).or (commands.find? (·.declares d name false))

/-- **The invariant of an index** over the declarations `seen`. -/
structure Indexes (d : Dialect) (seen index : List Command) : Prop where
  /-- No name has two standard declarations. -/
  standard_nodup : ((seen.filter (·.isStandard d)).map (·.name)).Nodup
  /-- A name without a standard declaration has at most one. -/
  length_le_one : ∀ name, seen.find? (·.declares d name true) = none →
    (seen.filter (·.declares d name false)).length ≤ 1
  /-- A name leads to the declaration that it should lead to. -/
  find?_eq : ∀ name, index.find? (·.name = name) = d.declaration? seen name

/-! ## One declaration -/

/-- What one more declaration adds to the search for those of a name and a kind. -/
theorem find?_declares_append (seen : List Command) (c : Command) (name : String)
    (standard : Bool) :
    (seen ++ [c]).find? (·.declares d name standard) =
      (seen.find? (·.declares d name standard)).or
        (if c.declares d name standard then some c else none) := by
  rw [List.find?_append, List.find?_singleton]

/-- What is found under a name has that name and a kind, and says whether a standard declaration of it
has been seen. -/
theorem Indexes.found {seen index : List Command} (h : Indexes d seen index) {name : String}
    {a : Command} (ha : index.find? (·.name = name) = some a) :
    seen.find? (·.declares d name true) = if a.isStandard d then some a else none := by
  rw [h.find?_eq, Dialect.declaration?, Option.or_eq_some_iff] at ha
  rcases ha with htrue | ⟨hnone, hfalse⟩
  · have hkind := (Command.declares_iff.1 (List.find?_some htrue)).2
    rw [htrue, hkind, if_pos rfl]
  · have hkind := (Command.declares_iff.1 (List.find?_some hfalse)).2
    rw [hnone, hkind]
    rfl

/-- A standard declaration of a new name keeps the standard names distinct. -/
theorem nodup_append_standard {seen : List Command} {c : Command}
    (h : ((seen.filter (·.isStandard d)).map (·.name)).Nodup)
    (hc : c.isStandard d = true → seen.find? (·.declares d c.name true) = none) :
    (((seen ++ [c]).filter (·.isStandard d)).map (·.name)).Nodup := by
  rw [List.filter_append, List.map_append]
  by_cases hs : c.isStandard d = true
  · rw [List.filter_cons_of_pos hs, List.filter_nil, List.map_singleton, List.nodup_append]
    refine ⟨h, List.nodup_singleton c.name, fun name hmem name' hmem' heq => ?_⟩
    obtain ⟨a, ha, rfl⟩ := List.mem_map.1 hmem
    obtain ⟨hseen, hstd⟩ := List.mem_filter.1 ha
    rw [List.mem_singleton.1 hmem'] at heq
    exact List.find?_eq_none.1 (hc hs) a hseen (Command.declares_iff.2 ⟨heq, hstd⟩)
  · rw [List.filter_cons_of_neg hs]
    simpa using h

/-- A declaration that comes first in the index keeps the invariant if its name has no standard
declaration yet, nor another one of its own kind. -/
theorem Indexes.cons {seen index : List Command} {c : Command} (h : Indexes d seen index)
    (hnone : seen.find? (·.declares d c.name true) = none)
    (hkind : c.isStandard d = true ∨ seen.find? (·.declares d c.name false) = none) :
    Indexes d (seen ++ [c]) (c :: index) where
  standard_nodup := nodup_append_standard h.standard_nodup fun _ => hnone
  length_le_one := by
    intro name hname
    rw [find?_declares_append, Option.or_eq_none_iff] at hname
    rw [List.filter_append, List.length_append]
    by_cases hdecl : c.declares d name false = true
    · -- it is not standard, so it is the first of its name
      obtain ⟨rfl, hfalse⟩ := Command.declares_iff.1 hdecl
      rcases hkind with htrue | hfirst
      · rw [htrue] at hfalse
        cases hfalse
      · rw [List.filter_eq_nil_iff.2 (List.find?_eq_none.1 hfirst), List.length_nil, Nat.zero_add]
        exact List.length_filter_le _ [c]
    · rw [List.filter_cons_of_neg hdecl]
      simpa using h.length_le_one name hname.1
  find?_eq := by
    intro name
    by_cases hname : c.name = name
    · subst hname
      rw [List.find?_cons_of_pos (by simp), Dialect.declaration?, find?_declares_append,
        find?_declares_append, hnone]
      rcases hs : c.isStandard d with _ | _
      · rw [hs] at hkind
        rw [hkind.resolve_left (by simp)]
        simp [Command.declares, hs]
      · simp [Command.declares, hs]
    · rw [List.find?_cons_of_neg (by simpa using hname), h.find?_eq, Dialect.declaration?,
        Dialect.declaration?, find?_declares_append, find?_declares_append]
      simp [Command.declares, hname]

/-- A declaration that is not indexed keeps the invariant if it is safety-critical and its name has a
standard declaration. -/
theorem Indexes.skip {seen index : List Command} {c a : Command} (h : Indexes d seen index)
    (hc : c.isStandard d = false) (ha : seen.find? (·.declares d c.name true) = some a) :
    Indexes d (seen ++ [c]) index where
  standard_nodup := nodup_append_standard h.standard_nodup fun hs => by
    rw [hc] at hs
    cases hs
  length_le_one := by
    intro name hname
    rw [find?_declares_append, Option.or_eq_none_iff] at hname
    have hne : ¬ c.declares d name false = true := by
      intro hdecl
      rw [(Command.declares_iff.1 hdecl).1, hname.1] at ha
      cases ha
    rw [List.filter_append, List.length_append, List.filter_cons_of_neg hne]
    simpa using h.length_le_one name hname.1
  find?_eq := by
    intro name
    rw [h.find?_eq, Dialect.declaration?, Dialect.declaration?, find?_declares_append,
      find?_declares_append]
    by_cases hname : c.name = name
    · subst hname
      simp [ha]
    · simp [Command.declares, hname]

/-- The index after a declaration that is accepted: the declaration comes first, unless it is
safety-critical and a standard one of its name has been seen. -/
theorem Indexes.added {seen index index' : List Command} {c : Command} (h : Indexes d seen index)
    (hadd : addToIndex d index c = .ok index') :
    (index' = c :: index ∧ seen.find? (·.declares d c.name true) = none ∧
        (c.isStandard d = true ∨ seen.find? (·.declares d c.name false) = none)) ∨
      (index' = index ∧ c.isStandard d = false ∧
        ∃ a, seen.find? (·.declares d c.name true) = some a) := by
  unfold addToIndex at hadd
  rcases hfound : index.find? (·.name = c.name) with _ | a
  · rw [hfound] at hadd
    cases hadd
    rw [h.find?_eq, Dialect.declaration?, Option.or_eq_none_iff] at hfound
    exact Or.inl ⟨rfl, hfound.1, Or.inr hfound.2⟩
  · have hstd := h.found hfound
    rw [hfound] at hadd
    rcases ha : d.isSafetyCritical a.api? with _ | _ <;>
      rcases hc : d.isSafetyCritical c.api? with _ | _ <;>
      simp only [ha, hc, reduceCtorEq, Except.ok.injEq] at hadd
    · exact Or.inr ⟨hadd.symm, by simp [Command.isStandard, hc],
        a, by rw [hstd, Command.isStandard, ha]; rfl⟩
    · exact Or.inl ⟨hadd.symm, by rw [hstd, Command.isStandard, ha]; rfl,
        Or.inl (by simp [Command.isStandard, hc])⟩

/-- **The step of the index**: a declaration that is accepted keeps the invariant. -/
theorem Indexes.add {seen index index' : List Command} {c : Command} (h : Indexes d seen index)
    (hadd : addToIndex d index c = .ok index') : Indexes d (seen ++ [c]) index' := by
  rcases h.added hadd with ⟨rfl, hnone, hkind⟩ | ⟨rfl, hc, a, ha⟩
  · exact h.cons hnone hkind
  · exact h.skip hc ha

/-! ## All declarations -/

/-- The index of nothing. -/
theorem indexes_nil : Indexes d [] [] where
  standard_nodup := List.nodup_nil
  length_le_one := fun _ _ => Nat.zero_le 1
  find?_eq := fun _ => rfl

/-- The run of the index: declarations that are all accepted keep the invariant. -/
theorem Indexes.foldlM {commands seen index index' : List Command} (h : Indexes d seen index)
    (hrun : commands.foldlM (addToIndex d) index = .ok index') :
    Indexes d (seen ++ commands) index' := by
  induction commands generalizing seen index with
  | nil =>
      cases hrun
      simpa using h
  | cons c commands ih =>
      rw [List.foldlM_cons, bind_eq_ok_iff] at hrun
      obtain ⟨next, hnext, hrest⟩ := hrun
      rw [List.append_cons]
      exact ih (h.add hnext) hrest

/-- **A complete index satisfies the invariant over all declarations.** -/
theorem indexes_of_indexCommands {commands index : List Command}
    (h : indexCommands d commands = .ok index) : Indexes d commands index := by
  simpa using indexes_nil.foldlM h

end LayerHeaders
