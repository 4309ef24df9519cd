import LayerHeaders.Header.DispatchTable
import LayerHeaders.Proofs.Classification
import LayerHeaders.Proofs.Header.Passage

/-!
# What the dispatch tables show

The header of dispatch tables has three passages for each command: in its table a field, an assignment
and a match. They are written from the same groups, and the groups are formed by owner.

* `passages`: what the header shows.
* `shows_of_header`: the header shows its passages, each under the guard of its topic.
* `mem_passages_iff`: the passages are about the commands of the two chains.
* `perm_of_table`: the commands of a table are those of its chain.
-/

namespace LayerHeaders.DispatchTable

/-! ## Passages -/

/-- The fields of the table of a chain. -/
def fields (d : Dialect) (chain : Chain) : Emission :=
  .ofLine (.field chain) (fieldLine d) fun _ => rfl

/-- The assignments of the table of a chain. -/
def assignments (d : Dialect) (chain : Chain) : Emission :=
  .ofLine (.assignment chain) (assignmentLine d) fun _ => rfl

/-- The matches of the table of a chain. -/
def nameMatches (d : Dialect) (chain : Chain) : Emission :=
  .ofLine (.nameMatch chain) (matchLine d) fun _ => rfl

/-- What is emitted for the commands of a chain. -/
def emissions (d : Dialect) (chain : Chain) : List Emission :=
  [fields d chain, assignments d chain, nameMatches d chain]

theorem guardFree_structOpening (t : Table) : GuardFree (structOpening t) := by
  simp [structOpening, Instruction.isGuard]

theorem guardFree_initializeOpening (t : Table) : GuardFree (initializeOpening t) := by
  simp [initializeOpening, Instruction.isGuard]

theorem guardFree_getOpening (t : Table) : GuardFree (getOpening t) := by
  simp [getOpening, Instruction.isGuard]

theorem guardFree_structClosing (d : Dialect) (t : Table) : GuardFree (structClosing d t) := by
  simp [structClosing, NotFound.all, fallbackLines, Instruction.isGuard]

theorem guardFree_prologue : GuardFree prologue := by
  simp [prologue, NotFound.all, enumeratorLines, Instruction.isGuard]

/-- The passages of a table. -/
def structPassages (d : Dialect) (t : Table) : List Passage :=
  [scaffold (structOpening t) (guardFree_structOpening t)] ++
    (fields d t.layout.chain).passages t.groups ++
    [scaffold (initializeOpening t) (guardFree_initializeOpening t)] ++
    (assignments d t.layout.chain).passages t.groups ++
    [scaffold (getOpening t) (guardFree_getOpening t)] ++
    (nameMatches d t.layout.chain).passages t.groups ++
    [scaffold (structClosing d t) (guardFree_structClosing d t)]

/-- The passages of the header. -/
def passages (r : Registry) : Except HeaderError (List Passage) := do
  let k ← r.classify.mapError .registry
  let tables ← tables r k
  return scaffold prologue guardFree_prologue :: tables.flatMap (structPassages r.dialect)

/-! ## What is shown -/

variable {r : Registry} {k : Classification} {t : Table} {ts : List Table}

/-- A table shows its passages if its groups are formed by owner. -/
theorem shows_structLines {d : Dialect} (h : r.OwnedGroups t.groups) :
    r.Shows (structLines d t) (structPassages d t) := by
  have hsection := Registry.shows_guardedGroups h
  exact ((((((Registry.shows_scaffold _).append (hsection _ _ _ 1 .plain)).append
    (Registry.shows_scaffold _)).append (hsection _ _ _ 1 .plain)).append
      (Registry.shows_scaffold _)).append (hsection _ _ _ 1 .plain)).append (Registry.shows_scaffold _)

/-- **When a table is made**: its resolver is a command of its chain and can be resolved. -/
theorem table_eq_ok_iff {l : Layout} :
    table r k l = .ok t ↔
      k.chain? l.resolver = some l.chain ∧
        ∃ x, r.resolveNamed l.resolver = .ok x ∧
          t = ⟨l, x.signature.receiver?.getD "void*", groupBy (·.guard?) (k.commands l.chain)⟩ := by
  unfold table
  by_cases hchain : k.chain? l.resolver = some l.chain
  · rw [if_neg (not_not.2 hchain)]
    beta_reduce
    rw [bind_eq_ok_iff]
    simp only [mapError_eq_ok_iff, hchain, true_and]
    exact exists_congr fun x => and_congr_right fun _ =>
      ⟨fun h => (Except.ok.inj h).symm, fun h => h ▸ rfl⟩
  · rw [if_pos hchain, bind_eq_ok_iff]
    constructor
    · rintro ⟨_, h, -⟩
      cases h
    · rintro ⟨h, -⟩
      exact absurd h hchain

/-- The two tables, one for each chain. -/
theorem exists_of_tables (h : tables r k = .ok ts) :
    ∃ a b, ts = [a, b] ∧ table r k (instanceLayout r.dialect) = .ok a ∧
      table r k (deviceLayout r.dialect) = .ok b := by
  have hall := mapM_eq_ok_iff.1 h
  rw [layouts, List.forall₂_cons_left_iff] at hall
  obtain ⟨a, _, ha, hrest, rfl⟩ := hall
  rw [List.forall₂_cons_left_iff] at hrest
  obtain ⟨b, _, hb, hnil, rfl⟩ := hrest
  rw [List.forall₂_nil_left_iff] at hnil
  exact ⟨a, b, by rw [hnil], ha, hb⟩

/-- The groups of a table are formed by owner. -/
theorem ownedGroups_of_table {l : Layout} (hk : r.classify = .ok k) (h : table r k l = .ok t) :
    r.OwnedGroups t.groups := by
  obtain ⟨-, x, -, rfl⟩ := table_eq_ok_iff.1 h
  refine Registry.ownedGroups_groupBy fun x hx => ?_
  exact Registry.guard?_of_resolve
    (Registry.resolve_of_classify hk x (Classification.mem_of_mem_commands hx))

/-- **The header shows its passages.** -/
theorem shows_of_header {h : Header} (hh : header r = .ok h) :
    ∃ ps, passages r = .ok ps ∧ r.Shows h.body ps := by
  obtain ⟨k, hk, hbuild⟩ := bind_eq_ok_iff.1 hh
  obtain ⟨ts, hts, hreturn⟩ := bind_eq_ok_iff.1 hbuild
  cases hreturn
  refine ⟨_, bind_eq_ok_iff.2 ⟨k, hk, bind_eq_ok_iff.2 ⟨ts, hts, rfl⟩⟩, ?_⟩
  obtain ⟨a, b, rfl, ha, hb⟩ := exists_of_tables hts
  refine (Registry.shows_scaffold guardFree_prologue).append (Registry.shows_flatMap fun t ht => ?_)
  refine shows_structLines ?_
  have hk' := mapError_eq_ok_iff.1 hk
  rcases List.mem_pair.1 ht with rfl | rfl
  · exact ownedGroups_of_table hk' ha
  · exact ownedGroups_of_table hk' hb

/-! ## Commands of the tables -/

theorem layout_of_table {l : Layout} (h : table r k l = .ok t) : t.layout = l := by
  obtain ⟨-, x, -, rfl⟩ := table_eq_ok_iff.1 h
  rfl

/-- The commands of a table are those of its chain, in another order. -/
theorem perm_of_table {l : Layout} (h : table r k l = .ok t) :
    (t.groups.flatMap (·.items)).Perm (k.commands l.chain) := by
  obtain ⟨-, x, -, rfl⟩ := table_eq_ok_iff.1 h
  exact perm_groupBy _ _

/-- The tables that the passages of the header are made from. -/
theorem exists_of_passages {ps : List Passage} (h : passages r = .ok ps) :
    ∃ k a b, r.classify = .ok k ∧ table r k (instanceLayout r.dialect) = .ok a ∧
      table r k (deviceLayout r.dialect) = .ok b ∧
      ps = scaffold prologue guardFree_prologue ::
        (structPassages r.dialect a ++ structPassages r.dialect b) := by
  obtain ⟨k, hk, hrest⟩ := bind_eq_ok_iff.1 h
  obtain ⟨ts, hts, hreturn⟩ := bind_eq_ok_iff.1 hrest
  cases hreturn
  obtain ⟨a, b, rfl, ha, hb⟩ := exists_of_tables hts
  refine ⟨k, a, b, mapError_eq_ok_iff.1 hk, ha, hb, ?_⟩
  rw [List.flatMap_cons, List.flatMap_singleton]

/-- What the passages of a table are about: the commands of its chain. -/
theorem mem_structPassages_iff {l : Layout} (ht : table r k l = .ok t) {p : Passage}
    (hp : p.topic ≠ .scaffold) :
    p ∈ structPassages r.dialect t ↔
      ∃ c ∈ k.commands l.chain, ∃ e ∈ emissions r.dialect l.chain, e.passage c = p := by
  simp only [structPassages, List.mem_append, List.mem_singleton, Passage.ne_scaffold hp, false_or,
    or_false, Emission.mem_passages_iff, (perm_of_table ht).mem_iff, layout_of_table ht, or_assoc]
  simp only [← exists_or, ← and_or_left, emissions, List.exists_mem_cons_iff, List.not_mem_nil,
    false_and, exists_false, or_false]

/-- **What the passages are about**: the commands of the two chains. -/
theorem mem_passages_iff {ps : List Passage} (h : passages r = .ok ps) {p : Passage}
    (hp : p.topic ≠ .scaffold) :
    p ∈ ps ↔ ∃ k, r.classify = .ok k ∧
      ∃ chain, ∃ c ∈ k.commands chain, ∃ e ∈ emissions r.dialect chain, e.passage c = p := by
  obtain ⟨k, a, b, hk, ha, hb, rfl⟩ := exists_of_passages h
  simp only [List.mem_cons, Passage.ne_scaffold hp, false_or, List.mem_append,
    mem_structPassages_iff ha hp, mem_structPassages_iff hb hp]
  constructor
  · rintro (htop | hdevice)
    · exact ⟨k, hk, .topLevel, htop⟩
    · exact ⟨k, hk, .perDevice, hdevice⟩
  · rintro ⟨k', hk', chain, hchain⟩
    rw [hk] at hk'
    cases hk'
    rcases chain with _ | _
    · exact Or.inl hchain
    · exact Or.inr hchain

end LayerHeaders.DispatchTable
