import LayerHeaders.Proofs.Header.DispatchTable
import LayerHeaders.Proofs.Registry.Lookup

/-!
# When dispatch tables are refused

The tables are not made if the commands cannot be classified, or if the resolver of a table is not a
command of its chain. There is no other cause. A resolver is first searched by its name among the
commands that were classified, and then looked up by the name and resolved; a command that was classified
is what its name leads to, and resolves, so the second search finds what the first did.

* `Registry.resolveNamed_of_classify`: a command that was classified is what its name resolves to.
* `table_eq_error_iff_of_read`: the only failure of one table.
* `tables_eq_error_iff`: the first table that fails decides.
* `tables_refused`: when the header is not made, and with which failure.
-/

namespace LayerHeaders

variable {d : Dialect} {document : String} {r : Registry} {k : Classification}

/-! ## Names of classified commands -/

/-- **A command that was classified is what its name resolves to**, though a name may have another
declaration. -/
theorem Registry.resolveNamed_of_classify (h : Registry.read d document = .ok r)
    (hk : r.classify = .ok k) {c : Resolved} (hc : c ∈ k.topLevel ++ k.perDevice) :
    r.resolveNamed c.name = .ok c := by
  obtain ⟨xs, hxs, hperm⟩ := perm_of_classify hk
  obtain ⟨hmem, hstandard, hresolve⟩ := (mem_resolveStandard_iff hxs).1 (hperm.mem_iff.1 hc)
  have hkind : c.command.isStandard d = true := by
    rw [isRestricted, dialect_of_read h, Bool.or_eq_false_iff] at hstandard
    rw [Command.isStandard, hstandard.1, Bool.not_false]
  rw [resolveNamed, Resolved.name, command?_of_standard h hmem hkind]
  exact hresolve

namespace DispatchTable

variable {l : Layout} {e : HeaderError}

/-! ## One table -/

/-- The failure of a table without its resolver. -/
def Layout.missing (l : Layout) : HeaderError :=
  .missingResolver l.structName l.resolver

/-- **When a table is not made**: its resolver is not in its chain, or cannot be resolved. -/
theorem table_eq_error_iff :
    table r k l = .error e ↔
      (k.chain? l.resolver ≠ some l.chain ∧ e = l.missing) ∨
        k.chain? l.resolver = some l.chain ∧
          ∃ cause, r.resolveNamed l.resolver = .error cause ∧ e = .registry cause := by
  unfold table
  by_cases hchain : k.chain? l.resolver = some l.chain
  · rw [if_neg (not_not.2 hchain)]
    beta_reduce
    rw [bind_eq_error_iff, mapError_eq_error_iff]
    constructor
    · rintro (⟨cause, hcause, rfl⟩ | ⟨x, -, hreturn⟩)
      · exact Or.inr ⟨hchain, cause, hcause, rfl⟩
      · cases hreturn
    · rintro (⟨hne, -⟩ | ⟨-, cause, hcause, rfl⟩)
      · exact absurd hchain hne
      · exact Or.inl ⟨cause, hcause, rfl⟩
  · rw [if_pos hchain, bind_eq_error_iff]
    constructor
    · rintro (hthrow | ⟨_, hthrow, -⟩)
      · exact Or.inl ⟨hchain, (Except.error.inj hthrow).symm⟩
      · cases hthrow
    · rintro (⟨-, rfl⟩ | ⟨heq, -⟩)
      · exact Or.inl rfl
      · exact absurd heq hchain

/-- Whether the resolver of a table is a command of its chain. -/
def HasResolver (k : Classification) (l : Layout) : Prop :=
  ∃ c ∈ k.commands l.chain, c.name = l.resolver

/-- The search by name among the commands of the chains. -/
theorem chain?_eq_some_iff_of_read (h : Registry.read d document = .ok r) (hk : r.classify = .ok k) :
    k.chain? l.resolver = some l.chain ↔ HasResolver k l :=
  Classification.chain?_eq_some_iff (Registry.names_nodup_of_classify h hk)

/-- A name that is in a chain resolves to a command of the chain. -/
theorem exists_resolveNamed_of_chain? (h : Registry.read d document = .ok r)
    (hk : r.classify = .ok k) {name : String} {chain : Chain} (hchain : k.chain? name = some chain) :
    ∃ c ∈ k.commands chain, c.name = name ∧ r.resolveNamed name = .ok c := by
  obtain ⟨c, hc, rfl⟩ := Classification.exists_of_chain? hchain
  exact ⟨c, hc, rfl,
    Registry.resolveNamed_of_classify h hk (Classification.mem_of_mem_commands hc)⟩

/-- **The only failure of a table** is that its resolver is no command of its chain. -/
theorem table_eq_error_iff_of_read (h : Registry.read d document = .ok r) (hk : r.classify = .ok k) :
    table r k l = .error e ↔ ¬ HasResolver k l ∧ e = l.missing := by
  rw [table_eq_error_iff, ← chain?_eq_some_iff_of_read h hk]
  constructor
  · rintro (hmissing | ⟨hchain, cause, hcause, -⟩)
    · exact hmissing
    · -- what is in the chain resolves
      obtain ⟨c, -, -, hc⟩ := exists_resolveNamed_of_chain? h hk hchain
      rw [hc] at hcause
      cases hcause
  · intro hmissing
    exact Or.inl hmissing

/-- A table is made if its resolver is a command of its chain. -/
theorem exists_table_iff (h : Registry.read d document = .ok r) (hk : r.classify = .ok k) :
    (∃ t, table r k l = .ok t) ↔ HasResolver k l := by
  rw [exists_eq_ok_iff]
  simp [table_eq_error_iff_of_read h hk]

/-! ## Both tables -/

/-- **The first table that fails decides.** -/
theorem tables_eq_error_iff (h : Registry.read d document = .ok r) (hk : r.classify = .ok k) :
    tables r k = .error e ↔
      (¬ HasResolver k (instanceLayout r.dialect) ∧ e = (instanceLayout r.dialect).missing) ∨
        HasResolver k (instanceLayout r.dialect) ∧
          ¬ HasResolver k (deviceLayout r.dialect) ∧ e = (deviceLayout r.dialect).missing := by
  rw [tables, layouts, mapM_cons_eq_error_iff, mapM_cons_eq_error_iff, table_eq_error_iff_of_read h hk,
    table_eq_error_iff_of_read h hk, exists_table_iff h hk]
  have hnil : ([] : List Layout).mapM (table r k) ≠ .error e := by
    intro hnil
    cases hnil
  simp only [hnil, and_false, or_false]

/-! ## The header -/

/-- The header is not made if the commands cannot be classified, or a table is not made. -/
theorem header_eq_error_iff :
    header r = .error e ↔
      (∃ cause, r.classify = .error cause ∧ e = .registry cause) ∨
        ∃ k, r.classify = .ok k ∧ tables r k = .error e := by
  unfold header build
  rw [bind_eq_error_iff, mapError_eq_error_iff]
  simp only [mapError_eq_ok_iff, bind_eq_error_iff]
  constructor
  · rintro (⟨cause, hcause, rfl⟩ | ⟨k, hk, hts | ⟨ts, -, hreturn⟩⟩)
    · exact Or.inl ⟨cause, hcause, rfl⟩
    · exact Or.inr ⟨k, hk, hts⟩
    · cases hreturn
  · rintro (⟨cause, hcause, rfl⟩ | ⟨k, hk, hts⟩)
    · exact Or.inl ⟨cause, hcause, rfl⟩
    · exact Or.inr ⟨k, hk, Or.inl hts⟩

/-- With a classification, the header is not made if a table has no resolver. -/
theorem header_eq_error_iff_of_classify (h : Registry.read d document = .ok r)
    (hk : r.classify = .ok k) :
    header r = .error e ↔
      (¬ HasResolver k (instanceLayout r.dialect) ∧ e = (instanceLayout r.dialect).missing) ∨
        HasResolver k (instanceLayout r.dialect) ∧
          ¬ HasResolver k (deviceLayout r.dialect) ∧ e = (deviceLayout r.dialect).missing := by
  rw [header_eq_error_iff, ← tables_eq_error_iff h hk, hk]
  simp

/-- The two tables have different names, so their failures differ. -/
theorem missing_ne (d : Dialect) : (instanceLayout d).missing ≠ (deviceLayout d).missing := by
  intro heq
  have hname : "VkLayerInstanceDispatchTable" = "VkLayerDeviceDispatchTable" :=
    (HeaderError.missingResolver.inj heq).1
  revert hname
  decide

/-- **When the dispatch tables are refused.** Making the header fails as classifying does. With a
classification it fails for the table of the top level exactly if no command of the top level is its
resolver, otherwise for the table of devices exactly if no command of devices is its resolver, and
otherwise the header is made. A name that is in a chain resolves, to the command of the chain. -/
theorem tables_refused (h : Registry.read d document = .ok r) :
    (∀ cause, header r = .error (.registry cause) ↔ r.classify = .error cause) ∧
      ∀ k, r.classify = .ok k →
        (header r = .error (.missingResolver "VkLayerInstanceDispatchTable" r.dialect.instanceResolver) ↔
          ¬ ∃ c ∈ k.topLevel, c.name = r.dialect.instanceResolver) ∧
        (header r = .error (.missingResolver "VkLayerDeviceDispatchTable" r.dialect.deviceResolver) ↔
          (∃ c ∈ k.topLevel, c.name = r.dialect.instanceResolver) ∧
            ¬ ∃ c ∈ k.perDevice, c.name = r.dialect.deviceResolver) ∧
        ((∃ tables, header r = .ok tables) ↔
          (∃ c ∈ k.topLevel, c.name = r.dialect.instanceResolver) ∧
            ∃ c ∈ k.perDevice, c.name = r.dialect.deviceResolver) ∧
        ∀ chain name, k.chain? name = some chain →
          ∃ c ∈ k.commands chain, c.name = name ∧ r.resolveNamed name = .ok c := by
  constructor
  · intro cause
    rcases hk : r.classify with e | k
    · rw [header_eq_error_iff, hk]
      simp [eq_comm]
    · -- the failures of tables are of another kind
      rw [header_eq_error_iff_of_classify h hk]
      simp [Layout.missing]
  · intro k hk
    have hfails := fun e => header_eq_error_iff_of_classify (e := e) h hk
    have hne := missing_ne r.dialect
    refine ⟨?_, ?_, ?_, fun chain name => exists_resolveNamed_of_chain? h hk⟩
    · show header r = .error (instanceLayout r.dialect).missing ↔
        ¬ HasResolver k (instanceLayout r.dialect)
      rw [hfails]
      simp [hne]
    · show header r = .error (deviceLayout r.dialect).missing ↔
        HasResolver k (instanceLayout r.dialect) ∧ ¬ HasResolver k (deviceLayout r.dialect)
      rw [hfails]
      simp [hne.symm]
    · show (∃ tables, header r = .ok tables) ↔
        HasResolver k (instanceLayout r.dialect) ∧ HasResolver k (deviceLayout r.dialect)
      rw [exists_eq_ok_iff]
      simp only [ne_eq, hfails]
      by_cases hinstance : HasResolver k (instanceLayout r.dialect)
      · by_cases hdevice : HasResolver k (deviceLayout r.dialect)
        · simp [hinstance, hdevice]
        · simp [hinstance, hdevice]
      · simp [hinstance]

/-- A dialect in which a command without a handle is the resolver for devices. -/
def handlelessResolver : Dialect :=
  { deviceResolver := "vkGetInstanceProcAddr" }

set_option maxRecDepth 10000 in
/-- Reading `sample` in this dialect gives the same registry in it. -/
theorem read_handlelessResolver :
    Registry.read handlelessResolver sample = .ok { sampleRegistry with dialect := handlelessResolver } := by
  rw [Registry.read, Xml.parse, wellNested_of_eq_ofList (s := sample) rfl]
  decide +kernel

/-- The tables of `sample` are made in the default dialect. In the other one the resolver for devices is
in the chain of the top level, so the table of devices is refused. -/
theorem tables_refused_sample :
    Registry.read {} sample = .ok sampleRegistry ∧
      (∃ tables, header sampleRegistry = .ok tables) ∧
      Registry.read handlelessResolver sample =
        .ok { sampleRegistry with dialect := handlelessResolver } ∧
      header { sampleRegistry with dialect := handlelessResolver } =
        .error (.missingResolver "VkLayerDeviceDispatchTable" "vkGetInstanceProcAddr") := by
  have hk : { sampleRegistry with dialect := handlelessResolver }.classify =
      .ok Registry.sampleClassification := by
    decide +kernel
  obtain ⟨-, -, hmade, -⟩ := (tables_refused read_sample).2 _ Registry.classify_sample
  obtain ⟨-, hdevice, -⟩ := (tables_refused read_handlelessResolver).2 _ hk
  exact ⟨read_sample, hmade.2 (by decide), read_handlelessResolver, hdevice.2 (by decide)⟩

end DispatchTable

end LayerHeaders
