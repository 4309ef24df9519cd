import LayerHeaders.Proofs.Header.Agreement
import LayerHeaders.Proofs.Registry.AliasLinks

/-!
# Aliases go where their targets go

Each name that comes after a command on its alias chain leads to a declaration, and that resolves to the
same signature. Everything that decides where a command is put is read off the signature: the dispatch
chain off the type of the first parameter, and the handle group off the handle that it is. So an alias and
the names behind it are put into the same places.

* `Registry.exists_link_of_chainName`: a name on the chain of a command that resolves is declared.
* `Registry.exists_same_chain`: equal signatures, equal dispatch chains.
* `DriverInterface.exists_same_group`: equal handles, equal handle groups.
* `alias_classified_alike`: all of this for the names on an alias chain.
-/

namespace LayerHeaders

variable {d : Dialect} {document : String} {r : Registry} {c : Command} {x y : Resolved}

namespace Registry

/-- **A name on the chain of a command that resolves is declared**: else the chain would end before its
definition. -/
theorem exists_link_of_chainName (hx : r.resolve c = .ok x) {k : ℕ} {name : String}
    (hname : r.chainName c (k + 1) = some name) : ∃ e, r.link c (k + 1) = some e ∧ e.name = name := by
  obtain ⟨j, f, hf, hbody⟩ := endsIn_of_resolve hx
  obtain ⟨b, hb, -⟩ := Option.bind_eq_some_iff.1 hname
  obtain ⟨hle, -⟩ := link_sub_of_definition hf hbody hb
  -- the command before the name is no definition, so the definition comes later
  have hlt : k < j := by
    refine Nat.lt_of_le_of_ne hle ?_
    rintro rfl
    exact chainName_succ_ne_some hf hbody name hname
  obtain ⟨e, he⟩ := exists_link_of_le hlt hf
  refine ⟨e, he, ?_⟩
  rw [chainName_of_link he] at hname
  exact Option.some.inj hname

/-- The parameters of the standard profile are those of the signature. -/
theorem params_eq_of_signature (h : y.signature = x.signature) : y.params = x.params := by
  unfold Resolved.params
  rw [h]

/-- The signature decides the dispatch chain. -/
theorem chain_eq_of_signature (h : y.signature = x.signature) : r.chain y = r.chain x := by
  unfold chain
  rw [h]

/-- Which chain of a classification holds a command of the standard profile. -/
theorem mem_commands_classify_iff {xs : List Resolved} (hxs : r.resolveStandard = .ok xs)
    {k : Classification} (hk : r.classify = .ok k) {chain : Chain} :
    x ∈ k.commands chain ↔ x ∈ xs ∧ r.chain x = chain := by
  obtain ⟨ys, hys, rfl⟩ := classify_eq_ok_iff.1 hk
  rw [hxs] at hys
  cases hys
  cases chain with
  | topLevel => simp [Classification.commands]
  | perDevice => simp [Classification.commands]

/-- **Commands with one signature are in one dispatch chain**, which is found under both names. -/
theorem exists_same_chain (h : Registry.read d document = .ok r) {xs : List Resolved}
    (hxs : r.resolveStandard = .ok xs) {k : Classification} (hk : r.classify = .ok k) (hx : x ∈ xs)
    (hy : y ∈ xs) (hsignature : y.signature = x.signature) :
    ∃ chain, x ∈ k.commands chain ∧ y ∈ k.commands chain ∧ k.chain? x.name = some chain ∧
      k.chain? y.name = some chain := by
  have hnodup := names_nodup_of_classify h hk
  have hmemx : x ∈ k.commands (r.chain x) := (mem_commands_classify_iff hxs hk).2 ⟨hx, rfl⟩
  have hmemy : y ∈ k.commands (r.chain x) :=
    (mem_commands_classify_iff hxs hk).2 ⟨hy, chain_eq_of_signature hsignature⟩
  exact ⟨r.chain x, hmemx, hmemy, (Classification.chain?_eq_some_iff hnodup).2 ⟨x, hmemx, rfl⟩,
    (Classification.chain?_eq_some_iff hnodup).2 ⟨y, hmemy, rfl⟩⟩

end Registry

/-- **Commands with one handle are in one handle group**, and no group holds only one of them. -/
theorem DriverInterface.exists_same_group {xs : List Resolved} (hxs : r.resolveStandard = .ok xs)
    {gs : List HandleGroup} (hgs : groups r = .ok gs) (hx : x ∈ xs) (hy : y ∈ xs)
    (hhandle : y.handle? = x.handle?) :
    (∃ g ∈ gs, g.handle? = x.handle? ∧ x ∈ g.commands ∧ y ∈ g.commands) ∧
      ∀ g ∈ gs, x ∈ g.commands ↔ y ∈ g.commands := by
  have hsame : ∀ g ∈ gs, x ∈ g.commands ↔ y ∈ g.commands := by
    intro g hg
    rw [mem_commands_iff_of_mem hxs hgs hg, mem_commands_iff_of_mem hxs hgs hg, hhandle]
    exact and_congr_left fun _ => iff_of_true hx hy
  obtain ⟨g, hg, hkey, hmem⟩ := (mem_commands_iff hxs hgs).2 ⟨hx, rfl⟩
  exact ⟨⟨g, hg, hkey, hmem, (hsame g hg).1 hmem⟩, hsame⟩

/-- **An alias is classified like its targets.** Every name that comes after a command on its alias chain,
at any depth, resolves if the command does, to the same signature and the same handle, and so with the same
parameters in the standard profile. If both are of the standard profile, and the commands can be
classified, both are in one dispatch chain, and they are in one handle group of the driver's interface. -/
theorem alias_classified_alike (h : Registry.read d document = .ok r) (hc : c ∈ r.commands)
    (hx : r.resolve c = .ok x) {k : ℕ} {name : String} (hname : r.chainName c (k + 1) = some name) :
    ∃ y, r.resolveNamed name = .ok y ∧ y.name = name ∧ y.signature = x.signature ∧
      y.handle? = x.handle? ∧ y.params = x.params ∧
      ∀ split, r.classify = .ok split → x.restricted = false → y.restricted = false →
        (∃ chain, x ∈ split.commands chain ∧ y ∈ split.commands chain ∧
          split.chain? x.name = some chain ∧ split.chain? name = some chain) ∧
        ∃ gs, DriverInterface.groups r = .ok gs ∧
          (∃ g ∈ gs, g.handle? = x.handle? ∧ x ∈ g.commands ∧ y ∈ g.commands) ∧
          ∀ g ∈ gs, x ∈ g.commands ↔ y ∈ g.commands := by
  obtain ⟨e, hlink, rfl⟩ := Registry.exists_link_of_chainName hx hname
  obtain ⟨y, hy, hsignature, hhandle⟩ := Registry.resolve_of_link hx hlink
  have hfound := Registry.command?_of_link hlink
  have hcommand := Registry.command_of_resolve hy
  refine ⟨y, ?_, congrArg Command.name hcommand, hsignature, hhandle,
    Registry.params_eq_of_signature hsignature, ?_⟩
  · rw [Registry.resolveNamed, hfound]
    exact hy
  · intro split hsplit hstandardx hstandardy
    obtain ⟨xs, hxs, -⟩ := Registry.classify_eq_ok_iff.1 hsplit
    -- both are declared and of the standard profile, so both are among its resolved commands
    have hmem : ∀ {b : Command} {z : Resolved}, b ∈ r.commands → r.resolve b = .ok z →
        z.restricted = false → z ∈ xs := by
      intro b z hb hz hstandard
      obtain ⟨-, rfl, -, -, hrestricted⟩ := Registry.resolve_eq_ok_iff.1 hz
      exact (Registry.mem_resolveStandard_iff hxs).2 ⟨hb, hrestricted ▸ hstandard, hz⟩
    have hmemx := hmem hc hx hstandardx
    have hmemy := hmem (mem_commands_of_command? h hfound) hy hstandardy
    obtain ⟨chain, hchainx, hchainy, hchain?x, hchain?y⟩ :=
      Registry.exists_same_chain h hxs hsplit hmemx hmemy hsignature
    have hyname : y.name = e.name := congrArg Command.name hcommand
    refine ⟨⟨chain, hchainx, hchainy, hchain?x, hyname ▸ hchain?y⟩, _,
      DriverInterface.groups_eq_ok_iff.2 ⟨xs, hxs, rfl⟩, ?_⟩
    exact DriverInterface.exists_same_group hxs (DriverInterface.groups_eq_ok_iff.2 ⟨xs, hxs, rfl⟩)
      hmemx hmemy hhandle

/-- The alias in `sample` is in the chain and in the group of its target, though the name of the target has
another declaration, which does not resolve. -/
theorem alias_classified_alike_sample :
    Registry.read {} sample = .ok sampleRegistry ∧
      ∃ c x y, c ∈ sampleRegistry.commands ∧ sampleRegistry.resolve c = .ok x ∧
        sampleRegistry.chainName c 1 = some "vkTrim" ∧ sampleRegistry.resolveNamed "vkTrim" = .ok y ∧
        y.signature = x.signature ∧ y.params = x.params ∧
        (∃ chain, Registry.sampleClassification.chain? "vkTrimKHR" = some chain ∧
          Registry.sampleClassification.chain? "vkTrim" = some chain) ∧
        ∃ gs, DriverInterface.groups sampleRegistry = .ok gs ∧
          ∃ g ∈ gs, g.handle? = some "VkDevice" ∧ x ∈ g.commands ∧ y ∈ g.commands := by
  have hc : (⟨"vkTrimKHR", none, .sameAs "vkTrim"⟩ : Command) ∈ sampleRegistry.commands := by decide
  obtain ⟨x, hx, hhandle, hname, hrestricted⟩ :
      ∃ x, sampleRegistry.resolve ⟨"vkTrimKHR", none, .sameAs "vkTrim"⟩ = .ok x ∧
        x.handle? = some "VkDevice" ∧ x.name = "vkTrimKHR" ∧ x.restricted = false :=
    ⟨Registry.sampleClassification.perDevice[0], by decide +kernel, rfl, rfl, rfl⟩
  have htarget : sampleRegistry.chainName ⟨"vkTrimKHR", none, .sameAs "vkTrim"⟩ (0 + 1) =
      some "vkTrim" := rfl
  obtain ⟨y, hy, -, hsignature, -, hparams, hplaces⟩ :=
    alias_classified_alike read_sample hc hx htarget
  have hstandard : y.restricted = false := by
    have hfound : sampleRegistry.resolveNamed "vkTrim" =
        .ok Registry.sampleClassification.perDevice[1] := by
      decide +kernel
    rw [hfound] at hy
    cases hy
    rfl
  obtain ⟨⟨chain, -, -, hchainx, hchainy⟩, gs, hgs, ⟨g, hg, hkey, hgx, hgy⟩, -⟩ :=
    hplaces _ Registry.classify_sample hrestricted hstandard
  exact ⟨read_sample, _, x, y, hc, hx, htarget, hy, hsignature, hparams,
    ⟨chain, hname ▸ hchainx, hchainy⟩, gs, hgs, g, hg, hkey.trans hhandle, hgx, hgy⟩

end LayerHeaders
