import LayerHeaders.Chain
import LayerHeaders.Proofs.Registry.Reading
import LayerHeaders.Proofs.Registry.Resolution
import Mathlib.Data.List.Perm.Basic

/-!
# What a classification holds

The commands of the standard profile are split into two chains by the signatures that their alias
chains end in. `Classification.Splits` says what the two chains hold together and what tells them apart.

* `chain_eq_perDevice_iff`: the chain of one command, by its first parameter.
* `Classification.chain?_eq_some_iff`: the chain of a name.
* `classify_splits`: what a classification holds, and when and how classifying fails.
-/

namespace LayerHeaders

namespace Registry

variable {r : Registry} {k : Classification}

/-- Whether the commands of this signature are dispatched below a device: the first parameter is a
dispatchable handle that is not designated for the top level. -/
def BelowDevice (r : Registry) (s : Signature) : Prop :=
  ∃ p ps, s.params = p :: ps ∧ p.type ∈ r.handles ∧ p.type ∉ r.dialect.topLevelHandles

theorem belowDevice_iff {s : Signature} :
    r.BelowDevice s ↔
      ∃ type, s.receiver? = some type ∧ type ∈ r.handles ∧ type ∉ r.dialect.topLevelHandles := by
  unfold BelowDevice Signature.receiver?
  rcases s.params with _ | ⟨p, ps⟩
  · simp
  · simp

/-- The chain of a command, by the type of its first parameter. -/
theorem chain_eq_perDevice_iff {x : Resolved} :
    r.chain x = .perDevice ↔ r.BelowDevice x.signature := by
  rw [belowDevice_iff]
  unfold chain
  rcases x.signature.receiver? with _ | type
  · simp
  · constructor
    · intro h
      dsimp only at h
      split_ifs at h with htop hhandle
      exact ⟨type, rfl, hhandle, htop⟩
    · rintro ⟨_, ⟨rfl⟩, hhandle, htop⟩
      dsimp only
      rw [if_neg htop, if_pos hhandle]

/-- The commands of devices are those of a handle that is not designated for the top level. -/
theorem chain_eq_perDevice_iff_handle? {x : Resolved} (hx : r.resolve x.command = .ok x) :
    r.chain x = .perDevice ↔
      ∃ handle, x.handle? = some handle ∧ handle ∉ r.dialect.topLevelHandles := by
  simp only [chain_eq_perDevice_iff, belowDevice_iff, handle?_of_resolve hx, and_assoc]

/-- A command is in one of the two chains. -/
theorem decide_chain_eq_perDevice (x : Resolved) :
    decide (r.chain x = .perDevice) = !decide (r.chain x = .topLevel) := by
  rcases r.chain x <;> rfl

/-- A classification is the resolved commands of the standard profile, split by their chains. -/
theorem classify_eq_ok_iff :
    r.classify = .ok k ↔
      ∃ xs, r.resolveStandard = .ok xs ∧
        k = ⟨xs.filter (r.chain · = .topLevel), xs.filter (r.chain · = .perDevice)⟩ := by
  rw [classify, bind_eq_ok_iff]
  exact exists_congr fun xs => and_congr_right fun _ =>
    ⟨fun h => (Except.ok.inj h).symm, fun h => h ▸ rfl⟩

/-- Classifying fails as resolving the commands of the standard profile does. -/
theorem classify_eq_error_iff {e : RegistryError} :
    r.classify = .error e ↔ r.resolveStandard = .error e := by
  rw [classify, bind_eq_error_iff]
  constructor
  · rintro (h | ⟨xs, -, h⟩)
    · exact h
    · cases h
  · exact Or.inl

end Registry

/-- The commands of one chain are among those of both. -/
theorem Classification.mem_of_mem_commands {k : Classification} {chain : Chain} {x : Resolved}
    (hx : x ∈ k.commands chain) : x ∈ k.topLevel ++ k.perDevice := by
  rcases chain with _ | _
  · exact List.mem_append_left _ hx
  · exact List.mem_append_right _ hx

/-- A name that is in a chain is the name of one of its commands. -/
theorem Classification.exists_of_chain? {k : Classification} {name : String} {chain : Chain}
    (h : k.chain? name = some chain) : ∃ c ∈ k.commands chain, c.name = name := by
  unfold chain? at h
  split_ifs at h with htop hdevice
  · rw [← Option.some.inj h, commands]
    simpa using htop
  · rw [← Option.some.inj h, commands]
    simpa using hdevice

/-- A name is in the chain of its command, if no other command has the name. -/
theorem Classification.chain?_eq_some_iff {k : Classification}
    (h : ((k.topLevel ++ k.perDevice).map (·.name)).Nodup) {name : String} {chain : Chain} :
    k.chain? name = some chain ↔ ∃ c ∈ k.commands chain, c.name = name := by
  refine ⟨exists_of_chain?, ?_⟩
  rintro ⟨c, hc, rfl⟩
  rcases chain with _ | _
  · have hany : k.topLevel.any (·.name = c.name) = true := by simpa using ⟨c, hc, rfl⟩
    rw [chain?, if_pos hany]
  · -- the top level is asked first, but the name is not there
    have hnone : ¬ k.topLevel.any (·.name = c.name) = true := by
      intro hany
      obtain ⟨b, hb, hname⟩ := List.any_eq_true.1 hany
      rw [List.map_append, List.nodup_append] at h
      exact h.2.2 b.name (List.mem_map_of_mem hb) c.name (List.mem_map_of_mem hc)
        (by simpa using hname)
    have hany : k.perDevice.any (·.name = c.name) = true := by simpa using ⟨c, hc, rfl⟩
    rw [chain?, if_neg hnone, if_pos hany]

/-- **What a classification of `r` is.** -/
structure Classification.Splits (r : Registry) (k : Classification) : Prop where
  /-- Every entry is a command of `r`, resolved. -/
  resolved : ∀ x ∈ k.topLevel ++ k.perDevice, r.resolve x.command = .ok x
  /-- Every declaration of the standard profile occurs once, and nothing else does. -/
  perm : ((k.topLevel ++ k.perDevice).map (·.command)).Perm (r.commands.filter (!r.isRestricted ·))
  /-- No name occurs twice. -/
  names_nodup : ((k.topLevel ++ k.perDevice).map (·.name)).Nodup
  /-- The top level is in document order. -/
  topLevel_sublist : (k.topLevel.map (·.command)).Sublist r.commands
  /-- The commands of devices are in document order. -/
  perDevice_sublist : (k.perDevice.map (·.command)).Sublist r.commands
  /-- The signature at the end of an alias chain decides between the two. -/
  mem_perDevice_iff : ∀ x ∈ k.topLevel ++ k.perDevice,
    x ∈ k.perDevice ↔ ∃ s, r.EndsIn x.command s ∧ r.BelowDevice s

namespace Registry

variable {r : Registry} {k : Classification}

/-- The two chains together are the resolved commands of the standard profile, in another order. -/
theorem perm_of_classify (h : r.classify = .ok k) :
    ∃ xs, r.resolveStandard = .ok xs ∧ (k.topLevel ++ k.perDevice).Perm xs := by
  obtain ⟨xs, hxs, rfl⟩ := classify_eq_ok_iff.1 h
  refine ⟨xs, hxs, ?_⟩
  simp only [decide_chain_eq_perDevice]
  exact List.filter_append_perm _ xs

/-- The entries of a classification are resolved commands. -/
theorem resolve_of_classify (h : r.classify = .ok k) :
    ∀ x ∈ k.topLevel ++ k.perDevice, r.resolve x.command = .ok x := by
  obtain ⟨xs, hxs, hperm⟩ := perm_of_classify h
  exact fun x hx => (resolveStandard_spec hxs).2 x (hperm.mem_iff.1 hx)

/-- **No two entries of a classification have a name in common.** -/
theorem names_nodup_of_classify {d : Dialect} {document : String}
    (h : Registry.read d document = .ok r) (hk : r.classify = .ok k) :
    ((k.topLevel ++ k.perDevice).map (·.name)).Nodup := by
  obtain ⟨xs, hxs, hperm⟩ := perm_of_classify hk
  rw [(hperm.map _).nodup_iff]
  exact names_nodup_of_resolveStandard h hxs

/-- The entries of one chain are in document order. -/
theorem sublist_of_resolveStandard {xs : List Resolved} (h : r.resolveStandard = .ok xs)
    (p : Resolved → Bool) : ((xs.filter p).map (·.command)).Sublist r.commands := by
  have hxs := (List.filter_sublist (p := p) (l := xs)).map (·.command)
  rw [(resolveStandard_spec h).1] at hxs
  exact hxs.trans List.filter_sublist

/-- **Classifying splits the commands of the standard profile.** A classification holds each of them
once, under distinct names, in document order, and by the signature that its alias chain ends in.
Classifying fails exactly when one of them cannot be resolved, with the failure of the first. -/
theorem classify_splits {d : Dialect} {document : String} (h : Registry.read d document = .ok r) :
    (∀ k, r.classify = .ok k → k.Splits r) ∧
      (∀ e, r.classify = .error e ↔
        ∃ before c after, r.commands = before ++ c :: after ∧ r.isRestricted c = false ∧
          r.resolve c = .error e ∧
          ∀ b ∈ before, r.isRestricted b = false → ∃ x, r.resolve b = .ok x) ∧
      ((∃ k, r.classify = .ok k) ↔
        ∀ c ∈ r.commands, r.isRestricted c = false → ∃ x, r.resolve c = .ok x) := by
  refine ⟨fun k hk => ?_, fun e => ?_, ?_⟩
  · obtain ⟨xs, hxs, hperm⟩ := perm_of_classify hk
    have hcommands := (resolveStandard_spec hxs).1
    have hall := resolve_of_classify hk
    obtain ⟨ys, hys, hk'⟩ := classify_eq_ok_iff.1 hk
    rw [hxs] at hys
    cases hys
    refine ⟨hall, hcommands ▸ hperm.map _, names_nodup_of_classify h hk, ?_, ?_, ?_⟩
    · rw [hk']
      exact sublist_of_resolveStandard hxs _
    · rw [hk']
      exact sublist_of_resolveStandard hxs _
    · intro x hx
      have hends := endsIn_of_resolve (hall x hx)
      have hmem : x ∈ k.perDevice ↔ r.chain x = .perDevice := by
        rw [hk']
        simp only [List.mem_filter, decide_eq_true_eq, and_iff_right_iff_imp]
        exact fun _ => hperm.mem_iff.1 hx
      rw [hmem, chain_eq_perDevice_iff]
      exact ⟨fun hbelow => ⟨_, hends, hbelow⟩, fun ⟨s, hs, hbelow⟩ => hends.unique hs ▸ hbelow⟩
  · rw [classify_eq_error_iff, resolveStandard_eq_error_iff]
  · rw [← exists_resolveStandard_iff]
    constructor
    · rintro ⟨k, hk⟩
      obtain ⟨xs, hxs, -⟩ := classify_eq_ok_iff.1 hk
      exact ⟨xs, hxs⟩
    · rintro ⟨xs, hxs⟩
      exact ⟨_, classify_eq_ok_iff.2 ⟨xs, hxs, rfl⟩⟩

/-- The classification of the registry in `sample`. -/
def sampleClassification : Classification :=
  let resolved (name : String) (body : CommandBody) (handle? : Option String)
      (owner? : Option Extension) (s : Signature) : Resolved :=
    ⟨⟨name, none, body⟩, s, handle?, owner?, false⟩
  let device : Param := ⟨"VkDevice device", "device", "VkDevice", false⟩
  let owner : Extension := ⟨"VK_KHR_trim", [], [⟨none, ["vkTrimKHR"], []⟩], false⟩
  let trim : Signature := ⟨"void", [device]⟩
  { topLevel := [resolved "vkGetInstanceProcAddr" (.definition ⟨"T", []⟩) none none ⟨"T", []⟩]
    perDevice :=
      [resolved "vkTrimKHR" (.sameAs "vkTrim") (some "VkDevice") (some owner) trim,
        resolved "vkTrim" (.definition trim) (some "VkDevice") none trim,
        resolved "vkGetDeviceProcAddr" (.definition ⟨"T", [device]⟩) (some "VkDevice") none
          ⟨"T", [device]⟩] }

/-- Classifying the registry in `sample` gives its classification. -/
theorem classify_sample : sampleRegistry.classify = .ok sampleClassification := by
  decide +kernel

/-- The safety-critical alias in `sample` leads nowhere, and its commands are classified all the
same. -/
theorem classify_splits_sample :
    Registry.read {} sample = .ok sampleRegistry ∧
      sampleRegistry.classify = .ok sampleClassification ∧
      sampleClassification.Splits sampleRegistry :=
  ⟨read_sample, classify_sample, (classify_splits read_sample).1 _ classify_sample⟩

end Registry

end LayerHeaders
