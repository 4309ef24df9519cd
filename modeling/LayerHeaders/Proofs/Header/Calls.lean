import LayerHeaders.Proofs.Header.Forwarding

/-!
# What a call of a method does

A driver overrides some of the virtual methods of an interface. A call of a method that it does not
override runs the default body: it calls another method of the interface with the same arguments, or
returns a default value. So an alias does what the command does that it is an alias of, as long as it is not
overridden and its body forwards.

* `Returns`: what a call returns.
* `returns_iff_of_forward`: a forwarding method does what its target does.
* `default_bodies_forward`: which default bodies forward, and to what effect.
-/

namespace LayerHeaders.DriverInterface

/-! ## Calls -/

/-- A driver, as far as calls of its methods go. What a call returns may be an action, so that it stands
for the effect of the call as well. -/
structure Driver (α β : Type) where
  /-- The methods that it overrides, by their names. -/
  method? : String → Option (List α → β)
  /-- The default value of a type. -/
  value : String → β

section

variable {α β : Type} {driver : Driver α β} {i : Interface} {m m' : VirtualMethod} {args : List α} {v : β}

/-- **What a call of a method of an interface returns.** -/
inductive Returns (i : Interface) (driver : Driver α β) : VirtualMethod → List α → β → Prop
  /-- The driver overrides the method. -/
  | overridden {m : VirtualMethod} {args : List α} {f : List α → β}
      (hf : driver.method? m.name = some f) : Returns i driver m args (f args)
  /-- The default body calls a method of the interface with the arguments of the call. -/
  | forwarded {m m' : VirtualMethod} {args : List α} {v : β} (hown : driver.method? m.name = none)
      (hbody : m.body = .forward m'.name (m.params.map (·.name))) (hm' : m' ∈ i.methods)
      (hv : Returns i driver m' args v) : Returns i driver m args v
  /-- The default body calls no method, and returns a default value. -/
  | value {m : VirtualMethod} {args : List α} (hown : driver.method? m.name = none)
      (hbody : ∀ target arguments, m.body ≠ .forward target arguments) :
      Returns i driver m args (driver.value m.result)

/-- **A forwarding method does what its target does**, unless it is overridden. -/
theorem returns_iff_of_forward (hnames : (i.methods.map (·.name)).Nodup)
    (hown : driver.method? m.name = none)
    (hbody : m.body = .forward m'.name (m.params.map (·.name))) (hm' : m' ∈ i.methods) :
    Returns i driver m args v ↔ Returns i driver m' args v := by
  constructor
  · intro hv
    cases hv with
    | overridden hf =>
        rw [hown] at hf
        cases hf
    | forwarded _ hbody' hm'' hv =>
        rw [hbody] at hbody'
        -- the names agree, and a name has one method
        rw [List.inj_on_of_nodup_map hnames hm' hm'' (DefaultBody.forward.inj hbody').1]
        exact hv
    | value _ hnone => exact absurd hbody (hnone _ _)
  · exact Returns.forwarded hown hbody hm'

end

/-! ## Default bodies -/

variable {r : Registry} {d : Dialect} {document : String}

/-- **Which default bodies forward.** If a command on the alias chain of a method is visible wherever the
method is, the default body calls the nearest one with the arguments of the call, unless that is one of
the two resolvers; and then a call that is not overridden does what a call of that command does. If there
is none, the body returns a default value. -/
theorem default_bodies_forward (h : Registry.read d document = .ok r) {header : Header}
    (hh : DriverInterface.header r = .ok header) :
    ∃ lines interfaces, walk none header.body = some lines ∧ HoldsInterfaces r lines interfaces ∧
      ∀ i ∈ interfaces, ∀ m ∈ i.methods, ∀ c, HasMethod r i.handle c → c.name = m.name →
        ((∃ k e, r.link c.command (k + 1) = some e ∧ r.VisibleUnder m.guard? e) →
          ∃ e, r.NearestVisible c e ∧
            (e.name ≠ r.dialect.instanceResolver → e.name ≠ r.dialect.deviceResolver →
              m.body = .forward e.name (m.params.map (·.name)) ∧
                ∃ m' ∈ i.methods, m'.name = e.name ∧ m'.result = m.result ∧ m'.params = m.params ∧
                  ∀ (α β : Type) (driver : Driver α β), driver.method? m.name = none → ∀ args v,
                    Returns i driver m args v ↔ Returns i driver m' args v)) ∧
        ((∀ k e, r.link c.command (k + 1) = some e → ¬ r.VisibleUnder m.guard? e) →
          m.body = if m.result = "void" then .nothing else .value) := by
  obtain ⟨lines, interfaces, hwalk, hholds, hmethods⟩ := exists_interfaces h hh
  refine ⟨lines, interfaces, hwalk, hholds, fun i hi m hm c hc hname => ?_⟩
  obtain ⟨c', hc', rfl⟩ := (hmethods i hi m).1 hm
  obtain rfl := HasMethod.eq_of_name h hc hc' hname
  have hguard : (method r c).guard? = c.guard? := (Registry.guard?_of_resolve hc.resolve_eq).symm
  rw [hguard]
  refine ⟨?_, fun hnone => ?_⟩
  · rintro ⟨k, e', hlink, hvisible⟩
    obtain ⟨e, he⟩ := Registry.exists_nearestVisible hc.resolve_eq hlink hvisible
    refine ⟨e, he, fun hinstance hdevice => ?_⟩
    have hres : isResolver r.dialect e.name = false := isResolver_eq_false_iff.2 ⟨hinstance, hdevice⟩
    have hbody : body r c = .forward e.name ((c.params.drop 1).map (·.name)) :=
      (body_eq_forward_iff hc.resolve_eq).2 ⟨⟨e, he, rfl⟩, rfl⟩
    obtain ⟨y, hy, rfl, hsignature⟩ := exists_method_of_nearestVisible h hc he hres
    have hm' : method r y ∈ i.methods := (hmethods i hi _).2 ⟨y, hy, rfl⟩
    refine ⟨hbody, method r y, hm', rfl, ?_, ?_, fun α β driver hown args v => ?_⟩
    · exact congrArg Signature.result hsignature
    · show y.params.drop 1 = c.params.drop 1
      unfold Resolved.params
      rw [hsignature]
    · exact returns_iff_of_forward (hholds.names_nodup i hi) hown hbody hm'
  · show body r c = if c.result = "void" then .nothing else .value
    unfold body
    rw [(Registry.forwardTarget?_eq_none_iff hc.resolve_eq).2 hnone]
    exact ite_not ..

/-- A driver that overrides `vkBindEXT` alone. -/
def bindDriver : Driver ℕ ℕ where
  method? name := if name = "vkBindEXT" then some List.sum else none
  value _ := 0

/-- The alias in `aliases` of a command of its own extension returns what the driver returns for that
command. -/
theorem default_bodies_forward_aliases :
    Registry.read {} aliases = .ok aliasesRegistry ∧
      ∃ header lines interfaces, DriverInterface.header aliasesRegistry = .ok header ∧
        walk none header.body = some lines ∧ HoldsInterfaces aliasesRegistry lines interfaces ∧
        withinText <:+: lines ∧ ∃ i ∈ interfaces, ∃ m ∈ i.methods, m.name = "vkBind2EXT" ∧ Returns i bindDriver m [3] 3 := by
  obtain ⟨header, written, hh, hwritten, htext⟩ := exists_lines_aliases
  obtain ⟨lines, interfaces, hwalk, hholds, hbodies⟩ := default_bodies_forward read_aliases hh
  rw [hwritten] at hwalk
  obtain rfl := Option.some.inj hwalk
  have hc : HasMethod aliasesRegistry "VkDevice" aliasesCommands[2] :=
    hasMethod_aliases (by decide) (by decide)
  obtain ⟨i, hi, hhandle, m, hm, hof⟩ := hholds.complete _ _ hc
  have hvisible : ∃ k e, aliasesRegistry.link aliasesCommands[2].command (k + 1) = some e ∧
      aliasesRegistry.VisibleUnder m.guard? e :=
    ⟨0, aliasesCommands[0].command, by decide, by decide, Or.inr (by rw [hof.guard?_eq]; decide)⟩
  obtain ⟨e, he, hforward⟩ := (hbodies i hi m hm _ (hhandle ▸ hc) hof.name_eq.symm).1 hvisible
  have hname : e.name = "vkBindEXT" := by
    have htarget := (Registry.forwardTarget?_eq_some_iff hc.resolve_eq).2 ⟨e, he, rfl⟩
    rw [show aliasesRegistry.forwardTarget? aliasesCommands[2] = some "vkBindEXT" by decide +kernel]
      at htarget
    exact (Option.some.inj htarget).symm
  obtain ⟨-, m', -, hname', -, -, hreturns⟩ := hforward (by rw [hname]; decide) (by rw [hname]; decide)
  have hown : bindDriver.method? m.name = none := by
    rw [hof.name_eq]
    rfl
  have hcalled : bindDriver.method? m'.name = some List.sum := by
    rw [hname', hname]
    rfl
  exact ⟨read_aliases, header, written, interfaces, hh, hwritten, hholds, htext, i, hi, m, hm,
    hof.name_eq, (hreturns ℕ ℕ bindDriver hown [3] 3).2 (.overridden hcalled)⟩

/-- The alias in `aliases` of a command of another extension returns a default value, though its target is
of the standard profile. -/
theorem default_across_extensions :
    Registry.read {} aliases = .ok aliasesRegistry ∧
      (∃ header lines, DriverInterface.header aliasesRegistry = .ok header ∧
        walk none header.body = some lines ∧
        [⟨some "VK_KHR_bind", 1, "virtual T vkBindKHR("⟩,
          ⟨some "VK_KHR_bind", 2, "U flags)"⟩,
          ⟨some "VK_KHR_bind", 1, "\x7b return \x7b\x7d; \x7d"⟩] <:+: lines) ∧
      ∃ a b, aliasesRegistry.command? "vkBindKHR" = some a ∧ a.target? = some "vkBindEXT" ∧
        aliasesRegistry.command? "vkBindEXT" = some b ∧ aliasesRegistry.isRestricted b = false :=
  ⟨read_aliases, exists_lines_of_any _ _ (by decide +kernel), aliasesCommands[1].command,
    aliasesCommands[0].command, by decide, by decide, by decide, by decide⟩

end LayerHeaders.DriverInterface
