import LayerHeaders.Proofs.Traversal
import LayerHeaders.Registry.Alias
import Mathlib.Data.Option.Basic
import Mathlib.Tactic.IntervalCases

/-!
# Where an alias chain leads

The alias chain of a declaration is described without the names that were passed: `Registry.link` is the
declaration after a number of steps, and `Registry.chainName` the name that leads to it. A chain stops at
the first step that is a definition, or whose target is not declared or was passed before, and
`Registry.StopsWith` says what resolving the command then gives.

* `signature_eq_iff`: resolving a command gives what the first stop of its chain says.
* `fresh_of_link_succ_eq_none`: a chain from an indexed declaration passes no name twice before it leads
  nowhere, so a repeated name means that it goes on for ever.
* `resolve_follows_chain`: resolution in terms of the chain, for a declaration and for a name.
-/

namespace LayerHeaders.Registry

/-! ## Steps along a chain -/

/-- The declaration that the aliases of `c` lead to in `k` steps. -/
def link (r : Registry) (c : Command) : ℕ → Option Command
  | 0 => some c
  | k + 1 => (r.link c k).bind fun e => e.target?.bind r.command?

/-- The name after `k` steps along the aliases of `c`: its own, and then the target of each alias. -/
def chainName (r : Registry) (c : Command) : ℕ → Option String
  | 0 => some c.name
  | k + 1 => (r.link c k).bind (·.target?)

/-- No name occurs twice among the first `k + 1` names of a chain. -/
def Fresh (r : Registry) (c : Command) (k : ℕ) : Prop :=
  ∀ i j, i < j → j ≤ k → r.chainName c i ≠ r.chainName c j

/-- What resolving `c` gives if its chain stops at step `k`. -/
inductive StopsWith (r : Registry) (c : Command) (k : ℕ) : Except RegistryError Signature → Prop
  /-- The step is a definition. -/
  | definition {e : Command} {s : Signature} (hlink : r.link c k = some e)
      (hbody : e.body = .definition s) : StopsWith r c k (.ok s)
  /-- The step is an alias of a name that is not declared. -/
  | undeclared {name target : String} (hname : r.chainName c k = some name)
      (htarget : r.chainName c (k + 1) = some target) (hnone : r.command? target = none) :
      StopsWith r c k (.error (.unresolvedAlias name target))
  /-- The step is an alias of a declared name that was passed before. -/
  | cyclic {target : String} {e : Command} {i : ℕ} (htarget : r.chainName c (k + 1) = some target)
      (hdeclared : r.command? target = some e) (hi : i ≤ k) (hpassed : r.chainName c i = some target) :
      StopsWith r c k (.error (.aliasCycle c.name))

/-- The signature that the alias chain of `c` ends in. -/
def EndsIn (r : Registry) (c : Command) (s : Signature) : Prop :=
  ∃ k e, r.link c k = some e ∧ e.body = .definition s

variable {r : Registry} {c : Command}

/-- An alias leads to the declaration of its target. -/
theorem link_succ {k : ℕ} {e : Command} (h : r.link c k = some e) :
    r.link c (k + 1) = e.target?.bind r.command? := by
  rw [link, h, Option.bind_some]

/-- An alias leads to its target. -/
theorem chainName_succ {k : ℕ} {e : Command} (h : r.link c k = some e) :
    r.chainName c (k + 1) = e.target? := by
  rw [chainName, h, Option.bind_some]

/-- After the first step, a name leads to its indexed declaration. -/
theorem link_succ_eq_bind (k : ℕ) :
    r.link c (k + 1) = (r.chainName c (k + 1)).bind r.command? := by
  rw [link, chainName, Option.bind_assoc]

/-- The name that leads to a declaration is its name. -/
theorem chainName_of_link {k : ℕ} {e : Command} (h : r.link c k = some e) :
    r.chainName c k = some e.name := by
  cases k with
  | zero =>
      cases h
      rfl
  | succ k =>
      rw [link_succ_eq_bind, Option.bind_eq_some_iff] at h
      obtain ⟨target, htarget, hfound⟩ := h
      rw [htarget, name_of_command? hfound]

/-- A chain that goes on to a step passes all earlier ones. -/
theorem exists_link_of_le {j k : ℕ} (hjk : j ≤ k) {e : Command} (h : r.link c k = some e) :
    ∃ e', r.link c j = some e' := by
  induction k generalizing e with
  | zero =>
      obtain rfl := Nat.le_zero.1 hjk
      exact ⟨e, h⟩
  | succ k ih =>
      rcases Nat.lt_or_eq_of_le hjk with hlt | rfl
      · rw [link, Option.bind_eq_some_iff] at h
        obtain ⟨e', he', -⟩ := h
        exact ih (Nat.le_of_lt_succ hlt) he'
      · exact ⟨e, h⟩

/-- A definition leads to no name. -/
theorem chainName_succ_ne_some {k : ℕ} {e : Command} {s : Signature} (h : r.link c k = some e)
    (hs : e.body = .definition s) (target : String) : r.chainName c (k + 1) ≠ some target := by
  rw [chainName_succ h, Command.target?, hs]
  intro htarget
  cases htarget

/-- Nothing follows a definition. -/
theorem link_eq_none_of_definition {k j : ℕ} {e : Command} {s : Signature}
    (h : r.link c k = some e) (hs : e.body = .definition s) (hkj : k < j) : r.link c j = none := by
  have hnext : r.link c (k + 1) = none := by
    rw [link_succ h, Command.target?, hs]
    rfl
  rw [Option.eq_none_iff_forall_not_mem]
  intro e' he'
  obtain ⟨e'', he''⟩ := exists_link_of_le hkj he'
  rw [hnext] at he''
  cases he''

/-- A chain ends in one signature at most. -/
theorem EndsIn.unique {s t : Signature} (hs : r.EndsIn c s) (ht : r.EndsIn c t) : s = t := by
  obtain ⟨k, e, hk, hes⟩ := hs
  obtain ⟨j, f, hj, hft⟩ := ht
  rcases Nat.lt_trichotomy k j with hkj | rfl | hjk
  · rw [link_eq_none_of_definition hk hes hkj] at hj
    cases hj
  · rw [hk] at hj
    cases hj
    rw [hes] at hft
    cases hft
    rfl
  · rw [link_eq_none_of_definition hj hft hjk] at hk
    cases hk

/-! ## The computed chain, by cases -/

section cases

variable {visited : List String} {e next : Command} {target : String}

/-- A definition ends the chain. -/
theorem aliasChainFrom_of_definition {s : Signature} (hbody : e.body = .definition s) :
    r.aliasChainFrom visited e = ⟨[], .definition s⟩ := by
  rw [aliasChainFrom]
  split
  · next s' hs' =>
      rw [hbody] at hs'
      cases hs'
      rfl
  · next target hs' =>
      rw [hbody] at hs'
      cases hs'

/-- An alias goes on with what its target leads to. -/
theorem aliasChainFrom_of_alias (hbody : e.body = .sameAs target) :
    r.aliasChainFrom visited e =
      match r.command? target with
      | none => ⟨[], .undeclared e.name target⟩
      | some next =>
        if next.name ∈ visited then ⟨[], .cyclic⟩
        else ⟨next :: (r.aliasChainFrom (next.name :: visited) next).links,
          (r.aliasChainFrom (next.name :: visited) next).ending⟩ := by
  rw [aliasChainFrom]
  split
  · next s hs =>
      rw [hbody] at hs
      cases hs
  · next target' htarget' =>
      rw [hbody] at htarget'
      cases htarget'
      split
      · next hnone => rw [hnone]
      · next next hnext =>
          rw [hnext]
          rfl

end cases

/-! ## The first stop -/

/-- What the way in which the chain of `c` ends says about resolving it. -/
def endResult (c : Command) : ChainEnd → Except RegistryError Signature
  | .definition s => .ok s
  | .undeclared name target => .error (.unresolvedAlias name target)
  | .cyclic => .error (.aliasCycle c.name)

/-- The signature of a command is read off the end of its chain. -/
theorem signature_eq_endResult (r : Registry) (c : Command) :
    r.signature c = endResult c (r.aliasChain c).ending := by
  unfold signature
  rcases (r.aliasChain c).ending with s | ⟨name, target⟩ | _ <;> rfl

/-- The names that were passed up to the next step, given those up to this one. -/
theorem passed_succ {k : ℕ} {visited : List String} {e : Command}
    (hvisited : ∀ n, n ∈ visited ↔ ∃ i ≤ k, r.chainName c i = some n)
    (hnext : r.link c (k + 1) = some e) (n : String) :
    n ∈ e.name :: visited ↔ ∃ i ≤ k + 1, r.chainName c i = some n := by
  have hname := chainName_of_link hnext
  rw [List.mem_cons, hvisited]
  constructor
  · rintro (rfl | ⟨i, hi, hn⟩)
    · exact ⟨k + 1, Nat.le_refl _, hname⟩
    · exact ⟨i, Nat.le_succ_of_le hi, hn⟩
  · rintro ⟨i, hi, hn⟩
    rcases Nat.lt_or_eq_of_le hi with hlt | rfl
    · exact Or.inr ⟨i, Nat.le_of_lt_succ hlt, hn⟩
    · rw [hname] at hn
      exact Or.inl (Option.some.inj hn).symm

/-- A name that was not passed keeps the names distinct. -/
theorem Fresh.succ {k : ℕ} {e : Command} (h : r.Fresh c k) (hnext : r.link c (k + 1) = some e)
    (hnew : ∀ i ≤ k, r.chainName c i ≠ some e.name) : r.Fresh c (k + 1) := by
  intro i j hij hj heq
  rcases Nat.lt_or_eq_of_le hj with hlt | rfl
  · exact h i j hij (Nat.le_of_lt_succ hlt) heq
  · rw [chainName_of_link hnext] at heq
    exact hnew i (Nat.le_of_lt_succ hij) heq

/-- **The chain that is computed ends at the first stop.** The invariant: `e` is the declaration after
`k` steps, no name has occurred twice, and `visited` holds the names so far. -/
theorem exists_stop_aliasChainFrom {visited : List String} {e : Command} {k : ℕ}
    (hlink : r.link c k = some e) (hfresh : r.Fresh c k)
    (hvisited : ∀ n, n ∈ visited ↔ ∃ i ≤ k, r.chainName c i = some n) :
    ∃ j, r.Fresh c j ∧ r.StopsWith c j (endResult c (r.aliasChainFrom visited e).ending) := by
  induction visited, e using aliasChainFrom.induct r generalizing k with
  | case1 visited e s hbody =>
      rw [aliasChainFrom_of_definition hbody]
      exact ⟨k, hfresh, .definition hlink hbody⟩
  | case2 visited e target hbody hnone =>
      have htarget : r.chainName c (k + 1) = some target := by
        rw [chainName_succ hlink, Command.target?, hbody]
      rw [aliasChainFrom_of_alias hbody, hnone]
      exact ⟨k, hfresh, .undeclared (chainName_of_link hlink) htarget hnone⟩
  | case3 visited e target hbody next hnext hmem =>
      have htarget : r.chainName c (k + 1) = some target := by
        rw [chainName_succ hlink, Command.target?, hbody]
      obtain ⟨i, hi, hpassed⟩ := (hvisited next.name).1 hmem
      rw [name_of_command? hnext] at hpassed
      rw [aliasChainFrom_of_alias hbody, hnext]
      simp only [hmem, if_true]
      exact ⟨k, hfresh, .cyclic htarget hnext hi hpassed⟩
  | case4 visited e target hbody next hnext hmem ih =>
      have hlink' : r.link c (k + 1) = some next := by
        rw [link_succ hlink, Command.target?, hbody]
        exact hnext
      have hnew : ∀ i ≤ k, r.chainName c i ≠ some next.name := fun i hi hn =>
        hmem ((hvisited next.name).2 ⟨i, hi, hn⟩)
      rw [aliasChainFrom_of_alias hbody, hnext]
      simp only [hmem, if_false]
      exact ih hlink' (hfresh.succ hlink' hnew) (passed_succ hvisited hlink')

/-- A chain that stops at a step does not go on to a next step with a new name. -/
theorem StopsWith.not_fresh_succ {k : ℕ} {out : Except RegistryError Signature} {e : Command}
    (h : r.StopsWith c k out) (hnext : r.link c (k + 1) = some e) : ¬ r.Fresh c (k + 1) := by
  cases h with
  | definition hlink hbody =>
      rw [link_eq_none_of_definition hlink hbody (Nat.lt_succ_self k)] at hnext
      cases hnext
  | undeclared _ htarget hnone =>
      rw [link_succ_eq_bind, htarget, Option.bind_some, hnone] at hnext
      cases hnext
  | @cyclic _ _ i htarget _ hi hpassed =>
      intro hfresh
      exact hfresh i (k + 1) (Nat.lt_succ_of_le hi) (Nat.le_refl _) (hpassed.trans htarget.symm)

/-- A chain that stops at a step has come to it. -/
theorem StopsWith.exists_link {k : ℕ} {out : Except RegistryError Signature}
    (h : r.StopsWith c k out) : ∃ e, r.link c k = some e := by
  have hofName : ∀ target, r.chainName c (k + 1) = some target → ∃ e, r.link c k = some e := by
    intro target htarget
    obtain ⟨e, he, -⟩ := Option.bind_eq_some_iff.1 htarget
    exact ⟨e, he⟩
  cases h with
  | definition hlink _ => exact ⟨_, hlink⟩
  | undeclared _ htarget _ => exact hofName _ htarget
  | cyclic htarget _ _ _ => exact hofName _ htarget

/-- No stop lies before another one, as long as no name has occurred twice. -/
theorem StopsWith.not_lt {j k : ℕ} {out out' : Except RegistryError Signature}
    (hj : r.StopsWith c j out) (hk : r.StopsWith c k out') (hfresh : r.Fresh c k) : ¬ j < k := by
  intro hjk
  obtain ⟨e, he⟩ := hk.exists_link
  obtain ⟨e', he'⟩ := exists_link_of_le hjk he
  exact hj.not_fresh_succ he' fun i i' hi hi' => hfresh i i' hi (Nat.le_trans hi' hjk)

/-- A step stops a chain in one way. -/
theorem StopsWith.unique {k : ℕ} {out out' : Except RegistryError Signature}
    (h : r.StopsWith c k out) (h' : r.StopsWith c k out') : out = out' := by
  cases h with
  | definition hlink hbody =>
      cases h' with
      | definition hlink' hbody' =>
          rw [hlink] at hlink'
          cases hlink'
          rw [hbody] at hbody'
          cases hbody'
          rfl
      | undeclared _ htarget _ => exact absurd htarget (chainName_succ_ne_some hlink hbody _)
      | cyclic htarget _ _ _ => exact absurd htarget (chainName_succ_ne_some hlink hbody _)
  | undeclared hname htarget hnone =>
      cases h' with
      | definition hlink hbody => exact absurd htarget (chainName_succ_ne_some hlink hbody _)
      | undeclared hname' htarget' _ =>
          rw [hname] at hname'
          rw [htarget] at htarget'
          cases hname'
          cases htarget'
          rfl
      | cyclic htarget' hdeclared _ _ =>
          rw [htarget] at htarget'
          cases htarget'
          rw [hnone] at hdeclared
          cases hdeclared
  | cyclic htarget hdeclared _ _ =>
      cases h' with
      | definition hlink hbody => exact absurd htarget (chainName_succ_ne_some hlink hbody _)
      | undeclared _ htarget' hnone =>
          rw [htarget] at htarget'
          cases htarget'
          rw [hnone] at hdeclared
          cases hdeclared
      | cyclic _ _ _ _ => rfl

/-- **Resolving a command gives what the first stop of its chain says.** -/
theorem signature_eq_iff {out : Except RegistryError Signature} :
    r.signature c = out ↔ ∃ k, r.Fresh c k ∧ r.StopsWith c k out := by
  have hfresh : r.Fresh c 0 := fun i j hij hj => absurd hij (by omega)
  have hvisited : ∀ n, n ∈ [c.name] ↔ ∃ i ≤ 0, r.chainName c i = some n := by
    intro n
    rw [List.mem_singleton]
    constructor
    · rintro rfl
      exact ⟨0, Nat.le_refl 0, rfl⟩
    · rintro ⟨i, hi, hn⟩
      obtain rfl := Nat.le_zero.1 hi
      exact (Option.some.inj hn).symm
  obtain ⟨j, hj, hstop⟩ := exists_stop_aliasChainFrom (r := r) (c := c) rfl hfresh hvisited
  rw [signature_eq_endResult]
  constructor
  · rintro rfl
    exact ⟨j, hj, hstop⟩
  · rintro ⟨k, hk, hstop'⟩
    rcases Nat.lt_trichotomy j k with hlt | rfl | hlt
    · exact absurd hlt (hstop.not_lt hstop' hk)
    · exact hstop.unique hstop'
    · exact absurd hlt (hstop'.not_lt hstop hj)

/-- A command that resolves has the signature that its chain ends in. -/
theorem endsIn_of_resolve {x : Resolved} (h : r.resolve c = .ok x) : r.EndsIn c x.signature := by
  obtain ⟨s, hs, hx⟩ := bind_eq_ok_iff.1 h
  obtain ⟨k, -, hstop⟩ := signature_eq_iff.1 hs
  cases hstop with
  | definition hlink hbody =>
      cases hx
      exact ⟨k, _, hlink, hbody⟩

/-- Resolving adds to the signature, and fails as it does. -/
theorem map_signature_resolve (r : Registry) (c : Command) :
    (r.resolve c).map (·.signature) = r.signature c := by
  unfold resolve
  rcases r.signature c with e | s <;> rfl

/-! ## Chains from a name -/

section indexed

/-- From an indexed declaration on, each name leads to its indexed declaration. -/
theorem link_eq_bind (hc : r.command? c.name = some c) (k : ℕ) :
    r.link c k = (r.chainName c k).bind r.command? := by
  cases k with
  | zero => exact hc.symm
  | succ k => exact link_succ_eq_bind k

/-- Two steps with one name are followed by the same declarations. -/
theorem link_add_eq (hc : r.command? c.name = some c) {i j : ℕ}
    (h : r.chainName c i = r.chainName c j) (m : ℕ) : r.link c (i + m) = r.link c (j + m) := by
  induction m with
  | zero => rw [Nat.add_zero, Nat.add_zero, link_eq_bind hc, link_eq_bind hc, h]
  | succ m ih => rw [← Nat.add_assoc, ← Nat.add_assoc, link, link, ih]

/-- **A chain from an indexed declaration that leads nowhere after a step has passed no name twice.** A
repeated name would make the chain go round, and never stop. -/
theorem fresh_of_link_succ_eq_none (hc : r.command? c.name = some c) {k : ℕ} {e : Command}
    (hlink : r.link c k = some e) (hnext : r.link c (k + 1) = none) : r.Fresh c k := by
  intro i j hij hjk heq
  have hround := link_add_eq hc heq (k + 1 - j)
  rw [show j + (k + 1 - j) = k + 1 by omega, hnext] at hround
  obtain ⟨e', he'⟩ := exists_link_of_le (show i + (k + 1 - j) ≤ k by omega) hlink
  rw [hround] at he'
  cases he'

/-- A definition on the chain from an indexed declaration decides how it resolves. -/
theorem signature_of_link (hc : r.command? c.name = some c) {k : ℕ} {e : Command} {s : Signature}
    (hlink : r.link c k = some e) (hbody : e.body = .definition s) : r.signature c = .ok s := by
  have hnext := link_eq_none_of_definition hlink hbody (Nat.lt_succ_self k)
  exact signature_eq_iff.2 ⟨k, fresh_of_link_succ_eq_none hc hlink hnext, .definition hlink hbody⟩

/-- A name that is not declared decides how the chain from an indexed declaration resolves. -/
theorem signature_of_undeclared (hc : r.command? c.name = some c) {k : ℕ} {target : String}
    (htarget : r.chainName c k = some target) (hnone : r.command? target = none) :
    ∃ name, r.signature c = .error (.unresolvedAlias name target) := by
  cases k with
  | zero =>
      cases htarget
      rw [hc] at hnone
      cases hnone
  | succ k =>
      obtain ⟨e, hlink, -⟩ := Option.bind_eq_some_iff.1 htarget
      have hnext : r.link c (k + 1) = none := by
        rw [link_succ_eq_bind, htarget, Option.bind_some, hnone]
      exact ⟨e.name, signature_eq_iff.2 ⟨k, fresh_of_link_succ_eq_none hc hlink hnext,
        .undeclared (chainName_of_link hlink) htarget hnone⟩⟩

/-- **Aliases from a name are cyclic exactly when they lead neither to a definition nor to a name that
is not declared.** -/
theorem signature_eq_cyclic_iff (hc : r.command? c.name = some c) :
    (∃ n, r.signature c = .error (.aliasCycle n)) ↔
      ∀ k, (∀ e s, r.link c k = some e → e.body ≠ .definition s) ∧
        ∀ target, r.chainName c k = some target → r.command? target ≠ none := by
  constructor
  · rintro ⟨n, hn⟩ k
    refine ⟨fun e s hlink hbody => ?_, fun target htarget hnone => ?_⟩
    · rw [signature_of_link hc hlink hbody] at hn
      cases hn
    · obtain ⟨name, hname⟩ := signature_of_undeclared hc htarget hnone
      rw [hname] at hn
      cases hn
  · intro hall
    obtain ⟨k, -, hstop⟩ := signature_eq_iff.1 (Eq.refl (r.signature c))
    generalize r.signature c = out at hstop ⊢
    cases hstop with
    | definition hlink hbody => exact absurd hbody ((hall k).1 _ _ hlink)
    | undeclared _ htarget hnone => exact absurd hnone ((hall (k + 1)).2 _ htarget)
    | cyclic _ _ _ _ => exact ⟨c.name, rfl⟩

end indexed

/-! ## Resolution -/

/-- Resolving a name fails as reading the signature of its declaration does. -/
theorem resolveNamed_eq_error_iff {name : String} (hc : r.command? name = some c)
    {e : RegistryError} : r.resolveNamed name = .error e ↔ r.signature c = .error e := by
  rw [resolveNamed, hc]
  show r.resolve c = .error e ↔ _
  rw [← map_signature_resolve]
  rcases r.resolve c with e' | x
  · simp [Except.map]
  · simp [Except.map]

/-- **Resolution follows the alias chain.** For every declaration it gives what the first stop of the
chain says: the signature of a definition, the first name that is not declared, or a cycle when a name
comes back. For a declared name it finds a cycle exactly when the chain leads neither to a definition
nor to an undeclared name, and a definition at any depth is found. -/
theorem resolve_follows_chain (r : Registry) :
    (∀ c out, (r.resolve c).map (·.signature) = out ↔ ∃ k, r.Fresh c k ∧ r.StopsWith c k out) ∧
      ∀ name c, r.command? name = some c →
        ((∃ n, r.resolveNamed name = .error (.aliasCycle n)) ↔
          ∀ k, (∀ e s, r.link c k = some e → e.body ≠ .definition s) ∧
            ∀ target, r.chainName c k = some target → r.command? target ≠ none) ∧
        ∀ k e s, r.link c k = some e → e.body = .definition s →
          ∃ x, r.resolveNamed name = .ok x ∧ x.signature = s := by
  refine ⟨fun c out => ?_, fun name c hc => ?_⟩
  · rw [map_signature_resolve]
    exact signature_eq_iff
  · have hown : r.command? c.name = some c := by
      rw [name_of_command? hc]
      exact hc
    refine ⟨?_, fun k e s hlink hbody => ?_⟩
    · rw [← signature_eq_cyclic_iff hown]
      exact exists_congr fun n => resolveNamed_eq_error_iff hc
    · rw [resolveNamed, hc]
      show ∃ x, r.resolve c = .ok x ∧ x.signature = s
      rw [resolve, signature_of_link hown hlink hbody]
      exact ⟨_, rfl, rfl⟩

/-- A registry with a chain that runs into a cycle away from its start. -/
def rho : Registry :=
  let commands : List Command :=
    [⟨"vkA", none, .sameAs "vkB"⟩, ⟨"vkB", none, .sameAs "vkC"⟩, ⟨"vkC", none, .sameAs "vkB"⟩]
  { dialect := {}, handles := [], structs := [], commands, index := commands, extensions := []
    commandOwners := [], typeOwners := [], restrictedCommands := [], restrictedTypes := [] }

/-- The start of a chain that runs into a cycle is reported, and the chain never leaves the cycle. -/
theorem resolve_follows_chain_rho :
    rho.command? "vkA" = some ⟨"vkA", none, .sameAs "vkB"⟩ ∧
      (rho.resolve ⟨"vkA", none, .sameAs "vkB"⟩).map (·.signature) = .error (.aliasCycle "vkA") ∧
      ∀ k, (∀ e s, rho.link ⟨"vkA", none, .sameAs "vkB"⟩ k = some e → e.body ≠ .definition s) ∧
        ∀ target, rho.chainName ⟨"vkA", none, .sameAs "vkB"⟩ k = some target →
          rho.command? target ≠ none := by
  have hfound : rho.command? "vkA" = some ⟨"vkA", none, .sameAs "vkB"⟩ := by decide
  have hfresh : rho.Fresh ⟨"vkA", none, .sameAs "vkB"⟩ 2 := by
    intro i j hij hj
    interval_cases j <;> interval_cases i <;> decide
  have hstop : rho.StopsWith ⟨"vkA", none, .sameAs "vkB"⟩ 2 (.error (.aliasCycle "vkA")) :=
    .cyclic (i := 1) rfl (e := ⟨"vkB", none, .sameAs "vkC"⟩) (by decide) (by decide) rfl
  have hout := ((resolve_follows_chain rho).1 _ _).2 ⟨2, hfresh, hstop⟩
  refine ⟨hfound, hout, ((resolve_follows_chain rho).2 "vkA" _ hfound).1.1 ⟨"vkA", ?_⟩⟩
  exact (resolveNamed_eq_error_iff hfound).2 (by rw [← map_signature_resolve, hout])

end LayerHeaders.Registry
