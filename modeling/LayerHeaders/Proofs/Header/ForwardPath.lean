import LayerHeaders.Proofs.Header.Forwarding
import Mathlib.Logic.Relation

/-!
# The search for the target of a default body

The target of a default body can be searched for by going from alias to alias, without keeping the names
that were passed. The search ends because the command was resolved before: its alias chain ends in a
definition, so there are only so many aliases to go over. The target is further on that chain, and its own
chain is what is left of it. So default bodies that forward one after the other never lead back.

* `Registry.searchForward`: the search, in a number of steps.
* `Registry.searchForward_of_resolve`: it ends, and finds the target.
* `Registry.ForwardsTo`: which command a default body calls.
* `Registry.link_of_transGen`: a run of default bodies goes along the alias chain.
* `forwarding_exact`: all of this for the commands in the groups of an interface.
-/

namespace LayerHeaders

namespace Registry

variable {r : Registry} {c y : Resolved} {e : Command} {guard? : Option String}

instance (r : Registry) (guard? : Option String) (e : Command) : Decidable (r.VisibleUnder guard? e) :=
  inferInstanceAs (Decidable (_ ∧ _))

/-! ## The search -/

/-- The name of the first command after `e`, from alias to alias, that is visible under a guard. There is
no result if it takes more than this number of steps. -/
def searchForward (r : Registry) (guard? : Option String) : ℕ → Command → Option (Option String)
  | 0, _ => none
  | n + 1, e =>
    match e.target?.bind r.command? with
    | none => some none
    | some next =>
      if r.VisibleUnder guard? next then some (some next.name) else r.searchForward guard? n next

/-- The target is the first visible command among the links. -/
theorem forwardTarget?_eq_find? (r : Registry) (c : Resolved) :
    r.forwardTarget? c =
      ((r.aliasChain c.command).links.find? (r.VisibleUnder c.guard? ·)).map (·.name) := by
  unfold forwardTarget?
  dsimp only
  congr 2
  funext e
  rw [Bool.eq_iff_iff, decide_eq_true_eq]
  exact visible_iff c.guard? e

/-- **The search along a chain that ends in a definition** takes one step for each link and one for the
definition, and finds the first visible link. -/
theorem searchForward_aliasChainFrom {visited : List String} {s : Signature}
    (h : (r.aliasChainFrom visited e).ending = .definition s) {n : ℕ}
    (hn : (r.aliasChainFrom visited e).links.length < n) :
    r.searchForward guard? n e =
      some (((r.aliasChainFrom visited e).links.find? (r.VisibleUnder guard? ·)).map (·.name)) := by
  induction visited, e using aliasChainFrom.induct r generalizing n with
  | case1 visited e s hbody =>
      rw [aliasChainFrom_of_definition hbody] at hn ⊢
      obtain ⟨n, rfl⟩ := Nat.exists_eq_succ_of_ne_zero (Nat.ne_zero_of_lt hn)
      rw [searchForward, Command.target?, hbody]
      rfl
  | case2 visited e target hbody hnone =>
      rw [aliasChainFrom_of_alias hbody, hnone] at h
      cases h
  | case3 visited e target hbody next hnext hmem =>
      rw [aliasChainFrom_of_alias hbody, hnext] at h
      simp only [hmem, if_true] at h
      cases h
  | case4 visited e target hbody next hnext hmem ih =>
      rw [aliasChainFrom_of_alias hbody, hnext] at h hn ⊢
      simp only [hmem, if_false] at h hn ⊢
      obtain ⟨n, rfl⟩ := Nat.exists_eq_succ_of_ne_zero (Nat.ne_zero_of_lt hn)
      have hleft := Nat.lt_of_succ_lt_succ hn
      have hstep : e.target?.bind r.command? = some next := by
        rw [Command.target?, hbody]
        exact hnext
      rw [searchForward, hstep]
      dsimp only
      by_cases hvisible : r.VisibleUnder guard? next
      · rw [if_pos hvisible, List.find?_cons_of_pos (by simpa using hvisible), Option.map_some]
      · rw [if_neg hvisible, List.find?_cons_of_neg (by simpa using hvisible)]
        exact ih h hleft

/-- **The search ends for a command that resolves**, and finds the target. -/
theorem searchForward_of_resolve (hc : r.resolve c.command = .ok c) {n : ℕ}
    (hn : (r.aliasChain c.command).links.length < n) :
    r.searchForward c.guard? n c.command = some (r.forwardTarget? c) := by
  rw [forwardTarget?_eq_find?]
  exact searchForward_aliasChainFrom (ending_of_resolve hc) hn

/-! ## Runs of default bodies -/

/-- Whether the default body of the first command calls the second one. -/
def ForwardsTo (r : Registry) (c y : Resolved) : Prop :=
  r.forwardTarget? c = some y.name ∧ r.resolveNamed y.name = .ok y

/-- The name of a link resolves as the link does. -/
theorem resolveNamed_of_link {k : ℕ} (hlink : r.link c.command (k + 1) = some e) :
    r.resolveNamed e.name = r.resolve e := by
  rw [resolveNamed, command?_of_link hlink]

/-- **The step**: a default body calls a command further along the alias chain, which resolves. -/
theorem link_of_forwardsTo (hc : r.resolve c.command = .ok c) (h : r.ForwardsTo c y) :
    (∃ k, r.link c.command (k + 1) = some y.command) ∧ r.resolve y.command = .ok y := by
  obtain ⟨htarget, hy⟩ := h
  obtain ⟨e, ⟨k, hlink, -⟩, hname⟩ := (forwardTarget?_eq_some_iff hc).1 htarget
  rw [← hname, resolveNamed_of_link hlink] at hy
  have hcommand : y.command = e := command_of_resolve hy
  subst hcommand
  exact ⟨⟨k, hlink⟩, hy⟩

/-- **The run**: default bodies that call one another go along the alias chain of the first command. -/
theorem link_of_transGen (hc : r.resolve c.command = .ok c)
    (h : Relation.TransGen r.ForwardsTo c y) :
    (∃ k, r.link c.command (k + 1) = some y.command) ∧ r.resolve y.command = .ok y := by
  induction h with
  | single hstep => exact link_of_forwardsTo hc hstep
  | tail _ hstep ih =>
      obtain ⟨⟨j, hlink⟩, hresolve⟩ := ih
      obtain ⟨⟨k, hnext⟩, hy⟩ := link_of_forwardsTo hresolve hstep
      refine ⟨⟨j + 1 + k, ?_⟩, hy⟩
      rw [Nat.add_assoc (j + 1), link_add hlink]
      exact hnext

/-- **No link of a command that resolves has its name**: a name that comes back makes a cycle. -/
theorem name_ne_of_link (hc : r.resolve c.command = .ok c) {k : ℕ}
    (hlink : r.link c.command (k + 1) = some e) : e.name ≠ c.name := by
  obtain ⟨j, hfresh, hstop⟩ := signature_eq_iff.1 (resolve_eq_ok_iff.1 hc).1
  cases hstop with
  | definition hend hbody =>
      obtain ⟨hle, -⟩ := link_sub_of_definition hend hbody hlink
      have hne := hfresh 0 (k + 1) (Nat.succ_pos k) hle
      rw [chainName_of_link hlink] at hne
      intro heq
      apply hne
      rw [heq]
      rfl

end Registry

namespace DriverInterface

variable {d : Dialect} {document : String} {r : Registry} {gs : List HandleGroup} {g : HandleGroup}
  {c : Resolved}

/-- A command in the groups is of the standard profile, and resolved. -/
theorem resolve_of_mem_commands (hgs : groups r = .ok gs) (hg : g ∈ gs) (hc : c ∈ g.commands) :
    r.resolve c.command = .ok c := by
  obtain ⟨xs, hxs, -⟩ := groups_eq_ok_iff.1 hgs
  have hmem := ((mem_commands_iff_of_mem hxs hgs hg).1 hc).1
  exact ((Registry.mem_resolveStandard_iff hxs).1 hmem).2.2

/-- **The target of a default body is a command of the same group**, with the same signature. -/
theorem exists_mem_commands_of_forwardTarget? (h : Registry.read d document = .ok r)
    (hgs : groups r = .ok gs) (hg : g ∈ gs) (hc : c ∈ g.commands) {target : String}
    (htarget : r.forwardTarget? c = some target) :
    ∃ y ∈ g.commands, r.resolveNamed target = .ok y ∧ y.signature = c.signature ∧
      y.handle? = c.handle? := by
  have hresolve := resolve_of_mem_commands hgs hg hc
  obtain ⟨xs, hxs, -⟩ := groups_eq_ok_iff.1 hgs
  obtain ⟨e, he, rfl⟩ := (Registry.forwardTarget?_eq_some_iff hresolve).1 htarget
  obtain ⟨y, hmem, rfl, hsignature, hhandle⟩ := exists_mem_of_nearestVisible h hxs hresolve he
  have hgroup := ((mem_commands_iff_of_mem hxs hgs hg).1 hc).2
  have hy : y ∈ g.commands := (mem_commands_iff_of_mem hxs hgs hg).2 ⟨hmem, hhandle.trans hgroup⟩
  obtain ⟨k, hlink, -⟩ := he
  refine ⟨y, hy, ?_, hsignature, hhandle⟩
  rw [Registry.resolveNamed_of_link hlink]
  exact resolve_of_mem_commands hgs hg hy

/-- **The search for the target of a default body ends and is exact.** For every command in the groups of
an interface it ends after one step more than its alias chain has links, with the target, which is the
nearest command on the chain that is visible wherever the command is, or with nothing if none is visible.
The target is found by its name, among the commands of the same group, and has the same signature and
handle. Default bodies that call one another never come back to the command. -/
theorem forwarding_exact (h : Registry.read d document = .ok r) (hgs : groups r = .ok gs) (hg : g ∈ gs)
    (hc : c ∈ g.commands) :
    (∀ n, (r.aliasChain c.command).links.length < n →
        r.searchForward c.guard? n c.command = some (r.forwardTarget? c)) ∧
      (∀ target, r.forwardTarget? c = some target ↔ ∃ e, r.NearestVisible c e ∧ e.name = target) ∧
      (r.forwardTarget? c = none ↔
        ∀ k e, r.link c.command (k + 1) = some e → ¬ r.VisibleUnder c.guard? e) ∧
      (∀ target, r.forwardTarget? c = some target →
        ∃ y ∈ g.commands, r.resolveNamed target = .ok y ∧ y.signature = c.signature ∧
          y.handle? = c.handle?) ∧
      ∀ y, Relation.TransGen r.ForwardsTo c y → y.name ≠ c.name := by
  have hresolve := resolve_of_mem_commands hgs hg hc
  refine ⟨fun n hn => Registry.searchForward_of_resolve hresolve hn,
    fun target => Registry.forwardTarget?_eq_some_iff hresolve,
    Registry.forwardTarget?_eq_none_iff hresolve,
    fun target htarget => exists_mem_commands_of_forwardTarget? h hgs hg hc htarget, ?_⟩
  intro y hrun
  obtain ⟨⟨k, hlink⟩, -⟩ := Registry.link_of_transGen hresolve hrun
  exact Registry.name_ne_of_link hresolve hlink

/-- The alias in `aliases` of a command of its own extension forwards to that command in two steps, and
never to itself. -/
theorem forwarding_exact_aliases :
    Registry.read {} aliases = .ok aliasesRegistry ∧
      ∃ gs g c, groups aliasesRegistry = .ok gs ∧ g ∈ gs ∧ c ∈ g.commands ∧ c.name = "vkBind2EXT" ∧
        aliasesRegistry.searchForward c.guard? 2 c.command = some (some "vkBindEXT") ∧
        (∃ y ∈ g.commands, aliasesRegistry.resolveNamed "vkBindEXT" = .ok y ∧
          y.signature = c.signature ∧ y.handle? = c.handle?) ∧
        ∀ y, Relation.TransGen aliasesRegistry.ForwardsTo c y → y.name ≠ "vkBind2EXT" := by
  obtain ⟨gs, hgs⟩ : ∃ gs, groups aliasesRegistry = .ok gs :=
    ⟨_, groups_eq_ok_iff.2 ⟨_, resolveStandard_aliases, rfl⟩⟩
  obtain ⟨g, hg, -, hc⟩ : ∃ g ∈ gs, g.handle? = some "VkDevice" ∧ aliasesCommands[2] ∈ g.commands :=
    (mem_commands_iff resolveStandard_aliases hgs).2 ⟨by decide, by decide⟩
  have htarget : aliasesRegistry.forwardTarget? aliasesCommands[2] = some "vkBindEXT" := by
    decide +kernel
  obtain ⟨hends, -, -, hsame, hnever⟩ := forwarding_exact read_aliases hgs hg hc
  refine ⟨read_aliases, gs, g, _, hgs, hg, hc, rfl, ?_, hsame _ htarget, hnever⟩
  rw [hends 2 (by decide +kernel), htarget]

end DriverInterface

end LayerHeaders
