import LayerHeaders.Proofs.Registry.Resolution

/-!
# The links of an alias chain

A command that resolves has a chain that ends in a definition. Its links are the declarations after one
step, two steps and so on, and each of them resolves to the same signature, since the chain from a link is
the rest of the chain.

* `getElem?_links`: the links are the steps of the chain.
* `resolve_of_link`: a link resolves to the signature and the handle of the command.
-/

namespace LayerHeaders.Registry

variable {r : Registry} {c e : Command} {x : Resolved}

/-- The steps from a link on are the later steps of the chain. -/
theorem link_add {j : ℕ} (h : r.link c j = some e) (k : ℕ) : r.link c (j + k) = r.link e k := by
  induction k with
  | zero => exact h
  | succ k ih =>
      show (r.link c (j + k)).bind _ = (r.link e k).bind _
      rw [ih]

/-- The definition at the end of a chain is the end of the chain of every link. -/
theorem link_sub_of_definition {j k : ℕ} {f : Command} {s : Signature} (hf : r.link c j = some f)
    (hbody : f.body = .definition s) (hlink : r.link c k = some e) :
    k ≤ j ∧ r.link e (j - k) = some f := by
  have hle : k ≤ j := by
    by_contra hlt
    rw [link_eq_none_of_definition hf hbody (Nat.lt_of_not_le hlt)] at hlink
    cases hlink
  refine ⟨hle, ?_⟩
  rw [← link_add hlink, Nat.add_sub_cancel' hle]
  exact hf

/-- A link after the first step is what its name leads to. -/
theorem command?_of_link {k : ℕ} (h : r.link c (k + 1) = some e) : r.command? e.name = some e := by
  rw [link_succ_eq_bind, Option.bind_eq_some_iff] at h
  obtain ⟨target, -, hfound⟩ := h
  rw [name_of_command? hfound]
  exact hfound

/-- **The links of a chain that ends in a definition** are its steps. -/
theorem getElem?_links_aliasChainFrom {visited : List String} {s : Signature}
    (h : (r.aliasChainFrom visited e).ending = .definition s) (k : ℕ) :
    (r.aliasChainFrom visited e).links[k]? = r.link e (k + 1) := by
  induction visited, e using aliasChainFrom.induct r generalizing k with
  | case1 visited e s hbody =>
      rw [aliasChainFrom_of_definition hbody]
      exact (link_eq_none_of_definition (c := e) rfl hbody (Nat.succ_pos k)).symm
  | case2 visited e target hbody hnone =>
      rw [aliasChainFrom_of_alias hbody, hnone] at h
      cases h
  | case3 visited e target hbody next hnext hmem =>
      rw [aliasChainFrom_of_alias hbody, hnext] at h
      simp only [hmem, if_true] at h
      cases h
  | case4 visited e target hbody next hnext hmem ih =>
      rw [aliasChainFrom_of_alias hbody, hnext] at h ⊢
      simp only [hmem, if_false] at h ⊢
      have hlink : r.link e 1 = some next := by
        show e.target?.bind r.command? = _
        rw [Command.target?, hbody]
        exact hnext
      rcases k with _ | k
      · exact hlink.symm
      · -- the chain from the next command is the rest of this one
        rw [List.getElem?_cons_succ, ih h k, ← link_add hlink, Nat.add_comm]

/-- The chain of a command that resolves ends in its signature. -/
theorem ending_of_resolve (h : r.resolve c = .ok x) :
    (r.aliasChain c).ending = .definition x.signature := by
  have hs := (resolve_eq_ok_iff.1 h).1
  rw [signature_eq_endResult] at hs
  generalize (r.aliasChain c).ending = ending at hs ⊢
  cases ending with
  | definition s =>
      cases hs
      rfl
  | undeclared name target => cases hs
  | cyclic => cases hs

/-- **The links of a command that resolves** are the steps of its chain. -/
theorem getElem?_links (h : r.resolve c = .ok x) (k : ℕ) :
    (r.aliasChain c).links[k]? = r.link c (k + 1) :=
  getElem?_links_aliasChainFrom (ending_of_resolve h) k

/-- **A link resolves to the signature of the command**, and so to its handle. -/
theorem resolve_of_link (h : r.resolve c = .ok x) {k : ℕ} (hlink : r.link c (k + 1) = some e) :
    ∃ y, r.resolve e = .ok y ∧ y.signature = x.signature ∧ y.handle? = x.handle? := by
  obtain ⟨j, f, hf, hbody⟩ := endsIn_of_resolve h
  obtain ⟨-, hrest⟩ := link_sub_of_definition hf hbody hlink
  have hs : r.signature e = .ok x.signature := signature_of_link (command?_of_link hlink) hrest hbody
  obtain ⟨y, hy, hys⟩ : ∃ y, r.resolve e = .ok y ∧ y.signature = x.signature := by
    rw [resolve, hs]
    exact ⟨_, rfl, rfl⟩
  refine ⟨y, hy, hys, ?_⟩
  rw [(resolve_eq_ok_iff.1 hy).2.2.1, (resolve_eq_ok_iff.1 h).2.2.1, hys]

end LayerHeaders.Registry
