import LayerHeaders.Proofs.Registry.Positions
import LayerHeaders.Proofs.Registry.Reading
import LayerHeaders.Proofs.Registry.Redeclaration

/-!
# What a name leads to

A registry that was read has at most one standard declaration of a name, and at most one safety-critical
one unless there is a standard one. The name leads to the standard declaration if it has one, and to the
safety-critical one otherwise, so it does not matter where in the document the declarations stand.

* `command?_eq_some_iff`: what a name leads to, without the order of the declarations.
* `existsUnique_position`: a declaration that a name leads to stands at one position.
* `exists_positions`: the look-ups by the positions of the declarations.
* `lookup_decided`: all of this for one name.
-/

namespace LayerHeaders

/-! ## Positions -/

/-- If at most one item of a list passes a test, the items that pass it are at one position. -/
theorem position_eq_of_countP_le_one {α : Type} {p : α → Bool} {l : List α} {a b : α} {i j : ℕ}
    (h : l.countP p ≤ 1) (hi : l[i]? = some a) (hj : l[j]? = some b) (ha : p a = true)
    (hb : p b = true) : i = j := by
  -- of two positions, the item at the earlier one comes before the other
  have hnot : ∀ {i j : ℕ} {a b : α}, l[i]? = some a → l[j]? = some b → p a = true → p b = true →
      ¬ i < j := by
    intro i j a b hi hj ha hb hij
    obtain ⟨hlt, hget⟩ := List.getElem?_eq_some_iff.1 hj
    have hsplit : l = l.take j ++ b :: l.drop (j + 1) := by
      rw [← hget, ← List.drop_eq_getElem_cons hlt, List.take_append_drop]
    have hbefore : a ∈ l.take j := by
      apply List.mem_of_getElem? (i := i)
      rw [List.getElem?_take_of_lt hij, hi]
    have htwo : 2 ≤ l.countP p := two_le_countP_iff.2 ⟨_, b, _, hsplit, hb, a, hbefore, ha⟩
    omega
  have hle := hnot hi hj ha hb
  have hge := hnot hj hi hb ha
  omega

/-- If at most one item of a list passes a test, an item that passes it is the one that is found. -/
theorem find?_eq_some_of_countP_le_one {α : Type} {p : α → Bool} {l : List α} {a : α}
    (h : l.countP p ≤ 1) (ha : a ∈ l) (hp : p a = true) : l.find? p = some a := by
  obtain ⟨b, hb⟩ := Option.isSome_iff_exists.1 (List.find?_isSome.2 ⟨a, ha, hp⟩)
  obtain ⟨i, hi⟩ := List.mem_iff_getElem?.1 ha
  obtain ⟨j, hj⟩ := List.mem_iff_getElem?.1 (List.mem_of_find?_eq_some hb)
  obtain rfl := position_eq_of_countP_le_one h hi hj hp (List.find?_some hb)
  rw [hb, ← hj, hi]

namespace Registry

variable {d : Dialect} {document : String} {r : Registry}

/-- A registry keeps the dialect that it was read in. -/
theorem dialect_of_read (h : Registry.read d document = .ok r) : r.dialect = d := by
  obtain ⟨_, _, _, _, _, _, -, rfl⟩ := exists_ofDeclarations_of_read h
  rfl

/-- **Positions can be stored instead of declarations**: they are indexed without an error, and lead from a name
to the same declaration. -/
theorem exists_positions (h : Registry.read d document = .ok r) :
    ∃ positions, indexPositions d r.commands = .ok positions ∧ Locates r.commands r.index positions := by
  obtain ⟨_, _, _, _, _, _, hindex, rfl⟩ := exists_ofDeclarations_of_read h
  exact (indexPositions_decided d _).2 _ hindex

/-! ## How many declarations a name has -/

/-- **No name has two standard declarations.** -/
theorem countP_standard_le_one (h : Registry.read d document = .ok r) (name : String) :
    r.commands.countP (·.declares d name true) ≤ 1 := by
  have hnodup := (indexes_of_read h).standard_nodup
  rw [dialect_of_read h] at hnodup
  have hcount := List.nodup_iff_count_le_one.1 hnodup name
  rw [List.count, List.countP_map, List.countP_filter] at hcount
  simpa [Command.declares, Function.comp_def] using hcount

/-- **A name without a standard declaration has one safety-critical one at most.** -/
theorem countP_safetyCritical_le_one (h : Registry.read d document = .ok r) {name : String}
    (hnone : ∀ c ∈ r.commands, c.declares d name true = false) :
    r.commands.countP (·.declares d name false) ≤ 1 := by
  have hlength := (indexes_of_read h).length_le_one name
  rw [dialect_of_read h] at hlength
  rw [List.countP_eq_length_filter]
  apply hlength
  simpa using hnone

/-! ## What is found -/

/-- **What a name leads to**: its standard declaration, or a safety-critical one if it has no standard
one. -/
theorem command?_eq_some_iff (h : Registry.read d document = .ok r) {name : String} {c : Command} :
    r.command? name = some c ↔
      c ∈ r.commands ∧ c.name = name ∧
        (c.isStandard d = true ∨ ∀ b ∈ r.commands, b.declares d name true = false) := by
  have hfind := (indexes_of_read h).find?_eq name
  rw [dialect_of_read h] at hfind
  rw [command?, hfind, Dialect.declaration?, Option.or_eq_some_iff]
  constructor
  · rintro (hstandard | ⟨hnone, hother⟩)
    · obtain ⟨hname, hkind⟩ := Command.declares_iff.1 (List.find?_some hstandard)
      exact ⟨List.mem_of_find?_eq_some hstandard, hname, Or.inl hkind⟩
    · obtain ⟨hname, -⟩ := Command.declares_iff.1 (List.find?_some hother)
      refine ⟨List.mem_of_find?_eq_some hother, hname, Or.inr ?_⟩
      simpa using hnone
  · rintro ⟨hmem, hname, hkind⟩
    rcases hc : c.isStandard d with _ | _
    · rw [hc] at hkind
      have hnone := hkind.resolve_left (by simp)
      right
      refine ⟨by simpa using hnone, ?_⟩
      exact find?_eq_some_of_countP_le_one (countP_safetyCritical_le_one h hnone) hmem
        (Command.declares_iff.2 ⟨hname, hc⟩)
    · left
      exact find?_eq_some_of_countP_le_one (countP_standard_le_one h name) hmem
        (Command.declares_iff.2 ⟨hname, hc⟩)

/-- A standard declaration is what its name leads to. -/
theorem command?_of_standard (h : Registry.read d document = .ok r) {c : Command}
    (hc : c ∈ r.commands) (hstandard : c.isStandard d = true) : r.command? c.name = some c :=
  (command?_eq_some_iff h).2 ⟨hc, rfl, Or.inl hstandard⟩

/-- A name leads nowhere if it is not declared. -/
theorem command?_eq_none_iff (h : Registry.read d document = .ok r) {name : String} :
    r.command? name = none ↔ ∀ c ∈ r.commands, c.name ≠ name := by
  constructor
  · intro hnone c hc hname
    have hfound : ∀ b, ¬ (b ∈ r.commands ∧ b.name = name ∧
        (b.isStandard d = true ∨ ∀ b' ∈ r.commands, b'.declares d name true = false)) := by
      intro b hb
      rw [(command?_eq_some_iff h).2 hb] at hnone
      cases hnone
    -- either some declaration of the name is standard, or this one is found
    by_cases hany : ∀ b ∈ r.commands, b.declares d name true = false
    · exact hfound c ⟨hc, hname, Or.inr hany⟩
    · push Not at hany
      obtain ⟨b, hb, hdecl⟩ := hany
      obtain ⟨hbname, hbkind⟩ := Command.declares_iff.1 (by simpa using hdecl)
      exact hfound b ⟨hb, hbname, Or.inl hbkind⟩
  · intro hnone
    rw [Option.eq_none_iff_forall_not_mem]
    intro c hc
    obtain ⟨hmem, hname, -⟩ := (command?_eq_some_iff h).1 hc
    exact hnone c hmem hname

/-- What a name leads to is the only declaration of the name and its kind. -/
theorem countP_le_one_of_command? (h : Registry.read d document = .ok r) {name : String} {c : Command}
    (hc : r.command? name = some c) :
    r.commands.countP (·.declares d name (c.isStandard d)) ≤ 1 := by
  obtain ⟨-, -, hkind⟩ := (command?_eq_some_iff h).1 hc
  rcases hs : c.isStandard d with _ | _
  · rw [hs] at hkind
    exact countP_safetyCritical_le_one h (hkind.resolve_left (by simp))
  · exact countP_standard_le_one h name

/-- **What a name leads to stands at one position** among the declarations. -/
theorem existsUnique_position (h : Registry.read d document = .ok r) {name : String} {c : Command}
    (hc : r.command? name = some c) : ∃! i : ℕ, r.commands[i]? = some c := by
  obtain ⟨hmem, hname, -⟩ := (command?_eq_some_iff h).1 hc
  have hdecl : c.declares d name (c.isStandard d) = true := Command.declares_iff.2 ⟨hname, rfl⟩
  obtain ⟨i, hi⟩ := List.mem_iff_getElem?.1 hmem
  refine ⟨i, hi, ?_⟩
  intro j hj
  exact position_eq_of_countP_le_one (countP_le_one_of_command? h hc) hj hi hdecl hdecl

/-- A name leads to the same declaration in two documents with the same declarations. -/
theorem command?_eq_of_perm {document' : String} {r' : Registry}
    (h : Registry.read d document = .ok r) (h' : Registry.read d document' = .ok r')
    (hperm : r'.commands.Perm r.commands) (name : String) : r'.command? name = r.command? name := by
  apply Option.ext
  intro c
  rw [command?_eq_some_iff h, command?_eq_some_iff h']
  simp only [hperm.mem_iff]

/-- **What a name leads to is decided by its declarations, and not by their order.** A name has at most
one standard declaration, which it leads to. If it has none, it has at most one safety-critical
declaration, and leads to that. It leads nowhere exactly if it is not declared. What it leads to stands at one
position among the declarations. The positions of the declarations are indexed by their names; each that is
stored is in range and is that of a declaration of its name, and a look-up reads the declaration there. In
another document with the same declarations the name leads to the same one. -/
theorem lookup_decided (h : Registry.read d document = .ok r) (name : String) :
    r.commands.countP (·.declares d name true) ≤ 1 ∧
      ((∀ c ∈ r.commands, c.declares d name true = false) →
        r.commands.countP (·.declares d name false) ≤ 1) ∧
      (∀ c, r.command? name = some c ↔ c ∈ r.commands ∧ c.name = name ∧
        (c.isStandard d = true ∨ ∀ b ∈ r.commands, b.declares d name true = false)) ∧
      (r.command? name = none ↔ ∀ c ∈ r.commands, c.name ≠ name) ∧
      (∀ c, r.command? name = some c → ∃! i : ℕ, r.commands[i]? = some c) ∧
      (∃ positions, indexPositions d r.commands = .ok positions ∧
        (∀ (stored : String) (i : ℕ), positions[stored]? = some i →
          i < r.commands.length ∧ ∃ c : Command, r.commands[i]? = some c ∧ c.name = stored) ∧
        r.command? name = positions[name]?.bind (r.commands[·]?)) ∧
      ∀ document' r', Registry.read d document' = .ok r' → r'.commands.Perm r.commands →
        r'.command? name = r.command? name := by
  obtain ⟨positions, hpositions, hlocates⟩ := exists_positions h
  refine ⟨countP_standard_le_one h name, countP_safetyCritical_le_one h,
    fun c => command?_eq_some_iff h, command?_eq_none_iff h, fun c => existsUnique_position h,
    ⟨positions, hpositions, ?_, (hlocates.find?_eq name).symm⟩, ?_⟩
  · intro stored i hi
    obtain ⟨c, hc, hname⟩ := hlocates.exists_declaration stored i hi
    exact ⟨(List.getElem?_eq_some_iff.1 hc).1, c, hc, hname⟩
  · intro document' r' h' hperm
    exact command?_eq_of_perm h h' hperm name

/-! ## Two documents -/

/-- A document that declares a name for both APIs, the safety-critical one first. -/
def restrictedFirst : String := "<registry><types/><commands>
<command name=\"vkA\" alias=\"vkB\" api=\"vulkansc\"/>
<command name=\"vkA\" alias=\"vkC\"/>
</commands><extensions/></registry>"

/-- The same declarations in the other order. -/
def standardFirst : String := "<registry><types/><commands>
<command name=\"vkA\" alias=\"vkC\"/>
<command name=\"vkA\" alias=\"vkB\" api=\"vulkansc\"/>
</commands><extensions/></registry>"

/-- A registry of commands alone. -/
def ofCommands (commands index : List Command) : Registry :=
  .ofDeclarations {} [] [] commands index [] []

/-- The safety-critical declaration of `vkA` in the two documents. -/
def restrictedA : Command :=
  ⟨"vkA", some "vulkansc", .sameAs "vkB"⟩

/-- The standard declaration of `vkA` in the two documents. -/
def standardA : Command :=
  ⟨"vkA", none, .sameAs "vkC"⟩

set_option maxRecDepth 10000 in
/-- Reading `restrictedFirst` gives both declarations, and an index in which the standard one counts. -/
theorem read_restrictedFirst : Registry.read {} restrictedFirst =
    .ok (ofCommands [restrictedA, standardA] [standardA, restrictedA]) := by
  rw [Registry.read, Xml.parse, wellNested_of_eq_ofList (s := restrictedFirst) rfl]
  decide +kernel

set_option maxRecDepth 10000 in
/-- Reading `standardFirst` gives both declarations, and an index of the standard one. -/
theorem read_standardFirst : Registry.read {} standardFirst =
    .ok (ofCommands [standardA, restrictedA] [standardA]) := by
  rw [Registry.read, Xml.parse, wellNested_of_eq_ofList (s := standardFirst) rfl]
  decide +kernel

/-- In both documents the name leads to the standard declaration, whichever comes first, and its position is
stored. -/
theorem lookup_decided_two_orders :
    Registry.read {} restrictedFirst =
        .ok (ofCommands [restrictedA, standardA] [standardA, restrictedA]) ∧
      (ofCommands [restrictedA, standardA] [standardA, restrictedA]).command? "vkA" = some standardA ∧
      (∃ positions, indexPositions {} [restrictedA, standardA] = .ok positions ∧
        positions["vkA"]? = some 1) ∧
      Registry.read {} standardFirst = .ok (ofCommands [standardA, restrictedA] [standardA]) ∧
      (ofCommands [standardA, restrictedA] [standardA]).command? "vkA" = some standardA ∧
      ∃! i : ℕ, [standardA, restrictedA][i]? = some standardA := by
  obtain ⟨-, -, hfound, -, -, ⟨positions, hpositions, -, hread⟩, horder⟩ :=
    lookup_decided read_restrictedFirst "vkA"
  have hstandard := (hfound standardA).2 ⟨by decide, rfl, Or.inl (by decide)⟩
  have hsame := (horder _ _ read_standardFirst (List.Perm.swap _ _ _)).trans hstandard
  obtain ⟨-, -, -, -, hposition, -⟩ := lookup_decided read_standardFirst "vkA"
  obtain ⟨i, hi, hget⟩ := Option.bind_eq_some_iff.1 (hread.symm.trans hstandard)
  obtain rfl : i = 1 := by
    rcases i with _ | _ | i
    · exact absurd hget (by decide)
    · rfl
    · cases hget
  exact ⟨read_restrictedFirst, hstandard, ⟨positions, hpositions, hi⟩, read_standardFirst, hsame,
    hposition standardA hsame⟩

end Registry

end LayerHeaders
