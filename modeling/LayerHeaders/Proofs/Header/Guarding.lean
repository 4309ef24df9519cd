import LayerHeaders.Header.Kind
import LayerHeaders.Proofs.Header.DispatchTable
import LayerHeaders.Proofs.Header.DriverInterface
import LayerHeaders.Proofs.Header.StreamOperators

/-!
# Guards of the headers

Whatever a header emits for a command or a structure stands under the guard of the extension that owns
it, and outside every guard if there is none. The guards themselves are in order, so that a check of the
header can only find a line break.

* `Emits`: what a header emits for the commands and structures of a registry, without regard to groups.
* `header_guards_owners`: the lines of a header under their guards.
-/

namespace LayerHeaders.HeaderKind

/-! ## What a header consists of -/

/-- The passages of a header. -/
def passages (kind : HeaderKind) (r : Registry) : Except HeaderError (List Passage) :=
  match kind with
  | dispatchTables => DispatchTable.passages r
  | driverInterface => DriverInterface.passages r
  | streamOperators => .ok (StreamOperators.passages r)

/-- **Whether a header emits a passage** for a command or a structure of the registry. -/
def Emits (kind : HeaderKind) (r : Registry) (p : Passage) : Prop :=
  match kind with
  | dispatchTables => ∃ k, r.classify = .ok k ∧
      ∃ chain, ∃ c ∈ k.commands chain, ∃ e ∈ DispatchTable.emissions r.dialect chain, e.passage c = p
  | driverInterface => ∃ xs, r.resolveStandard = .ok xs ∧
      ∃ c ∈ xs, ∃ e ∈ DriverInterface.emissions r c, e.passage c = p
  | streamOperators => ∃ s ∈ StreamOperators.structs r, StreamOperators.operatorPassage r.dialect s = p

variable {kind : HeaderKind} {r : Registry} {h : Header} {ps : List Passage}

/-- The passages about commands and structures are those that the header emits. -/
theorem mem_passages_iff (hps : kind.passages r = .ok ps) {p : Passage} (hp : p.topic ≠ .scaffold) :
    p ∈ ps ↔ kind.Emits r p := by
  rcases kind with _ | _ | _
  · exact DispatchTable.mem_passages_iff hps hp
  · exact DriverInterface.mem_passages_iff hps hp
  · cases hps
    exact StreamOperators.mem_passages_iff hp

/-- A header shows its passages. -/
theorem shows_of_header (hh : kind.header r = .ok h) :
    ∃ ps, kind.passages r = .ok ps ∧ r.Shows h.body ps := by
  rcases kind with _ | _ | _
  · exact DispatchTable.shows_of_header hh
  · exact DriverInterface.shows_of_header hh
  · cases hh
    exact ⟨_, rfl, StreamOperators.shows_header r⟩

/-! ## Guards -/

/-- **Every line is under the guard of its owner.** A header can be walked to the end: no guard opens
inside another one, and each is closed by its own token. The lines on the way are those of its passages,
each under the guard of its topic: the extension that owns the command or the structure, or none. Beside
the frame the passages are what the header emits. So a check finds no defect in the guards. -/
theorem header_guards_owners (hh : kind.header r = .ok h) :
    ∃ ps, kind.passages r = .ok ps ∧
      walk none h.body = some (ps.flatMap fun p => linesUnder (r.guard? p.topic) p.body) ∧
      (∀ p, p.topic ≠ .scaffold → (p ∈ ps ↔ kind.Emits r p)) ∧
      ∀ e, h.check = .error e → ∃ position, e = .embeddedNewline h.name position := by
  obtain ⟨ps, hps, hshows⟩ := shows_of_header hh
  exact ⟨ps, hps, hshows, fun p hp => mem_passages_iff hps hp, fun e he => (checkFrom_of_walk hshows he).1⟩

/-- The field of the alias in `sample` is under the guard of the extension that owns the alias, though
its target is core. -/
theorem header_guards_owners_sample :
    ∃ h, dispatchTables.header sampleRegistry = .ok h ∧
      ∃ lines, walk none h.body = some lines ∧
        ⟨some "VK_KHR_trim", 1, "PFN_vkTrimKHR TrimKHR;"⟩ ∈ lines := by
  obtain ⟨h, hh⟩ : ∃ h, dispatchTables.header sampleRegistry = .ok h :=
    exists_eq_ok_of_isOk (by decide +kernel)
  obtain ⟨ps, -, hwalk, hmem, -⟩ := header_guards_owners hh
  let c : Resolved := Registry.sampleClassification.perDevice.head (by decide)
  have hc : c ∈ Registry.sampleClassification.commands .perDevice := List.head_mem _
  have hfield : (DispatchTable.fields {} .perDevice).passage c ∈ ps :=
    (hmem _ (by simp [Emission.passage])).2
      ⟨_, Registry.classify_sample, .perDevice, c, hc, _, List.mem_cons_self, rfl⟩
  exact ⟨h, hh, _, hwalk, List.mem_flatMap.2 ⟨_, hfield, by decide +kernel⟩⟩

end LayerHeaders.HeaderKind
