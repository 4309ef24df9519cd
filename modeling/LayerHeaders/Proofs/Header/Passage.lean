import LayerHeaders.Chain
import LayerHeaders.Proofs.Group
import LayerHeaders.Proofs.Header.Placement

/-!
# Passages of a header

A header consists of passages. A passage is what the header emits for one topic: for a command in some
role, for the operator of a structure, or for the frame around them. The guard of a passage is decided
by its topic alone: it is the extension that owns the command or the structure.

A header *shows* passages if its lines of code are those of the passages, in order, each under the guard
of its topic. Since a header is put together from parts, so is what it shows.

* `Registry.Shows.append`, `shows_scaffold`, `shows_guarded`: what the parts of a header show.
* `shows_guardedGroups`: lines of commands that are guarded by groups lie under the guards of their
  owners if the groups are formed by owner.
* `placedLines_passages`: the lines of the commands of groups.
-/

namespace LayerHeaders

/-! ## Topics -/

/-- What a line is emitted for, where a command is concerned. -/
inductive Role where
  /-- The field of a dispatch table. -/
  | field (table : Chain)
  /-- The assignment to the field. -/
  | assignment (table : Chain)
  /-- The match of the name. -/
  | nameMatch (table : Chain)
  /-- The virtual method of a base interface. -/
  | method (handle : String)
  /-- The method of a wrapper. -/
  | wrapperMethod (handle : String)
  /-- The prototype of a command without a handle. -/
  | prototype
  /-- The free function. -/
  | function
  /-- The arm of the resolver. -/
  | resolverArm
deriving DecidableEq, Repr

/-- What a line is emitted for. -/
inductive Topic where
  /-- The frame around commands and structures. The two resolvers of a driver are part of it. -/
  | scaffold
  /-- A command. -/
  | command (role : Role) (name : String)
  /-- The operator of a structure. -/
  | streamOperator (name : String)
deriving DecidableEq, Repr

/-- What a header emits for one topic. -/
structure Passage where
  /-- The topic. -/
  topic : Topic
  /-- The lines, and the blanks between them. -/
  body : List Instruction
  /-- There are no guards among them. -/
  guardFree : GuardFree body

/-- Passages after one another have no guards. -/
theorem guardFree_passages (ps : List Passage) : GuardFree (ps.flatMap (·.body)) :=
  guardFree_flatMap fun p _ => p.guardFree

/-- A passage of the frame. -/
def scaffold (body : List Instruction) (h : GuardFree body) : Passage :=
  ⟨.scaffold, body, h⟩

/-- What a header emits for every command in one role. -/
structure Emission where
  /-- The role. -/
  role : Role
  /-- The lines for a command. -/
  lines : Resolved → List Instruction
  /-- There are no guards among them. -/
  guardFree : ∀ c, GuardFree (lines c)

/-- One line for every command. -/
def Emission.ofLine (role : Role) (line : Resolved → Instruction)
    (h : ∀ c, (line c).isGuard = false) : Emission :=
  ⟨role, fun c => [line c], fun c => guardFree_cons.2 ⟨h c, guardFree_nil⟩⟩

/-- What is emitted for one command. -/
def Emission.passage (e : Emission) (c : Resolved) : Passage :=
  ⟨.command e.role c.name, e.lines c, e.guardFree c⟩

/-- What is emitted for the commands of groups, one after the other. -/
def Emission.passages (e : Emission) (groups : List (Group (Option String) Resolved)) :
    List Passage :=
  groups.flatMap fun g => g.items.map e.passage

/-- A passage about something is none of the frame. -/
theorem Passage.ne_scaffold {p : Passage} (hp : p.topic ≠ .scaffold) {body : List Instruction}
    (h : GuardFree body) : p ≠ LayerHeaders.scaffold body h := by
  rintro rfl
  exact hp rfl

/-- The passages of groups are those of their commands. -/
theorem Emission.mem_passages_iff {e : Emission} {groups : List (Group (Option String) Resolved)}
    {p : Passage} :
    p ∈ e.passages groups ↔ ∃ c ∈ groups.flatMap (·.items), e.passage c = p := by
  rw [Emission.passages, ← List.map_flatMap, List.mem_map]

namespace Registry

variable {r : Registry}

/-! ## Guards -/

/-- The token that guards a command: the name of the extension that owns it. -/
def commandGuard? (r : Registry) (name : String) : Option String :=
  (r.commandOwner? name).map (·.name)

/-- The token that guards a structure: the name of the extension that owns it. -/
def structGuard? (r : Registry) (name : String) : Option String :=
  (r.typeOwner? name).map (·.name)

/-- The token that guards a topic. -/
def guard? (r : Registry) : Topic → Option String
  | .scaffold => none
  | .command _ name => r.commandGuard? name
  | .streamOperator name => r.structGuard? name

/-- Whether the commands of every group are owned by the extension that the group is named after. -/
def OwnedGroups (r : Registry) (groups : List (Group (Option String) Resolved)) : Prop :=
  ∀ g ∈ groups, ∀ c ∈ g.items, r.commandGuard? c.name = g.key

/-! ## Showing -/

/-- The lines of code of passages, each under the guard of its topic. -/
def placedLines (r : Registry) (ps : List Passage) : List PlacedLine :=
  ps.flatMap fun p => linesUnder (r.guard? p.topic) p.body

/-- **Whether instructions show passages**: their guards are in order, and their lines of code are those
of the passages, each under the guard of its topic. -/
def Shows (r : Registry) (body : List Instruction) (ps : List Passage) : Prop :=
  walk none body = some (r.placedLines ps)

variable {a b body : List Instruction} {ps qs : List Passage}

theorem shows_nil : r.Shows [] [] :=
  rfl

theorem shows_blank : r.Shows [.blank] [] :=
  rfl

/-- Two parts show their passages one after the other. -/
theorem Shows.append (ha : r.Shows a ps) (hb : r.Shows b qs) : r.Shows (a ++ b) (ps ++ qs) := by
  unfold Shows placedLines at *
  rw [walk_append ha, hb, Option.map_some, List.flatMap_append]

/-- Parts show their passages one after the other. -/
theorem shows_flatMap {α : Type} {l : List α} {f : α → List Instruction} {g : α → List Passage}
    (h : ∀ x ∈ l, r.Shows (f x) (g x)) : r.Shows (l.flatMap f) (l.flatMap g) := by
  unfold Shows placedLines at *
  rw [walk_flatMap h, List.flatMap_assoc]

/-- The frame is outside every guard. -/
theorem shows_scaffold (h : GuardFree body) : r.Shows body [scaffold body h] := by
  unfold Shows placedLines
  rw [walk_guardFree h, List.flatMap_singleton]
  rfl

/-- The lines of passages that share a guard. -/
theorem placedLines_of_guard {guard? : Option String} (h : ∀ p ∈ ps, r.guard? p.topic = guard?) :
    r.placedLines ps = linesUnder guard? (ps.flatMap (·.body)) := by
  rw [linesUnder_flatMap]
  exact List.flatMap_congr fun p hp => by rw [h p hp]

/-- **A guarded part shows passages that have its guard**, if it consists of their lines. -/
theorem shows_guarded {indent : Nat} {guard? : Option String} {style : GuardEnd}
    (hbody : GuardFree body) (hlines : linesUnder guard? body = linesUnder guard? (ps.flatMap (·.body)))
    (h : ∀ p ∈ ps, r.guard? p.topic = guard?) : r.Shows (guarded indent guard? style body) ps := by
  unfold Shows
  rw [placedLines_of_guard h, ← hlines]
  exact walk_guarded hbody

/-- The passages of the commands of one group have the guard of the group. -/
theorem OwnedGroups.guard?_passage {groups : List (Group (Option String) Resolved)}
    (h : r.OwnedGroups groups) (e : Emission) {g : Group (Option String) Resolved} (hg : g ∈ groups) :
    ∀ p ∈ g.items.map e.passage, r.guard? p.topic = g.key := by
  intro p hp
  obtain ⟨c, hc, rfl⟩ := List.mem_map.1 hp
  exact h g hg c hc

/-- **Lines of commands that are guarded by groups** lie under the guards of the owners. -/
theorem shows_guardedGroups {groups : List (Group (Option String) Resolved)}
    (h : r.OwnedGroups groups) (role : Role) (line : Resolved → Instruction)
    (hline : ∀ c, (line c).isGuard = false) (indent : Nat) (style : GuardEnd) :
    r.Shows (groups.flatMap fun g => guarded indent g.key style (g.items.map line))
      ((Emission.ofLine role line hline).passages groups) := by
  refine shows_flatMap fun g hg => ?_
  have hlines : (g.items.map (Emission.ofLine role line hline).passage).flatMap (·.body) =
      g.items.map line := by
    rw [List.flatMap_map, List.map_eq_flatMap]
    rfl
  rw [← hlines]
  exact shows_guarded (guardFree_passages _) rfl (h.guard?_passage _ hg)

/-- Commands that are grouped by their guards are in the groups of their owners. -/
theorem ownedGroups_groupBy {xs : List Resolved} (h : ∀ x ∈ xs, x.guard? = r.commandGuard? x.name) :
    r.OwnedGroups (groupBy (·.guard?) xs) := by
  intro g hg c hc
  obtain ⟨hmem, hkey⟩ := mem_groupBy_iff.1 ⟨g, hg, rfl, hc⟩
  rw [← h c hmem, hkey]

/-! ## Lines of passages -/

theorem placedLines_append : r.placedLines (ps ++ qs) = r.placedLines ps ++ r.placedLines qs :=
  List.flatMap_append

/-- The lines of the frame are outside every guard. -/
theorem placedLines_scaffold (h : GuardFree body) :
    r.placedLines [scaffold body h] = linesUnder none body :=
  List.flatMap_singleton _ _

/-- **The lines of the commands of groups**, each under the guard of its owner. -/
theorem placedLines_passages (e : Emission) (groups : List (Group (Option String) Resolved)) :
    r.placedLines (e.passages groups) =
      (groups.flatMap (·.items)).flatMap fun c => linesUnder (r.commandGuard? c.name) (e.lines c) := by
  rw [Emission.passages, ← List.map_flatMap, placedLines, List.flatMap_map]
  rfl

end Registry

end LayerHeaders
