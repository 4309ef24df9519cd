import LayerHeaders.Proofs.Registry.Reading
import Mathlib.Data.List.TakeWhile

/-!
# Names that are declared again

A declaration is compared with the one that its name leads to so far, and refused if both are of one
kind. A standard declaration takes the place of a safety-critical one, and later safety-critical ones of
the name are then compared with it alone. So two safety-critical declarations of a name are refused only
if both of them come before the first standard one, and the order of the declarations matters.

* `indexCommands_eq_error_iff`: indexing stops at the first declaration that repeats an indexed one.
* `exists_repeats_iff`: in which lists there is one, by the numbers of declarations of a name.
* `exists_redeclares_iff_of_le_one`: when the order of the declarations does not matter.
-/

namespace LayerHeaders

variable {d : Dialect}

/-! ## What repeats a declaration -/

/-- Whether the declaration that the name of `c` leads to, among those that were seen, is of the kind
of `c`. -/
def Dialect.Repeats (d : Dialect) (seen : List Command) (c : Command) : Prop :=
  ∃ a, d.declaration? seen c.name = some a ∧ a.isStandard d = c.isStandard d

/-- The declarations before the first standard one of a name. -/
def Dialect.beforeStandard (d : Dialect) (commands : List Command) (name : String) : List Command :=
  commands.takeWhile (!·.declares d name true)

/-- **Whether a name is redeclared**: it has two standard declarations, or two safety-critical ones
before any standard one. -/
def Dialect.Redeclares (d : Dialect) (commands : List Command) (name : String) : Prop :=
  2 ≤ commands.countP (·.declares d name true) ∨
    2 ≤ (d.beforeStandard commands name).countP (·.declares d name false)

/-- A standard declaration repeats any standard one of its name. -/
theorem repeats_iff_of_standard {seen : List Command} {c : Command} (hc : c.isStandard d = true) :
    d.Repeats seen c ↔ ∃ a ∈ seen, a.declares d c.name true = true := by
  unfold Dialect.Repeats Dialect.declaration?
  rcases hfound : seen.find? (·.declares d c.name true) with _ | b
  · rw [hfound, Option.none_or]
    have hnone := List.find?_eq_none.1 hfound
    constructor
    · -- what the name leads to is safety-critical
      rintro ⟨a, ha, hkind⟩
      have hfalse := (Command.declares_iff.1 (List.find?_some ha)).2
      rw [hkind, hc] at hfalse
      cases hfalse
    · rintro ⟨a, ha, hdecl⟩
      exact absurd hdecl (hnone a ha)
  · rw [hfound, Option.some_or]
    have hb := List.find?_some hfound
    constructor
    · intro _
      exact ⟨b, List.mem_of_find?_eq_some hfound, hb⟩
    · intro _
      refine ⟨b, rfl, ?_⟩
      rw [(Command.declares_iff.1 hb).2, hc]

/-- A safety-critical declaration repeats a safety-critical one of its name, as long as there is no
standard one. -/
theorem repeats_iff_of_not_standard {seen : List Command} {c : Command}
    (hc : c.isStandard d = false) :
    d.Repeats seen c ↔ (∀ a ∈ seen, a.declares d c.name true = false) ∧
      ∃ a ∈ seen, a.declares d c.name false = true := by
  unfold Dialect.Repeats Dialect.declaration?
  rcases hfound : seen.find? (·.declares d c.name true) with _ | b
  · have hnone : ∀ a ∈ seen, a.declares d c.name true = false := by
      intro a ha
      simpa using List.find?_eq_none.1 hfound a ha
    rw [hfound, Option.none_or]
    constructor
    · rintro ⟨a, ha, -⟩
      exact ⟨hnone, a, List.mem_of_find?_eq_some ha, List.find?_some ha⟩
    · rintro ⟨-, a, ha, hdecl⟩
      have hsome : (seen.find? (·.declares d c.name false)).isSome = true :=
        List.find?_isSome.2 ⟨a, ha, hdecl⟩
      obtain ⟨b, hb⟩ := Option.isSome_iff_exists.1 hsome
      refine ⟨b, hb, ?_⟩
      rw [(Command.declares_iff.1 (List.find?_some hb)).2, hc]
  · rw [hfound, Option.some_or]
    have hb := List.find?_some hfound
    constructor
    · rintro ⟨a, ha, hkind⟩
      cases ha
      rw [(Command.declares_iff.1 hb).2, hc] at hkind
      cases hkind
    · rintro ⟨hnone, -⟩
      have hfalse := hnone b (List.mem_of_find?_eq_some hfound)
      rw [hb] at hfalse
      cases hfalse

/-! ## Where indexing stops -/

/-- **The step of the index that is refused**: the declaration repeats the one that its name leads to. -/
theorem Indexes.add_eq_error_iff {seen index : List Command} {c : Command} {e : RegistryError}
    (h : Indexes d seen index) :
    addToIndex d index c = .error e ↔ d.Repeats seen c ∧ e = .duplicateCommand c.name := by
  unfold addToIndex Dialect.Repeats
  rw [← h.find?_eq]
  rcases hfound : index.find? (·.name = c.name) with _ | a
  · rw [hfound]
    simp
  · rw [hfound]
    have hkinds : a.isStandard d = c.isStandard d ↔
        d.isSafetyCritical a.api? = d.isSafetyCritical c.api? := Bool.not_inj_iff
    simp only [Option.some.injEq, exists_eq_left', hkinds]
    rcases d.isSafetyCritical a.api? with _ | _ <;> rcases d.isSafetyCritical c.api? with _ | _
    · simpa using eq_comm
    · simp
    · simp
    · simpa using eq_comm

/-- **Indexing stops at the first declaration that repeats an indexed one**, and reports its name. -/
theorem indexCommands_eq_error_iff {commands : List Command} {e : RegistryError} :
    indexCommands d commands = .error e ↔
      ∃ before c after, commands = before ++ c :: after ∧
        (∃ index, indexCommands d before = .ok index) ∧ d.Repeats before c ∧
        e = .duplicateCommand c.name := by
  rw [indexCommands, foldlM_eq_error_iff]
  constructor
  · rintro ⟨before, c, after, index, hsplit, hbefore, hadd⟩
    have hindex : Indexes d before index := indexes_of_indexCommands hbefore
    obtain ⟨hrepeats, rfl⟩ := hindex.add_eq_error_iff.1 hadd
    exact ⟨before, c, after, hsplit, ⟨index, hbefore⟩, hrepeats, rfl⟩
  · rintro ⟨before, c, after, hsplit, ⟨index, hbefore⟩, hrepeats, rfl⟩
    have hindex : Indexes d before index := indexes_of_indexCommands hbefore
    exact ⟨before, c, after, index, hsplit, hbefore, hindex.add_eq_error_iff.2 ⟨hrepeats, rfl⟩⟩

/-- Indexing fails if a declaration anywhere repeats an earlier one: it stops there at the latest. -/
theorem exists_indexCommands_eq_error_iff {commands : List Command} :
    (∃ n, indexCommands d commands = .error (.duplicateCommand n)) ↔
      ∃ before c after, commands = before ++ c :: after ∧ d.Repeats before c := by
  constructor
  · rintro ⟨n, hn⟩
    obtain ⟨before, c, after, hsplit, -, hrepeats, -⟩ := indexCommands_eq_error_iff.1 hn
    exact ⟨before, c, after, hsplit, hrepeats⟩
  · rintro ⟨before, c, after, rfl, hrepeats⟩
    rcases hbefore : indexCommands d before with e | index
    · -- it has stopped earlier
      obtain ⟨first, b, rest, rfl, hfirst, hb, -⟩ := indexCommands_eq_error_iff.1 hbefore
      refine ⟨b.name, indexCommands_eq_error_iff.2 ⟨first, b, rest ++ c :: after, ?_, hfirst, hb, rfl⟩⟩
      simp
    · exact ⟨c.name, indexCommands_eq_error_iff.2 ⟨before, c, after, rfl, ⟨index, hbefore⟩,
        hrepeats, rfl⟩⟩

/-! ## Numbers of declarations -/

/-- Two items of a list pass a test if one of them comes after another one. -/
theorem two_le_countP_iff {α : Type} {p : α → Bool} {l : List α} :
    2 ≤ l.countP p ↔
      ∃ before a after, l = before ++ a :: after ∧ p a = true ∧ ∃ b ∈ before, p b = true := by
  constructor
  · intro h
    induction l with
    | nil => simp at h
    | cons x l ih =>
        by_cases hx : p x = true
        · have hpos : 0 < l.countP p := by
            rw [List.countP_cons_of_pos hx] at h
            omega
          obtain ⟨a, ha, hpa⟩ := List.countP_pos_iff.1 hpos
          obtain ⟨s, t, rfl⟩ := List.append_of_mem ha
          exact ⟨x :: s, a, t, rfl, hpa, x, List.mem_cons_self, hx⟩
        · rw [List.countP_cons_of_neg hx] at h
          obtain ⟨before, a, after, rfl, hpa, b, hb, hpb⟩ := ih h
          exact ⟨x :: before, a, after, rfl, hpa, b, List.mem_cons_of_mem x hb, hpb⟩
  · rintro ⟨before, a, after, rfl, hpa, b, hb, hpb⟩
    have hpos : 0 < before.countP p := List.countP_pos_iff.2 ⟨b, hb, hpb⟩
    rw [List.countP_append, List.countP_cons_of_pos hpa]
    omega

/-- Before the first standard declaration of a name there is none. -/
theorem not_declares_of_mem_beforeStandard {commands : List Command} {name : String} {c : Command}
    (hc : c ∈ d.beforeStandard commands name) : c.declares d name true = false := by
  simpa using List.mem_takeWhile_imp hc

/-- A list without a standard declaration of a name is all before the first one. -/
theorem beforeStandard_append {before after : List Command} {name : String}
    (h : ∀ c ∈ before, c.declares d name true = false) :
    d.beforeStandard (before ++ after) name = before ++ d.beforeStandard after name :=
  List.takeWhile_append_of_pos fun c hc => by simp [h c hc]

/-- **A declaration repeats an earlier one exactly if a name is redeclared.** -/
theorem exists_repeats_iff {commands : List Command} :
    (∃ before c after, commands = before ++ c :: after ∧ d.Repeats before c) ↔
      ∃ name, d.Redeclares commands name := by
  constructor
  · rintro ⟨before, c, after, rfl, hrepeats⟩
    refine ⟨c.name, ?_⟩
    rcases hkind : c.isStandard d with _ | _
    · -- both are before the first standard declaration
      obtain ⟨hnone, a, ha, hdecl⟩ := (repeats_iff_of_not_standard hkind).1 hrepeats
      have hc : c.declares d c.name true = false := by simp [Command.declares, hkind]
      have hsplit : d.beforeStandard (before ++ c :: after) c.name =
          before ++ c :: d.beforeStandard after c.name := by
        rw [beforeStandard_append hnone, Dialect.beforeStandard, List.takeWhile_cons_of_pos]
        · rfl
        · simp [hc]
      right
      rw [hsplit, two_le_countP_iff]
      exact ⟨before, c, _, rfl, Command.declares_iff.2 ⟨rfl, hkind⟩, a, ha, hdecl⟩
    · obtain ⟨a, ha, hdecl⟩ := (repeats_iff_of_standard hkind).1 hrepeats
      left
      rw [two_le_countP_iff]
      exact ⟨before, c, after, rfl, Command.declares_iff.2 ⟨rfl, hkind⟩, a, ha, hdecl⟩
  · rintro ⟨name, htwice | htwice⟩
    · obtain ⟨before, c, after, rfl, hc, a, ha, hdecl⟩ := two_le_countP_iff.1 htwice
      obtain ⟨rfl, hkind⟩ := Command.declares_iff.1 hc
      exact ⟨before, c, after, rfl, (repeats_iff_of_standard hkind).2 ⟨a, ha, hdecl⟩⟩
    · obtain ⟨before, c, after, hsplit, hc, a, ha, hdecl⟩ := two_le_countP_iff.1 htwice
      have hnone : ∀ b ∈ before, b.declares d name true = false := by
        intro b hb
        have hmem : b ∈ d.beforeStandard commands name := by
          rw [hsplit]
          exact List.mem_append_left _ hb
        exact not_declares_of_mem_beforeStandard hmem
      obtain ⟨rfl, hkind⟩ := Command.declares_iff.1 hc
      -- the declarations before the standard one are a start of all declarations
      obtain ⟨rest, hrest⟩ : d.beforeStandard commands c.name <+: commands :=
        List.takeWhile_prefix _
      refine ⟨before, c, after ++ rest, ?_, (repeats_iff_of_not_standard hkind).2 ⟨hnone, a, ha, hdecl⟩⟩
      rw [← hrest, hsplit]
      simp

/-- Without a standard declaration of a name all declarations are before it. -/
theorem beforeStandard_eq_self {commands : List Command} {name : String}
    (h : ∀ c ∈ commands, c.declares d name true = false) :
    d.beforeStandard commands name = commands := by
  have happend : d.beforeStandard (commands ++ []) name = commands ++ d.beforeStandard [] name :=
    beforeStandard_append h
  rwa [List.append_nil, Dialect.beforeStandard, Dialect.beforeStandard, List.takeWhile_nil,
    List.append_nil] at happend

/-- If no name with a standard declaration has two safety-critical ones, a name is redeclared exactly if
it has two declarations of one kind. -/
theorem exists_redeclares_iff_of_le_one {commands : List Command}
    (h : ∀ c ∈ commands, c.isStandard d = true →
      commands.countP (·.declares d c.name false) ≤ 1) :
    (∃ name, d.Redeclares commands name) ↔
      ∃ name standard, 2 ≤ commands.countP (·.declares d name standard) := by
  constructor
  · rintro ⟨name, htwice | htwice⟩
    · exact ⟨name, true, htwice⟩
    · have hle := (List.takeWhile_sublist (l := commands)
        (fun c => !c.declares d name true)).countP_le (p := (·.declares d name false))
      exact ⟨name, false, Nat.le_trans htwice hle⟩
  · rintro ⟨name, _ | _, htwice⟩
    · have hnone : ∀ c ∈ commands, c.declares d name true = false := by
        intro c hc
        by_contra hdecl
        rw [Bool.not_eq_false] at hdecl
        obtain ⟨rfl, hkind⟩ := Command.declares_iff.1 hdecl
        have hone := h c hc hkind
        omega
      refine ⟨name, Or.inr ?_⟩
      rwa [beforeStandard_eq_self hnone]
    · exact ⟨name, Or.inl htwice⟩

end LayerHeaders
