import LayerHeaders.Files.Disk
import LayerHeaders.Proofs.Traversal
import Mathlib.Logic.Function.Basic

/-!
# What operations do to a disk

A disk is looked at through the entry at each place. An operation that changes it adds or replaces the
entry at one place, or moves a file; it does so only where a directory does not stand, so that a path
leads to the same place afterwards.

* `entry?_insert`, `entry?_erase`: the entries after one is put somewhere or taken away.
* `createDirectory_eq_ok`, `createTemporary_eq_ok`, `rename_eq_ok`: what each operation does.
* `locate_of_directories`, `read_eq_ok`: what a path leads to.
-/

namespace LayerHeaders.Files.Disk

variable {d d' : Disk} {place file : Place} {entry : Entry} {path : String}

/-! ## Entries -/

/-- The content of the file at a place. -/
def file? (d : Disk) (place : Place) : Option ByteArray :=
  match d.entry? place with
  | some (.file content) => some content
  | _ => none

theorem ne_nil_of_not_directory (h : d.entry? place ≠ some .directory) : place ≠ [] := by
  rintro rfl
  exact h rfl

theorem ne_nil_of_free (h : d.entry? place = none) : place ≠ [] :=
  ne_nil_of_not_directory (by rw [h]; simp)

theorem entry?_of_ne_nil (h : place ≠ []) : d.entry? place = d.entries.lookup place := by
  rw [Disk.entry?, if_neg (by simpa using h)]

/-- What a look-up finds after the entries of another place are left out. -/
theorem lookup_filter_ne {entries : List (Place × Entry)} {q : Place} (h : q ≠ place) :
    (entries.filter (·.1 != place)).lookup q = entries.lookup q := by
  induction entries with
  | nil => rfl
  | cons e entries ih =>
      obtain ⟨p, entry⟩ := e
      by_cases hp : p = place
      · subst hp
        rw [List.filter_cons_of_neg (by simp), ih, List.lookup_cons, beq_eq_false_iff_ne.2 h]
      · rw [List.filter_cons_of_pos (by simpa using hp), List.lookup_cons, List.lookup_cons, ih]

theorem lookup_filter_self (entries : List (Place × Entry)) :
    (entries.filter (·.1 != place)).lookup place = none := by
  rw [List.lookup_eq_none_iff]
  intro e he
  have hne : e.1 ≠ place := by simpa using (List.mem_filter.1 he).2
  exact bne_iff_ne.2 hne.symm

/-- **The entries after one is put somewhere.** -/
theorem entry?_insert (h : place ≠ []) :
    Disk.entry? (d.insert place entry) = Function.update d.entry? place (some entry) := by
  funext q
  by_cases hq : q = place
  · subst hq
    rw [Function.update_self, entry?_of_ne_nil h, insert, List.lookup_cons_self]
  · rw [Function.update_of_ne hq]
    by_cases hnil : q = []
    · subst hnil
      rfl
    · rw [entry?_of_ne_nil hnil, entry?_of_ne_nil hnil, insert, List.lookup_cons,
        beq_eq_false_iff_ne.2 hq]
      exact lookup_filter_ne hq

/-- **The entries after one is taken away.** -/
theorem entry?_erase (h : place ≠ []) :
    Disk.entry? (d.erase place) = Function.update d.entry? place none := by
  funext q
  by_cases hq : q = place
  · subst hq
    rw [Function.update_self, entry?_of_ne_nil h, erase, lookup_filter_self]
  · rw [Function.update_of_ne hq]
    by_cases hnil : q = []
    · subst hnil
      rfl
    · rw [entry?_of_ne_nil hnil, entry?_of_ne_nil hnil, erase, lookup_filter_ne hq]

/-- The files after one is put somewhere. -/
theorem file?_of_update {content : ByteArray}
    (h : d'.entry? = Function.update d.entry? place (some (.file content))) :
    d'.file? = Function.update d.file? place (some content) := by
  funext q
  by_cases hq : q = place
  · subst hq
    rw [Function.update_self, file?, h, Function.update_self]
  · rw [Function.update_of_ne hq, file?, file?, h, Function.update_of_ne hq]

/-! ## Operations -/

/-- **A directory is created where nothing was.** -/
theorem createDirectory_eq_ok (h : d.createDirectory path = .ok d') :
    ∃ place, d.entry? place = none ∧ d' = d.insert place .directory := by
  obtain ⟨place, -, h⟩ := bind_eq_ok_iff.1 h
  rcases hentry : d.entry? place with _ | entry
  · rw [hentry] at h
    exact ⟨place, hentry, (Except.ok.inj h).symm⟩
  · rw [hentry] at h
    cases h

/-- **A temporary file is created where nothing was.** -/
theorem createTemporary_eq_ok (h : d.createTemporary path = .ok (file, d')) :
    d.entry? file = none ∧ d' = d.insert file (.file .empty) := by
  obtain ⟨place, -, h⟩ := bind_eq_ok_iff.1 h
  split at h
  · cases h
  · cases h
  · dsimp only at h
    split at h
    · cases h
    · next n hn =>
        have hfree := List.find?_some hn
        obtain ⟨rfl, rfl⟩ := Prod.mk.inj (Except.ok.inj h)
        exact ⟨Option.isNone_iff_eq_none.1 hfree, rfl⟩

/-- **A file is moved to the place of a path**, where no directory was. -/
theorem rename_eq_ok (h : d.rename file path = .ok d') :
    ∃ place entry, d.locate path = .ok place ∧ Path.endsInSlash path = false ∧
      d.entry? place ≠ some .directory ∧ d.entry? file = some entry ∧
      d' = (d.erase file).insert place entry := by
  obtain ⟨place, hplace, h⟩ := bind_eq_ok_iff.1 h
  dsimp only at h
  by_cases hname : (!endsInName path) = true
  · rw [if_pos hname] at h
    cases h
  · rw [if_neg hname] at h
    by_cases hslash : Path.endsInSlash path = true
    · rw [if_pos hslash] at h
      cases h
    · rw [if_neg hslash] at h
      split at h
      · cases h
      · cases h
      · next hentry hnot =>
          exact ⟨place, _, hplace, Bool.eq_false_iff.2 hslash, hnot, hentry, (Except.ok.inj h).symm⟩

/-! ## Paths -/

/-- A name leads to the same place as long as directories stay. -/
theorem child_of_directories {name : String} {q : Place}
    (hdirectory : ∀ p, d.entry? p = some .directory → d'.entry? p = some .directory)
    (h : d.child place name = .ok q) : d'.child place name = .ok q := by
  rw [child] at h
  split at h
  · cases h
  · cases h
  · next hentry =>
      rw [child, hdirectory _ hentry]
      exact h

/-- **A path leads to the same place as long as directories stay.** -/
theorem locate_of_directories (hworking : d'.workingDirectory = d.workingDirectory)
    (hdirectory : ∀ p, d.entry? p = some .directory → d'.entry? p = some .directory)
    (h : d.locate path = .ok place) : d'.locate path = .ok place := by
  have hnames : ∀ (names : List String) (start : Place), d.locateNames start names = .ok place →
      d'.locateNames start names = .ok place := by
    intro names
    induction names with
    | nil => exact fun _ h => h
    | cons name names ih =>
        intro start h
        rw [locateNames, List.foldlM_cons, bind_eq_ok_iff] at h ⊢
        obtain ⟨q, hq, h⟩ := h
        exact ⟨q, child_of_directories hdirectory hq, ih q h⟩
  rw [locate] at h ⊢
  rw [hworking]
  split_ifs at h ⊢
  all_goals exact hnames _ _ h

/-- What is read at a path that leads to a file. -/
theorem read_eq_ok {content : ByteArray} (hplace : d.locate path = .ok place)
    (hslash : Path.endsInSlash path = false) (hentry : d.entry? place = some (.file content)) :
    d.read path = .ok content := by
  have hfind : d.find path = .ok (.file content) := by
    rw [find, hplace]
    simp [bind, Except.bind, hentry, hslash, pure, Except.pure]
  rw [read, hfind]
  rfl

end LayerHeaders.Files.Disk
