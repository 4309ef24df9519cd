import LayerHeaders.Files.Replacement
import LayerHeaders.Proofs.Files.Runs

/-!
# What replacing a file does to a disk

While a file is replaced, the disk has the files that it had, and later one temporary file more. This
file is given the path in the end, or discarded, so that a run that fails leaves the files as they were.

* `Keeps`: a disk has the same files, and all directories.
* `within_createDirectories`: directories that are created change no file.
* `Holds`, `ends_fill`: a disk with a temporary file, until that is moved.
* `Replaces`, `ends_replace`: a file is replaced, or everything is kept.
-/

namespace LayerHeaders.Files.Disk

variable {d d' d'' : Disk} {path text : String} {file place : Place} {content : ByteArray}

/-! ## Directories -/

/-- **Whether a disk has the same files as before, and all directories.** -/
structure Keeps (d d' : Disk) : Prop where
  /-- It works in the same directory. -/
  workingDirectory : d'.workingDirectory = d.workingDirectory
  /-- It has the same files. -/
  file? : d'.file? = d.file?
  /-- The directories are still there. -/
  directory : ∀ place, d.entry? place = some .directory → d'.entry? place = some .directory

namespace Keeps

theorem refl (d : Disk) : Keeps d d :=
  ⟨rfl, rfl, fun _ h => h⟩

theorem trans (h : Keeps d d') (h' : Keeps d' d'') : Keeps d d'' :=
  ⟨h'.workingDirectory.trans h.workingDirectory, h'.file?.trans h.file?,
    fun place hplace => h'.directory place (h.directory place hplace)⟩

theorem tick (d : Disk) : Keeps d d.tick :=
  ⟨rfl, rfl, fun _ h => h⟩

/-- A directory where nothing was. -/
theorem insert (h : d.entry? place = none) : Keeps d (d.insert place .directory) := by
  have hentry : Disk.entry? (d.insert place .directory) = Function.update d.entry? place (some .directory) :=
    entry?_insert (ne_nil_of_free h)
  refine ⟨rfl, ?_, fun q hq => ?_⟩
  · funext q
    by_cases hq : q = place
    · subst hq
      rw [Disk.file?, Disk.file?, hentry, Function.update_self, h]
    · rw [Disk.file?, Disk.file?, hentry, Function.update_of_ne hq]
  · by_cases hqp : q = place
    · rw [hentry, hqp, Function.update_self]
    · rw [hentry, Function.update_of_ne hqp, hq]

end Keeps

instance : Std.Refl Keeps :=
  ⟨.refl⟩

instance : IsTrans Disk Keeps :=
  ⟨fun _ _ _ => .trans⟩

theorem within_createDirectory (path : String) : Within Keeps (system.createDirectory path) := fun d =>
  ends_createDirectory (fun _ => .tick d) fun _ hplace => (Keeps.tick d).trans (.insert hplace)

theorem within_passOver (path : String) (e : FileError) : Within Keeps (system.passOver path e) := by
  refine .bind (fun d => ends_isDirectory.2 (.refl d)) fun isDirectory => ?_
  split
  · exact within_pure ()
  · exact within_throw e

theorem within_ensureDirectory (path : String) : Within Keeps (system.ensureDirectory path) :=
  (within_createDirectory path).tryCatch (within_passOver path)

theorem within_createNames (absolute : Bool) (names : List String) :
    Within Keeps (system.createNames absolute names) := by
  induction names with
  | nil => exact within_pure ()
  | cons name outer ih =>
      refine (within_createDirectory _).tryCatch fun e => ?_
      split
      · exact ih.bind fun _ => within_ensureDirectory _
      · exact within_passOver _ e

/-- **Creating directories changes no file**, and no directory goes. -/
theorem within_createDirectories (path : String) : Within Keeps (system.createDirectories path) :=
  within_createNames _ _

/-! ## A temporary file -/

/-- **Whether a disk holds a temporary file** with a content, where nothing was, and is otherwise as
before. -/
structure Holds (d : Disk) (file : Place) (content : ByteArray) (d' : Disk) : Prop where
  /-- Nothing was there before. -/
  free : d.entry? file = none
  /-- It works in the same directory. -/
  workingDirectory : d'.workingDirectory = d.workingDirectory
  /-- The file is there now. -/
  entries : d'.entry? = Function.update d.entry? file (some (.file content))

/-- **Whether a disk has a content at a path**, and otherwise the same files as before, and all
directories. -/
structure Replaces (d : Disk) (path : String) (content : ByteArray) (d' : Disk) : Prop where
  /-- The content is read at the path. -/
  read : d'.read path = .ok content
  /-- All files but the one at the path are as before. -/
  file? : ∃ place, d'.locate path = .ok place ∧ d'.file? = Function.update d.file? place (some content)
  /-- The directories are still there. -/
  directory : ∀ place, d.entry? place = some .directory → d'.entry? place = some .directory

namespace Holds

theorem ne_nil (h : Holds d file content d') : file ≠ [] :=
  ne_nil_of_free h.free

theorem tick (h : Holds d file content d') : Holds d file content d'.tick :=
  ⟨h.free, h.workingDirectory, h.entries⟩

theorem create (h : d.entry? file = none) : Holds d file .empty (d.tick.insert file (.file .empty)) :=
  ⟨h, rfl, entry?_insert (ne_nil_of_free h)⟩

/-- The directories are still there. -/
theorem directory (h : Holds d file content d') (hplace : d.entry? place = some .directory) :
    d'.entry? place = some .directory := by
  have hne : place ≠ file := by
    rintro rfl
    rw [h.free] at hplace
    cases hplace
  rw [h.entries, Function.update_of_ne hne, hplace]

/-- The file is written. -/
theorem write (h : Holds d file content d') (content' : ByteArray) :
    Holds d file content' (d'.tick.insert file (.file content')) := by
  refine ⟨h.free, h.workingDirectory, ?_⟩
  rw [entry?_insert h.ne_nil]
  show Function.update d'.entry? file _ = _
  rw [h.entries, Function.update_idem]

/-- The file is taken away. -/
theorem erase_entries (h : Holds d file content d') : Disk.entry? (d'.erase file) = d.entry? := by
  rw [Disk.entry?_erase h.ne_nil, h.entries, Function.update_idem, ← h.free, Function.update_eq_self]

/-- **Without the temporary file everything is as before.** -/
theorem discard (h : Holds d file content d') : Keeps d (d'.erase file) := by
  refine ⟨h.workingDirectory, ?_, fun place hplace => ?_⟩
  · funext place
    rw [Disk.file?, Disk.file?, h.erase_entries]
  · rw [h.erase_entries, hplace]

/-- **The temporary file replaces the one at the path** when it is moved there. -/
theorem rename (h : Holds d file content d') {entry : Entry} (hplace : d'.locate path = .ok place)
    (hslash : Path.endsInSlash path = false) (hnot : d'.entry? place ≠ some .directory)
    (hentry : d'.entry? file = some entry) :
    Replaces d path content ((d'.erase file).insert place entry) := by
  obtain rfl : entry = .file content := by
    rw [h.entries, Function.update_self, Option.some.injEq] at hentry
    exact hentry.symm
  have hafter : Disk.entry? ((d'.erase file).insert place (.file content)) =
      Function.update d.entry? place (some (.file content)) := by
    rw [entry?_insert (ne_nil_of_not_directory hnot), h.erase_entries]
  -- neither the temporary file nor what it replaces is a directory, so paths lead where they led
  have hdirectory : ∀ p, d'.entry? p = some .directory →
      Disk.entry? ((d'.erase file).insert place (.file content)) p = some .directory := by
    intro p hp
    have hplace : p ≠ place := by
      rintro rfl
      exact hnot hp
    have hfile : p ≠ file := by
      rintro rfl
      rw [hentry] at hp
      cases hp
    rw [hafter, Function.update_of_ne hplace]
    rwa [h.entries, Function.update_of_ne hfile] at hp
  have hlocate : ((d'.erase file).insert place (.file content)).locate path = .ok place :=
    locate_of_directories (d := d') rfl hdirectory hplace
  refine ⟨read_eq_ok hlocate hslash ?_, ⟨place, hlocate, file?_of_update hafter⟩,
    fun p hp => hdirectory p (h.directory hp)⟩
  rw [hafter, Function.update_self]

end Holds

/-! ## A file is replaced -/

/-- **A temporary file is written and moved**, or is still there. -/
theorem ends_fill (h : Holds d file content d') :
    Ends (system.fill file path text) d' (fun _ => Replaces d path text.toUTF8)
      fun _ d'' => ∃ content', Holds d file content' d'' := by
  have hwritten := h.write text.toUTF8
  rw [FileSystem.fill, ends_bind]
  refine ends_write (fun _ => ⟨_, h.tick⟩) ?_
  rw [ends_bind]
  refine ends_sync (fun _ => ⟨_, hwritten.tick⟩) ?_
  exact ends_rename (fun _ => ⟨_, hwritten.tick.tick⟩) fun place entry hplace hslash hnot hentry =>
    hwritten.tick.tick.rename hplace hslash hnot hentry

/-- What is replaced after directories were created. -/
theorem Replaces.of_keeps (hkeeps : Keeps d d') (h : Replaces d' path content d'') :
    Replaces d path content d'' := by
  obtain ⟨place, hplace, hfile⟩ := h.file?
  refine ⟨h.read, ⟨place, hplace, ?_⟩, fun p hp => h.directory p (hkeeps.directory p hp)⟩
  rw [hfile, hkeeps.file?]

/-- **A file is replaced, or everything is kept.** -/
theorem ends_replace (d : Disk) (path text : String) :
    Ends (system.replace path text) d (fun _ => Replaces d path text.toUTF8) (fun _ => Keeps d) := by
  rw [FileSystem.replace, ends_bind]
  refine (within_createDirectories _ d).mono (fun _ d₁ hkeeps => ?_) fun _ _ h => h
  rw [ends_bind]
  refine ends_createTemporary (fun _ => hkeeps.trans (.tick d₁)) fun file hfile => ?_
  rw [ends_tryCatch]
  refine (ends_fill (.create hfile)).mono (fun _ _ h => h.of_keeps hkeeps) fun e d₂ h => ?_
  obtain ⟨content, hholds⟩ := h
  rw [ends_bind, ends_discard, ends_throw]
  exact hkeeps.trans hholds.discard

-- a file is written into a new directory, and replacing it fails in the last step
example :
    let written := (system.replace "out/a.h" "one").run.run (.empty ["w"])
    let failed := (system.replace "out/a.h" "two").run.run
      { written.2 with faults := [none, none, none, none, some .busy] }
    written.1.isOk = true ∧ failed.1.isOk = false ∧
      failed.2.read "out/a.h" = .ok "one".toUTF8 := by
  decide +kernel

end LayerHeaders.Files.Disk
