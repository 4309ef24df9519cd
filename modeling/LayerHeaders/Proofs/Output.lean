import LayerHeaders.CommandLine.Run
import LayerHeaders.Proofs.Files.Replacement

/-!
# Output is written in full or not at all

A task reads files, makes a text and writes it. If the text is not made, the disk is not touched. If it is
made, it stands in full at the path that comes out, with all other files as before; or the task fails, and
all files are as before, with no temporary file left. This is so on every disk and for all faults.

* `AllOrNothing`: what a program that writes a text may do.
* `allOrNothing_writeOutput`: writing of a text, if it is made.
* `AllOrNothing.bind`, `AllOrNothing.adapt`: what comes before it, and failures in other words.
* `output_all_or_nothing`: headers and tasks.
-/

namespace LayerHeaders

open Files Files.Disk CommandLine

/-! ## All or nothing -/

section

variable {ε : Type} {unwritable : String → FileError → ε} {d : Disk} {output fileName : String}

/-- The path that a header goes to, on a disk. -/
def targetPath (d : Disk) (output fileName : String) : String :=
  ((outputPath Disk.system output fileName).run d).1

/-- **What a program that writes a text may do to a disk.** If the text is not made, it does nothing and
gives the failure. Else it writes the whole text to its path, which comes out, and keeps all other files;
or it keeps all files, and fails because that path cannot be written. -/
def AllOrNothing (unwritable : String → FileError → ε) (made : Except ε String)
    (output fileName : String) (program : ExceptT ε (StateM Disk) String) (d : Disk) : Prop :=
  match made with
  | .error e => program.run.run d = (.error e, d)
  | .ok text =>
    let target := targetPath d output fileName
    Ends program d (fun path d' => path = target ∧ Replaces d target text.toUTF8 d')
      fun e d' => (∃ cause, e = unwritable target cause) ∧ Keeps d d'

/-- Where a header goes is found out without a change. -/
theorem outputPath_run (d : Disk) (output fileName : String) :
    (outputPath Disk.system output fileName).run d = (targetPath d output fileName, d) := by
  have hrun : (outputPath Disk.system output fileName).run d =
      (if Path.endsInSlash output || d.isDirectory output then pure (Path.join output fileName)
        else pure output : StateM Disk String).run d := rfl
  rw [targetPath, hrun]
  split <;> rfl

/-- A text is written, or its path cannot be. -/
theorem ends_writeText (d : Disk) (path text : String) :
    Ends (writeText Disk.system path text) d (fun _ => Replaces d path text.toUTF8)
      fun e d' => (∃ cause, e = .unwritable path cause) ∧ Keeps d d' := by
  rw [writeText, ends_attempt]
  exact (ends_replace d path text).mono (fun _ _ h => ends_pure.2 h) fun e _ h =>
    ends_throw.2 ⟨⟨e, rfl⟩, h⟩

/-- **A text that is made is written in full or not at all.** -/
theorem allOrNothing_writeOutput (d : Disk) (made : Except HeaderError String)
    (fileName output : String) :
    AllOrNothing .unwritable made output fileName (writeOutput Disk.system made fileName output) d := by
  rcases made with e | text
  · rfl
  · have hpath : Ends (ExceptT.lift (outputPath Disk.system output fileName)) d
        (fun path d' => path = targetPath d output fileName ∧ d' = d)
        (fun (_ : HeaderError) _ => False) := by
      rw [ends_lift, outputPath_run]
      exact ⟨rfl, rfl⟩
    show Ends (writeOutput Disk.system (.ok text) fileName output) d _ _
    rw [writeOutput, ends_bind]
    refine ends_pure.2 ?_
    rw [ends_bind]
    refine hpath.mono ?_ fun _ _ h => h.elim
    rintro _ _ ⟨rfl, rfl⟩
    rw [ends_bind]
    exact (ends_writeText _ _ text).mono (fun _ _ h => ends_pure.2 ⟨rfl, h⟩) fun _ _ h => h

/-! ### What comes before -/

variable {α ε' : Type} {made : Except ε String} {program : ExceptT ε (StateM Disk) String}

/-- A program that first looks at the disk. -/
theorem AllOrNothing.bind {x : ExceptT ε (StateM Disk) α} {made : α → Except ε String}
    {program : α → ExceptT ε (StateM Disk) String} (hx : d = (x.run.run d).2)
    (h : ∀ a, AllOrNothing unwritable (made a) output fileName (program a) d) :
    AllOrNothing unwritable ((x.run.run d).1 >>= made) output fileName (x >>= program) d := by
  have hrun : (x >>= program).run.run d =
      (ExceptT.bindCont program (x.run.run d).1).run (x.run.run d).2 := rfl
  rw [← hx] at hrun
  rcases hresult : (x.run.run d).1 with e | a
  · rw [hresult] at hrun
    exact hrun
  · have ha := h a
    rw [hresult] at hrun
    show AllOrNothing unwritable (made a) output fileName (x >>= program) d
    rcases hmade : made a with e | text
    · rw [hmade] at ha
      exact hrun.trans ha
    · rw [hmade] at ha
      exact (ends_congr (y := program a) hrun).2 ha

/-- A program that tells its failures in other words. -/
theorem AllOrNothing.adapt {unwritable' : String → FileError → ε'} {g : ε → ε'}
    (hg : ∀ path cause, g (unwritable path cause) = unwritable' path cause)
    (h : AllOrNothing unwritable made output fileName program d) :
    AllOrNothing unwritable' (made.mapError g) output fileName (program.adapt g) d := by
  rcases made with e | text
  · have hrun : (program.adapt g).run.run d =
        ((program.run.run d).1.mapError g, (program.run.run d).2) := rfl
    rw [show program.run.run d = (.error e, d) from h] at hrun
    exact hrun
  · refine ends_adapt.2 (Ends.mono h (fun _ _ h => h) ?_)
    rintro _ d' ⟨⟨cause, rfl⟩, hkeeps⟩
    exact ⟨⟨cause, hg _ cause⟩, hkeeps⟩

end

/-! ## Reading -/

theorem within_readText (path : String) : Within Eq (Disk.system.readText path) := by
  have hread : Within Eq (Disk.system.read path) := by
    refine .bind (fun _ => ends_get.2 rfl) fun d => ?_
    split
    · exact within_pure _
    · exact within_throw _
  refine hread.bind fun bytes => ?_
  split
  · exact within_pure _
  · exact within_throw _

theorem within_readDialect (path : String) : Within Eq (readDialect Disk.system path) := by
  refine (within_readText path).attempt fun r => ?_
  split
  · exact within_throw _
  · split
    · exact within_pure _
    · exact within_throw _

theorem within_readRegistry (dialect : Dialect) (path : String) :
    Within Eq (readRegistry Disk.system dialect path) := by
  refine (within_readText path).attempt fun r => ?_
  split
  · exact within_throw _
  · exact within_liftM _

theorem within_readManifest (path : String) : Within Eq (readManifest Disk.system path) := by
  refine (within_readText path).attempt fun r => ?_
  split
  · exact within_throw _
  · split
    · exact within_pure _
    · exact within_throw _

/-! ## Tasks -/

namespace CommandLine

/-- The default name of the header that a task makes. -/
def Task.fileName : Task → String
  | header kind _ _ => kind.fileName
  | settings _ _ => LayerSettings.fileName

/-- Where the header of a task is asked for. -/
def Task.output : Task → String
  | header _ _ output => output
  | settings _ output => output

/-- The failure of a task whose header cannot be written. -/
def Task.unwritable (path : String) (cause : FileError) : Task → Failure
  | header kind _ _ => .header kind (.unwritable path cause)
  | settings _ _ => .output (.unwritable path cause)

/-- **The text of the header that a task makes** from the files of a disk. -/
def Task.text (d : Disk) (configuration? : Option String) : Task → Except Failure String
  | header kind source _ => do
    let dialect ← match configuration? with
      | some path => (((readDialect Disk.system path).run.run d).1).mapError (.configuration path)
      | none => pure {}
    let r ← (((readRegistry Disk.system dialect source.path).run.run d).1).mapError (.registry source)
    (kind.text r).mapError (.header kind)
  | settings path _ => do
    let manifest ← (((readManifest Disk.system path).run.run d).1).mapError (.manifest path)
    (LayerSettings.text manifest).mapError .ofSettings

end CommandLine

/-- **Output is written in full or not at all**, by a program that makes a header from a registry and by
every task. -/
theorem output_all_or_nothing (d : Disk) :
    (∀ kind r output, AllOrNothing .unwritable (HeaderKind.text kind r) output kind.fileName
      (writeHeader Disk.system kind r output) d) ∧
    ∀ (task : Task) (configuration? : Option String),
      AllOrNothing (fun path cause => task.unwritable path cause) (task.text d configuration?) task.output
        task.fileName (task.perform Disk.system configuration?) d := by
  refine ⟨fun kind r output => allOrNothing_writeOutput d _ _ _, fun task configuration? => ?_⟩
  cases task with
  | header kind source output =>
      have hrest : ∀ dialect : Dialect, AllOrNothing _ _ output kind.fileName _ d := fun dialect =>
        AllOrNothing.bind
          (((within_readRegistry dialect source.path).adapt (Failure.registry source)).left d)
          fun r => (allOrNothing_writeOutput d (kind.text r) kind.fileName output).adapt
            (g := Failure.header kind) fun _ _ => rfl
      cases configuration? with
      | none => exact hrest {}
      | some path =>
          exact AllOrNothing.bind (((within_readDialect path).adapt (Failure.configuration path)).left d) hrest
  | settings path output =>
      exact AllOrNothing.bind (((within_readManifest path).adapt (Failure.manifest path)).left d)
        fun manifest => (allOrNothing_writeOutput d (LayerSettings.text manifest) _ output).adapt
          fun _ _ => rfl

end LayerHeaders
