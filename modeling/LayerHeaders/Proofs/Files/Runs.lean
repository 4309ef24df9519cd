import LayerHeaders.Proofs.Files.Disk

/-!
# Runs on a disk

A program that works on a disk ends with a result or with a failure, and leaves a disk. `Ends` says of a
run from a given disk what holds in either case; its laws follow the ways programs are put together.

* `ends_bind`, `ends_tryCatch`: one program after another, and after a failure.
* `Within`: a program that takes each disk to a related one, and how such programs are put together.
* `ends_change`: an operation that changes the disk takes a fault, and is not run if there is one.
* `ends_createDirectory`, `ends_createTemporary`, `ends_rename`: how each operation ends.
-/

namespace LayerHeaders.Files.Disk

variable {α β ε : Type} {d : Disk}

/-- **Whether a run from a disk ends as described.** -/
structure Ends (x : ExceptT ε (StateM Disk) α) (d : Disk) (ok : α → Disk → Prop)
    (error : ε → Disk → Prop) : Prop where
  /-- What holds of a result and the disk that is left. -/
  ok : ∀ a d', x.run.run d = (.ok a, d') → ok a d'
  /-- What holds of a failure and the disk that is left. -/
  error : ∀ e d', x.run.run d = (.error e, d') → error e d'

section

variable {x : ExceptT ε (StateM Disk) α} {ok ok' : α → Disk → Prop} {error error' : ε → Disk → Prop}

theorem Ends.mono (h : Ends x d ok error) (hok : ∀ a d', ok a d' → ok' a d')
    (herror : ∀ e d', error e d' → error' e d') : Ends x d ok' error' :=
  ⟨fun a d' hx => hok a d' (h.ok a d' hx), fun e d' hx => herror e d' (h.error e d' hx)⟩

theorem ends_of_eq_ok {a : α} {d' : Disk} (h : x.run.run d = (.ok a, d')) :
    Ends x d ok error ↔ ok a d' := by
  constructor
  · exact fun hends => hends.ok a d' h
  · refine fun hok => ⟨fun a' d'' h' => ?_, fun e d'' h' => ?_⟩
    · obtain ⟨ha, rfl⟩ := Prod.mk.inj (h.symm.trans h')
      exact Except.ok.inj ha ▸ hok
    · cases (Prod.mk.inj (h.symm.trans h')).1

theorem ends_of_eq_error {e : ε} {d' : Disk} (h : x.run.run d = (.error e, d')) :
    Ends x d ok error ↔ error e d' := by
  constructor
  · exact fun hends => hends.error e d' h
  · refine fun herror => ⟨fun a d'' h' => ?_, fun e' d'' h' => ?_⟩
    · cases (Prod.mk.inj (h.symm.trans h')).1
    · obtain ⟨he, rfl⟩ := Prod.mk.inj (h.symm.trans h')
      exact Except.error.inj he ▸ herror

/-- Two runs with the same outcome. -/
theorem ends_congr {y : ExceptT ε (StateM Disk) α} {d' : Disk} (h : x.run.run d = y.run.run d') :
    Ends x d ok error ↔ Ends y d' ok error := by
  rcases hy : y.run.run d' with ⟨e | a, d''⟩
  · rw [ends_of_eq_error (h.trans hy), ends_of_eq_error hy]
  · rw [ends_of_eq_ok (h.trans hy), ends_of_eq_ok hy]

/-! ## Programs put together -/

@[simp] theorem ends_pure {a : α} : Ends (pure a) d ok error ↔ ok a d :=
  ends_of_eq_ok rfl

@[simp] theorem ends_throw {e : ε} : Ends (throw e) d ok error ↔ error e d :=
  ends_of_eq_error rfl

/-- An action that cannot fail. -/
@[simp] theorem ends_lift {x : StateM Disk α} :
    Ends (ExceptT.lift x) d ok error ↔ ok (x.run d).1 (x.run d).2 :=
  ends_of_eq_ok rfl

@[simp] theorem ends_get {ok : Disk → Disk → Prop} :
    Ends (get : ExceptT ε (StateM Disk) Disk) d ok error ↔ ok d d :=
  ends_of_eq_ok rfl

@[simp] theorem ends_set {d' : Disk} {ok : PUnit → Disk → Prop} :
    Ends (set d' : ExceptT ε (StateM Disk) PUnit) d ok error ↔ ok ⟨⟩ d' :=
  ends_of_eq_ok rfl

/-- One program after another. -/
@[simp] theorem ends_bind {f : α → ExceptT ε (StateM Disk) β} {ok : β → Disk → Prop} :
    Ends (x >>= f) d ok error ↔ Ends x d (fun a d' => Ends (f a) d' ok error) error := by
  have hrun : (x >>= f).run.run d =
      (ExceptT.bindCont f (x.run.run d).1).run (x.run.run d).2 := rfl
  rcases hx : x.run.run d with ⟨e | a, d'⟩
  · rw [hx] at hrun
    rw [ends_of_eq_error hrun, ends_of_eq_error hx]
  · rw [hx] at hrun
    rw [ends_congr (y := f a) hrun, ends_of_eq_ok hx]

/-- What is done after a failure. -/
@[simp] theorem ends_tryCatch {f : ε → ExceptT ε (StateM Disk) α} :
    Ends (tryCatch x f) d ok error ↔ Ends x d ok fun e d' => Ends (f e) d' ok error := by
  rcases hx : StateT.run x d with ⟨e | a, d'⟩
  · have hrun : (tryCatch x f).run.run d = (f e).run.run d' := by
      simp only [tryCatch, tryCatchThe, MonadExceptOf.tryCatch, ExceptT.tryCatch, ExceptT.run_mk,
        StateT.run_bind, hx]
      rfl
    rw [ends_congr (y := f e) hrun, ends_of_eq_error hx]
  · have hrun : (tryCatch x f).run.run d = (.ok a, d') := by
      simp only [tryCatch, tryCatchThe, MonadExceptOf.tryCatch, ExceptT.tryCatch, ExceptT.run_mk,
        StateT.run_bind, hx]
      rfl
    rw [ends_of_eq_ok hrun, ends_of_eq_ok hx]

/-- A failure in other words. -/
@[simp] theorem ends_adapt {ε' : Type} {g : ε → ε'} {error : ε' → Disk → Prop} :
    Ends (x.adapt g) d ok error ↔ Ends x d ok fun e => error (g e) := by
  have hrun : (x.adapt g).run.run d = ((x.run.run d).1.mapError g, (x.run.run d).2) := rfl
  rcases hx : x.run.run d with ⟨e | a, d'⟩
  · rw [hx] at hrun
    rw [ends_of_eq_error hrun, ends_of_eq_error hx]
  · rw [hx] at hrun
    rw [ends_of_eq_ok hrun, ends_of_eq_ok hx]

/-- A program whose result or failure is looked at. -/
theorem ends_attempt {ε' : Type} {f : Except ε α → ExceptT ε' (StateM Disk) β} {ok : β → Disk → Prop}
    {error : ε' → Disk → Prop} :
    Ends (liftM x.run >>= f) d ok error ↔
      Ends x d (fun a d' => Ends (f (.ok a)) d' ok error) fun e d' => Ends (f (.error e)) d' ok error := by
  have hlift : (liftM x.run : ExceptT ε' (StateM Disk) (Except ε α)).run.run d =
      (.ok (x.run.run d).1, (x.run.run d).2) := rfl
  rw [ends_bind, ends_of_eq_ok hlift]
  rcases hx : x.run.run d with ⟨e | a, d'⟩
  · rw [ends_of_eq_error hx]
  · rw [ends_of_eq_ok hx]

end

/-! ## Related disks -/

/-- **Whether a program takes each disk to one that is related to it**, whatever comes out. -/
def Within (R : Disk → Disk → Prop) (x : ExceptT ε (StateM Disk) α) : Prop :=
  ∀ d, Ends x d (fun _ => R d) fun _ => R d

section

variable {R : Disk → Disk → Prop} {x : ExceptT ε (StateM Disk) α}

/-- The disk that is left is related to the one before. -/
theorem Within.left (h : Within R x) (d : Disk) : R d (x.run.run d).2 := by
  rcases hx : x.run.run d with ⟨e | a, d'⟩
  · exact (h d).error e d' hx
  · exact (h d).ok a d' hx

theorem Within.adapt {ε' : Type} (h : Within R x) (g : ε → ε') : Within R (x.adapt g) :=
  fun d => ends_adapt.2 (h d)

theorem within_pure [Std.Refl R] (a : α) : Within R (pure a : ExceptT ε (StateM Disk) α) :=
  fun d => ends_pure.2 (Std.Refl.refl d)

theorem within_throw [Std.Refl R] (e : ε) : Within R (throw e : ExceptT ε (StateM Disk) α) :=
  fun d => ends_throw.2 (Std.Refl.refl d)

/-- A program that does not look at the disk. -/
theorem within_liftM [Std.Refl R] (r : Except ε α) : Within R (liftM r : ExceptT ε (StateM Disk) α) := by
  cases r with
  | error e => exact within_throw e
  | ok a => exact within_pure a

variable [IsTrans Disk R]

theorem Within.bind {f : α → ExceptT ε (StateM Disk) β} (hx : Within R x) (hf : ∀ a, Within R (f a)) :
    Within R (x >>= f) := by
  intro d
  rw [ends_bind]
  refine (hx d).mono (fun a d' h => ?_) fun _ _ h => h
  exact (hf a d').mono (fun _ _ => Trans.trans h) fun _ _ => Trans.trans h

theorem Within.tryCatch {f : ε → ExceptT ε (StateM Disk) α} (hx : Within R x)
    (hf : ∀ e, Within R (f e)) : Within R (tryCatch x f) := by
  intro d
  rw [ends_tryCatch]
  refine (hx d).mono (fun _ _ h => h) fun e d' h => ?_
  exact (hf e d').mono (fun _ _ => Trans.trans h) fun _ _ => Trans.trans h

theorem Within.attempt {ε' : Type} {f : Except ε α → ExceptT ε' (StateM Disk) β} (hx : Within R x)
    (hf : ∀ r, Within R (f r)) : Within R (liftM x.run >>= f) := by
  intro d
  rw [ends_attempt]
  refine (hx d).mono (fun a d' h => ?_) fun e d' h => ?_
  · exact (hf _ d').mono (fun _ _ => Trans.trans h) fun _ _ => Trans.trans h
  · exact (hf _ d').mono (fun _ _ => Trans.trans h) fun _ _ => Trans.trans h

end

/-! ## Changes -/

/-- The disk with one fault less. -/
def tick (d : Disk) : Disk :=
  { d with faults := d.faults.tail }

/-- **An operation that changes the disk** is prevented by a fault, or fails, or changes it. -/
theorem ends_change {f : Disk → Except FileError (α × Disk)} {ok : α → Disk → Prop}
    {error : FileError → Disk → Prop}
    (herror : ∀ e, error e d.tick) (hok : ∀ a d', f d.tick = .ok (a, d') → ok a d') :
    Ends (change f) d ok error := by
  rw [change, ends_bind, ends_get, ends_bind, ends_set]
  rcases d.faults.head?.join with _ | e
  · rcases hf : f d.tick with e | ⟨a, d'⟩
    · simp only [tick] at hf
      simp only [hf, ends_throw]
      exact herror e
    · simp only [tick] at hf
      simp only [hf, ends_bind, ends_set, ends_pure]
      exact hok a d' hf
  · exact ends_throw.2 (herror e)

/-! ## Operations -/

section

variable {path text : String} {file : Place} {ok : Unit → Disk → Prop} {error : FileError → Disk → Prop}

theorem ends_createDirectory (herror : ∀ e, error e d.tick)
    (hok : ∀ place, d.entry? place = none → ok () (d.tick.insert place .directory)) :
    Ends (system.createDirectory path) d ok error := by
  show Ends (change fun d => do return ((), ← d.createDirectory path)) d ok error
  refine ends_change herror fun _ d' h => ?_
  obtain ⟨d'', hcreate, h⟩ := bind_eq_ok_iff.1 h
  obtain ⟨place, hplace, rfl⟩ := createDirectory_eq_ok hcreate
  obtain rfl := (Prod.mk.inj (Except.ok.inj h)).2
  exact hok place hplace

theorem ends_createTemporary {ok : Place → Disk → Prop} (herror : ∀ e, error e d.tick)
    (hok : ∀ file, d.entry? file = none → ok file (d.tick.insert file (.file .empty))) :
    Ends (system.createTemporary path) d ok error := by
  show Ends (change fun d => d.createTemporary path) d ok error
  refine ends_change herror fun file d' h => ?_
  obtain ⟨hfile, rfl⟩ := createTemporary_eq_ok h
  exact hok file hfile

theorem ends_write (herror : ∀ e, error e d.tick)
    (hok : ok () (d.tick.insert file (.file text.toUTF8))) :
    Ends (system.write file text) d ok error := by
  show Ends (change fun d => .ok ((), d.write file text)) d ok error
  refine ends_change herror fun _ d' h => ?_
  obtain rfl := (Prod.mk.inj (Except.ok.inj h)).2
  exact hok

theorem ends_sync (herror : ∀ e, error e d.tick) (hok : ok () d.tick) :
    Ends (system.sync file) d ok error := by
  show Ends (change fun d => .ok ((), d)) d ok error
  refine ends_change herror fun _ d' h => ?_
  obtain rfl := (Prod.mk.inj (Except.ok.inj h)).2
  exact hok

theorem ends_rename (herror : ∀ e, error e d.tick)
    (hok : ∀ place entry, d.tick.locate path = .ok place → Path.endsInSlash path = false →
      d.entry? place ≠ some .directory → d.entry? file = some entry →
      ok () ((d.tick.erase file).insert place entry)) :
    Ends (system.rename file path) d ok error := by
  show Ends (change fun d => do return ((), ← d.rename file path)) d ok error
  refine ends_change herror fun _ d' h => ?_
  obtain ⟨d'', hrename, h⟩ := bind_eq_ok_iff.1 h
  obtain ⟨place, entry, hplace, hslash, hnot, hentry, rfl⟩ := rename_eq_ok hrename
  obtain rfl := (Prod.mk.inj (Except.ok.inj h)).2
  exact hok place entry hplace hslash hnot hentry

/-- A look at a path changes nothing. -/
theorem ends_isDirectory {ok : Bool → Disk → Prop} :
    Ends (liftM (system.isDirectory path)) d ok error ↔ ok (d.isDirectory path) d :=
  ends_of_eq_ok rfl

theorem ends_discard :
    Ends (liftM (system.discard file)) d ok error ↔ ok () (d.erase file) :=
  ends_of_eq_ok rfl

end

end LayerHeaders.Files.Disk
