import LayerHeaders.Manifest.Typing
import LayerHeaders.Proofs.Traversal

/-!
# What a setting is typed as

A setting is typed if its declarations fit together, and then it is typed in one way. `IsDefault` says for
each type which values it has.

* `typedDefault_eq_ok_iff`: the default of a setting under a type.
* `typed_eq_ok_iff`: what a setting is typed as.
-/

namespace LayerHeaders.Setting

variable {s : Setting} {type : SettingType} {d : TypedDefault} {t : TypedSetting}

/-- **Whether a setting of this type has this default.** Integers of 32 bits are not told from those of 64
bits. -/
def IsDefault (s : Setting) (type : SettingType) (d : TypedDefault) : Prop :=
  match type with
  | .bool => ∃ b, s.default = .bool b ∧ d = .bool b
  | .int32 | .int64 =>
    ∃ n fits, s.default = .number (.integer n fits) ∧ n < 0x8000000000000000 ∧ d = .integer n
  | .uint32 | .uint64 => ∃ n fits, s.default = .number (.integer n fits) ∧ 0 ≤ n ∧ d = .integer n
  | .float | .double => ∃ n, s.default = .number n ∧ d = .number n.bits
  | .text => ∃ v, s.default = .string v ∧ d = .text v
  | .enumeration => (∀ f ∈ s.flags, isIdentifier f.key = true) ∧
    ∃ f ∈ s.flags, s.default = .string f.key ∧ d = .flag f.key

/-! ## Values -/

theorem boolDefault?_eq_some_iff : s.boolDefault? = some d ↔ ∃ b, s.default = .bool b ∧ d = .bool b := by
  unfold boolDefault?
  rcases s.default with _ | b | n | v | items | members <;> simp [eq_comm]

theorem signedDefault?_eq_some_iff : s.signedDefault? = some d ↔
    ∃ n fits, s.default = .number (.integer n fits) ∧ n < 0x8000000000000000 ∧ d = .integer n := by
  unfold signedDefault?
  rcases s.default with _ | b | (⟨n, fits⟩ | bits) | v | items | members
  case number.integer =>
    by_cases hn : n < 0x8000000000000000
    · simp [Json.Number.signed?, hn, fits, eq_comm]
    · simp +contextual [Json.Number.signed?, hn]
  all_goals simp [Json.Number.signed?]

theorem unsignedDefault?_eq_some_iff : s.unsignedDefault? = some d ↔
    ∃ n fits, s.default = .number (.integer n fits) ∧ 0 ≤ n ∧ d = .integer n := by
  unfold unsignedDefault?
  rcases s.default with _ | b | (⟨n, fits⟩ | bits) | v | items | members
  case number.integer =>
    by_cases hn : 0 ≤ n
    · have hunsigned : (Json.Number.integer n fits).unsigned? = some n.toNat := if_pos hn
      simp [hunsigned, Int.toNat_of_nonneg hn, hn, fits, eq_comm]
    · simp +contextual [Json.Number.unsigned?, hn]
  all_goals simp [Json.Number.unsigned?]

theorem numberDefault?_eq_some_iff : s.numberDefault? = some d ↔
    ∃ n, s.default = .number n ∧ d = .number n.bits := by
  unfold numberDefault?
  rcases s.default with _ | b | n | v | items | members <;> simp [eq_comm]

theorem textDefault?_eq_some_iff {v : String} : s.textDefault? = some v ↔ s.default = .string v := by
  unfold textDefault?
  rcases s.default with _ | b | n | v | items | members <;> simp

/-! ## The default under a type -/

/-- A value that is asked for is there, or the default does not match. -/
theorem orMismatch_eq_ok_iff {α : Type} (a? : Option α) (a : α) :
    (match a? with
      | some a => .ok a
      | none => .error s.mismatch : Except SettingDefect α) = .ok a ↔ a? = some a := by
  rcases a? with _ | b
  · simp
  · simp

/-- **The default of an enumeration** is one of its flags, and these are identifiers. -/
theorem typedDefault_enumeration_eq_ok_iff :
    s.typedDefault .enumeration = .ok d ↔ IsDefault s .enumeration d := by
  unfold typedDefault
  dsimp only
  by_cases hempty : s.flags.isEmpty = true
  · rw [if_pos hempty]
    constructor
    · intro h
      cases h
    · rintro ⟨-, f, hf, -⟩
      rw [List.isEmpty_iff.1 hempty] at hf
      cases hf
  · rw [if_neg hempty]
    split
    · next f hflag =>
        constructor
        · intro h
          cases h
        · rintro ⟨hidentifiers, -⟩
          have hf := List.find?_some hflag
          rw [hidentifiers f (List.mem_of_find?_eq_some hflag)] at hf
          cases hf
    · next hnone =>
        have hidentifiers : ∀ f ∈ s.flags, isIdentifier f.key = true := fun f hf => by
          simpa using List.find?_eq_none.1 hnone f hf
        constructor
        · intro h
          obtain ⟨name, hname, h⟩ := bind_eq_ok_iff.1 h
          have hname := textDefault?_eq_some_iff.1 ((orMismatch_eq_ok_iff _ _).1 hname)
          by_cases hany : (s.flags.any fun f => f.key == name) = true
          · rw [if_pos hany] at h
            obtain ⟨f, hf, hkey⟩ := List.any_eq_true.1 hany
            obtain rfl := eq_of_beq hkey
            exact ⟨hidentifiers, f, hf, hname, (Except.ok.inj h).symm⟩
          · rw [if_neg hany] at h
            cases h
        · rintro ⟨-, f, hf, hname, rfl⟩
          have hany : (s.flags.any fun g => g.key == f.key) = true :=
            List.any_eq_true.2 ⟨f, hf, beq_self_eq_true _⟩
          refine bind_eq_ok_iff.2
            ⟨f.key, (orMismatch_eq_ok_iff _ _).2 (textDefault?_eq_some_iff.2 hname), ?_⟩
          rw [if_pos hany]
          rfl

/-- **The default of a setting** under a type. -/
theorem typedDefault_eq_ok_iff : s.typedDefault type = .ok d ↔ IsDefault s type d := by
  cases type with
  | enumeration => exact typedDefault_enumeration_eq_ok_iff
  | bool => exact (orMismatch_eq_ok_iff _ d).trans boolDefault?_eq_some_iff
  | int32 | int64 => exact (orMismatch_eq_ok_iff _ d).trans signedDefault?_eq_some_iff
  | uint32 | uint64 => exact (orMismatch_eq_ok_iff _ d).trans unsignedDefault?_eq_some_iff
  | float | double => exact (orMismatch_eq_ok_iff _ d).trans numberDefault?_eq_some_iff
  | text =>
      refine (orMismatch_eq_ok_iff _ d).trans (Option.map_eq_some_iff.trans ?_)
      simp only [textDefault?_eq_some_iff, IsDefault, @eq_comm _ d]

/-- **What a setting is typed as**: its key is an identifier, and its type, default and condition are those
that it declares. -/
theorem typed_eq_ok_iff :
    s.typed = .ok t ↔ t.setting = s ∧ isIdentifier s.key = true ∧
      SettingType.ofName? s.type = some t.type ∧ IsDefault s t.type t.default ∧
      platformsCondition s.platforms = .ok t.condition? := by
  rw [typed, mapError_eq_ok_iff, typed?, ← typedDefault_eq_ok_iff]
  by_cases hkey : isIdentifier s.key = true
  · rcases htype : SettingType.ofName? s.type with _ | type
    · constructor
      · intro h
        rw [hkey] at h
        cases h
      · rintro ⟨-, -, hnone, -⟩
        cases hnone
    · rw [hkey]
      constructor
      · intro h
        obtain ⟨default, hdefault, h⟩ := bind_eq_ok_iff.1 h
        obtain ⟨condition?, hcondition, h⟩ := bind_eq_ok_iff.1 h
        obtain rfl := Except.ok.inj h
        exact ⟨rfl, rfl, rfl, hdefault, hcondition⟩
      · rintro ⟨rfl, -, htype, hdefault, hcondition⟩
        obtain rfl := Option.some.inj htype
        exact bind_eq_ok_iff.2 ⟨_, hdefault, bind_eq_ok_iff.2 ⟨_, hcondition, rfl⟩⟩
  · constructor
    · intro h
      rw [Bool.eq_false_iff.2 hkey] at h
      cases h
    · rintro ⟨-, hidentifier, -⟩
      exact absurd hidentifier hkey

end LayerHeaders.Setting
