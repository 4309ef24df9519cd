import LayerHeaders.Decimal.Style
import Mathlib.Data.Int.Notation
import Mathlib.Data.List.Basic

/-!
# The characters of a number

Whatever the style, a number is written in digits, signs, points and the letter of its exponent, so that
its text can stand anywhere in a line.

* `isNumeralChar_of_mem_render`: the characters of a double.
* `isNumeralChar_of_mem_toString`: the characters of an integer.
-/

namespace LayerHeaders

/-- Whether a character may stand in a number. -/
def isNumeralChar (c : Char) : Bool :=
  c.isDigit || c == '.' || c == '-' || c == '+' || c == 'e'

theorem isNumeralChar_of_isDigit {c : Char} (h : c.isDigit = true) : isNumeralChar c = true := by
  simp [isNumeralChar, h]

namespace Style

theorem isNumeralChar_of_mem_digits {n : Nat} {c : Char} (h : c ∈ digits n) : isNumeralChar c = true :=
  isNumeralChar_of_isDigit (Nat.isDigit_of_mem_toDigits (by decide) (by decide) h)

theorem isNumeralChar_of_mem_zeros {n : Nat} {c : Char} (h : c ∈ zeros n) : isNumeralChar c = true := by
  obtain rfl := List.eq_of_mem_replicate h
  decide

/-- The positional layout adds a point and zeros to the digits. -/
theorem isNumeralChar_of_mem_plain {ds : List Char} (hds : ∀ c ∈ ds, isNumeralChar c = true)
    (exponent : Int) : ∀ c ∈ plain ds exponent, isNumeralChar c = true := by
  have hzeros : ∀ n, ∀ c ∈ zeros n, isNumeralChar c = true := fun _ _ => isNumeralChar_of_mem_zeros
  unfold plain
  dsimp only
  split_ifs
  · exact List.forall_mem_append.2 ⟨List.forall_mem_cons.2 ⟨by decide,
      List.forall_mem_cons.2 ⟨by decide, hzeros _⟩⟩, hds⟩
  · have hend : ∀ c ∈ ['.', '0'], isNumeralChar c = true :=
      List.forall_mem_cons.2 ⟨by decide, List.forall_mem_singleton.2 (by decide)⟩
    exact List.forall_mem_append.2 ⟨List.forall_mem_append.2 ⟨hds, hzeros _⟩, hend⟩
  · exact List.forall_mem_append.2 ⟨fun c hc => hds c (List.mem_of_mem_take hc),
      List.forall_mem_cons.2 ⟨by decide, fun c hc => hds c (List.mem_of_mem_drop hc)⟩⟩

/-- The layout with an exponent adds a point, the letter and a sign. -/
theorem isNumeralChar_of_mem_scientific (s : Style) {ds : List Char}
    (hds : ∀ c ∈ ds, isNumeralChar c = true) (exponent : Int) :
    ∀ c ∈ s.scientific ds exponent, isNumeralChar c = true := by
  have hfraction : ∀ c ∈ (if (ds.drop 1).isEmpty then [] else '.' :: ds.drop 1),
      isNumeralChar c = true := by
    split_ifs
    · simp
    · exact List.forall_mem_cons.2 ⟨by decide, fun c hc => hds c (List.mem_of_mem_drop hc)⟩
  have hsign : ∀ c ∈ (if exponent < 0 then ['-'] else if s.exponentPlus then ['+'] else []),
      isNumeralChar c = true := by
    split_ifs
    · exact List.forall_mem_singleton.2 (by decide)
    · exact List.forall_mem_singleton.2 (by decide)
    · simp
  have hletter : ∀ c ∈ ['e'], isNumeralChar c = true := List.forall_mem_singleton.2 (by decide)
  simp only [scientific, List.forall_mem_append]
  exact ⟨⟨⟨⟨fun c hc => hds c (List.mem_of_mem_take hc), hfraction⟩, hletter⟩, hsign⟩,
    fun _ => isNumeralChar_of_mem_digits⟩

/-- **The characters of a double.** -/
theorem isNumeralChar_of_mem_render (s : Style) (bits : UInt64) :
    ∀ c ∈ (s.render bits).toList, isNumeralChar c = true := by
  have hlayout : ∀ d, ∀ c ∈ s.layout d, isNumeralChar c = true := by
    intro d
    unfold layout
    dsimp only
    split_ifs
    · exact isNumeralChar_of_mem_plain (fun _ => isNumeralChar_of_mem_digits) _
    · exact isNumeralChar_of_mem_scientific s (fun _ => isNumeralChar_of_mem_digits) _
  unfold render
  rw [String.toList_ofList]
  split_ifs
  · exact List.forall_mem_cons.2 ⟨by decide, hlayout _⟩
  · exact hlayout _

end Style

/-- **The characters of an integer.** -/
theorem isNumeralChar_of_mem_toString (n : ℤ) : ∀ c ∈ (toString n).toList, isNumeralChar c = true := by
  have hrepr : ∀ k : ℕ, ∀ c ∈ k.repr.toList, isNumeralChar c = true := by
    intro k
    rw [Nat.toList_repr]
    exact fun _ => Style.isNumeralChar_of_mem_digits
  show ∀ c ∈ n.repr.toList, _
  rw [Int.repr_eq_if]
  split_ifs
  · exact hrepr _
  · rw [String.toList_append]
    exact List.forall_mem_append.2 ⟨List.forall_mem_singleton.2 (by decide), hrepr _⟩

end LayerHeaders
