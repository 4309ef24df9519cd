/-!
# The shortest decimal of a double

A finite double stands for the reals that round to it, an interval around `mantissa * 2 ^ exponent`.
`Binary.shortest` selects a decimal with the fewest digits in that interval, and of those the nearest:
for one digit, two digits and so on it tests the two neighbours of the value on that decimal grid, in
exact arithmetic on natural numbers.

* `Binary.readsBack`: whether a decimal lies in the interval.
* `Binary.shortest`: the decimal that is selected.
-/

namespace LayerHeaders

/-- The decimal `digits * 10 ^ exponent`. -/
structure Decimal where
  /-- The digits, as one number. -/
  digits : Nat
  /-- The power of ten. -/
  exponent : Int
deriving DecidableEq, Repr

namespace Decimal

/-- The same decimal without zeros at the end of its digits. At most `n` of them are dropped. -/
def dropZeros : Nat → Decimal → Decimal
  | 0, d => d
  | n + 1, d =>
    if d.digits % 10 = 0 ∧ d.digits ≠ 0 then dropZeros n ⟨d.digits / 10, d.exponent + 1⟩ else d

/-- Which of two equally near decimals is taken. -/
inductive Tie where
  /-- The one whose last digit is even. -/
  | toEven
  /-- The larger one. -/
  | up
deriving DecidableEq, Repr

/-- How `a * 10 ^ i` compares with `n * 2 ^ j`. -/
def compareScaled (a : Nat) (i : Int) (n : Nat) (j : Int) : Ordering :=
  compare (a * Nat.pow 10 i.toNat * Nat.pow 2 (-j).toNat) (n * Nat.pow 2 j.toNat * Nat.pow 10 (-i).toNat)

end Decimal

/-- The magnitude of a finite double, `mantissa * 2 ^ exponent`. -/
structure Binary where
  /-- The mantissa. -/
  mantissa : Nat
  /-- The power of two. -/
  exponent : Int
  /-- Whether the gap to the double below is half the gap to the one above. -/
  narrowBelow : Bool
deriving DecidableEq, Repr

namespace Binary

/-- The magnitude that the bits of a finite double stand for. -/
def ofBits (bits : UInt64) : Binary :=
  let e := ((bits >>> 52) &&& 0x7FF).toNat
  let f := (bits &&& 0xFFFFFFFFFFFFF).toNat
  if e = 0 then ⟨f, -1074, false⟩ else ⟨0x10000000000000 + f, (e : Int) - 1075, f == 0 && e != 1⟩

/-! ## The interval -/

/-- Whether a decimal is one of the reals that round to this double: to the nearest, and halfway to
the even mantissa. -/
def readsBack (x : Binary) (d : Decimal) : Bool :=
  let low := 4 * x.mantissa - (if x.narrowBelow then 1 else 2)
  let high := 4 * x.mantissa + 2
  let closed := x.mantissa % 2 == 0
  let atLow := Decimal.compareScaled d.digits d.exponent low (x.exponent - 2)
  let atHigh := Decimal.compareScaled d.digits d.exponent high (x.exponent - 2)
  (atLow == .gt || (closed && atLow == .eq)) && (atHigh == .lt || (closed && atHigh == .eq))

/-! ## The search -/

/-- The number of decimal digits of a natural number. -/
def digitCount (n : Nat) : Nat :=
  (Nat.toDigits 10 n).length

/-- The exponent of the first digit: the largest power of ten that is not above the double. -/
def leading (x : Binary) : Int :=
  let num := x.mantissa * Nat.pow 2 x.exponent.toNat
  let den := Nat.pow 2 (-x.exponent).toNat
  if den ≤ num then (digitCount (num / den) : Int) - 1
  else -(digitCount ((den + num - 1) / num - 1) : Int)

/-- The quotient of the double and `10 ^ i`, rounded down. -/
def gridFloor (x : Binary) (i : Int) : Nat :=
  (x.mantissa * Nat.pow 2 x.exponent.toNat * Nat.pow 10 (-i).toNat) /
    (Nat.pow 2 (-x.exponent).toNat * Nat.pow 10 i.toNat)

/-- Which of `low * 10 ^ i` and `(low + 1) * 10 ^ i`, both in the interval, is nearer. -/
def nearer (x : Binary) (tie : Decimal.Tie) (low : Nat) (i : Int) : Nat :=
  match Decimal.compareScaled (2 * low + 1) i x.mantissa (x.exponent + 1) with
  | .gt => low
  | .lt => low + 1
  | .eq =>
    match tie with
    | .up => low + 1
    | .toEven => if low % 2 = 0 then low else low + 1

/-- The neighbour on the grid of `10 ^ i` that reads back, the nearer one if both do. -/
def onGrid? (x : Binary) (tie : Decimal.Tie) (i : Int) : Option Decimal :=
  let low := x.gridFloor i
  let below : Decimal := ⟨low, i⟩
  let above : Decimal := ⟨low + 1, i⟩
  match x.readsBack below, x.readsBack above with
  | true, true => some ⟨x.nearer tie low i, i⟩
  | true, false => some below
  | false, true => some above
  | false, false => none

/-- The first of `n` grids, from that of `10 ^ i` to finer ones, with a neighbour that reads back. -/
def searchFrom (x : Binary) (tie : Decimal.Tie) : Nat → Int → Option Decimal
  | 0, _ => none
  | n + 1, i => (x.onGrid? tie i).or (searchFrom x tie n (i - 1))

/-- The decimal with the fewest digits that reads back, and of those the nearest. Seventeen digits
always suffice; the double itself stands in for a search that would fail. -/
def shortest (x : Binary) (tie : Decimal.Tie) : Decimal :=
  if x.mantissa = 0 then ⟨0, 0⟩
  else
    let found := (x.searchFrom tie 17 x.leading).getD
      ⟨x.mantissa * Nat.pow 2 x.exponent.toNat * Nat.pow 5 (-x.exponent).toNat, min 0 x.exponent⟩
    found.dropZeros 17

end Binary

end LayerHeaders
