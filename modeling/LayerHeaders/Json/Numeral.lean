import LayerHeaders.Json.Reader
import LayerHeaders.Json.Value

/-!
# Numerals

A numeral has digits, and perhaps a sign, a fraction and an exponent. One without fraction and
exponent that fits 64 bits is an integer. Every other one is a double: as many leading digits as fit 64
bits are taken as an integer, which is converted and then multiplied or divided by a power of ten.

* `Numeral.read`: reads a numeral.
* `Numeral.number?`: its number, if it is not too large.
-/

namespace LayerHeaders.Json

/-- A numeral. -/
structure Numeral where
  /-- Whether it starts with a minus sign. -/
  negative : Bool
  /-- The digits before the point. -/
  whole : List Char
  /-- The digits after the point. -/
  fraction? : Option (List Char) := none
  /-- The exponent. -/
  exponent? : Option Int := none
deriving DecidableEq, Repr

namespace Numeral

/-! ## Reading -/

/-- Reads one digit or more; `endError` is the defect of a text that ends before them. -/
def digits (endError : Error) : Reader (List Char) := fun text =>
  match text with
  | [] => .error endError
  | c :: rest =>
    if c.isDigit then
      let s : Step (List Char) (c :: rest) := .one (c :: rest.takeWhile Char.isDigit) c rest
      .ok (s.leave ⟨rest.dropWhile Char.isDigit, (List.dropWhile_suffix Char.isDigit).length_le⟩)
    else .error .invalidNumber

/-- Reads the digits before the point: none follows a zero. -/
def wholeDigits (endError : Error) : Reader (List Char) := fun text => do
  let s ← digits endError text
  match s.value with
  | '0' :: _ :: _ => throw .invalidNumber
  | _ => return s

/-- The numeral with its fraction, if one follows. -/
def withFraction {text : List Char} (endError : Error) (s : Step Numeral text) :
    Except Error (Step Numeral text) :=
  match h : s.rest with
  | '.' :: rest => do
    let ds ← digits endError rest
    return (s.join h ds).map fun ds => { s.value with fraction? := some ds }
  | _ => .ok s

/-- The number that decimal digits write. -/
def decimalValue (ds : List Char) : Nat :=
  ds.foldl (fun n d => n * 10 + (d.toNat - 48)) 0

/-- Reads an exponent after its letter. -/
def exponent (endError : Error) : Reader Int := fun text =>
  match text with
  | '+' :: rest => do
    let ds ← digits endError rest
    return (ds.map fun ds => (decimalValue ds : Int)).after '+'
  | '-' :: rest => do
    let ds ← digits endError rest
    return (ds.map fun ds => -(decimalValue ds : Int)).after '-'
  | rest => do
    let ds ← digits endError rest
    return ds.map fun ds => (decimalValue ds : Int)

/-- The numeral with its exponent, if one follows. -/
def withExponent {text : List Char} (endError : Error) (s : Step Numeral text) :
    Except Error (Step Numeral text) :=
  match h : s.rest with
  | [] => .ok s
  | c :: rest =>
    if c = 'e' ∨ c = 'E' then do
      let e ← exponent endError rest
      return (s.join h e).map fun e => { s.value with exponent? := some e }
    else .ok s

/-- Reads a numeral; `endError` is the defect of a text that ends where a digit is due. -/
def read (endError : Error) : Reader Numeral := fun text =>
  let unsigned (negative : Bool) : Reader Numeral := fun text => do
    let s ← wholeDigits endError text
    let s ← withFraction endError (s.map fun whole => { negative, whole })
    withExponent endError s
  match text with
  | '-' :: rest => do
    let s ← unsigned true rest
    return s.after '-'
  | text => unsigned false text

/-! ## Values -/

/-- Appends digits to a number as long as it fits 64 bits; the digits that remain come second. -/
def appendDigits (n : Nat) : List Char → Nat × List Char
  | [] => (n, [])
  | d :: ds =>
    let next := n * 10 + (d.toNat - 48)
    if next < UInt64.size then appendDigits next ds else (n, d :: ds)

theorem appendDigits_lt {n : Nat} (h : n < UInt64.size) (ds : List Char) :
    (appendDigits n ds).1 < UInt64.size := by
  induction ds generalizing n with
  | nil => exact h
  | cons d ds ih =>
    rw [appendDigits]
    split
    · next hnext => exact ih hnext
    · exact h

/-- A power of ten that is a double. -/
def powerOfTen (n : Nat) : Float :=
  Float.ofScientific 1 false n

/-- A number of 64 bits times a power of ten, if that is a double. No number of 64 bits is left after
a division by ten to the 616th. -/
def scaled? (significand : Nat) (exponent : Int) : Option Float :=
  let f := (UInt64.ofNat significand).toFloat
  if 308 < exponent then if significand = 0 then some f else none
  else if 0 ≤ exponent then
    let product := f * powerOfTen exponent.toNat
    if product.isInf then none else some product
  else if -308 ≤ exponent then some (f / powerOfTen (-exponent).toNat)
  else if -616 ≤ exponent then some (f / powerOfTen 308 / powerOfTen (-exponent - 308).toNat)
  else some 0

/-- The number of a numeral, if it is not too large. -/
def number? (n : Numeral) : Option Number :=
  let double (significand : Nat) (exponent : Int) : Option Number :=
    (scaled? significand exponent).map fun f =>
      .double (if n.negative then -f else f).toBits
  let significand := (appendDigits 0 n.whole).1
  let beyond := (appendDigits 0 n.whole).2
  have hlt : significand < 0x10000000000000000 := appendDigits_lt (by decide) n.whole
  match n.fraction?, n.exponent? with
  | none, none =>
    if beyond.isEmpty ∧ ¬ n.negative then some (.integer significand (by omega))
    else if h : beyond.isEmpty ∧ 0 < significand ∧ significand ≤ 0x8000000000000000 then
      some (.integer (-significand) (by omega))
    else double significand beyond.length
  | fraction?, exponent? =>
    let fraction := fraction?.getD []
    let (significand, unused) := appendDigits significand fraction
    let places := fraction.length - unused.length
    double significand (beyond.length - places + exponent?.getD 0)

end Numeral

end LayerHeaders.Json
