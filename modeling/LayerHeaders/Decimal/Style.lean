import LayerHeaders.Decimal.Shortest

/-!
# Styles of decimals

A style lays out the shortest decimal of a double: positionally in a range of exponents, with an
exponent outside of it. Values between have a decimal point and a digit after it.

* `Style.render`: the text of a double.
-/

namespace LayerHeaders

/-- The decisions of a decimal layout. -/
structure Style where
  /-- The least exponent of the first digit that is written positionally. -/
  plainFrom : Int
  /-- The least exponent above those that are written positionally. -/
  plainBelow : Int
  /-- Whether an exponent that is not negative has a plus sign. -/
  exponentPlus : Bool
  /-- Which of two equally near decimals is written. -/
  tie : Decimal.Tie
deriving DecidableEq, Repr

namespace Style

/-- The digits of a number. -/
def digits (n : Nat) : List Char :=
  Nat.toDigits 10 n

/-- `n` zeros. -/
def zeros (n : Nat) : List Char :=
  List.replicate n '0'

/-- The positional layout of digits whose first one has this exponent. -/
def plain (ds : List Char) (exponent : Int) : List Char :=
  if exponent < 0 then '0' :: '.' :: zeros ((-exponent).toNat - 1) ++ ds
  else
    let whole := exponent.toNat + 1
    if ds.length ≤ whole then ds ++ zeros (whole - ds.length) ++ ['.', '0']
    else ds.take whole ++ '.' :: ds.drop whole

/-- The layout with an exponent. -/
def scientific (s : Style) (ds : List Char) (exponent : Int) : List Char :=
  let fraction := ds.drop 1
  ds.take 1 ++ (if fraction.isEmpty then [] else '.' :: fraction) ++ ['e'] ++
    (if exponent < 0 then ['-'] else if s.exponentPlus then ['+'] else []) ++
    digits exponent.natAbs

/-- The layout of a decimal. -/
def layout (s : Style) (d : Decimal) : List Char :=
  let ds := digits d.digits
  let exponent := d.exponent + ds.length - 1
  if s.plainFrom ≤ exponent ∧ exponent < s.plainBelow then plain ds exponent
  else s.scientific ds exponent

/-- The text of the finite double with these bits. -/
def render (s : Style) (bits : UInt64) : String :=
  let magnitude := s.layout ((Binary.ofBits bits).shortest s.tie)
  String.ofList (if bits >>> 63 = 1 then '-' :: magnitude else magnitude)

end Style

end LayerHeaders
