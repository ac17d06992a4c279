import SeriesCursor.Decimal.Shortest

/-!
Decimal numbers as text. A layout says which numbers are written out place by place and which with an
exponent. The digits before and after the point are those of whole numbers, so that no text starts with
a needless zero whatever coefficient it is given.
-/

namespace SeriesCursor

structure DecimalLayout where
  tie : Tie
  /-- Least and greatest place of a leading digit that is written without an exponent; none for all. -/
  places : Option (Int × Int)
  /-- Whether a whole number keeps a point and a zero. -/
  pointed : Bool
  deriving DecidableEq, Repr

namespace Decimal

def padded (count n : Nat) : List Char :=
  let digits := Nat.toDigits 10 n
  List.replicate (count - digits.length) '0' ++ digits

/-- The place of the leading digit: zero for units, one for tens. -/
def leadingPlace (number : Decimal) : Int :=
  number.exponent + (Nat.toDigits 10 number.coefficient).length - 1

def positional (number : Decimal) (pointed : Bool) : List Char :=
  if 0 ≤ number.exponent then
    Nat.toDigits 10 (number.coefficient * Nat.pow 10 number.exponent.toNat) ++
      if pointed then ['.', '0'] else []
  else
    let places := (-number.exponent).toNat
    let unit := Nat.pow 10 places
    Nat.toDigits 10 (number.coefficient / unit) ++ '.' :: padded places (number.coefficient % unit)

def scientific (number : Decimal) : List Char :=
  let place := number.leadingPlace
  let mantissa := match Nat.toDigits 10 number.coefficient with
    | first :: second :: rest => first :: '.' :: second :: rest
    | digits => digits
  mantissa ++ 'e' :: (if 0 ≤ place then '+' else '-') :: Nat.toDigits 10 place.natAbs

end Decimal

namespace DecimalLayout

def isPositional (layout : DecimalLayout) (number : Decimal) : Bool :=
  match layout.places with
  | none => true
  | some (least, greatest) => least ≤ number.leadingPlace && number.leadingPlace ≤ greatest

def write (layout : DecimalLayout) (negative : Bool) (size : Magnitude) : List Char :=
  let number := size.shortest layout.tie
  let unsigned :=
    if layout.isPositional number then number.positional layout.pointed else number.scientific
  if negative then '-' :: unsigned else unsigned

end DecimalLayout

end SeriesCursor
