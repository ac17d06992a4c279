import SeriesCursor.Decimal.Binary

/-!
The shortest decimal that reads back to a binary number. The reals that round to the number form an
interval, its ends included iff the significand is even. Grids of powers of ten are tried from coarse
to fine; on each, only the two points around the number can be the best, and the first grid with a
point in the interval wins. Of two such points the nearer is taken, and a tie goes as the caller says.
-/

namespace SeriesCursor

/-- The number `coefficient * 10 ^ exponent`. -/
structure Decimal where
  coefficient : Nat
  exponent : Int
  deriving DecidableEq, Repr

inductive Tie where
  | upward
  | toEven
  deriving DecidableEq, Repr

namespace Magnitude

/-- A grid of powers of ten beside a number, all in one unit that makes every length whole. -/
structure OnGrid where
  step : Nat
  value : Nat
  lower : Nat
  upper : Nat
  closed : Bool
  deriving DecidableEq, Repr

/-- A number and its interval against the grid of `10 ^ exponent`. A quarter of the significand's
unit is the finest length that an end of the interval needs. -/
def onGrid (size : Magnitude) (exponent : Int) : OnGrid :=
  let binary := size.exponent - 2
  let unit := Nat.pow 2 binary.toNat * Nat.pow 10 (-exponent).toNat
  let quarters := 4 * size.significand
  { step := Nat.pow 10 exponent.toNat * Nat.pow 2 (-binary).toNat
    value := quarters * unit
    lower := (quarters - if size.narrowBelow then 1 else 2) * unit
    upper := (quarters + 2) * unit
    closed := size.significand % 2 == 0 }

def OnGrid.covers (grid : OnGrid) (point : Nat) : Bool :=
  let length := point * grid.step
  if grid.closed then grid.lower ≤ length && length ≤ grid.upper
  else grid.lower < length && length < grid.upper

def OnGrid.nearest (grid : OnGrid) (tie : Tie) : Nat :=
  let below := grid.value / grid.step
  let twice := 2 * (grid.value % grid.step)
  if twice < grid.step then below
  else if grid.step < twice then below + 1
  else match tie with
    | .upward => below + 1
    | .toEven => if below % 2 = 0 then below else below + 1

def OnGrid.best? (grid : OnGrid) (tie : Tie) : Option Nat :=
  let below := grid.value / grid.step
  match grid.covers below, grid.covers (below + 1) with
  | true, true => some (grid.nearest tie)
  | true, false => some below
  | false, true => some (below + 1)
  | false, false => none

/-- The first hit on the grids from `10 ^ exponent` down; the nearest point of the last one, should
none of them have a hit. -/
def firstHit (size : Magnitude) (tie : Tie) : (grids : Nat) → (exponent : Int) → Decimal
  | 0, exponent => ⟨(size.onGrid exponent).nearest tie, exponent⟩
  | grids + 1, exponent =>
    match (size.onGrid exponent).best? tie with
    | some point => ⟨point, exponent⟩
    | none => firstHit size tie grids (exponent - 1)

/-- An exponent of ten above the number's leading digit, by at most three. The ratio is a little less
than the decimal logarithm of two. -/
def coarsest (size : Magnitude) : Int :=
  (Nat.log2 size.significand + 1 + size.exponent) * 1233 / 4096 + 2

/-- The decimal with the fewest digits that reads back, the nearest of those; zero is zero. A format
of 53 bits needs no more than 17 digits. -/
def shortest (size : Magnitude) (tie : Tie) : Decimal :=
  if size.significand = 0 then ⟨0, 0⟩ else size.firstHit tie 22 size.coarsest

end Magnitude

end SeriesCursor
