/-!
Binary floating-point numbers as their bits, in the interchange formats of 32 and 64 bits. A finite
number is a whole significand times a power of two; nothing here computes with core's floats.
-/

namespace SeriesCursor

/-- Widths of the two lower fields of a format; the sign is the bit above them. -/
structure BinaryFormat where
  fractionBits : Nat
  exponentBits : Nat
  deriving DecidableEq, Repr

namespace BinaryFormat

def single : BinaryFormat := ⟨23, 8⟩

def double : BinaryFormat := ⟨52, 11⟩

def bias (format : BinaryFormat) : Nat :=
  Nat.pow 2 (format.exponentBits - 1) - 1

end BinaryFormat

/-- The size of a finite number, `significand * 2 ^ exponent`. -/
structure Magnitude where
  significand : Nat
  exponent : Int
  /-- Whether the next smaller number is half as far as the next larger one. -/
  narrowBelow : Bool
  deriving DecidableEq, Repr

inductive BinaryNumber where
  | notANumber
  | infinite (negative : Bool)
  | finite (negative : Bool) (size : Magnitude)
  deriving DecidableEq, Repr

namespace BinaryNumber

def ofBits (format : BinaryFormat) (bits : Nat) : BinaryNumber :=
  let hidden := Nat.pow 2 format.fractionBits
  let fields := Nat.pow 2 format.exponentBits
  let fraction := bits % hidden
  let field := bits / hidden % fields
  let negative := bits / hidden / fields % 2 == 1
  let lowest : Int := 1 - format.bias - format.fractionBits
  if field + 1 = fields then
    if fraction = 0 then infinite negative else notANumber
  else if field = 0 then
    finite negative ⟨fraction, lowest, false⟩
  else
    finite negative ⟨hidden + fraction, lowest + (field - 1 : Nat), fraction == 0 && field != 1⟩

def ofSingle (bits : UInt32) : BinaryNumber :=
  ofBits .single bits.toNat

def ofDouble (bits : UInt64) : BinaryNumber :=
  ofBits .double bits.toNat

end BinaryNumber

end SeriesCursor
