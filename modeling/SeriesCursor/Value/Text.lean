import SeriesCursor.Decimal.Layout
import SeriesCursor.Value.Basic

/-!
Values as plain text: truth values as words, whole numbers in decimal, text as it is, and
floating-point numbers with the fewest digits that read back at their own width, never with an exponent
and without a point on whole numbers.
-/

namespace SeriesCursor

namespace Value

/-- All places are written out; of two equally near decimals the larger is taken. -/
def plainLayout : DecimalLayout :=
  ⟨.upward, none, false⟩

/-- A floating-point number as plain text; the sign of a NaN is not shown. -/
def floatText : BinaryNumber → String
  | .notANumber => "NaN"
  | .infinite negative => if negative then "-inf" else "inf"
  | .finite negative size => String.ofList (plainLayout.write negative size)

def toText : Value → String
  | .bool b => if b then "true" else "false"
  | .int32 n => toString n.toInt
  | .int64 n => toString n.toInt
  | .float bits => floatText (.ofSingle bits)
  | .double bits => floatText (.ofDouble bits)
  | .text s => s
  | .timestamp millis => toString millis.toInt

end Value

end SeriesCursor
