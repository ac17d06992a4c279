import SeriesCursor.Bitmap
import SeriesCursor.Frame
import SeriesCursor.Page.Reader
import SeriesCursor.Schema.Basic

/-!
One column of a page, decoded by itself and not row by row: the bit of each row is looked up in the
whole bitmap, and the values that are present are taken off one after the other.
-/

namespace SeriesCursor

namespace Lane

def cell (column : Column) (bitmap : Bytes) (row : Nat) (values : Bytes) :
    Except Error (Option Bytes) × Bytes :=
  match Bitmap.isNullAt? bitmap row with
  | none => (.error (.truncated (.bitmap column.name) 1 0), values)
  | some true => (.ok none, values)
  | some false =>
    match Frame.take column.type values column.name with
    | (.ok raw, rest) => (.ok (some raw), rest)
    | (.error e, rest) => (.error e, rest)

/-- A column as far as it can be decoded: its cells, the failure that ended them, and what is left. -/
structure Decoded where
  cells : List (Option Bytes)
  failure : Option Error
  values : Bytes
  deriving DecidableEq, Repr

def decodeFrom (column : Column) (bitmap : Bytes) : (row count : Nat) → (values : Bytes) → Decoded
  | _, 0, values => ⟨[], none, values⟩
  | row, count + 1, values =>
    match cell column bitmap row values with
    | (.ok value, rest) =>
      let later := decodeFrom column bitmap (row + 1) count rest
      { later with cells := value :: later.cells }
    | (.error e, rest) => ⟨[], some e, rest⟩

def decode (column : Column) (lane : Lane) (count : Nat) : Decoded :=
  decodeFrom column lane.bitmap 0 count lane.values

end Lane

end SeriesCursor
