import SeriesCursor.Bitmap
import SeriesCursor.Frame
import SeriesCursor.Page.Basic

/-!
Pages from rows. Times follow each other in eight bytes each; the bitmap of a slot has one bit for each
row; and of its values only those that are present are written, each in the frame of the slot's type.
-/

namespace SeriesCursor

/-- A row of a page: its time, and for each slot the bytes of the value, or none for null. -/
structure PageRow where
  time : Int64
  cells : List (Option Bytes)
  deriving DecidableEq, Repr

def Bitmap.ofPresence (present : List Bool) : Bytes :=
  ((List.range present.length).filter fun row => present[row]?.getD false).foldl
    Bitmap.setPresent (Bitmap.empty present.length)

namespace PageRow

def ofValues (time : Int64) (values : List (Option Value)) : PageRow :=
  ⟨time, values.map fun value => value.map Value.encode⟩

def cell (row : PageRow) (slot : Nat) : Option Bytes :=
  row.cells[slot]?.join

end PageRow

namespace Page

def writeValues (type : DataType) (cells : List (Option Bytes)) : Bytes :=
  cells.flatMap fun
    | some raw => Frame.write type raw
    | none => []

def ofRows (types : List DataType) (rows : List PageRow) : Page where
  time := rows.flatMap fun row => Bytes.ofInt64 row.time
  bitmaps := types.mapIdx fun slot _ => Bitmap.ofPresence (rows.map fun row => (row.cell slot).isSome)
  values := types.mapIdx fun slot type => writeValues type (rows.map fun row => row.cell slot)

end Page

end SeriesCursor
