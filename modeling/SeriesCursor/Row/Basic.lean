import SeriesCursor.Bitmap
import SeriesCursor.Frame
import SeriesCursor.Page.Reader
import SeriesCursor.Schema.Basic

/-!
The row in hand, and how the next row of a page is decoded into it.

A cell remembers the bitmap byte that covers the current block of eight rows; at the first row of a
block every column takes a new one. A null cell takes nothing from its column's values. Columns are
decoded in slot order, and the first failure ends the row: the columns before it have been decoded, the
ones after it are untouched, and the row in hand is then no row to be read.
-/

namespace SeriesCursor

structure Cell where
  value : Option Bytes
  /-- The bitmap byte of the current block of rows. -/
  presence : UInt8
  deriving DecidableEq, Repr

structure Row where
  time : Int64
  cells : List Cell
  present : Bool
  deriving DecidableEq, Repr

namespace Cell

def empty : Cell :=
  ⟨none, 0⟩

def refresh (column : Column) (row : Nat) (lane : Lane) (cell : Cell) :
    Except Error Unit × Lane × Cell :=
  if Bitmap.startsBlock row then
    match lane.bitmap with
    | [] => (.error (.truncated (.bitmap column.name) 1 0), lane, cell)
    | byte :: rest => (.ok (), { lane with bitmap := rest }, { cell with presence := byte })
  else (.ok (), lane, cell)

def fill (column : Column) (row : Nat) (lane : Lane) (cell : Cell) :
    Except Error Unit × Lane × Cell :=
  if Bitmap.isNull cell.presence row then (.ok (), lane, { cell with value := none })
  else match Frame.take column.type lane.values column.name with
    | (.ok raw, rest) => (.ok (), { lane with values := rest }, { cell with value := some raw })
    | (.error e, rest) => (.error e, { lane with values := rest }, cell)

def decode (column : Column) (row : Nat) (lane : Lane) (cell : Cell) :
    Except Error Unit × Lane × Cell :=
  match refresh column row lane cell with
  | (.ok (), lane, cell) => fill column row lane cell
  | failed => failed

/-- Decodes the cells of a row in slot order, up to the first failure. -/
def decodeAll (row : Nat) : List Column → List Lane → List Cell →
    Except Error Unit × List Lane × List Cell
  | [], lanes, cells => (.ok (), lanes, cells)
  | column :: columns, lane :: lanes, cell :: cells =>
    match decode column row lane cell with
    | (.ok (), lane, cell) =>
      match decodeAll row columns lanes cells with
      | (result, lanes, cells) => (result, lane :: lanes, cell :: cells)
    | (.error e, lane, cell) => (.error e, lane :: lanes, cell :: cells)
  | column :: _, lanes, cells => (.error (.misaligned column.name), lanes, cells)

end Cell

namespace Row

def empty (slots : Nat) : Row :=
  ⟨0, List.replicate slots Cell.empty, false⟩

def invalidate (row : Row) : Row :=
  { row with present := false }

def value? (row : Row) (slot : Nat) : Option Bytes :=
  row.cells[slot]?.bind Cell.value

def isNull (row : Row) (slot : Nat) : Bool :=
  (row.value? slot).isNone

def materialize (columns : List Column) (reader : PageReader) (row : Row) :
    Except Error Unit × PageReader × Row :=
  if reader.time.length < Page.timeWidth then
    (.error (.truncated .time Page.timeWidth reader.time.length), reader, row.invalidate)
  else
    let time := Bytes.toInt64 (reader.time.take Page.timeWidth)
    let unread := reader.time.drop Page.timeWidth
    match Cell.decodeAll reader.rowOffset columns reader.lanes row.cells with
    | (.ok (), lanes, cells) => (.ok (), ⟨unread, lanes, reader.rowOffset + 1⟩, ⟨time, cells, true⟩)
    | (.error e, lanes, cells) => (.error e, ⟨unread, lanes, reader.rowOffset⟩, ⟨time, cells, false⟩)

end Row

end SeriesCursor
