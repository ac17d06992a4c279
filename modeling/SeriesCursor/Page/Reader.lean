import SeriesCursor.Error
import SeriesCursor.Page.Basic

/-!
A page while it is read: what is left of its times, and of the two buffers of each column. Bytes are
only ever taken off the front.
-/

namespace SeriesCursor

/-- What is left to read of one column. -/
structure Lane where
  bitmap : Bytes
  values : Bytes
  deriving DecidableEq, Repr

structure PageReader where
  time : Bytes
  lanes : List Lane
  rowOffset : Nat
  deriving DecidableEq, Repr

namespace PageReader

def empty : PageReader :=
  ⟨[], [], 0⟩

/-- Starts on a page that is meant for a number of slots. The times must come in whole rows, and with
any row at all there must be two buffers for each slot. -/
def start (page : Page) (slots : Nat) : Except Error PageReader :=
  if page.time.length % Page.timeWidth ≠ 0 then
    .error (.malformedPage (.raggedTime page.time.length))
  else if page.time ≠ [] ∧ (page.bitmaps.length ≠ slots ∨ page.values.length ≠ slots) then
    .error (.malformedPage (.columnCount slots page.bitmaps.length page.values.length))
  else
    .ok ⟨page.time, page.bitmaps.zipWith Lane.mk page.values, 0⟩

def hasRow (reader : PageReader) : Bool :=
  !reader.time.isEmpty

def remainingRows (reader : PageReader) : Nat :=
  reader.time.length / Page.timeWidth

end PageReader

end SeriesCursor
