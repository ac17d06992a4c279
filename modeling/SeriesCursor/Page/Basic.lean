import SeriesCursor.Bytes

/-!
A page as the server delivers it: the times of all its rows, and for each slot a presence bitmap and the
values that are present, packed.
-/

namespace SeriesCursor

structure Page where
  time : Bytes
  bitmaps : List Bytes
  values : List Bytes
  deriving DecidableEq, Repr

namespace Page

def timeWidth : Nat := 8

def rowCount (page : Page) : Nat :=
  page.time.length / timeWidth

def byteLength (page : Page) : Nat :=
  page.time.length + page.bitmaps.flatten.length + page.values.flatten.length

end Page

end SeriesCursor
