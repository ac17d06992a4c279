import SeriesCursor.Bytes

/-!
Presence bitmaps. One byte covers eight consecutive rows, the first of them in the high bit; a set bit
says that the row has a value, a clear one that it is null.
-/

namespace SeriesCursor

namespace Bitmap

def mask (row : Nat) : UInt8 :=
  0x80 >>> UInt8.ofNat (row % 8)

def startsBlock (row : Nat) : Bool :=
  row % 8 == 0

def isNull (byte : UInt8) (row : Nat) : Bool :=
  mask row &&& byte == 0

def size (rows : Nat) : Nat :=
  (rows + 7) / 8

def empty (rows : Nat) : Bytes :=
  List.replicate (size rows) 0

/-- The bitmap with the bit of one row set; a row that it does not cover changes nothing. -/
def setPresent (bitmap : Bytes) (row : Nat) : Bytes :=
  bitmap.modify (row / 8) (· ||| mask row)

/-- Whether a bitmap says that a row is null; none when it does not cover the row. -/
def isNullAt? (bitmap : Bytes) (row : Nat) : Option Bool :=
  bitmap[row / 8]?.map fun byte => isNull byte row

@[simp] theorem length_empty (rows : Nat) : (empty rows).length = size rows :=
  List.length_replicate

@[simp] theorem length_setPresent (bitmap : Bytes) (row : Nat) :
    (setPresent bitmap row).length = bitmap.length := by
  simp [setPresent]

theorem mask_ne_zero (row : Nat) : mask row ≠ 0 := by
  have small : row % 8 < 8 := Nat.mod_lt _ (by decide)
  have table : ∀ bit : Fin 8, (0x80 : UInt8) >>> UInt8.ofNat bit.val ≠ 0 := by decide
  exact table ⟨row % 8, small⟩

end Bitmap

end SeriesCursor
