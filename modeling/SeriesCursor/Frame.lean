import SeriesCursor.Value.Basic

/-!
Frames: how one value after another is packed into a value buffer. A value of a fixed width is its own
frame; a text has its length before it, as a big-endian number of 32 bits with a sign.

Taking a frame off a buffer either gives the value's bytes and leaves the rest, or fails and leaves the
buffer as it was, except that the four bytes of a text's length stay taken once they have been read.
-/

namespace SeriesCursor

namespace Frame

inductive Layout where
  | fixed (width : Nat)
  | lengthFirst
  deriving DecidableEq, Repr

def layout : DataType → Layout
  | .boolean => .fixed 1
  | .int32 => .fixed 4
  | .int64 => .fixed 8
  | .float => .fixed 4
  | .double => .fixed 8
  | .text => .lengthFirst

/-- The first `width` bytes of a buffer, which is untouched when it has fewer. -/
def takeWidth (width : Nat) (buffer : Bytes) (column : String) : Except Error Bytes × Bytes :=
  if buffer.length < width then
    (.error (.truncated (.values column) width buffer.length), buffer)
  else
    (.ok (buffer.take width), buffer.drop width)

def takeText (buffer : Bytes) (column : String) : Except Error Bytes × Bytes :=
  match takeWidth 4 buffer column with
  | (.error e, buffer) => (.error e, buffer)
  | (.ok header, buffer) =>
    let length := header.toInt32
    if length < 0 then
      (.error (.malformedPage (.negativeLength length column)), buffer)
    else
      takeWidth length.toInt.toNat buffer column

def take (type : DataType) (buffer : Bytes) (column : String) : Except Error Bytes × Bytes :=
  match layout type with
  | .fixed width => takeWidth width buffer column
  | .lengthFirst => takeText buffer column

def write (type : DataType) (raw : Bytes) : Bytes :=
  match type.width? with
  | some _ => raw
  | none => Bytes.ofNat 4 raw.length ++ raw

theorem layout_eq_width? (type : DataType) :
    layout type = match type.width? with
      | some width => .fixed width
      | none => .lengthFirst := by
  cases type <;> rfl

theorem take_eq (type : DataType) (buffer : Bytes) (column : String) :
    take type buffer column = match type.width? with
      | some width => takeWidth width buffer column
      | none => takeText buffer column := by
  rw [take, layout_eq_width?]
  cases type.width? <;> rfl

end Frame

end SeriesCursor
