import SeriesCursor.Text.Blank

/-!
The six types that a data column can have, and how the server names them. A name is read with blanks
around it and in any ASCII letter case; nothing else is forgiven.
-/

namespace SeriesCursor

inductive DataType where
  | boolean
  | int32
  | int64
  | float
  | double
  | text
  deriving DecidableEq, Repr

namespace DataType

def all : List DataType :=
  [.boolean, .int32, .int64, .float, .double, .text]

def name : DataType → String
  | .boolean => "BOOLEAN"
  | .int32 => "INT32"
  | .int64 => "INT64"
  | .float => "FLOAT"
  | .double => "DOUBLE"
  | .text => "TEXT"

def code : DataType → Nat
  | .boolean => 0
  | .int32 => 1
  | .int64 => 2
  | .float => 3
  | .double => 4
  | .text => 5

def width? : DataType → Option Nat
  | .boolean => some 1
  | .int32 => some 4
  | .int64 => some 8
  | .float => some 4
  | .double => some 8
  | .text => none

/-- The type that a name stands for. Letter case matters for ASCII letters only as far as this: lower
case is read as upper case; a letter outside ASCII is never part of a name. -/
def ofName? (name : String) : Option DataType :=
  let word := (Text.trim name.toList).map Char.toUpper
  all.find? fun type => type.name.toList == word

end DataType

end SeriesCursor
