import SeriesCursor.Json.Writer
import SeriesCursor.Schema.Basic
import SeriesCursor.Value.Text

/-!
A record is a copy of a row that outlives it: its time, where times are included, and one field for each
slot. As JSON it is one object with the time first; numbers that are not finite have no JSON form and
are written as null.
-/

namespace SeriesCursor

structure Record where
  timestamp : Option Int64
  fields : List (String × Option Value)
  deriving DecidableEq, Repr

namespace Value

/-- Places from the fifth after the point to the sixteenth before it are written out. -/
def doubleLayout : DecimalLayout :=
  ⟨.toEven, some (-5, 15), true⟩

/-- Places from the sixth after the point to the thirteenth before it are written out. -/
def singleLayout : DecimalLayout :=
  ⟨.toEven, some (-6, 12), true⟩

def floatJson (layout : DecimalLayout) : BinaryNumber → Json
  | .finite negative size => .number (layout.write negative size)
  | .notANumber | .infinite _ => .null

def toJson : Value → Json
  | .bool b => .bool b
  | .int32 n => .ofInt n.toInt
  | .int64 n => .ofInt n.toInt
  | .float bits => floatJson singleLayout (.ofSingle bits)
  | .double bits => floatJson doubleLayout (.ofDouble bits)
  | .text s => .string s
  | .timestamp millis => .ofInt millis.toInt

end Value

namespace Record

def get? (record : Record) (name : String) : Option Value :=
  (record.fields.find? fun field => field.1 == name).bind Prod.snd

def fieldJson : Option Value → Json
  | some value => value.toJson
  | none => .null

def toJson (record : Record) : Json :=
  .object (record.timestamp.toList.map (fun millis => (Schema.timeName, Json.ofInt millis.toInt)) ++
    record.fields.map fun field => (field.1, fieldJson field.2))

def jsonText (record : Record) : String :=
  String.ofList record.toJson.write

end Record

end SeriesCursor
