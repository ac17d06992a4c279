import SeriesCursor.Calendar
import SeriesCursor.Record
import SeriesCursor.ResultSet.Basic

/-!
Reading the row in hand. A column is chosen by name, or by its position on the list of columns that is
shown. Errors come in one order: a closed set, no row, the position, the name, the type, null, the bytes.
-/

namespace SeriesCursor

inductive Selector where
  | name (name : String)
  /-- Counted from one. -/
  | position (index : Nat)
  deriving DecidableEq, Repr

namespace ResultSet

def current (set : ResultSet) : Except Error Row :=
  if set.state = .closed then .error .closed
  else if set.row.present then .ok set.row
  else .error .noCurrentRow

/-- The name of the chosen column; a position means nothing without a row. -/
def columnFor (set : ResultSet) : Selector → Except Error String
  | .name name => .ok name
  | .position index => do
    let _ ← set.current
    set.schema.nameAt index

def cellBytes (row : Row) (slot : Nat) (column : String) : Except Error Bytes :=
  match row.value? slot with
  | some raw => .ok raw
  | none => .error (.nullValue column)

def typedBytes (set : ResultSet) (column : String) (expected : DataType) : Except Error Bytes := do
  let row ← set.current
  match ← set.schema.resolveName column with
  | .time => .error (.typeMismatch column (.typed expected) .int64)
  | .slot slot =>
    let actual := set.schema.columns[slot].type
    if actual = expected then cellBytes row slot column
    else .error (.typeMismatch column (.typed expected) actual)

def getBoolean (set : ResultSet) (selector : Selector) : Except Error Bool := do
  let column ← set.columnFor selector
  Value.readBool (← set.typedBytes column .boolean) column

def getInt (set : ResultSet) (selector : Selector) : Except Error Int32 := do
  let column ← set.columnFor selector
  Value.readInt32 (← set.typedBytes column .int32) column

/-- A cell of 64 bits, or the time of the row. -/
def getLong (set : ResultSet) (selector : Selector) : Except Error Int64 := do
  let column ← set.columnFor selector
  let row ← set.current
  match ← set.schema.resolveName column with
  | .time => .ok row.time
  | .slot _ => Value.readInt64 (← set.typedBytes column .int64) column

def getFloat (set : ResultSet) (selector : Selector) : Except Error UInt32 := do
  let column ← set.columnFor selector
  Value.readFloat (← set.typedBytes column .float) column

def getDouble (set : ResultSet) (selector : Selector) : Except Error UInt64 := do
  let column ← set.columnFor selector
  Value.readDouble (← set.typedBytes column .double) column

def getText (set : ResultSet) (selector : Selector) : Except Error String := do
  let column ← set.columnFor selector
  Value.readText (← set.typedBytes column .text) column

def getValue (set : ResultSet) (selector : Selector) : Except Error Value := do
  let column ← set.columnFor selector
  let row ← set.current
  match ← set.schema.resolveName column with
  | .time => .ok (.timestamp row.time)
  | .slot slot => Value.decode set.schema.columns[slot].type (← cellBytes row slot column) column

def getPlain (set : ResultSet) (selector : Selector) : Except Error String := do
  let value ← set.getValue selector
  .ok value.toText

def getInstant (set : ResultSet) (selector : Selector) : Except Error Instant := do
  let millis ← set.getLong selector
  match Instant.ofMillis? millis.toInt with
  | some instant => .ok instant
  | none => .error (.timestampOutOfRange millis)

def getBytes (set : ResultSet) (selector : Selector) : Except Error Bytes := do
  let column ← set.columnFor selector
  let row ← set.current
  match ← set.schema.resolveName column with
  | .time => .error (.typeMismatch column .raw .int64)
  | .slot slot => cellBytes row slot column

def isNull (set : ResultSet) (selector : Selector) : Except Error Bool := do
  let column ← set.columnFor selector
  let row ← set.current
  match ← set.schema.resolveName column with
  | .time => .ok false
  | .slot slot => .ok (row.isNull slot)

def recordFields (row : Row) : (slot : Nat) → List Column → Except Error (List (String × Option Value))
  | _, [] => .ok []
  | slot, column :: rest => do
    let value ← match row.value? slot with
      | some raw => (Value.decode column.type raw column.name).map some
      | none => .ok none
    let later ← recordFields row (slot + 1) rest
    .ok ((column.name, value) :: later)

def currentRow (set : ResultSet) : Except Error Record := do
  let row ← set.current
  let fields ← recordFields row 0 set.schema.columns
  .ok ⟨if set.schema.includesTime then some row.time else none, fields⟩

end ResultSet

end SeriesCursor
