import SeriesCursor.Bytes
import SeriesCursor.Error

/-!
Values and their bytes. A value of a fixed width takes exactly the bytes of its type, big-endian; text
is UTF-8. Floating-point numbers are kept as their bits, so that the payload of a NaN survives. Writing
a decoded value gives the bytes back, but for a boolean, of which every byte other than zero is true.
-/

namespace SeriesCursor

inductive Value where
  | bool (b : Bool)
  | int32 (n : Int32)
  | int64 (n : Int64)
  | float (bits : UInt32)
  | double (bits : UInt64)
  | text (s : String)
  /-- Milliseconds since 1970, of the time column. -/
  | timestamp (millis : Int64)
  deriving DecidableEq, Repr

namespace Value

def type? : Value → Option DataType
  | .bool _ => some .boolean
  | .int32 _ => some .int32
  | .int64 _ => some .int64
  | .float _ => some .float
  | .double _ => some .double
  | .text _ => some .text
  | .timestamp _ => none

def encode : Value → Bytes
  | .bool b => [if b then 1 else 0]
  | .int32 n => Bytes.ofInt32 n
  | .int64 n => Bytes.ofInt64 n
  | .float bits => Bytes.ofNat 4 bits.toNat
  | .double bits => Bytes.ofNat 8 bits.toNat
  | .text s => Bytes.ofText s
  | .timestamp millis => Bytes.ofInt64 millis

def ofWidth (width : Nat) (raw : Bytes) (column : String) : Except Error Bytes :=
  if raw.length = width then .ok raw else .error (.truncated (.values column) width raw.length)

def readBool (raw : Bytes) (column : String) : Except Error Bool :=
  (ofWidth 1 raw column).map fun bytes => bytes.toNat != 0

def readInt32 (raw : Bytes) (column : String) : Except Error Int32 :=
  (ofWidth 4 raw column).map Bytes.toInt32

def readInt64 (raw : Bytes) (column : String) : Except Error Int64 :=
  (ofWidth 8 raw column).map Bytes.toInt64

def readFloat (raw : Bytes) (column : String) : Except Error UInt32 :=
  (ofWidth 4 raw column).map fun bytes => UInt32.ofNat bytes.toNat

def readDouble (raw : Bytes) (column : String) : Except Error UInt64 :=
  (ofWidth 8 raw column).map fun bytes => UInt64.ofNat bytes.toNat

def readText (raw : Bytes) (column : String) : Except Error String :=
  match raw.toText? with
  | some s => .ok s
  | none => .error (.invalidText column)

def decode (type : DataType) (raw : Bytes) (column : String) : Except Error Value :=
  match type with
  | .boolean => (readBool raw column).map .bool
  | .int32 => (readInt32 raw column).map .int32
  | .int64 => (readInt64 raw column).map .int64
  | .float => (readFloat raw column).map .float
  | .double => (readDouble raw column).map .double
  | .text => (readText raw column).map .text

end Value

end SeriesCursor
