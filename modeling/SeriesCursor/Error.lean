import SeriesCursor.DataType
import SeriesCursor.Server.Transport

/-!
What can go wrong, as causes, and the sentence for each. A fault of the column list or of a page is a
cause of its own kind; `described` stands for a fault that is known by its sentence only.
-/

namespace SeriesCursor

inductive SchemaFault where
  | unequalLists (names types : Nat)
  | unassigned (column : String)
  | slotOutOfRange (column : String) (slot slots : Nat)
  | emptySlot (slot : Nat)
  | described (text : String)
  deriving DecidableEq, Repr

def SchemaFault.message : SchemaFault → String
  | .unequalLists names types => s!"{names} column names but {types} column types"
  | .unassigned column => s!"column {column} missing from the deduplication index"
  | .slotOutOfRange column slot slots => s!"column {column} mapped to slot {slot} of {slots}"
  | .emptySlot slot => s!"slot {slot} has no column"
  | .described text => text

inductive PageFault where
  | raggedTime (bytes : Nat)
  | columnCount (expected bitmaps values : Nat)
  | negativeLength (length : Int32) (column : String)
  | missingPage
  | described (text : String)
  deriving DecidableEq, Repr

def PageFault.message : PageFault → String
  | .raggedTime bytes => s!"time buffer of {bytes} bytes is not a multiple of 8"
  | .columnCount expected bitmaps values =>
    s!"expected {expected} columns, got {bitmaps} bitmaps and {values} value buffers"
  | .negativeLength length column =>
    "negative text length " ++ toString length.toInt ++ s!" in column {column}"
  | .missingPage => "response flagged a result set but carried no data"
  | .described text => text

inductive PagePart where
  | time
  | bitmap (column : String)
  | values (column : String)
  deriving DecidableEq, Repr

def PagePart.name : PagePart → String
  | .time => "time"
  | .bitmap column => s!"null bitmap of {column}"
  | .values column => column

inductive Form where
  | typed (type : DataType)
  | raw
  deriving DecidableEq, Repr

def Form.name : Form → String
  | .typed type => type.name
  | .raw => "bytes"

inductive Purpose where
  | fetch
  | close
  deriving DecidableEq, Repr

def Purpose.failure : Purpose → String
  | .fetch => "Cannot fetch result from server, because of network connection"
  | .close => "Error occurs when connecting to server for close operation"

inductive Error where
  | refusedByServer (code : Int32) (message : String)
  | connection (purpose : Purpose) (fault : TransportFault)
  | nullValue (column : String)
  | indexOutOfRange (index count : Nat)
  | noCurrentRow
  | unsupportedType (name : String)
  | closed
  | unknownColumn (name : String)
  | invalidSchema (fault : SchemaFault)
  | timestampOutOfRange (millis : Int64)
  | typeMismatch (column : String) (expected : Form) (actual : DataType)
  | truncated (part : PagePart) (needed remaining : Nat)
  | malformedPage (fault : PageFault)
  | invalidText (column : String)
  /-- The set stopped at an earlier failure, whose sentence is the reason. -/
  | stopped (reason : String)
  /-- A page in hand has no buffers for a column of the schema; no adopted page is like that. -/
  | misaligned (column : String)
  deriving DecidableEq, Repr

namespace Error

def message : Error → String
  | .refusedByServer code message =>
    "Server failed to execute the request (code " ++ toString code.toInt ++ s!"): {message}"
  | .connection purpose fault => purpose.failure ++ ": " ++ fault.message
  | .nullValue column => s!"The value got by {column} (column name) is NULL."
  | .indexOutOfRange index count => s!"Column index {index} out of range 1..={count}"
  | .noCurrentRow => "No record remains"
  | .unsupportedType name => s!"Data type {name} is not supported."
  | .closed => "Result set is closed"
  | .unknownColumn name => s!"Unknown column: {name}"
  | .invalidSchema fault => "Invalid column schema: " ++ fault.message
  | .timestampOutOfRange millis =>
    "Timestamp " ++ toString millis.toInt ++ " ms is outside the representable range"
  | .typeMismatch column expected actual =>
    s!"Column {column} holds " ++ actual.name ++ ", cannot read it as " ++ expected.name
  | .truncated part needed remaining =>
    "Page truncated while reading " ++ part.name ++ s!": need {needed} bytes, {remaining} remain"
  | .malformedPage fault => "Malformed page: " ++ fault.message
  | .invalidText column => s!"Column {column} holds invalid UTF-8 text"
  | .stopped reason => s!"Result set stopped after an earlier page decode failure: {reason}"
  | .misaligned column => s!"Column {column} has no buffers in the page"

/-- Whether client and server disagree on the schema or on the layout of pages. -/
def isFatal : Error → Bool
  | .unsupportedType _ | .truncated _ _ _ | .malformedPage _ | .stopped _ | .misaligned _ => true
  | _ => false

def transportFault? : Error → Option TransportFault
  | .connection _ fault => some fault
  | _ => none

end Error

end SeriesCursor
