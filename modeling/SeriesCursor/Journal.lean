import SeriesCursor.Server.Exchange

/-!
The journal of a result set: the requests that it has sent and the events that it has reported, oldest
first. An event is a cause; its severity, sentence and numbers are derived from it.
-/

namespace SeriesCursor

inductive Severity where
  | debug
  | info
  | warn
  | error
  deriving DecidableEq, Repr

def Severity.name : Severity → String
  | .debug => "DEBUG"
  | .info => "INFO"
  | .warn => "WARN"
  | .error => "ERROR"

inductive Event where
  | pageInstalled (rows bytes : Nat)
  | fetching (sessionId queryId : Int64) (fetchSize : Int32)
  | noMoreData (queryId : Int64)
  | closed (sessionId queryId : Int64)
  | closeOnDropFailed (queryId : Int64) (error : Error)
  | refusedByServer (code : Int32) (message : String)
  | connectionFailed (purpose : Purpose)
  | transportDetail (fault : TransportFault)
  | unsupportedType (name : String)
  | truncated (part : PagePart)
  | truncationDetail (needed remaining : Nat)
  | malformedPage (fault : PageFault)
  | failed (error : Error)
  deriving DecidableEq, Repr

namespace Event

def severity : Event → Severity
  | .pageInstalled _ _ | .fetching _ _ _ | .noMoreData _ => .debug
  | .closed _ _ => .info
  | .closeOnDropFailed _ _ => .warn
  | .refusedByServer _ _ | .connectionFailed _ | .unsupportedType _ => .error
  | .truncated _ | .malformedPage _ => .error
  | .transportDetail _ | .truncationDetail _ _ | .failed _ => .debug

def message : Event → String
  | .pageInstalled _ _ => "Installing result page"
  | .fetching _ _ _ => "Fetching next result page"
  | .noMoreData _ => "Server reported no more data"
  | .closed _ _ => "Closed result set"
  | .closeOnDropFailed _ error => "Closing result set on drop failed: " ++ error.message
  | .refusedByServer _ message => s!"Server execution failed: {message}"
  | .connectionFailed purpose => purpose.failure
  | .transportDetail fault => "Transport error details: " ++ fault.detail
  | .unsupportedType name => s!"Unsupported data type: {name}"
  | .truncated part => "Page truncated while reading " ++ part.name
  | .truncationDetail _ _ => "Truncation details"
  | .malformedPage fault => "Malformed page: " ++ fault.message
  | .failed error => "Result set error: " ++ error.message

def fields : Event → List (String × Int)
  | .pageInstalled rows bytes => [("rows", rows), ("bytes", bytes)]
  | .fetching sessionId queryId fetchSize =>
    [("session_id", sessionId.toInt), ("query_id", queryId.toInt), ("fetch_size", fetchSize.toInt)]
  | .noMoreData queryId => [("query_id", queryId.toInt)]
  | .closed sessionId queryId => [("session_id", sessionId.toInt), ("query_id", queryId.toInt)]
  | .closeOnDropFailed queryId _ => [("query_id", queryId.toInt)]
  | .refusedByServer code _ => [("code", code.toInt)]
  | .truncationDetail needed remaining => [("needed", needed), ("remaining", remaining)]
  | _ => []

end Event

def Error.events : Error → List Event
  | .refusedByServer code message => [.refusedByServer code message]
  | .connection purpose fault => [.connectionFailed purpose, .transportDetail fault]
  | .unsupportedType name => [.unsupportedType name]
  | .truncated part needed remaining => [.truncated part, .truncationDetail needed remaining]
  | .malformedPage fault => [.malformedPage fault]
  | other => [.failed other]

inductive JournalEntry where
  | fetch (request : FetchRequest)
  | close (request : CloseRequest)
  | event (event : Event)
  deriving DecidableEq, Repr

abbrev Journal := List JournalEntry

namespace Journal

def fetchRequests (journal : Journal) : List FetchRequest :=
  journal.filterMap fun
    | .fetch request => some request
    | _ => none

def closeRequests (journal : Journal) : List CloseRequest :=
  journal.filterMap fun
    | .close request => some request
    | _ => none

def events (journal : Journal) : List Event :=
  journal.filterMap fun
    | .event event => some event
    | _ => none

theorem fetchRequests_append (before after : Journal) :
    (Journal.fetchRequests (before ++ after)) = before.fetchRequests ++ after.fetchRequests :=
  List.filterMap_append

theorem closeRequests_append (before after : Journal) :
    (Journal.closeRequests (before ++ after)) = before.closeRequests ++ after.closeRequests :=
  List.filterMap_append

theorem events_append (before after : Journal) :
    (Journal.events (before ++ after)) = before.events ++ after.events :=
  List.filterMap_append

end Journal

end SeriesCursor
