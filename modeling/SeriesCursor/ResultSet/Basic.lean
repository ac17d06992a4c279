import SeriesCursor.Journal
import SeriesCursor.Row.Basic
import SeriesCursor.Schema.Resolve
import SeriesCursor.Settings.Basic

/-!
A result set: a cursor over the rows of a query, which the server delivers page by page. It holds the
page that it reads, the row in hand, the server's replies to come, and the journal of all it has done.
-/

namespace SeriesCursor

structure Options where
  statement : String
  sessionId : Int64
  queryId : Int64
  fetchSize : Int32
  includesTime : Bool
  deriving DecidableEq, Repr

namespace Options

def ofSettings (settings : ClientSettings) (statement : String) (sessionId queryId : Int64) : Options :=
  ⟨statement, sessionId, queryId, settings.fetchSize, settings.includesTime⟩

def default (statement : String) (sessionId queryId : Int64) : Options :=
  ofSettings {} statement sessionId queryId

def fetchRequest (options : Options) : FetchRequest :=
  ⟨options.sessionId, options.statement, options.fetchSize, options.queryId, true⟩

def closeRequest (options : Options) : CloseRequest :=
  ⟨options.sessionId, options.queryId⟩

end Options

inductive CursorState where
  /-- There is no row in hand, and more data may follow. -/
  | needsFetch
  /-- A row may be read. -/
  | hasCachedRow
  /-- The server has said that no more data follows. -/
  | empty
  /-- A row could not be decoded, and the cursor has stopped. -/
  | failed
  | closed
  deriving DecidableEq, Repr

structure ResultSet where
  options : Options
  schema : Schema
  server : Option Server
  page : PageReader
  row : Row
  state : CursorState
  /-- Whether the server has said that no more data follows; a page set later does not change it. -/
  exhausted : Bool
  failure : Option Error
  journal : Journal
  deriving DecidableEq, Repr

namespace ResultSet

def note (set : ResultSet) (entries : List JournalEntry) : ResultSet :=
  { set with journal := set.journal ++ entries }

def report (set : ResultSet) (events : List Event) : ResultSet :=
  set.note (events.map .event)

def install (set : ResultSet) (page : Page) (reader : PageReader) : ResultSet :=
  report { set with page := reader } [.pageInstalled page.rowCount page.byteLength]

def adopt (set : ResultSet) (page : Page) : Except Error ResultSet :=
  match PageReader.start page set.schema.slotCount with
  | .ok reader => .ok (set.install page reader)
  | .error e => .error e

def opened (options : Options) (schema : Schema) (server : Server) : ResultSet where
  options := options
  schema := schema
  server := some server
  page := .empty
  row := .empty schema.slotCount
  state := .needsFetch
  exhausted := false
  failure := none
  journal := []

def create (options : Options) (schema : Schema) (server : Server) (initial : Option Page) :
    Except Error ResultSet :=
  match initial with
  | some page => (opened options schema server).adopt page
  | none => .ok (opened options schema server)

def ofRaw (options : Options) (names types : List String) (index : Option SlotIndex) (server : Server)
    (initial : Option Page) : Except Error ResultSet := do
  let schema ← Schema.resolve names types index options.includesTime
  create options schema server initial

end ResultSet

end SeriesCursor
