import SeriesCursor.Page.Basic
import SeriesCursor.Server.Status

/-!
Requests, replies, and a server as the replies it will give, in order. A server with no reply left
says that there is no more data, and accepts any request to close.
-/

namespace SeriesCursor

structure FetchRequest where
  sessionId : Int64
  statement : String
  fetchSize : Int32
  queryId : Int64
  aligned : Bool
  deriving DecidableEq, Repr

structure CloseRequest where
  sessionId : Int64
  queryId : Int64
  deriving DecidableEq, Repr

structure Response where
  status : Status
  hasResultSet : Bool
  page : Option Page
  deriving DecidableEq, Repr

namespace Response

def ofPage (page : Page) : Response :=
  ⟨.success, true, some page⟩

def exhausted : Response :=
  ⟨.success, false, none⟩

def refused (status : Status) : Response :=
  ⟨status, false, none⟩

end Response

inductive FetchReply where
  | lost (fault : TransportFault)
  | answered (response : Response)
  deriving DecidableEq, Repr

inductive CloseReply where
  | lost (fault : TransportFault)
  | answered (status : Status)
  deriving DecidableEq, Repr

structure Server where
  fetchReplies : List FetchReply
  closeReplies : List CloseReply
  deriving DecidableEq, Repr

namespace Server

def closeReply (server : Server) : CloseReply :=
  server.closeReplies.headD (.answered .success)

end Server

end SeriesCursor
