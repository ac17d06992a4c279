import SeriesCursor.ResultSet.Basic

/-!
Moving a result set: to the next row, onto another page, and to its end.

The next row comes from the page in hand while that has one; otherwise pages are asked for until one has
a row, the server says that no more follow, or a request fails. A failed request leaves the set as it
was, so that it can be repeated; a row that cannot be decoded stops the set for good.
-/

namespace SeriesCursor

namespace ResultSet

def usable (set : ResultSet) : Except Error Unit :=
  if set.state = .closed then .error .closed
  else match set.failure with
    | some e => .error (.stopped e.message)
    | none => .ok ()

def withoutRow (set : ResultSet) : ResultSet :=
  { set with row := set.row.invalidate }

def waiting (set : ResultSet) : ResultSet :=
  { set.withoutRow with state := .needsFetch }

def drained (set : ResultSet) : ResultSet :=
  { set.withoutRow with state := .empty }

def exhaust (set : ResultSet) : ResultSet :=
  report { set with exhausted := true, state := .empty } [.noMoreData set.options.queryId]

def replaced (set : ResultSet) (page : Page) (reader : PageReader) : ResultSet :=
  { (set.install page reader).withoutRow with
    state := if set.state = .hasCachedRow then .needsFetch else set.state }

def released (set : ResultSet) : ResultSet :=
  { set.withoutRow with server := none, page := .empty, state := .closed }

def fail (set : ResultSet) (e : Error) : ResultSet :=
  report
    { set with page := .empty, row := set.row.invalidate, state := .failed, failure := some e } e.events

def readRow (set : ResultSet) : Except Error Bool × ResultSet :=
  match set.row.materialize set.schema.columns set.page with
  | (.ok (), page, row) => (.ok true, { set with page := page, row := row, state := .hasCachedRow })
  | (.error e, page, row) => (.error e, fail { set with page := page, row := row } e)

def ask (set : ResultSet) (later : List FetchReply) : ResultSet :=
  note
    { set with server := set.server.map fun server => { server with fetchReplies := later } }
    [.event (.fetching set.options.sessionId set.options.queryId set.options.fetchSize),
      .fetch set.options.fetchRequest]

/-- Takes the reply to a request for the next page: true with a new page, false when there is no more
data. The status counts before anything else that the reply holds. -/
def receive (set : ResultSet) (reply : FetchReply) : Except Error Bool × ResultSet :=
  match reply with
  | .lost fault => (.error (.connection .fetch fault), set)
  | .answered response =>
    match response.status.verify with
    | .error e => (.error e, set)
    | .ok () =>
      if response.hasResultSet then
        match response.page with
        | none => (.error (.malformedPage .missingPage), set)
        | some page =>
          match set.adopt page with
          | .ok set => (.ok true, set)
          | .error e => (.error e, set)
      else (.ok false, set.exhaust)

def seek (set : ResultSet) : List FetchReply → Except Error Bool × ResultSet
  | [] => (set.ask []).receive (.answered .exhausted)
  | reply :: later =>
    match (set.ask later).receive reply with
    | (.ok true, set) => if set.page.hasRow then set.readRow else set.seek later
    | outcome => outcome

/-- Moves to the next row; false when there are no more. -/
def advance (set : ResultSet) : Except Error Bool × ResultSet :=
  match set.usable with
  | .error e => (.error e, set)
  | .ok () =>
    if set.page.hasRow then set.readRow
    else if set.exhausted then (.ok false, set.drained)
    else match set.server with
      | some server => set.waiting.seek server.fetchReplies
      | none => (.error .closed, set.waiting)

def setPage (set : ResultSet) (page : Page) : Except Error Unit × ResultSet :=
  match set.usable with
  | .error e => (.error e, set)
  | .ok () =>
    match PageReader.start page set.schema.slotCount with
    | .error e => (.error e, set)
    | .ok reader => (.ok (), set.replaced page reader)

/-- Closes the set and lets the server go, whatever the server replies; does nothing a second time. -/
def close (set : ResultSet) : Except Error Unit × ResultSet :=
  if set.state = .closed then (.ok (), set)
  else match set.server with
  | none => (.ok (), set.released)
  | some server =>
    let sent := set.released.note [.close set.options.closeRequest]
    match server.closeReply with
    | .lost fault => (.error (.connection .close fault), sent)
    | .answered status =>
      match status.verify with
      | .error e => (.error e, sent)
      | .ok () => (.ok (), sent.report [.closed set.options.sessionId set.options.queryId])

/-- Lets go of the set, which closes it if nobody has; a failure to close is only reported. -/
def drop (set : ResultSet) : ResultSet :=
  if set.state = .closed then set
  else match set.close with
    | (.ok (), set) => set
    | (.error e, set) => set.report [.closeOnDropFailed set.options.queryId e]

end ResultSet

end SeriesCursor
