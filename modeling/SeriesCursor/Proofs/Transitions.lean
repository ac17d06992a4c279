import SeriesCursor.ResultSet.Call

/-!
What each move of a result set can do, said once: all that can come of a reply, of a call for the next
row, of a new page and of closing. What is kept by these is kept by every run of calls.
-/

namespace SeriesCursor

namespace Cell

theorem length_decodeAll (row : Nat) (columns : List Column) (lanes : List Lane) (cells : List Cell) :
    (decodeAll row columns lanes cells).2.1.length = lanes.length ∧
      (decodeAll row columns lanes cells).2.2.length = cells.length := by
  induction columns generalizing lanes cells with
  | nil => exact ⟨rfl, rfl⟩
  | cons column columns ih =>
    cases lanes with
    | nil => exact ⟨rfl, rfl⟩
    | cons lane lanes =>
      cases cells with
      | nil => exact ⟨rfl, rfl⟩
      | cons cell cells =>
        have others := ih lanes cells
        rw [decodeAll]
        rcases decode column row lane cell with ⟨_ | _, lane', cell'⟩
        · exact ⟨rfl, rfl⟩
        · exact ⟨congrArg Nat.succ others.1, congrArg Nat.succ others.2⟩

end Cell

namespace Row

inductive Materialized (columns : List Column) (reader : PageReader) (row : Row) :
    Except Error Unit × PageReader × Row → Prop where
  | noTime (short : reader.time.length < Page.timeWidth) :
      Materialized columns reader row
        (.error (.truncated .time Page.timeWidth reader.time.length), reader, row.invalidate)
  | failed (e : Error) (time : Int64) (lanes : List Lane) (cells : List Cell)
      (enough : Page.timeWidth ≤ reader.time.length)
      (sameLanes : lanes.length = reader.lanes.length) (sameCells : cells.length = row.cells.length) :
      Materialized columns reader row
        (.error e, ⟨reader.time.drop Page.timeWidth, lanes, reader.rowOffset⟩, ⟨time, cells, false⟩)
  | decoded (time : Int64) (lanes : List Lane) (cells : List Cell)
      (enough : Page.timeWidth ≤ reader.time.length)
      (sameLanes : lanes.length = reader.lanes.length) (sameCells : cells.length = row.cells.length) :
      Materialized columns reader row
        (.ok (), ⟨reader.time.drop Page.timeWidth, lanes, reader.rowOffset + 1⟩, ⟨time, cells, true⟩)

theorem materialize_materialized (columns : List Column) (reader : PageReader) (row : Row) :
    Materialized columns reader row (row.materialize columns reader) := by
  unfold materialize
  split
  · rename_i short
    exact .noTime short
  · rename_i enough
    have lengths := Cell.length_decodeAll reader.rowOffset columns reader.lanes row.cells
    dsimp only
    split
    · rename_i result
      rw [result] at lengths
      exact .decoded _ _ _ (Nat.le_of_not_lt enough) lengths.1 lengths.2
    · rename_i result
      rw [result] at lengths
      exact .failed _ _ _ _ (Nat.le_of_not_lt enough) lengths.1 lengths.2

end Row

namespace ResultSet

theorem usable_eq_ok_iff (set : ResultSet) : set.usable = .ok () ↔ set.state ≠ .closed ∧ set.failure = none := by
  unfold usable
  split
  · rename_i closed
    simp [closed]
  · rename_i openSet
    split
    · rename_i failure
      simp [failure]
    · rename_i failure
      simp [openSet, failure]

theorem usable_of_same {set next : ResultSet} (usable : set.usable = .ok ()) (openSet : next.state ≠ .closed)
    (failure : next.failure = set.failure) : next.usable = .ok () := by
  rw [usable_eq_ok_iff, failure]
  exact ⟨openSet, ((usable_eq_ok_iff set).mp usable).2⟩

@[simp] theorem fetchRequests_ask (set : ResultSet) (later : List FetchReply) :
    (set.ask later).journal.fetchRequests = set.journal.fetchRequests ++
      [⟨set.options.sessionId, set.options.statement, set.options.fetchSize, set.options.queryId, true⟩] := by
  rw [ask, note, Journal.fetchRequests_append]
  rfl

@[simp] theorem fetchRequests_install (set : ResultSet) (page : Page) (reader : PageReader) :
    (set.install page reader).journal.fetchRequests = set.journal.fetchRequests := by
  simp [install, report, note, Journal.fetchRequests]

@[simp] theorem fetchRequests_exhaust (set : ResultSet) :
    set.exhaust.journal.fetchRequests = set.journal.fetchRequests := by
  simp [exhaust, report, note, Journal.fetchRequests]

theorem adopt_eq (set : ResultSet) (page : Page) :
    set.adopt page = (PageReader.start page set.schema.slotCount).map (set.install page) := by
  unfold adopt
  cases PageReader.start page set.schema.slotCount <;> rfl

inductive RowRead (set : ResultSet) : Except Error Bool × ResultSet → Prop where
  | decoded (time : Int64) (lanes : List Lane) (cells : List Cell)
      (enough : Page.timeWidth ≤ set.page.time.length) (sameLanes : lanes.length = set.page.lanes.length)
      (sameCells : cells.length = set.row.cells.length) :
      RowRead set (.ok true,
        { set with
          page := ⟨set.page.time.drop Page.timeWidth, lanes, set.page.rowOffset + 1⟩
          row := ⟨time, cells, true⟩
          state := .hasCachedRow })
  | stopped (e : Error) (row : Row) (sameCells : row.cells.length = set.row.cells.length) :
      RowRead set (.error e, fail { set with row := row } e)

theorem readRow_rowRead (set : ResultSet) : RowRead set set.readRow := by
  have materialized := Row.materialize_materialized set.schema.columns set.page set.row
  rw [readRow]
  cases result : set.row.materialize set.schema.columns set.page with
  | mk outcome inHand =>
    rw [result] at materialized
    cases materialized with
    | noTime short => exact .stopped _ _ rfl
    | failed e time lanes cells enough sameLanes sameCells => exact .stopped e ⟨time, cells, false⟩ sameCells
    | decoded time lanes cells enough sameLanes sameCells =>
      exact .decoded time lanes cells enough sameLanes sameCells

inductive Received (set : ResultSet) : FetchReply → Except Error Bool × ResultSet → Prop where
  | lost (fault : TransportFault) : Received set (.lost fault) (.error (.connection .fetch fault), set)
  | refused (response : Response) (e : Error) (refusal : response.status.verify = .error e) :
      Received set (.answered response) (.error e, set)
  | noMore (response : Response) (success : response.status.verify = .ok ())
      (last : response.hasResultSet = false) : Received set (.answered response) (.ok false, set.exhaust)
  | missing (response : Response) (success : response.status.verify = .ok ())
      (more : response.hasResultSet = true) (none : response.page = none) :
      Received set (.answered response) (.error (.malformedPage .missingPage), set)
  | unfit (response : Response) (page : Page) (e : Error) (success : response.status.verify = .ok ())
      (more : response.hasResultSet = true) (sent : response.page = some page)
      (unfit : PageReader.start page set.schema.slotCount = .error e) :
      Received set (.answered response) (.error e, set)
  | installed (response : Response) (page : Page) (reader : PageReader)
      (success : response.status.verify = .ok ()) (more : response.hasResultSet = true)
      (sent : response.page = some page) (accepted : PageReader.start page set.schema.slotCount = .ok reader) :
      Received set (.answered response) (.ok true, set.install page reader)

theorem receive_received (set : ResultSet) (reply : FetchReply) : Received set reply (set.receive reply) := by
  cases reply with
  | lost fault => exact .lost fault
  | answered response =>
    rw [receive]
    cases verified : response.status.verify with
    | error e => exact .refused response e verified
    | ok _ =>
      cases more : response.hasResultSet with
      | false => exact .noMore response verified more
      | true =>
        cases sent : response.page with
        | none => exact .missing response verified more sent
        | some page =>
          simp only [adopt_eq]
          cases accepted : PageReader.start page set.schema.slotCount with
          | error e => exact .unfit response page e verified more sent accepted
          | ok reader => exact .installed response page reader verified more sent accepted

inductive Advanced (set : ResultSet) : Except Error Bool × ResultSet → Prop where
  | unusable (e : Error) (stop : set.usable = .error e) : Advanced set (.error e, set)
  | read (usable : set.usable = .ok ()) (row : set.page.hasRow = true) : Advanced set set.readRow
  | ended (usable : set.usable = .ok ()) (row : set.page.hasRow = false) (last : set.exhausted = true) :
      Advanced set (.ok false, set.drained)
  | unserved (usable : set.usable = .ok ()) (row : set.page.hasRow = false) (more : set.exhausted = false)
      (released : set.server = none) : Advanced set (.error .closed, set.waiting)
  | sought (server : Server) (usable : set.usable = .ok ()) (row : set.page.hasRow = false)
      (more : set.exhausted = false) (held : set.server = some server) :
      Advanced set (set.waiting.seek server.fetchReplies)

theorem advance_advanced (set : ResultSet) : Advanced set set.advance := by
  unfold advance
  cases stop : set.usable with
  | error e => exact .unusable e stop
  | ok _ =>
    cases row : set.page.hasRow with
    | true => exact .read stop row
    | false =>
      cases last : set.exhausted with
      | true => exact .ended stop row last
      | false =>
        cases held : set.server with
        | none => exact .unserved stop row last held
        | some server => exact .sought server stop row last held

theorem state_replaced (set : ResultSet) (page : Page) (reader : PageReader) :
    (set.replaced page reader).state = .needsFetch ∨
      (set.replaced page reader).state = set.state ∧ set.state ≠ .hasCachedRow := by
  by_cases cached : set.state = .hasCachedRow
  · exact .inl (if_pos cached)
  · exact .inr ⟨if_neg cached, cached⟩

theorem state_replaced_ne {set : ResultSet} {state : CursorState} (before : set.state ≠ state)
    (other : state ≠ .needsFetch) (page : Page) (reader : PageReader) : (set.replaced page reader).state ≠ state := by
  rcases state_replaced set page reader with next | ⟨next, _⟩
  · exact next ▸ other.symm
  · exact next ▸ before

theorem state_replaced_ne_cached (set : ResultSet) (page : Page) (reader : PageReader) :
    (set.replaced page reader).state ≠ .hasCachedRow := by
  rcases state_replaced set page reader with next | ⟨next, noRow⟩
  · exact next ▸ (by decide)
  · exact next ▸ noRow

inductive PageSet (set : ResultSet) (page : Page) : Except Error Unit × ResultSet → Prop where
  | unusable (e : Error) (stop : set.usable = .error e) : PageSet set page (.error e, set)
  | unfit (e : Error) (usable : set.usable = .ok ())
      (unfit : PageReader.start page set.schema.slotCount = .error e) : PageSet set page (.error e, set)
  | installed (reader : PageReader) (usable : set.usable = .ok ())
      (accepted : PageReader.start page set.schema.slotCount = .ok reader) :
      PageSet set page (.ok (), set.replaced page reader)

theorem setPage_pageSet (set : ResultSet) (page : Page) : PageSet set page (set.setPage page) := by
  unfold setPage
  cases stop : set.usable with
  | error e => exact .unusable e stop
  | ok _ =>
    cases accepted : PageReader.start page set.schema.slotCount with
    | error e => exact .unfit e stop accepted
    | ok reader => exact .installed reader stop accepted

theorem close_eq_released {set : ResultSet} (openSet : set.state ≠ .closed) :
    ∃ entries, set.close.2 = set.released.note entries := by
  unfold close
  rw [if_neg openSet]
  cases set.server with
  | none => exact ⟨[], by simp [released, note]⟩
  | some server =>
    dsimp only
    cases server.closeReply with
    | lost fault => exact ⟨_, rfl⟩
    | answered status =>
      dsimp only
      cases status.verify with
      | error e => exact ⟨_, rfl⟩
      | ok _ =>
        refine ⟨[.close ⟨set.options.sessionId, set.options.queryId⟩,
          .event (.closed set.options.sessionId set.options.queryId)], ?_⟩
        simp only [report, note, released, Options.closeRequest, List.append_assoc, List.map_cons, List.map_nil,
          List.cons_append, List.nil_append]

theorem close_of_closed {set : ResultSet} (closed : set.state = .closed) : set.close = (.ok (), set) :=
  if_pos closed

theorem receive_of_refusal {set : ResultSet} {response : Response} {e : Error}
    (refusal : response.status.verify = .error e) : set.receive (.answered response) = (.error e, set) := by
  simp only [receive, refusal]

theorem receive_of_last {set : ResultSet} {response : Response} (success : response.status.verify = .ok ())
    (last : response.hasResultSet = false) : set.receive (.answered response) = (.ok false, set.exhaust) := by
  simp only [receive, success, last, Bool.false_eq_true, if_false]

theorem receive_of_missing {set : ResultSet} {response : Response} (success : response.status.verify = .ok ())
    (more : response.hasResultSet = true) (none : response.page = none) :
    set.receive (.answered response) = (.error (.malformedPage .missingPage), set) := by
  simp only [receive, success, more, none, if_true]

theorem receive_of_unfit {set : ResultSet} {response : Response} {page : Page} {e : Error}
    (success : response.status.verify = .ok ()) (more : response.hasResultSet = true)
    (sent : response.page = some page) (unfit : PageReader.start page set.schema.slotCount = .error e) :
    set.receive (.answered response) = (.error e, set) := by
  simp only [receive, success, more, sent, adopt_eq, unfit, Except.map, if_true]

theorem receive_of_accepted {set : ResultSet} {response : Response} {page : Page} {reader : PageReader}
    (success : response.status.verify = .ok ()) (more : response.hasResultSet = true)
    (sent : response.page = some page) (accepted : PageReader.start page set.schema.slotCount = .ok reader) :
    set.receive (.answered response) = (.ok true, set.install page reader) := by
  simp only [receive, success, more, sent, adopt_eq, accepted, Except.map, if_true]

theorem seek_of_error {set next : ResultSet} {reply : FetchReply} {later : List FetchReply} {e : Error}
    (received : (set.ask later).receive reply = (.error e, next)) :
    set.seek (reply :: later) = (.error e, next) := by
  rw [seek, received]

theorem seek_of_noMore {set next : ResultSet} {reply : FetchReply} {later : List FetchReply}
    (received : (set.ask later).receive reply = (.ok false, next)) :
    set.seek (reply :: later) = (.ok false, next) := by
  rw [seek, received]

theorem seek_of_page {set : ResultSet} {reply : FetchReply} {later : List FetchReply} {page : Page}
    {reader : PageReader}
    (received : (set.ask later).receive reply = (.ok true, (set.ask later).install page reader)) :
    set.seek (reply :: later) =
      if reader.hasRow then ((set.ask later).install page reader).readRow
      else ((set.ask later).install page reader).seek later := by
  rw [seek, received]
  rfl

inductive Sought (set : ResultSet) (reply : FetchReply) (later : List FetchReply) :
    Except Error Bool × ResultSet → Prop where
  | stopped (e : Error) (received : Received (set.ask later) reply (.error e, set.ask later)) :
      Sought set reply later (.error e, set.ask later)
  | noMore (received : Received (set.ask later) reply (.ok false, (set.ask later).exhaust)) :
      Sought set reply later (.ok false, (set.ask later).exhaust)
  | read (response : Response) (page : Page) (reader : PageReader) (isReply : reply = .answered response)
      (success : response.status.verify = .ok ()) (more : response.hasResultSet = true)
      (sent : response.page = some page) (accepted : PageReader.start page set.schema.slotCount = .ok reader)
      (row : reader.hasRow = true) : Sought set reply later ((set.ask later).install page reader).readRow
  | skipped (response : Response) (page : Page) (reader : PageReader) (isReply : reply = .answered response)
      (success : response.status.verify = .ok ()) (more : response.hasResultSet = true)
      (sent : response.page = some page) (accepted : PageReader.start page set.schema.slotCount = .ok reader)
      (noRow : reader.hasRow = false) :
      Sought set reply later (((set.ask later).install page reader).seek later)

theorem seek_sought (set : ResultSet) (reply : FetchReply) (later : List FetchReply) :
    Sought set reply later (set.seek (reply :: later)) := by
  have received := receive_received (set.ask later) reply
  cases outcome : (set.ask later).receive reply with
  | mk result next =>
    rw [outcome] at received
    cases received with
    | lost fault =>
      rw [seek_of_error outcome]
      exact .stopped _ (.lost fault)
    | refused response e refusal =>
      rw [seek_of_error outcome]
      exact .stopped _ (.refused response e refusal)
    | noMore response success last =>
      rw [seek_of_noMore outcome]
      exact .noMore (.noMore response success last)
    | missing response success more none =>
      rw [seek_of_error outcome]
      exact .stopped _ (.missing response success more none)
    | unfit response page e success more sent unfit =>
      rw [seek_of_error outcome]
      exact .stopped _ (.unfit response page e success more sent unfit)
    | installed response page reader success more sent accepted =>
      rw [seek_of_page outcome]
      cases row : reader.hasRow with
      | true => exact .read response page reader rfl success more sent accepted row
      | false => exact .skipped response page reader rfl success more sent accepted row

/-- What holds of a waiting set, is not lost by asking or by a page without rows, and gives `Result` of
every way in which the search for a row can end, gives `Result` of the search. -/
theorem seek_induction {Waiting : ResultSet → Prop} (Result : Except Error Bool × ResultSet → Prop)
    (asked : ∀ set later, Waiting set → Waiting (set.ask later))
    (stopped : ∀ set reply e, Waiting set → Received set reply (.error e, set) → Result (.error e, set))
    (noMore : ∀ set, Waiting set → Result (.ok false, set.exhaust))
    (skipped : ∀ set page reader, Waiting set → PageReader.start page set.schema.slotCount = .ok reader →
      reader.hasRow = false → Waiting (set.install page reader))
    (read : ∀ set page reader, Waiting set → PageReader.start page set.schema.slotCount = .ok reader →
      reader.hasRow = true → Result (set.install page reader).readRow)
    {set : ResultSet} (waiting : Waiting set) (replies : List FetchReply) : Result (set.seek replies) := by
  induction replies generalizing set with
  | nil => exact noMore _ (asked set [] waiting)
  | cons reply later ih =>
    have waits := asked set later waiting
    have sought := seek_sought set reply later
    generalize set.seek (reply :: later) = outcome at sought ⊢
    cases sought with
    | stopped e received => exact stopped _ reply e waits received
    | noMore received => exact noMore _ waits
    | read response page reader isReply success more sent accepted row =>
      exact read _ page reader waits accepted row
    | skipped response page reader isReply success more sent accepted noRow =>
      exact ih (skipped _ page reader waits accepted noRow)

inductive Created (options : Options) (schema : Schema) (server : Server) : Option Page → ResultSet → Prop where
  | withoutPage : Created options schema server none (opened options schema server)
  | onPage (page : Page) (reader : PageReader) (accepted : PageReader.start page schema.slotCount = .ok reader) :
      Created options schema server (some page) ((opened options schema server).install page reader)

theorem create_created {options : Options} {schema : Schema} {server : Server} {initial : Option Page}
    {set : ResultSet} (created : create options schema server initial = .ok set) :
    Created options schema server initial set := by
  unfold create at created
  cases initial with
  | none =>
    cases created
    exact .withoutPage
  | some page =>
    simp only [adopt_eq] at created
    cases accepted : PageReader.start page (opened options schema server).schema.slotCount with
    | error e =>
      rw [accepted] at created
      cases created
    | ok reader =>
      rw [accepted] at created
      cases created
      exact .onPage page reader accepted

theorem create_of_accepted {options : Options} {schema : Schema} {page : Page} {reader : PageReader}
    (accepted : PageReader.start page schema.slotCount = .ok reader) (server : Server) :
    create options schema server (some page) = .ok ((opened options schema server).install page reader) := by
  rw [create, adopt_eq]
  exact congrArg (Except.map _) accepted

theorem run_keeps {P : ResultSet → Prop} (kept : ∀ set call, P set → P (set.perform call).2) {set : ResultSet}
    (holds : P set) (calls : List Call) : P (set.run calls) := by
  induction calls generalizing set with
  | nil => exact holds
  | cons call rest ih => exact ih (kept set call holds)

end ResultSet

end SeriesCursor
