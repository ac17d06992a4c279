import SeriesCursor.Proofs.Transitions

/-!
A whole search for a row. It asks once for every reply that it uses up, in the order in which the
server gives them; every reply but the last has brought a page without rows; and nothing but the
server's replies, the page and the row in hand, the journal and the word on the end of the data is
touched on the way.
-/

namespace SeriesCursor

theorem Status.isSuccess_of_verify {status : Status} (success : status.verify = .ok ()) :
    status.isSuccess = true := by
  simpa [isSuccess, successCode] using (verify_eq_ok_iff status).mp success

theorem Status.refused_of_verify {status : Status} {e : Error} (refusal : status.verify = .error e) :
    status.isSuccess = false := by
  unfold verify at refusal
  split at refusal
  · cases refusal
  · rename_i failed
    simpa using failed

namespace FetchReply

def page? (slots : Nat) : FetchReply → Option Page
  | .lost _ => none
  | .answered response =>
    if response.status.isSuccess && response.hasResultSet then
      response.page.filter fun page => (PageReader.start page slots).isOk
    else none

/-- Whether a reply says that no more data follows: a success without a result set. -/
def endsData : FetchReply → Bool
  | .lost _ => false
  | .answered response => response.status.isSuccess && !response.hasResultSet

theorem page?_of_accepted {slots : Nat} {response : Response} {page : Page} {reader : PageReader}
    (success : response.status.verify = .ok ()) (more : response.hasResultSet = true)
    (sent : response.page = some page) (accepted : PageReader.start page slots = .ok reader) :
    page? slots (.answered response) = some page := by
  have fits : (PageReader.start page slots).isOk = true := by
    rw [accepted]
    rfl
  simp [page?, Status.isSuccess_of_verify success, more, sent, Option.filter, fits]

theorem endsData_of_last {response : Response} (success : response.status.verify = .ok ())
    (last : response.hasResultSet = false) : endsData (.answered response) = true := by
  simp [endsData, Status.isSuccess_of_verify success, last]

theorem endsData_of_more {response : Response} (more : response.hasResultSet = true) :
    endsData (.answered response) = false := by
  simp [endsData, more]

theorem endsData_of_refusal {response : Response} {e : Error} (refusal : response.status.verify = .error e) :
    endsData (.answered response) = false := by
  simp [endsData, Status.refused_of_verify refusal]

theorem endsData_of_page? {slots : Nat} {reply : FetchReply} {page : Page}
    (brought : reply.page? slots = some page) : reply.endsData = false := by
  cases reply with
  | lost fault => rfl
  | answered response =>
    cases more : response.hasResultSet with
    | true => exact endsData_of_more more
    | false => simp [page?, more] at brought

end FetchReply

namespace Journal

def requests (journal : Journal) : Journal :=
  journal.filter fun
    | .fetch _ | .close _ => true
    | .event _ => false

theorem requests_append (before after : Journal) :
    Journal.requests (before ++ after) = before.requests ++ after.requests :=
  List.filter_append before after

theorem requests_events (events : List Event) : Journal.requests (events.map .event) = [] := by
  simp [requests]

end Journal

namespace ResultSet

/-- The reply to a request, of those that are still to come; a server with none left ends the data. -/
def replyTo (replies : List FetchReply) (request : Nat) : FetchReply :=
  replies[request]?.getD (.answered .exhausted)

theorem requests_report (set : ResultSet) (events : List Event) :
    (report set events).journal.requests = set.journal.requests := by
  rw [report, note, Journal.requests_append, Journal.requests_events, List.append_nil]

theorem requests_ask (set : ResultSet) (later : List FetchReply) :
    (set.ask later).journal.requests = set.journal.requests ++
      [.fetch ⟨set.options.sessionId, set.options.statement, set.options.fetchSize, set.options.queryId, true⟩] := by
  rw [ask, note, Journal.requests_append]
  rfl

structure KeptByReading (set next : ResultSet) : Prop where
  options : next.options = set.options
  schema : next.schema = set.schema
  server : next.server = set.server
  exhausted : next.exhausted = set.exhausted
  requests : next.journal.requests = set.journal.requests

theorem KeptByReading.trans {set next last : ResultSet} (first : KeptByReading set next)
    (rest : KeptByReading next last) : KeptByReading set last where
  options := rest.options.trans first.options
  schema := rest.schema.trans first.schema
  server := rest.server.trans first.server
  exhausted := rest.exhausted.trans first.exhausted
  requests := rest.requests.trans first.requests

theorem kept_of_rowRead {set : ResultSet} {outcome : Except Error Bool × ResultSet}
    (read : RowRead set outcome) : KeptByReading set outcome.2 := by
  cases read with
  | decoded => exact ⟨rfl, rfl, rfl, rfl, rfl⟩
  | stopped e row => exact ⟨rfl, rfl, rfl, rfl, requests_report _ _⟩

/-- A search for a row over the replies to come: how many requests it sends, and how it ends. -/
inductive Search : ResultSet → (replies : List FetchReply) → (asked : Nat) →
    Except Error Bool × ResultSet → Prop where
  | ranOut (set : ResultSet) : Search set [] 1 (.ok false, (set.ask []).exhaust)
  | stopped (set : ResultSet) (reply : FetchReply) (later : List FetchReply) (e : Error)
      (received : Received (set.ask later) reply (.error e, set.ask later)) :
      Search set (reply :: later) 1 (.error e, set.ask later)
  | noMore (set : ResultSet) (reply : FetchReply) (later : List FetchReply)
      (received : Received (set.ask later) reply (.ok false, (set.ask later).exhaust)) :
      Search set (reply :: later) 1 (.ok false, (set.ask later).exhaust)
  | read (set : ResultSet) (reply : FetchReply) (later : List FetchReply) (page : Page) (reader : PageReader)
      (brought : reply.page? set.schema.slotCount = some page)
      (accepted : PageReader.start page set.schema.slotCount = .ok reader) (row : reader.hasRow = true) :
      Search set (reply :: later) 1 ((set.ask later).install page reader).readRow
  | skipped (set : ResultSet) (reply : FetchReply) (later : List FetchReply) (page : Page) (reader : PageReader)
      (asked : Nat) (outcome : Except Error Bool × ResultSet)
      (brought : reply.page? set.schema.slotCount = some page)
      (accepted : PageReader.start page set.schema.slotCount = .ok reader) (noRow : reader.hasRow = false)
      (rest : Search ((set.ask later).install page reader) later asked outcome) :
      Search set (reply :: later) (asked + 1) outcome

theorem seek_search (set : ResultSet) (replies : List FetchReply) :
    ∃ asked, Search set replies asked (set.seek replies) := by
  induction replies generalizing set with
  | nil => exact ⟨1, .ranOut set⟩
  | cons reply later ih =>
    have sought := seek_sought set reply later
    generalize set.seek (reply :: later) = outcome at sought ⊢
    cases sought with
    | stopped e received => exact ⟨1, .stopped set reply later e received⟩
    | noMore received => exact ⟨1, .noMore set reply later received⟩
    | read response page reader isReply success more sent accepted row =>
      have brought := FetchReply.page?_of_accepted success more sent accepted
      exact ⟨1, .read set reply later page reader (isReply ▸ brought) accepted row⟩
    | skipped response page reader isReply success more sent accepted noRow =>
      have brought := FetchReply.page?_of_accepted success more sent accepted
      obtain ⟨asked, rest⟩ := ih ((set.ask later).install page reader)
      exact ⟨asked + 1, .skipped set reply later page reader asked _ (isReply ▸ brought) accepted noRow rest⟩

variable {set : ResultSet} {replies : List FetchReply} {asked : Nat} {outcome : Except Error Bool × ResultSet}

theorem Search.asked_pos (search : Search set replies asked outcome) : 0 < asked := by
  cases search <;> exact Nat.succ_pos _

theorem Search.options (search : Search set replies asked outcome) : outcome.2.options = set.options := by
  induction search with
  | read => exact (kept_of_rowRead (readRow_rowRead _)).options
  | skipped _ _ _ _ _ _ _ _ _ _ _ ih => exact ih
  | _ => rfl

theorem Search.schema (search : Search set replies asked outcome) : outcome.2.schema = set.schema := by
  induction search with
  | read => exact (kept_of_rowRead (readRow_rowRead _)).schema
  | skipped _ _ _ _ _ _ _ _ _ _ _ ih => exact ih
  | _ => rfl

theorem Search.server (search : Search set replies asked outcome) :
    outcome.2.server = set.server.map fun server => { server with fetchReplies := replies.drop asked } := by
  induction search with
  | read => exact (kept_of_rowRead (readRow_rowRead _)).server
  | skipped set _ _ _ _ _ _ _ _ _ _ ih =>
    rw [ih]
    exact Option.map_map _ _ set.server
  | _ => rfl

theorem Search.requests (search : Search set replies asked outcome) :
    outcome.2.journal.requests =
      set.journal.requests ++ List.replicate asked
        (.fetch ⟨set.options.sessionId, set.options.statement, set.options.fetchSize, set.options.queryId, true⟩) := by
  induction search with
  | ranOut set => exact (requests_report _ _).trans (requests_ask set [])
  | stopped set reply later e received => exact requests_ask set later
  | noMore set reply later received => exact (requests_report _ _).trans (requests_ask set later)
  | read set reply later page reader =>
    rw [(kept_of_rowRead (readRow_rowRead _)).requests]
    exact (requests_report _ _).trans (requests_ask set later)
  | skipped set reply later page reader asked outcome brought accepted noRow rest ih =>
    have installed : ((set.ask later).install page reader).journal.requests =
        set.journal.requests ++
          [.fetch ⟨set.options.sessionId, set.options.statement, set.options.fetchSize, set.options.queryId, true⟩] :=
      (requests_report _ _).trans (requests_ask set later)
    rw [ih, installed, List.append_assoc, List.replicate_succ]
    rfl

theorem Search.brought_no_row (search : Search set replies asked outcome) {request : Nat}
    (again : request + 1 < asked) :
    ∃ page, (replyTo replies request).page? set.schema.slotCount = some page ∧ page.time = [] := by
  induction search generalizing request with
  | skipped set reply later page reader asked outcome brought accepted noRow rest ih =>
    cases request with
    | zero =>
      refine ⟨page, brought, ?_⟩
      unfold PageReader.start at accepted
      split at accepted
      · cases accepted
      · split at accepted
        · cases accepted
        · cases accepted
          simpa [PageReader.hasRow] using noRow
    | succ request => exact ih (Nat.lt_of_succ_lt_succ again)
  | _ => omega

theorem Search.exhausted (search : Search set replies asked outcome) (more : set.exhausted = false) :
    outcome.2.exhausted = (replyTo replies (asked - 1)).endsData := by
  induction search with
  | ranOut set => rfl
  | stopped set reply later e received =>
    refine more.trans (Eq.symm ?_)
    cases received with
    | lost fault => rfl
    | refused response e refusal => exact FetchReply.endsData_of_refusal refusal
    | missing response success more none => exact FetchReply.endsData_of_more more
    | unfit response page e success more sent unfit => exact FetchReply.endsData_of_more more
  | noMore set reply later received =>
    cases received with
    | noMore response success last => exact (FetchReply.endsData_of_last success last).symm
  | read set reply later page reader brought accepted row =>
    rw [(kept_of_rowRead (readRow_rowRead _)).exhausted]
    exact more.trans (FetchReply.endsData_of_page? brought).symm
  | skipped set reply later page reader asked outcome brought accepted noRow rest ih =>
    rw [ih more]
    obtain ⟨last, rfl⟩ := Nat.exists_eq_add_of_lt rest.asked_pos
    simp [replyTo]

theorem schema_perform (set : ResultSet) (call : Call) : (set.perform call).2.schema = set.schema := by
  cases call with
  | advance =>
    have advanced := advance_advanced set
    change set.advance.2.schema = set.schema
    generalize set.advance = outcome at advanced ⊢
    cases advanced with
    | read usable row => exact (kept_of_rowRead (readRow_rowRead set)).schema
    | sought server =>
      obtain ⟨asked, search⟩ := seek_search set.waiting server.fetchReplies
      exact search.schema
    | _ => rfl
  | setPage page =>
    have pageSet := setPage_pageSet set page
    change (set.setPage page).2.schema = set.schema
    generalize set.setPage page = outcome at pageSet ⊢
    cases pageSet <;> rfl
  | close =>
    change set.close.2.schema = set.schema
    by_cases closed : set.state = .closed
    · rw [close_of_closed closed]
    · obtain ⟨entries, next⟩ := close_eq_released closed
      rw [next]
      rfl
  | read reading selector => rfl
  | currentRow => rfl

theorem schema_run (set : ResultSet) (calls : List Call) : (set.run calls).schema = set.schema :=
  run_keeps (P := fun next => next.schema = set.schema)
    (fun next call same => (schema_perform next call).trans same) rfl calls

end ResultSet

end SeriesCursor
