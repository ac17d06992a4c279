import SeriesCursor.Proofs.Searching
import SeriesCursor.Proofs.Stopping

/-!
What a result set asks of the server over its lifetime: any number of times for a page, and in the end
once to close. It asks for a page only when the one in hand has no row left, and never again once the
data has ended, a row could not be decoded, or the set was closed.

Requests for pages are numbered from zero over the lifetime; the server replies to them in its order.
-/

namespace SeriesCursor

theorem Journal.fetchRequests_requests (journal : Journal) :
    journal.requests.fetchRequests = journal.fetchRequests := by
  induction journal with
  | nil => rfl
  | cons entry rest ih =>
    cases entry with
    | fetch request => exact congrArg (request :: ·) ih
    | close request => exact ih
    | event event => exact ih

def CloseReply.accepts : CloseReply → Bool
  | .lost _ => false
  | .answered status => status.isSuccess

namespace ResultSet

def fetchesSent (set : ResultSet) : Nat :=
  set.journal.fetchRequests.length

/-- A call asks for pages only without a row in hand: before its first request the page has none left, and
each further request comes after a reply that brought a page without rows. -/
structure AsksWithoutRow (replies : List FetchReply) (set : ResultSet) (call : Call) : Prop where
  first : set.fetchesSent < (set.perform call).2.fetchesSent → call = .advance ∧ set.page.hasRow = false
  again : ∀ request, set.fetchesSent ≤ request → request + 1 < (set.perform call).2.fetchesSent →
    ∃ page, (replyTo replies request).page? set.schema.slotCount = some page ∧ page.time = []

/-- The account of a lifetime up to a point: the requests that were sent, and the replies used up. -/
structure Accounted (options : Options) (server : Server) (set : ResultSet) (sent : Nat) : Prop where
  sameOptions : set.options = options
  whileOpen : set.state ≠ .closed → set.journal.requests =
    List.replicate sent (.fetch ⟨options.sessionId, options.statement, options.fetchSize, options.queryId, true⟩)
  onceClosed : set.state = .closed →
    set.journal.requests =
      List.replicate sent (.fetch ⟨options.sessionId, options.statement, options.fetchSize, options.queryId, true⟩) ++
        [.close ⟨options.sessionId, options.queryId⟩]
  held : set.state ≠ .closed →
    set.server = some { server with fetchReplies := server.fetchReplies.drop sent }
  going : ∀ request, request + 1 < sent → (replyTo server.fetchReplies request).endsData = false
  ended : set.exhausted = false → ∀ request, request < sent → (replyTo server.fetchReplies request).endsData = false

variable {options : Options} {server : Server} {set : ResultSet} {sent : Nat}

theorem replyTo_drop (replies : List FetchReply) (sent request : Nat) :
    replyTo (replies.drop sent) request = replyTo replies (sent + request) := by
  rw [replyTo, replyTo, List.getElem?_drop]

theorem fetchesSent_of_requests {closing : Journal} (request : FetchRequest)
    (sends : set.journal.requests = List.replicate sent (.fetch request) ++ closing)
    (rest : closing.fetchRequests = []) : set.fetchesSent = sent := by
  rw [fetchesSent, ← Journal.fetchRequests_requests, sends, Journal.fetchRequests_append, rest, List.append_nil]
  simp [Journal.fetchRequests]

theorem Accounted.fetchesSent_eq (accounted : Accounted options server set sent) : set.fetchesSent = sent := by
  by_cases closed : set.state = .closed
  · exact fetchesSent_of_requests _ (accounted.onceClosed closed) rfl
  · have sends := accounted.whileOpen closed
    rw [← List.append_nil (List.replicate _ _)] at sends
    exact fetchesSent_of_requests _ sends rfl

theorem fetchesSent_of_kept (kept : KeptByReading set next) : next.fetchesSent = set.fetchesSent := by
  rw [fetchesSent, ← Journal.fetchRequests_requests, kept.requests, Journal.fetchRequests_requests, fetchesSent]

theorem Search.fetchesSent {replies : List FetchReply} {asked : Nat} {outcome : Except Error Bool × ResultSet}
    (search : Search set replies asked outcome) : outcome.2.fetchesSent = set.fetchesSent + asked := by
  rw [ResultSet.fetchesSent, ← Journal.fetchRequests_requests, search.requests, Journal.fetchRequests_append,
    Journal.fetchRequests_requests, List.length_append]
  simp [ResultSet.fetchesSent, Journal.fetchRequests]

theorem Accounted.of_kept {next : ResultSet} (accounted : Accounted options server set sent)
    (openSet : set.state ≠ .closed) (kept : KeptByReading set next) (stillOpen : next.state ≠ .closed) :
    Accounted options server next sent where
  sameOptions := kept.options.trans accounted.sameOptions
  whileOpen := fun _ => kept.requests.trans (accounted.whileOpen openSet)
  onceClosed := fun closed => absurd closed stillOpen
  held := fun _ => kept.server.trans (accounted.held openSet)
  going := accounted.going
  ended := by
    rw [kept.exhausted]
    exact accounted.ended

theorem Accounted.going_of_search {asked : Nat} {outcome : Except Error Bool × ResultSet}
    (accounted : Accounted options server set sent) (more : set.exhausted = false)
    (search : Search set.waiting (server.fetchReplies.drop sent) asked outcome) {request : Nat}
    (early : request + 1 < sent + asked) : (replyTo server.fetchReplies request).endsData = false := by
  rcases Nat.lt_or_ge request sent with before | since
  · exact accounted.ended more request before
  · obtain ⟨later, rfl⟩ := Nat.exists_eq_add_of_le since
    obtain ⟨page, brought, _⟩ := @Search.brought_no_row _ _ _ _ search later (by omega)
    rw [replyTo_drop] at brought
    exact FetchReply.endsData_of_page? brought

theorem Accounted.of_search {asked : Nat} {outcome : Except Error Bool × ResultSet}
    (accounted : Accounted options server set sent) (openSet : set.state ≠ .closed) (more : set.exhausted = false)
    (search : Search set.waiting (server.fetchReplies.drop sent) asked outcome)
    (stillOpen : outcome.2.state ≠ .closed) : Accounted options server outcome.2 (sent + asked) where
  sameOptions := search.options.trans accounted.sameOptions
  whileOpen := by
    intro _
    calc outcome.2.journal.requests
        = set.journal.requests ++ List.replicate asked
            (.fetch ⟨set.options.sessionId, set.options.statement, set.options.fetchSize, set.options.queryId, true⟩) :=
          search.requests
      _ = List.replicate (sent + asked)
            (.fetch ⟨options.sessionId, options.statement, options.fetchSize, options.queryId, true⟩) := by
        rw [accounted.whileOpen openSet, accounted.sameOptions, List.replicate_append_replicate]
  onceClosed := fun closed => absurd closed stillOpen
  held := by
    intro _
    rw [search.server]
    change set.server.map _ = _
    rw [accounted.held openSet, Option.map_some, List.drop_drop]
  going := fun _ early => accounted.going_of_search more search early
  ended := by
    intro going request before
    rcases Nat.lt_or_eq_of_le (Nat.succ_le_of_lt before) with early | last
    · exact accounted.going_of_search more search early
    · have asks := search.asked_pos
      rwa [search.exhausted more, replyTo_drop, show sent + (asked - 1) = request by omega] at going

theorem not_closed_of_rowRead {outcome : Except Error Bool × ResultSet} (read : RowRead set outcome) :
    outcome.2.state ≠ .closed := by
  cases read with
  | decoded => rintro ⟨⟩
  | stopped => rintro ⟨⟩

theorem Search.not_closed {replies : List FetchReply} {asked : Nat} {outcome : Except Error Bool × ResultSet}
    (search : Search set replies asked outcome) (openSet : set.state ≠ .closed) : outcome.2.state ≠ .closed := by
  induction search with
  | stopped => exact openSet
  | read => exact not_closed_of_rowRead (readRow_rowRead _)
  | skipped _ _ _ _ _ _ _ _ _ _ _ ih => exact ih openSet
  | _ => rintro ⟨⟩

structure Continues (options : Options) (server : Server) (set next : ResultSet) (sent more : Nat)
    (call : Call) : Prop where
  accounted : Accounted options server next (sent + more)
  first : 0 < more → call = .advance ∧ set.page.hasRow = false
  again : ∀ request, request + 1 < more →
    ∃ page, (replyTo server.fetchReplies (sent + request)).page? set.schema.slotCount = some page ∧ page.time = []

theorem Continues.of_quiet {next : ResultSet} {call : Call} (accounted : Accounted options server next sent) :
    Continues options server set next sent 0 call where
  accounted := accounted
  first := fun none => absurd none (Nat.lt_irrefl 0)
  again := fun _ none => absurd none (Nat.not_lt_zero _)

theorem continues_advance (accounted : Accounted options server set sent) :
    ∃ more, Continues options server set set.advance.2 sent more .advance := by
  have advanced := advance_advanced set
  generalize set.advance = outcome at advanced ⊢
  cases advanced with
  | unusable e stop => exact ⟨0, .of_quiet accounted⟩
  | read usable row =>
    have read := readRow_rowRead set
    have openSet := ((usable_eq_ok_iff set).mp usable).1
    exact ⟨0, .of_quiet (accounted.of_kept openSet (kept_of_rowRead read) (not_closed_of_rowRead read))⟩
  | ended usable row last =>
    have openSet := ((usable_eq_ok_iff set).mp usable).1
    exact ⟨0, .of_quiet (accounted.of_kept openSet ⟨rfl, rfl, rfl, rfl, rfl⟩ (by rintro ⟨⟩))⟩
  | unserved usable row more released =>
    have openSet := ((usable_eq_ok_iff set).mp usable).1
    rw [accounted.held openSet] at released
    cases released
  | sought held usable row more isServer =>
    have openSet := ((usable_eq_ok_iff set).mp usable).1
    have same := (accounted.held openSet).symm.trans isServer
    cases same
    obtain ⟨asked, search⟩ := seek_search set.waiting (server.fetchReplies.drop sent)
    refine ⟨asked, accounted.of_search openSet more search (search.not_closed (by rintro ⟨⟩)), ?_, ?_⟩
    · exact fun _ => ⟨rfl, row⟩
    · intro request again
      rw [← replyTo_drop]
      exact search.brought_no_row again

inductive Answered (set : ResultSet) : (accepted : Bool) → Except Error Unit × ResultSet → Prop where
  | done : Answered set true (.ok (),
      (set.released.note [.close ⟨set.options.sessionId, set.options.queryId⟩]).report
        [.closed set.options.sessionId set.options.queryId])
  | failed (e : Error) :
      Answered set false (.error e, set.released.note [.close ⟨set.options.sessionId, set.options.queryId⟩])

theorem close_answered {held : Server} (openSet : set.state ≠ .closed) (isServer : set.server = some held) :
    Answered set held.closeReply.accepts set.close := by
  unfold close
  rw [if_neg openSet, isServer]
  dsimp only
  cases held.closeReply with
  | lost fault => exact .failed _
  | answered status =>
    dsimp only
    cases verified : status.verify with
    | error e =>
      rw [CloseReply.accepts, Status.refused_of_verify verified]
      exact .failed e
    | ok _ =>
      rw [CloseReply.accepts, Status.isSuccess_of_verify verified]
      exact .done

theorem requests_close_of_held {held : Server} (openSet : set.state ≠ .closed) (isServer : set.server = some held) :
    set.close.2.journal.requests =
      set.journal.requests ++ [.close ⟨set.options.sessionId, set.options.queryId⟩] := by
  have answered := close_answered openSet isServer
  generalize set.close = outcome, held.closeReply.accepts = accepted at answered ⊢
  cases answered with
  | done => exact (requests_report _ _).trans (Journal.requests_append _ _)
  | failed e => exact Journal.requests_append _ _

theorem accounted_close (accounted : Accounted options server set sent) :
    Accounted options server set.close.2 sent := by
  by_cases closed : set.state = .closed
  · rw [close_of_closed closed]
    exact accounted
  · have requests := requests_close_of_held closed (accounted.held closed)
    obtain ⟨entries, next⟩ := close_eq_released closed
    rw [accounted.whileOpen closed, accounted.sameOptions] at requests
    exact
      { sameOptions := by rw [next]; exact accounted.sameOptions
        whileOpen := fun stillOpen => absurd (close_closed set) stillOpen
        onceClosed := fun _ => requests
        held := fun stillOpen => absurd (close_closed set) stillOpen
        going := accounted.going
        ended := by rw [next]; exact accounted.ended }

theorem continues_perform (accounted : Accounted options server set sent) (call : Call) :
    ∃ more, Continues options server set (set.perform call).2 sent more call := by
  cases call with
  | advance => exact continues_advance accounted
  | setPage page =>
    refine ⟨0, .of_quiet ?_⟩
    have pageSet := setPage_pageSet set page
    change Accounted options server (set.setPage page).2 sent
    generalize set.setPage page = outcome at pageSet ⊢
    cases pageSet with
    | unusable e stop => exact accounted
    | unfit e usable unfit => exact accounted
    | installed reader usable accepted =>
      have openSet := ((usable_eq_ok_iff set).mp usable).1
      exact accounted.of_kept openSet ⟨rfl, rfl, rfl, rfl, requests_report _ _⟩
        (state_replaced_ne openSet (by decide) page reader)
  | close => exact ⟨0, .of_quiet (accounted_close accounted)⟩
  | read reading selector => exact ⟨0, .of_quiet accounted⟩
  | currentRow => exact ⟨0, .of_quiet accounted⟩

theorem accounted_run (accounted : Accounted options server set sent) (calls : List Call) :
    ∃ more, Accounted options server (set.run calls) (sent + more) := by
  induction calls generalizing set sent with
  | nil => exact ⟨0, accounted⟩
  | cons call rest ih =>
    obtain ⟨more, continues⟩ := continues_perform accounted call
    obtain ⟨later, accounted⟩ := ih continues.accounted
    exact ⟨more + later, Nat.add_assoc sent more later ▸ accounted⟩

theorem Accounted.asksWithoutRow (accounted : Accounted options server set sent) (call : Call) :
    AsksWithoutRow server.fetchReplies set call := by
  obtain ⟨more, continues⟩ := continues_perform accounted call
  have before := accounted.fetchesSent_eq
  have after := continues.accounted.fetchesSent_eq
  constructor
  · intro asks
    exact continues.first (by omega)
  · intro request since again
    obtain ⟨later, rfl⟩ := Nat.exists_eq_add_of_le since
    rw [before]
    exact continues.again later (by omega)

theorem accounted_create {schema : Schema} {initial : Option Page}
    (created : create options schema server initial = .ok set) : Accounted options server set 0 := by
  have fresh : Accounted options server (opened options schema server) 0 :=
    { sameOptions := rfl
      whileOpen := fun _ => rfl
      onceClosed := by rintro ⟨⟩
      held := fun _ => rfl
      going := fun _ none => absurd none (Nat.not_lt_zero _)
      ended := fun _ _ none => absurd none (Nat.not_lt_zero _) }
  cases create_created created with
  | withoutPage => exact fresh
  | onPage page reader accepted =>
    exact fresh.of_kept (by rintro ⟨⟩) ⟨rfl, rfl, rfl, rfl, requests_report _ _⟩ (by rintro ⟨⟩)

theorem requests_drop (accounted : Accounted options server set sent) :
    set.drop.journal.requests =
      List.replicate sent (.fetch ⟨options.sessionId, options.statement, options.fetchSize, options.queryId, true⟩) ++
        [.close ⟨options.sessionId, options.queryId⟩] := by
  unfold drop
  split
  · rename_i closed
    exact accounted.onceClosed closed
  · have requests := (accounted_close accounted).onceClosed (close_closed set)
    split
    · rename_i done
      rw [done] at requests
      exact requests
    · rename_i done
      rw [done] at requests
      exact (requests_report _ _).trans requests

theorem run_of_closed (closed : set.state = .closed) (calls : List Call) : set.run calls = set := by
  apply run_keeps (P := fun next => next = set) _ rfl calls
  rintro next call rfl
  have stop := unusable_of_closed closed
  cases call with
  | advance => exact congrArg Prod.snd (advance_of_unusable stop)
  | setPage page => exact congrArg Prod.snd (setPage_of_unusable stop page)
  | close => exact congrArg Prod.snd (close_of_closed closed)
  | read reading selector => rfl
  | currentRow => rfl

theorem fetchesSent_close (set : ResultSet) : set.close.2.fetchesSent = set.fetchesSent := by
  by_cases closed : set.state = .closed
  · rw [close_of_closed closed]
  · cases isServer : set.server with
    | none =>
      unfold close
      rw [if_neg closed, isServer]
      rfl
    | some held =>
      rw [fetchesSent, ← Journal.fetchRequests_requests, requests_close_of_held closed isServer,
        Journal.fetchRequests_append, Journal.fetchRequests_requests, List.length_append]
      rfl

theorem fetchesSent_run_of_unusable {e : Error} (stop : set.usable = .error e) (calls : List Call) :
    (set.run calls).fetchesSent = set.fetchesSent := by
  refine (run_keeps (P := fun next => (∃ e, next.usable = .error e) ∧ next.fetchesSent = set.fetchesSent)
    ?_ ⟨⟨e, stop⟩, rfl⟩ calls).2
  rintro next call ⟨⟨e, stop⟩, same⟩
  refine ⟨unusable_perform ⟨e, stop⟩ call, ?_⟩
  cases call with
  | advance => rw [perform, advance_of_unusable stop, same]
  | setPage page => rw [perform, setPage_of_unusable stop, same]
  | close => exact (fetchesSent_close next).trans same
  | read reading selector => exact same
  | currentRow => exact same

theorem usable_readRow_of_undecodable {e : Error}
    (undecodable : (set.row.materialize set.schema.columns set.page).1 = .error e) :
    set.readRow.2.usable = .error (.stopped e.message) := by
  rw [readRow]
  cases result : set.row.materialize set.schema.columns set.page with
  | mk outcome inHand =>
    rw [result] at undecodable
    cases undecodable
    rfl

/-- A lifetime of calls on a set that is dropped after them, as far as the server can tell. -/
structure Lifetime (options : Options) (server : Server) (set : ResultSet) (calls : List Call) (sent : Nat) :
    Prop where
  requests : (set.run calls).drop.journal.requests =
    List.replicate sent (.fetch
      { sessionId := options.sessionId
        statement := options.statement
        fetchSize := options.fetchSize
        queryId := options.queryId
        aligned := true }) ++
    [.close { sessionId := options.sessionId, queryId := options.queryId }]
  replies : ∀ before after, calls = before ++ after → (set.run before).state ≠ .closed →
    (set.run before).server =
      some { server with fetchReplies := server.fetchReplies.drop (set.run before).fetchesSent }
  withoutRow : ∀ before call after, calls = before ++ call :: after →
    AsksWithoutRow server.fetchReplies (set.run before) call
  /-- Only the last request for a page can be told that no more data follows. -/
  ended : ∀ request, request + 1 < sent → (replyTo server.fetchReplies request).endsData = false
  /-- The call for a row that cannot be decoded sends the last request for a page, if it sends any. -/
  undecodable : ∀ before after (reader : ResultSet) (e : Error), calls = before ++ .advance :: after →
    (set.run before).advance = reader.readRow →
      (reader.row.materialize reader.schema.columns reader.page).1 = .error e →
        (set.run (before ++ [.advance])).fetchesSent = sent
  /-- Nothing happens to a set after it has been closed, and so nothing is sent. -/
  closed : ∀ before after, calls = before ++ .close :: after →
    (set.run calls).drop = set.run (before ++ [.close])

/-- What a set asks of the server over its lifetime: a run of requests for pages, all alike and each sent
without a row in hand, of which none follows the end of the data, a row that cannot be decoded, or closing;
and then one request to close, the last of all, whether the set is closed by a call or by being dropped. -/
theorem lifetime_of_create {schema : Schema} {initial : Option Page}
    (created : create options schema server initial = .ok set) (calls : List Call) :
    ∃ sent, Lifetime options server set calls sent := by
  have opened := accounted_create created
  have reached : ∀ calls, ∃ sent, Accounted options server (set.run calls) sent := by
    intro calls
    obtain ⟨sent, accounted⟩ := accounted_run opened calls
    exact ⟨0 + sent, accounted⟩
  obtain ⟨sent, accounted⟩ := reached calls
  refine ⟨sent, requests_drop accounted, ?_, ?_, accounted.going, ?_, ?_⟩
  · intro before after _ openSet
    obtain ⟨earlier, soFar⟩ := reached before
    rw [soFar.fetchesSent_eq]
    exact soFar.held openSet
  · intro before call after _
    obtain ⟨earlier, soFar⟩ := reached before
    exact soFar.asksWithoutRow call
  · intro before after reader e split reads undecodable
    have stop := usable_readRow_of_undecodable undecodable
    have here : set.run (before ++ [.advance]) = reader.readRow.2 := by
      rw [run_append, ← reads]
      rfl
    -- stopped at this row, the set sends nothing in the calls that are left
    have whole : set.run calls = (set.run (before ++ [.advance])).run after := by
      rw [split, ← run_append, List.append_assoc]
      rfl
    rw [← here] at stop
    rw [← accounted.fetchesSent_eq, whole, fetchesSent_run_of_unusable stop]
  · intro before after split
    have here : set.run (before ++ [.close]) = (set.run before).close.2 := by
      rw [run_append]
      rfl
    have closed : (set.run (before ++ [.close])).state = .closed := by
      rw [here]
      exact close_closed _
    have whole : set.run calls = set.run (before ++ [.close]) := by
      rw [split, ← List.singleton_append, ← List.append_assoc, run_append, run_of_closed closed]
    rw [whole, drop, if_pos closed]

/-- A lost request, a page without rows and the end of the data; a page set after it; a close that fails. -/
theorem lifetime_of_create_of_page_after_end :
    ∃ set, create oneColumn ⟨["Time", "s1"], [⟨"s1", .int32⟩], true⟩
        ⟨[.lost (.timeout 5), .answered (.ofPage ⟨[], [[]], [[]]⟩), .answered .exhausted],
          [.lost (.disconnected "gone")]⟩ none = .ok set ∧
      ∃ sent, Lifetime oneColumn
        ⟨[.lost (.timeout 5), .answered (.ofPage ⟨[], [[]], [[]]⟩), .answered .exhausted],
          [.lost (.disconnected "gone")]⟩ set
        [.advance, .advance, .setPage ⟨[0, 0, 0, 0, 0, 0, 0, 1], [[0x80]], [[0, 0, 0, 7]]⟩, .advance, .advance,
          .close, .close] sent :=
  ⟨_, rfl, @lifetime_of_create _ _ _ ⟨["Time", "s1"], [⟨"s1", .int32⟩], true⟩ none rfl _⟩

end ResultSet

end SeriesCursor
