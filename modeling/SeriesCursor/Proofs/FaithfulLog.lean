import SeriesCursor.Proofs.Exchanges
import SeriesCursor.Proofs.PageReplacement

/-!
The journal is a faithful account of a lifetime. Events are reported in several places, some before and some
after a step that can fail; but what a call adds to the journal is told by the replies that it uses up, the
page that it sets, the error at which it stops and the reply to its request to close, and by nothing else. So
every event can be counted by what it stands for. That some come once at most rests on three states that are
never left: the end of the data, the failure and the end of the set.
-/

namespace SeriesCursor

theorem CloseReply.accepts_iff (reply : CloseReply) :
    reply.accepts = true ↔ ∃ status, reply = .answered status ∧ status.code = 200 := by
  cases reply with
  | lost fault => simp [accepts]
  | answered status => simp [accepts, Status.isSuccess, Status.successCode]

theorem Journal.closeRequests_requests (journal : Journal) :
    journal.requests.closeRequests = journal.closeRequests := by
  induction journal with
  | nil => rfl
  | cons entry rest ih =>
    cases entry with
    | fetch request => exact ih
    | close request => exact congrArg (request :: ·) ih
    | event event => exact ih

theorem DecodeFault.reported_once {e : Error} (fault : DecodeFault e) :
    ∃ event, e.events.filter (Event.isAt .error) = [event] := by
  cases fault <;> exact ⟨_, rfl⟩

namespace ResultSet

variable {options : Options} {server : Server} {set next : ResultSet}

def taken (set : ResultSet) (page : Page) : List Page :=
  if (set.setPage page).1.isOk then [page] else []

theorem setPage_told (set : ResultSet) (page : Page) :
    (set.setPage page).2.journal = set.journal ++ (set.taken page).map fun page => .event page.installed := by
  have outcome := setPage_pageSet set page
  rw [taken]
  generalize set.setPage page = outcome at *
  cases outcome with
  | unusable e stop => simp [Except.isOk, Except.toBool]
  | unfit e usable unfit => simp [Except.isOk, Except.toBool]
  | installed reader usable accepted => rfl

theorem Answered.journal {accepted : Bool} {outcome : Except Error Unit × ResultSet}
    (answered : Answered set accepted outcome) :
    outcome.2.journal = set.journal ++
      .close ⟨set.options.sessionId, set.options.queryId⟩ ::
        (if accepted then [set.options.farewell] else []).map .event := by
  cases answered with
  | done => simp [report, note, released, withoutRow, Options.farewell]
  | failed e => rfl

/-- What a call adds to the journal: its exchanges and the error at which it stops, the page that it sets, or its
request to close and that this was done. -/
def told (server : Server) (set : ResultSet) (call : Call) : Journal :=
  match call with
  | .advance =>
    (heardBetween server.fetchReplies set set.advance.2).flatMap
      (FetchReply.exchange set.options set.schema.slotCount) ++ (newComplaint set set.advance.2).map .event
  | .setPage page => (set.taken page).map fun page => .event page.installed
  | .close =>
    if set.state = .closed then []
    else .close ⟨set.options.sessionId, set.options.queryId⟩ ::
      (if server.closeReply.accepts then [set.options.farewell] else []).map .event
  | .read _ _ => []
  | .currentRow => []

theorem journal_perform {sent : Nat} (coherent : Coherent set) (accounted : Accounted options server set sent)
    (call : Call) : (set.perform call).2.journal = set.journal ++ told server set call := by
  cases call with
  | advance =>
    have tells := (tells_advance coherent accounted).2
    rw [told, ← List.append_assoc]
    exact tells.journal
  | setPage page => exact setPage_told set page
  | close =>
    change set.close.2.journal = _
    rw [told]
    by_cases closed : set.state = .closed
    · rw [close_of_closed closed, if_pos closed, List.append_nil]
    · rw [if_neg closed]
      exact (close_answered closed (accounted.held closed)).journal
  | read reading selector => exact (List.append_nil _).symm
  | currentRow => exact (List.append_nil _).symm

theorem closed_perform_iff {sent : Nat} (coherent : Coherent set) (accounted : Accounted options server set sent)
    (call : Call) : (set.perform call).2.state = .closed ↔ set.state = .closed ∨ call = .close := by
  cases call with
  | advance => simpa [perform] using (tells_advance coherent accounted).2.stillOpen
  | setPage page =>
    have outcome := setPage_pageSet set page
    change (set.setPage page).2.state = .closed ↔ _
    generalize set.setPage page = outcome at *
    cases outcome with
    | unusable e stop => simp
    | unfit e usable unfit => simp
    | installed reader usable accepted =>
      have openSet := ((usable_eq_ok_iff set).mp usable).1
      exact iff_of_false (replaced_openSet openSet page reader) (by simp [openSet])
  | close => simp [perform, close_closed]
  | read reading selector => simp [perform]
  | currentRow => simp [perform]

theorem closed_run_iff {sent : Nat} (coherent : Coherent set) (accounted : Accounted options server set sent)
    (calls : List Call) : (set.run calls).state = .closed ↔ set.state = .closed ∨ .close ∈ calls := by
  induction calls generalizing set sent with
  | nil => simp [run]
  | cons call rest ih =>
    obtain ⟨more, continues⟩ := continues_perform accounted call
    rw [run, ih (coherent_perform coherent call) continues.accounted, closed_perform_iff coherent accounted,
      List.mem_cons, or_assoc, eq_comm (a := call)]

def adoptedBy (server : Server) (set : ResultSet) (call : Call) : List Page :=
  match call with
  | .advance =>
    (heardBetween server.fetchReplies set set.advance.2).filterMap (FetchReply.page? set.schema.slotCount)
  | .setPage page => set.taken page
  | .close => []
  | .read _ _ => []
  | .currentRow => []

def adopted (server : Server) : ResultSet → List Call → List Page
  | _, [] => []
  | set, call :: rest => set.adoptedBy server call ++ adopted server (set.perform call).2 rest

/-- The events of a journal, counted by what has become of the set and by the pages that it has adopted. -/
structure Logged (options : Options) (server : Server) (pages : List Page) (set : ResultSet) : Prop where
  fetching : set.journal.reported Event.isFetching = List.replicate set.fetchesSent options.announcement
  installed : set.journal.reported Event.isInstalled = pages.map Page.installed
  noMore : set.journal.reported Event.isNoMore =
    List.replicate set.exhausted.toNat (.noMoreData options.queryId)
  errors : set.journal.reported (Event.isAt .error) = set.complaint.filter (Event.isAt .error)
  infos : set.journal.reported (Event.isAt .info) =
    if set.state = .closed ∧ server.closeReply.accepts = true then [options.farewell] else []
  warnings : set.journal.reported (Event.isAt .warn) = []
  faults : ∀ e, set.failure = some e → DecodeFault e

theorem silent_of_faults (faults : ∀ e, set.failure = some e → DecodeFault e) {kind : Event → Bool}
    (silent : ∀ e, DecodeFault e → e.events.filter kind = []) : set.complaint.filter kind = [] := by
  rw [complaint]
  cases failed : set.failure with
  | none => rfl
  | some e => exact silent e (faults e failed)

theorem Logged.advance {pages : List Page} {sent : Nat} (logged : Logged options server pages set)
    (coherent : Coherent set) (accounted : Accounted options server set sent) :
    Logged options server (pages ++ set.adoptedBy server .advance) set.advance.2 := by
  obtain ⟨more, tells⟩ := tells_advance coherent accounted
  rw [adoptedBy]
  have asks : set.fetchesSent + (heardBetween server.fetchReplies set set.advance.2).length =
      set.advance.2.fetchesSent := by
    simp [heardBetween, more]
  -- from here on the call is what it has told: the replies heard, and what is said of an error
  generalize heardBetween server.fetchReplies set set.advance.2 = replies at tells asks ⊢
  generalize newComplaint set set.advance.2 = stop at tells
  generalize set.advance.2 = next at tells asks ⊢
  have faults : ∀ e, next.failure = some e → DecodeFault e := by
    intro e failed
    rcases tells.faults e failed with before | fault
    · exact logged.faults e before
    · exact fault
  have quiet : ∀ kind, (∀ e, DecodeFault e → e.events.filter kind = []) → stop.filter kind = [] := by
    intro kind silent
    have none := silent_of_faults faults silent
    rw [tells.complaint, List.filter_append, List.append_eq_nil_iff] at none
    exact none.2
  have counted : ∀ kind, next.journal.reported kind = set.journal.reported kind ++
      Journal.reported (replies.flatMap (FetchReply.exchange options set.schema.slotCount)) kind ++
        stop.filter kind := by
    intro kind
    rw [tells.journal, Journal.reported_append, Journal.reported_append, Journal.reported_events, accounted.sameOptions]
  exact
    { fetching := by
        have silent := quiet Event.isFetching (by rintro _ ⟨⟩ <;> rfl)
        simp [counted, logged.fetching, silent, List.replicate_append_replicate, asks]
      installed := by
        have silent := quiet Event.isInstalled (by rintro _ ⟨⟩ <;> rfl)
        simp [counted, logged.installed, silent]
      noMore := by
        have silent := quiet Event.isNoMore (by rintro _ ⟨⟩ <;> rfl)
        simp [counted, logged.noMore, silent, List.replicate_append_replicate, Nat.add_comm, ← tells.ended]
      errors := by
        have none := severe_exchanges options set.schema.slotCount replies (show Severity.error ≠ .debug by decide)
        simp [counted, none, logged.errors, tells.complaint]
      infos := by
        have none := severe_exchanges options set.schema.slotCount replies (show Severity.info ≠ .debug by decide)
        have silent := quiet (Event.isAt .info) (by rintro _ ⟨⟩ <;> rfl)
        simp [counted, none, logged.infos, silent, tells.stillOpen]
      warnings := by
        have none := severe_exchanges options set.schema.slotCount replies (show Severity.warn ≠ .debug by decide)
        have silent := quiet (Event.isAt .warn) (by rintro _ ⟨⟩ <;> rfl)
        simp [counted, none, logged.warnings, silent]
      faults := faults }

theorem Logged.install {pages : List Page} (logged : Logged options server pages set) (page : Page)
    (reader : PageReader) : Logged options server (pages ++ [page]) (set.install page reader) := by
  have counted : ∀ kind, (set.install page reader).journal.reported kind =
      set.journal.reported kind ++ [page.installed].filter kind := by
    intro kind
    rw [← Journal.reported_events]
    exact Journal.reported_append _ _ _
  have sends : (set.install page reader).fetchesSent = set.fetchesSent :=
    congrArg List.length (fetchRequests_install set page reader)
  exact
    { fetching := by
        rw [counted, logged.fetching, sends]
        exact List.append_nil _
      installed := by
        rw [counted, logged.installed, List.map_append]
        rfl
      noMore := by
        rw [counted, logged.noMore]
        exact List.append_nil _
      errors := by
        rw [counted, logged.errors]
        exact List.append_nil _
      infos := by
        rw [counted, logged.infos]
        exact List.append_nil _
      warnings := by
        rw [counted, logged.warnings]
        rfl
      faults := logged.faults }

theorem Logged.close {pages : List Page} {sent : Nat} (logged : Logged options server pages set)
    (accounted : Accounted options server set sent) : Logged options server pages set.close.2 := by
  by_cases closed : set.state = .closed
  · rw [close_of_closed closed]
    exact logged
  · have answered := close_answered closed (accounted.held closed)
    have sends := fetchesSent_close set
    have ends : set.close.2.state = .closed := close_closed set
    obtain ⟨entries, next⟩ := close_eq_released closed
    have exhausted : set.close.2.exhausted = set.exhausted := by rw [next]; rfl
    have failure : set.close.2.failure = set.failure := by rw [next]; rfl
    have complaint : set.close.2.complaint = set.complaint := by rw [ResultSet.complaint, failure]; rfl
    have farewell : ∀ kind, set.close.2.journal.reported kind = set.journal.reported kind ++
        (if server.closeReply.accepts then [options.farewell] else []).filter kind := by
      intro kind
      rw [answered.journal, ← List.singleton_append, Journal.reported_append, Journal.reported_append,
        Journal.reported_events, accounted.sameOptions]
      rfl
    have silent : ∀ kind, kind options.farewell = false →
        set.close.2.journal.reported kind = set.journal.reported kind := by
      intro kind quiet
      rw [farewell]
      cases server.closeReply.accepts <;> simp [quiet]
    exact
      { fetching := by rw [silent _ rfl, logged.fetching, sends]
        installed := by rw [silent _ rfl, logged.installed]
        noMore := by rw [silent _ rfl, logged.noMore, exhausted]
        errors := by rw [silent _ rfl, logged.errors, complaint]
        infos := by
          rw [farewell, logged.infos, if_neg fun both => closed both.1]
          simp only [ends, true_and]
          cases server.closeReply.accepts <;> rfl
        warnings := by rw [silent _ rfl, logged.warnings]
        faults := by
          rw [failure]
          exact logged.faults }

theorem Logged.perform {pages : List Page} {sent : Nat} (logged : Logged options server pages set)
    (coherent : Coherent set) (accounted : Accounted options server set sent) (call : Call) :
    Logged options server (pages ++ set.adoptedBy server call) (set.perform call).2 := by
  cases call with
  | advance => exact logged.advance coherent accounted
  | setPage page =>
    have outcome := setPage_pageSet set page
    rw [adoptedBy, taken]
    change Logged options server _ (set.setPage page).2
    generalize set.setPage page = outcome at *
    cases outcome with
    | unusable e stop => exact (List.append_nil pages).symm ▸ logged
    | unfit e usable unfit => exact (List.append_nil pages).symm ▸ logged
    | installed reader usable accepted =>
      have openSet := ((usable_eq_ok_iff set).mp usable).1
      have stillOpen := replaced_openSet openSet page reader
      have installed := logged.install page reader
      have none : (set.install page reader).journal.reported (Event.isAt .info) = [] := by
        rw [installed.infos]
        exact if_neg fun both => openSet both.1
      exact { installed with infos := none.trans (if_neg fun both => stillOpen both.1).symm }
  | close => exact (List.append_nil pages).symm ▸ logged.close accounted
  | read reading selector => exact (List.append_nil pages).symm ▸ logged
  | currentRow => exact (List.append_nil pages).symm ▸ logged

theorem Logged.run {pages : List Page} {sent : Nat} (logged : Logged options server pages set)
    (coherent : Coherent set) (accounted : Accounted options server set sent) (calls : List Call) :
    Logged options server (pages ++ adopted server set calls) (set.run calls) := by
  induction calls generalizing set sent pages with
  | nil => exact (List.append_nil pages).symm ▸ logged
  | cons call rest ih =>
    obtain ⟨more, continues⟩ := continues_perform accounted call
    rw [adopted, ← List.append_assoc]
    exact ih (logged.perform coherent accounted call) (coherent_perform coherent call) continues.accounted

theorem logged_create {schema : Schema} {initial : Option Page}
    (created : create options schema server initial = .ok set) :
    Logged options server initial.toList set ∧
      set.journal = initial.toList.map fun page => .event page.installed := by
  have fresh : Logged options server [] (opened options schema server) :=
    ⟨rfl, rfl, rfl, rfl, rfl, rfl, by rintro _ ⟨⟩⟩
  cases create_created created with
  | withoutPage => exact ⟨fresh, rfl⟩
  | onPage page reader accepted => exact ⟨fresh.install page reader, rfl⟩

def lastWord (options : Options) (accepted : Bool) (e : Error) : Event :=
  if accepted then options.farewell else .closeOnDropFailed options.queryId e

theorem journal_drop_of_closed (closed : set.state = .closed) : set.drop.journal = set.journal := by
  rw [drop, if_pos closed]

theorem journal_drop_of_open {sent : Nat} (accounted : Accounted options server set sent)
    (openSet : set.state ≠ .closed) :
    ∃ e, set.drop.journal = set.journal ++
      [.close ⟨options.sessionId, options.queryId⟩, .event (lastWord options server.closeReply.accepts e)] := by
  have answered := close_answered openSet (accounted.held openSet)
  change Answered set server.closeReply.accepts set.close at answered
  rw [drop, if_neg openSet, ← accounted.sameOptions]
  generalize set.close = outcome at answered ⊢
  generalize server.closeReply.accepts = accepted at answered ⊢
  cases answered with
  | done => exact ⟨.closed, by simp [report, note, released, withoutRow, lastWord, Options.farewell]⟩
  | failed e => exact ⟨e, by simp [report, note, released, withoutRow, lastWord]⟩

theorem reported_drop {sent : Nat} (accounted : Accounted options server set sent) :
    ∃ e, ∀ kind, set.drop.journal.reported kind = set.journal.reported kind ++
      if set.state = .closed then [] else [lastWord options server.closeReply.accepts e].filter kind := by
  by_cases closed : set.state = .closed
  · simp only [journal_drop_of_closed closed, if_pos closed, List.append_nil]
    exact ⟨.closed, fun _ => trivial⟩
  · obtain ⟨e, ends⟩ := journal_drop_of_open accounted closed
    simp only [ends, if_neg closed, Journal.reported_append]
    exact ⟨e, fun _ => rfl⟩

theorem exhausted_run_iff (calls : List Call) :
    (set.run calls).exhausted = true ↔ ∃ earlier, earlier <+: calls ∧ (set.run earlier).exhausted = true := by
  constructor
  · exact fun ended => ⟨calls, List.prefix_rfl, ended⟩
  · rintro ⟨earlier, ⟨later, rfl⟩, ended⟩
    rw [run_append]
    exact run_keeps (P := fun next => next.exhausted = true)
      (fun _ call ended => (exhausted_perform ended call).1) ended later

def OnceIf (condition : Prop) (said : List Event) (event : Event) : Prop :=
  condition ∧ said = [event] ∨ ¬condition ∧ said = []

/-- The log of a lifetime: of a set from when it is built, through a list of calls, until it is let go. -/
structure FaithfulLog (options : Options) (server : Server) (initial : Option Page) (set : ResultSet)
    (calls : List Call) (log : Journal) : Prop where
  opening : set.journal = initial.toList.map fun page => .event page.installed
  account : ∀ before call after, calls = before ++ call :: after →
    (set.run (before ++ [call])).journal = (set.run before).journal ++ told server (set.run before) call
  ending : ∃ e, log = (set.run calls).journal ++
    if .close ∈ calls then []
    else [.close ⟨options.sessionId, options.queryId⟩, .event (lastWord options server.closeReply.accepts e)]
  closes : log.closeRequests = [⟨options.sessionId, options.queryId⟩]
  fetching : log.reported (Event.hasText "Fetching next result page") =
    List.replicate log.fetchRequests.length options.announcement
  installed : log.reported (Event.hasText "Installing result page") =
    (initial.toList ++ adopted server set calls).map Page.installed
  noMore : OnceIf (∃ earlier, earlier <+: calls ∧ (set.run earlier).exhausted = true)
    (log.reported (Event.hasText "Server reported no more data")) (.noMoreData options.queryId)
  errors : ∃ event, OnceIf (∃ earlier, earlier <+: calls ∧ (set.run earlier).state = .failed)
    (log.reported (Event.isAt .error)) event
  infos : OnceIf (∃ status, server.closeReply = .answered status ∧ status.code = 200)
    (log.reported (Event.isAt .info)) options.farewell
  warnings : ∃ e, OnceIf (Call.close ∉ calls ∧ ¬∃ status, server.closeReply = .answered status ∧ status.code = 200)
    (log.reported (Event.isAt .warn)) (.closeOnDropFailed options.queryId e)
  notBoth : log.reported (Event.isAt .info) = [] ∨ log.reported (Event.isAt .warn) = []

section

variable {pages : List Page} {sent : Nat} (logged : Logged options server pages set)
  (accounted : Accounted options server set sent)

include logged

theorem Logged.noMore_once : OnceIf (set.exhausted = true) (set.journal.reported Event.isNoMore)
    (.noMoreData options.queryId) := by
  rw [logged.noMore]
  cases set.exhausted with
  | true => exact .inl ⟨rfl, rfl⟩
  | false => exact .inr ⟨by rintro ⟨⟩, rfl⟩

theorem Logged.errors_once :
    ∃ event, OnceIf (set.failure.isSome = true) (set.journal.reported (Event.isAt .error)) event := by
  rw [logged.errors, complaint]
  cases failed : set.failure with
  | none => exact ⟨.failed .closed, .inr ⟨by rintro ⟨⟩, rfl⟩⟩
  | some e =>
    obtain ⟨event, once⟩ := DecodeFault.reported_once (logged.faults e failed)
    exact ⟨event, .inl ⟨rfl, once⟩⟩

include accounted

theorem Logged.drop :
    (∀ kind, kind options.farewell = false → (∀ e, kind (.closeOnDropFailed options.queryId e) = false) →
      set.drop.journal.reported kind = set.journal.reported kind) ∧
    OnceIf (server.closeReply.accepts = true) (set.drop.journal.reported (Event.isAt .info)) options.farewell ∧
    ∃ e, OnceIf (set.state ≠ .closed ∧ ¬server.closeReply.accepts = true)
      (set.drop.journal.reported (Event.isAt .warn)) (.closeOnDropFailed options.queryId e) := by
  obtain ⟨e, dropped⟩ := reported_drop accounted
  refine ⟨?_, ?_, e, ?_⟩
  · intro kind first second
    rw [dropped, lastWord]
    split
    · exact List.append_nil _
    · cases server.closeReply.accepts <;> simp [first, second]
  · rw [dropped, logged.infos, lastWord]
    by_cases closed : set.state = .closed <;> cases server.closeReply.accepts <;>
      simp [OnceIf, closed, Event.isAt, Event.severity, Options.farewell]
  · rw [dropped, logged.warnings, lastWord]
    by_cases closed : set.state = .closed <;> cases server.closeReply.accepts <;>
      simp [OnceIf, closed, Event.isAt, Event.severity, Options.farewell]

end

/-- The log of every lifetime is faithful, whatever the calls and whatever the server replies. -/
theorem faithfulLog_of_ofRaw {names types : List String} {index : Option SlotIndex} {initial : Option Page}
    (built : ofRaw options names types index server initial = .ok set) (calls : List Call) :
    FaithfulLog options server initial set calls (set.run calls).drop.journal := by
  obtain ⟨schema, _, created⟩ := create_of_ofRaw built
  obtain ⟨coherent, intact⟩ := coherent_create created
  have accounted := accounted_create created
  obtain ⟨fresh, opening⟩ := logged_create created
  have openSet : set.state ≠ .closed := by cases create_created created <;> rintro ⟨⟩
  have closed_iff : (set.run calls).state = .closed ↔ .close ∈ calls := by
    rw [closed_run_iff coherent accounted, or_iff_right openSet]
  obtain ⟨sent, last⟩ := accounted_run accounted calls
  have logged := fresh.run coherent accounted calls
  obtain ⟨silent, infos, e, warnings⟩ := logged.drop last
  rw [CloseReply.accepts_iff] at infos warnings
  rw [ne_eq, closed_iff] at warnings
  have sends : (set.run calls).drop.fetchesSent = (set.run calls).fetchesSent := by
    rw [last.fetchesSent_eq]
    exact fetchesSent_of_requests _ (requests_drop last) rfl
  refine
    { opening := opening
      account := ?account
      ending := ?ending
      closes := ?closes
      fetching := by rw [Event.hasText_fetching, silent _ rfl fun _ => rfl, logged.fetching, ← sends]; rfl
      installed := by rw [Event.hasText_installed, silent _ rfl fun _ => rfl, logged.installed]
      noMore := by
        rw [Event.hasText_noMore, silent _ rfl fun _ => rfl, ← exhausted_run_iff]
        exact logged.noMore_once
      errors := ?errors
      infos := infos
      warnings := ⟨e, warnings⟩
      notBoth := ?notBoth }
  case account =>
    intro before call after _
    obtain ⟨earlier, soFar⟩ := accounted_run accounted before
    rw [run_append]
    exact journal_perform (coherent_run coherent before) soFar call
  case ending =>
    by_cases closed : .close ∈ calls
    · exact ⟨.closed, by rw [journal_drop_of_closed (closed_iff.mpr closed), if_pos closed, List.append_nil]⟩
    · simp only [if_neg closed]
      exact journal_drop_of_open last fun ends => closed (closed_iff.mp ends)
  case closes =>
    rw [← Journal.closeRequests_requests, requests_drop last, Journal.closeRequests_append]
    simp [Journal.closeRequests]
  case errors =>
    rw [silent _ rfl fun _ => rfl]
    have entered := isSome_failure_run coherent calls
    simp only [intact, Option.isSome_none, Bool.false_eq_true, false_or] at entered
    rw [← entered]
    exact logged.errors_once
  case notBoth =>
    rcases infos with ⟨accepted, _⟩ | ⟨_, none⟩
    · rcases warnings with ⟨⟨_, refused⟩, _⟩ | ⟨_, none⟩
      · exact absurd accepted refused
      · exact .inr none
    · exact .inl none

def lostThenBroken : Server :=
  ⟨[.lost (.timeout 5), .answered (.ofPage ⟨[], [[]], [[]]⟩),
    .answered (.ofPage ⟨[0, 0, 0, 0, 0, 0, 0, 2], [[0x80]], [[0, 0]]⟩)], [.lost (.disconnected "gone")]⟩

def neverClosed : List Call :=
  [.setPage ⟨[0], [], []⟩, .advance, .setPage ⟨[0, 0, 0, 0, 0, 0, 0, 1], [[0x80]], [[0, 0, 0, 7]]⟩, .advance,
    .advance, .advance]

/-- A page that is refused and one that is set; a request that is lost, a page without rows and one that breaks
off; and a set that nobody closes, on a server that is gone. -/
theorem faithfulLog_of_ofRaw_of_broken_page :
    ∃ set, ofRaw oneColumn ["s1"] ["INT32"] none lostThenBroken (some ⟨[], [[]], [[]]⟩) = .ok set ∧
      (set.run neverClosed).state = .failed ∧
      FaithfulLog oneColumn lostThenBroken (some ⟨[], [[]], [[]]⟩) set neverClosed
        (set.run neverClosed).drop.journal :=
  ⟨_, rfl, rfl, @faithfulLog_of_ofRaw oneColumn lostThenBroken _ ["s1"] ["INT32"] none
    (some ⟨[], [[]], [[]]⟩) rfl neverClosed⟩

end ResultSet

end SeriesCursor
