import Mathlib.Data.List.Basic
import SeriesCursor.Proofs.InBounds
import SeriesCursor.Proofs.Requests

/-!
What the journal says of the replies. A request for a page is announced before it is sent, and only then its
reply is looked at: it brings a page, ends the data, or does neither. What a call for the next row adds to the
journal is one such exchange for every reply that it uses up, and at most the error at which it stops.
-/

namespace SeriesCursor

namespace Event

def isFetching : Event → Bool
  | .fetching _ _ _ => true
  | _ => false

def isInstalled : Event → Bool
  | .pageInstalled _ _ => true
  | _ => false

def isNoMore : Event → Bool
  | .noMoreData _ => true
  | _ => false

def isAt (severity : Severity) (event : Event) : Bool :=
  event.severity == severity

def hasText (text : String) (event : Event) : Bool :=
  event.message == text

-- No other event has the text of one of these three, whatever it is about: the texts differ at an early letter.

theorem hasText_fetching : hasText "Fetching next result page" = isFetching := by
  funext event
  cases event with
  | fetching sessionId queryId fetchSize => exact beq_self_eq_true _
  | connectionFailed purpose => cases purpose <;> rfl
  | _ => rfl

theorem hasText_installed : hasText "Installing result page" = isInstalled := by
  funext event
  cases event with
  | pageInstalled rows bytes => exact beq_self_eq_true _
  | connectionFailed purpose => cases purpose <;> rfl
  | _ => rfl

theorem hasText_noMore : hasText "Server reported no more data" = isNoMore := by
  funext event
  cases event with
  | noMoreData queryId => exact beq_self_eq_true _
  | connectionFailed purpose => cases purpose <;> rfl
  | _ => rfl

end Event

/-- The event that a page is adopted with: how many times of eight bytes it holds, and its bytes in all buffers. -/
def Page.installed (page : Page) : Event :=
  .pageInstalled (page.time.length / 8)
    (page.time.length + page.bitmaps.flatten.length + page.values.flatten.length)

namespace Options

def announcement (options : Options) : Event :=
  .fetching options.sessionId options.queryId options.fetchSize

def asking (options : Options) : Journal :=
  [.event options.announcement,
    .fetch ⟨options.sessionId, options.statement, options.fetchSize, options.queryId, true⟩]

def farewell (options : Options) : Event :=
  .closed options.sessionId options.queryId

end Options

namespace Journal

def reported (journal : Journal) (kind : Event → Bool) : List Event :=
  journal.events.filter kind

@[simp] theorem reported_append (before after : Journal) (kind : Event → Bool) :
    Journal.reported (before ++ after) kind = before.reported kind ++ after.reported kind := by
  rw [reported, events_append, List.filter_append]
  rfl

@[simp] theorem reported_events (events : List Event) (kind : Event → Bool) :
    Journal.reported (events.map .event) kind = events.filter kind := by
  rw [reported, Journal.events, List.filterMap_map]
  exact congrArg (List.filter kind) List.filterMap_some

end Journal

namespace FetchReply

def outcome (options : Options) (slots : Nat) (reply : FetchReply) : List Event :=
  match reply.page? slots with
  | some page => [page.installed]
  | none => if reply.endsData then [.noMoreData options.queryId] else []

/-- What is asked and what comes of it; the reply is looked at when the request has been sent. -/
def exchange (options : Options) (slots : Nat) (reply : FetchReply) : Journal :=
  options.asking ++ (reply.outcome options slots).map .event

variable {options : Options} {slots : Nat} {reply : FetchReply}

theorem page?_of_endsData (last : reply.endsData = true) : reply.page? slots = none := by
  cases brought : reply.page? slots with
  | none => rfl
  | some page =>
    rw [endsData_of_page? brought] at last
    cases last

theorem exchange_of_page {page : Page} (brought : reply.page? slots = some page) :
    reply.exchange options slots = options.asking ++ [.event page.installed] := by
  simp [exchange, outcome, brought]

theorem exchange_of_end (last : reply.endsData = true) :
    reply.exchange options slots = options.asking ++ [.event (.noMoreData options.queryId)] := by
  simp [exchange, outcome, page?_of_endsData last, last]

theorem exchange_of_error (nothing : reply.page? slots = none) (more : reply.endsData = false) :
    reply.exchange options slots = options.asking := by
  simp [exchange, outcome, nothing, more]

theorem page_or_end (slots : Nat) (reply : FetchReply) :
    (∃ page, reply.page? slots = some page ∧ reply.endsData = false) ∨
      reply.page? slots = none ∧ reply.endsData = true ∨ reply.page? slots = none ∧ reply.endsData = false := by
  cases brought : reply.page? slots with
  | some page => exact .inl ⟨page, rfl, endsData_of_page? brought⟩
  | none => cases reply.endsData <;> simp

@[simp] theorem fetching_exchange :
    (reply.exchange options slots).reported Event.isFetching = [options.announcement] := by
  rcases page_or_end slots reply with ⟨page, brought, _⟩ | ⟨_, last⟩ | ⟨nothing, more⟩
  · rw [exchange_of_page brought]
    rfl
  · rw [exchange_of_end last]
    rfl
  · rw [exchange_of_error nothing more]
    rfl

@[simp] theorem installed_exchange :
    (reply.exchange options slots).reported Event.isInstalled = (reply.page? slots).toList.map Page.installed := by
  rcases page_or_end slots reply with ⟨page, brought, _⟩ | ⟨nothing, last⟩ | ⟨nothing, more⟩
  · rw [exchange_of_page brought, brought]
    rfl
  · rw [exchange_of_end last, nothing]
    rfl
  · rw [exchange_of_error nothing more, nothing]
    rfl

@[simp] theorem noMore_exchange :
    (reply.exchange options slots).reported Event.isNoMore =
      if reply.endsData then [.noMoreData options.queryId] else [] := by
  rcases page_or_end slots reply with ⟨page, brought, more⟩ | ⟨_, last⟩ | ⟨nothing, more⟩
  · rw [exchange_of_page brought, more]
    rfl
  · rw [exchange_of_end last, last]
    rfl
  · rw [exchange_of_error nothing more, more]
    rfl

theorem severe_exchange {severity : Severity} (severe : severity ≠ .debug) :
    (reply.exchange options slots).reported (Event.isAt severity) = [] := by
  have quiet : ∀ event ∈ (reply.exchange options slots).events, event.severity = .debug := by
    rcases page_or_end slots reply with ⟨page, brought, _⟩ | ⟨_, last⟩ | ⟨nothing, more⟩
    · rw [exchange_of_page brought]
      simp [Journal.events, Options.asking, Options.announcement, Page.installed, Event.severity]
    · rw [exchange_of_end last]
      simp [Journal.events, Options.asking, Options.announcement, Event.severity]
    · rw [exchange_of_error nothing more]
      simp [Journal.events, Options.asking, Options.announcement, Event.severity]
  refine List.filter_eq_nil_iff.mpr fun event said => ?_
  rw [Event.isAt, quiet event said, beq_iff_eq]
  exact severe.symm

end FetchReply

section

variable (options : Options) (slots : Nat) (replies : List FetchReply)

theorem reported_exchanges (kind : Event → Bool) :
    Journal.reported (replies.flatMap (FetchReply.exchange options slots)) kind =
      replies.flatMap fun reply => (reply.exchange options slots).reported kind := by
  simp only [Journal.reported, Journal.events, List.filterMap_flatMap, List.filter_flatMap]

@[simp] theorem fetching_exchanges :
    Journal.reported (replies.flatMap (FetchReply.exchange options slots)) Event.isFetching =
      List.replicate replies.length options.announcement := by
  simp only [reported_exchanges, FetchReply.fetching_exchange, ← List.map_eq_flatMap, List.map_const']

@[simp] theorem installed_exchanges :
    Journal.reported (replies.flatMap (FetchReply.exchange options slots)) Event.isInstalled =
      (replies.filterMap (FetchReply.page? slots)).map Page.installed := by
  simp only [reported_exchanges, FetchReply.installed_exchange, List.filterMap_eq_flatMap_toList, List.map_flatMap]

@[simp] theorem noMore_exchanges :
    Journal.reported (replies.flatMap (FetchReply.exchange options slots)) Event.isNoMore =
      List.replicate (replies.countP FetchReply.endsData) (.noMoreData options.queryId) := by
  simp only [reported_exchanges, FetchReply.noMore_exchange]
  induction replies with
  | nil => rfl
  | cons reply later ih =>
    rw [List.flatMap_cons, ih, List.countP_cons, Nat.add_comm, ← List.replicate_append_replicate]
    cases reply.endsData <;> rfl

theorem severe_exchanges {severity : Severity} (severe : severity ≠ .debug) :
    Journal.reported (replies.flatMap (FetchReply.exchange options slots)) (Event.isAt severity) = [] := by
  rw [reported_exchanges]
  exact List.flatMap_eq_nil_iff.mpr fun reply _ => FetchReply.severe_exchange severe

end

theorem Row.fault_of_materialize {columns : List Column} {reader : PageReader} {row : Row} {e : Error}
    (enough : Page.timeWidth ≤ reader.time.length) (aligned : reader.lanes.length = columns.length)
    (fits : row.cells.length = columns.length) (failed : (row.materialize columns reader).1 = .error e) :
    DecodeFault e := by
  rw [materialize, if_neg (Nat.not_lt.mpr enough)] at failed
  refine @Cell.fault_of_decodeAll e reader.rowOffset columns reader.lanes row.cells aligned fits ?_
  generalize Cell.decodeAll reader.rowOffset columns reader.lanes row.cells = decoded at failed ⊢
  obtain ⟨_ | _, lanes, cells⟩ := decoded
  · exact failed
  · cases failed

namespace ResultSet

variable {options : Options} {server : Server} {set next : ResultSet}

def complaint (set : ResultSet) : List Event :=
  match set.failure with
  | some e => e.events
  | none => []

def heard (replies : List FetchReply) (asked : Nat) : List FetchReply :=
  (List.range asked).map (replyTo replies)

theorem heard_cons (reply : FetchReply) (later : List FetchReply) (asked : Nat) :
    heard (reply :: later) (asked + 1) = reply :: heard later asked := by
  rw [heard, List.range_succ_eq_map, List.map_cons, List.map_map]
  rfl

/-- What the journal of an open set has come to say, told by the replies heard and what is said of an error. -/
structure Tells (set next : ResultSet) (replies : List FetchReply) (stop : List Event) : Prop where
  options : next.options = set.options
  schema : next.schema = set.schema
  stillOpen : next.state = .closed ↔ set.state = .closed
  journal : next.journal = set.journal ++
    replies.flatMap (FetchReply.exchange set.options set.schema.slotCount) ++ stop.map .event
  ended : replies.countP FetchReply.endsData + set.exhausted.toNat = next.exhausted.toNat
  complaint : next.complaint = set.complaint ++ stop
  faults : ∀ e, next.failure = some e → set.failure = some e ∨ DecodeFault e

theorem Tells.trans {last : ResultSet} {replies later : List FetchReply} {stop : List Event}
    (first : Tells set next replies []) (rest : Tells next last later stop) :
    Tells set last (replies ++ later) stop where
  options := rest.options.trans first.options
  schema := rest.schema.trans first.schema
  stillOpen := rest.stillOpen.trans first.stillOpen
  journal := by
    rw [rest.journal, first.journal, first.options, first.schema, List.flatMap_append]
    simp only [List.map_nil, List.append_nil, List.append_assoc]
  ended := by rw [List.countP_append, ← rest.ended, ← first.ended, Nat.add_comm (List.countP _ replies), Nat.add_assoc]
  complaint := by rw [rest.complaint, first.complaint, List.append_nil]
  faults := by
    intro e failed
    rcases rest.faults e failed with before | fault
    · exact first.faults e before
    · exact .inr fault

theorem Tells.refl (set : ResultSet) : Tells set set [] [] where
  options := rfl
  schema := rfl
  stillOpen := Iff.rfl
  journal := by simp
  ended := Nat.zero_add _
  complaint := (List.append_nil _).symm
  faults := fun _ failed => .inl failed

theorem tells_readRow (reads : Reads set) (row : set.page.hasRow = true) (intact : set.failure = none)
    (openSet : set.state ≠ .closed) : ∃ stop, Tells set set.readRow.2 [] stop := by
  have faults := fun e => @Row.fault_of_materialize set.schema.columns set.page set.row e (reads.enough row)
    (reads.lanes row) reads.cells
  have silent : set.complaint = [] := by rw [complaint, intact]
  rw [readRow]
  generalize set.row.materialize set.schema.columns set.page = result at faults ⊢
  obtain ⟨e | _, reader, held⟩ := result
  · exact ⟨e.events,
      { options := rfl
        schema := rfl
        stillOpen := by simp [fail, report, note, openSet]
        journal := by simp [fail, report, note]
        ended := Nat.zero_add _
        complaint := by
          rw [silent]
          rfl
        faults := by
          rintro _ ⟨⟩
          exact .inr (faults e rfl) }⟩
  · exact ⟨[], { Tells.refl set with stillOpen := by simp [openSet] }⟩

section

variable {reply : FetchReply} {later : List FetchReply}

@[simp] theorem options_ask : (set.ask later).options = set.options := rfl

@[simp] theorem journal_ask : (set.ask later).journal = set.journal ++ set.options.asking := rfl

@[simp] theorem journal_install {page : Page} {reader : PageReader} :
    (set.install page reader).journal = set.journal ++ [.event page.installed] := rfl

@[simp] theorem journal_exhaust :
    set.exhaust.journal = set.journal ++ [.event (.noMoreData set.options.queryId)] := rfl

theorem tells_page {page : Page} (reader : PageReader) (brought : reply.page? set.schema.slotCount = some page) :
    Tells set ((set.ask later).install page reader) [reply] [] where
  options := rfl
  schema := rfl
  stillOpen := Iff.rfl
  journal := by simp [FetchReply.exchange_of_page brought]
  ended := by simp [FetchReply.endsData_of_page? brought, ask, install, report, note]
  complaint := (List.append_nil _).symm
  faults := fun _ failed => .inl failed

theorem tells_end (last : reply.endsData = true) (more : set.exhausted = false) (openSet : set.state ≠ .closed) :
    Tells set (set.ask later).exhaust [reply] [] where
  options := rfl
  schema := rfl
  stillOpen := by simp [exhaust, report, note, openSet]
  journal := by simp [FetchReply.exchange_of_end last]
  ended := by simp [last, more, exhaust, report, note]
  complaint := (List.append_nil _).symm
  faults := fun _ failed => .inl failed

theorem tells_error (nothing : reply.page? set.schema.slotCount = none) (more : reply.endsData = false) :
    Tells set (set.ask later) [reply] [] where
  options := rfl
  schema := rfl
  stillOpen := Iff.rfl
  journal := by simp [FetchReply.exchange_of_error nothing more]
  ended := by simp [more, ask, note]
  complaint := (List.append_nil _).symm
  faults := fun _ failed => .inl failed

end

theorem nothing_of_error {reply : FetchReply} {e : Error} (received : Received set reply (.error e, next)) :
    reply.page? set.schema.slotCount = none ∧ reply.endsData = false := by
  cases received with
  | lost fault => exact ⟨rfl, rfl⟩
  | refused response e refusal =>
    exact ⟨by simp [FetchReply.page?, Status.refused_of_verify refusal], FetchReply.endsData_of_refusal refusal⟩
  | missing response success more none => exact ⟨by simp [FetchReply.page?, none], FetchReply.endsData_of_more more⟩
  | unfit response page e success more sent unfit =>
    have rejected : (PageReader.start page set.schema.slotCount).isOk = false := by
      rw [unfit]
      rfl
    exact ⟨by simp [FetchReply.page?, sent, Option.filter, rejected], FetchReply.endsData_of_more more⟩

theorem ends_of_noMore {reply : FetchReply} (received : Received set reply (.ok false, next)) :
    reply.endsData = true := by
  cases received with
  | noMore response success last => exact FetchReply.endsData_of_last success last

theorem Search.tells {replies : List FetchReply} {asked : Nat} {outcome : Except Error Bool × ResultSet}
    (search : Search set replies asked outcome) (waits : Waits set) (more : set.exhausted = false) :
    ∃ stop, Tells set outcome.2 (heard replies asked) stop := by
  induction search with
  | ranOut set => exact ⟨[], tells_end rfl more waits.going.notClosed⟩
  | stopped set reply later e received =>
    have nothing := @nothing_of_error (set.ask later) _ _ _ received
    rw [heard_cons]
    exact ⟨[], tells_error nothing.1 nothing.2⟩
  | noMore set reply later received =>
    rw [heard_cons]
    exact ⟨[], tells_end (ends_of_noMore received) more waits.going.notClosed⟩
  | read set reply later page reader brought accepted row =>
    have waits := (waits.ask later).install accepted
    obtain ⟨stop, reading⟩ := tells_readRow waits.reads row waits.going.intact waits.going.notClosed
    rw [heard_cons]
    exact ⟨stop, (tells_page reader brought).trans reading⟩
  | skipped set reply later page reader asked outcome brought accepted noRow rest ih =>
    obtain ⟨stop, others⟩ := ih ((waits.ask later).install accepted) more
    rw [heard_cons]
    exact ⟨stop, (tells_page reader brought).trans others⟩

def heardBetween (replies : List FetchReply) (set next : ResultSet) : List FetchReply :=
  (List.range' set.fetchesSent (next.fetchesSent - set.fetchesSent)).map (replyTo replies)

theorem heardBetween_of_same (replies : List FetchReply) (same : next.fetchesSent = set.fetchesSent) :
    heardBetween replies set next = [] := by
  rw [heardBetween, same, Nat.sub_self]
  rfl

theorem heardBetween_of_more (replies : List FetchReply) {asked : Nat}
    (more : next.fetchesSent = set.fetchesSent + asked) :
    heardBetween replies set next = heard (replies.drop set.fetchesSent) asked := by
  rw [heardBetween, more, Nat.add_sub_cancel_left, heard, List.range'_eq_map_range, List.map_map]
  exact List.map_congr_left fun request _ => (replyTo_drop replies _ request).symm

def newComplaint (set next : ResultSet) : List Event :=
  if set.failure.isSome then [] else next.complaint

theorem Tells.newComplaint {replies : List FetchReply} {stop : List Event} (tells : Tells set next replies stop)
    (intact : set.failure = none) : newComplaint set next = stop := by
  rw [ResultSet.newComplaint, tells.complaint, ResultSet.complaint, intact]
  rfl

theorem newComplaint_of_same (same : next.failure = set.failure) : newComplaint set next = [] := by
  rw [newComplaint, complaint, same]
  cases set.failure <;> rfl

/-- A call for the next row reports the exchanges that it has, and an error at which it stops. -/
theorem tells_advance {sent : Nat} (coherent : Coherent set) (accounted : Accounted options server set sent) :
    set.fetchesSent ≤ set.advance.2.fetchesSent ∧
      Tells set set.advance.2 (heardBetween server.fetchReplies set set.advance.2)
        (newComplaint set set.advance.2) := by
  have advanced := advance_advanced set
  generalize set.advance = outcome at advanced ⊢
  cases advanced with
  | unusable e stop =>
    rw [heardBetween_of_same _ rfl, newComplaint_of_same rfl]
    exact ⟨Nat.le_refl _, .refl set⟩
  | read usable row =>
    have going := coherent.going usable
    obtain ⟨stop, reading⟩ := tells_readRow (coherent.reads going) row going.intact going.notClosed
    have same := fetchesSent_of_kept (kept_of_rowRead (readRow_rowRead set))
    rw [heardBetween_of_same _ same, reading.newComplaint going.intact]
    exact ⟨Nat.le_of_eq same.symm, reading⟩
  | ended usable row last =>
    have openSet := (coherent.going usable).notClosed
    have sameSent : set.drained.fetchesSent = set.fetchesSent := rfl
    have sameFailure : set.drained.failure = set.failure := rfl
    rw [heardBetween_of_same _ sameSent, newComplaint_of_same sameFailure]
    exact ⟨Nat.le_refl _, { Tells.refl set with stillOpen := by simp [drained, openSet] }⟩
  | unserved usable row more released => exact absurd released (coherent.going usable).served
  | sought held usable row more isServer =>
    have going := coherent.going usable
    -- by the account, the replies still to come are those of the first server, less those used up
    have same := (accounted.held going.notClosed).symm.trans isServer
    cases same
    obtain ⟨asked, search⟩ := seek_search set.waiting (server.fetchReplies.drop sent)
    obtain ⟨stop, found⟩ := search.tells (waits_waiting coherent going) more
    have sends : (set.waiting.seek (server.fetchReplies.drop sent)).2.fetchesSent = set.fetchesSent + asked :=
      search.fetchesSent
    have told : Tells set (set.waiting.seek (server.fetchReplies.drop sent)).2
        (heard (server.fetchReplies.drop sent) asked) stop :=
      { found with stillOpen := found.stillOpen.trans (by simp [waiting, going.notClosed]) }
    refine ⟨by rw [sends]; exact Nat.le_add_right _ _, ?_⟩
    rw [heardBetween_of_more _ sends, accounted.fetchesSent_eq, told.newComplaint going.intact]
    exact told

end ResultSet

end SeriesCursor
