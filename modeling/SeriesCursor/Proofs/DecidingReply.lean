import SeriesCursor.Proofs.NextRequest
import SeriesCursor.Proofs.PageReplacement

/-!
Which reply decides a call for the next row. A set without an unread row asks until a reply is something
else than a page without rows; that reply alone decides, by the first of its faults, what the call gives,
and no more is asked for. A reply that is refused leaves nothing of itself in the set.

The search has no bound of its own. It ends because every request uses up a reply, and which of them it
ends on is told here by the replies and not by the search.
-/

namespace SeriesCursor

inductive FetchReply.Barren : FetchReply → Prop where
  | page (response : Response) (page : Page) (success : response.status.code = 200)
      (more : response.hasResultSet = true) (sent : response.page = some page) (noRow : page.time = []) :
      Barren (.answered response)

theorem FetchReply.response_of_page? {slots : Nat} {response : Response} {page : Page}
    (brought : page? slots (.answered response) = some page) :
    response.status.code = 200 ∧ response.hasResultSet = true ∧ response.page = some page := by
  rw [page?] at brought
  split at brought
  · rename_i announced
    rw [Bool.and_eq_true] at announced
    have success : response.status.code = 200 := by simpa [Status.isSuccess, Status.successCode] using announced.1
    exact ⟨success, announced.2, (Option.filter_eq_some_iff.mp brought).1⟩
  · cases brought

namespace Row

theorem materialize_of_startsBlock {columns : List Column} {reader : PageReader} {row other : Row}
    (start : Bitmap.startsBlock reader.rowOffset = true) (fits : row.cells.length = columns.length)
    (alsoFits : other.cells.length = columns.length) :
    (row.materialize columns reader).1 = (other.materialize columns reader).1 ∧
      ((row.materialize columns reader).1 = .ok () →
        row.materialize columns reader = other.materialize columns reader) := by
  unfold materialize
  split
  · exact ⟨rfl, by rintro ⟨⟩⟩
  · obtain ⟨result, lanes, cells⟩ := Cell.decodeAll_of_startsBlock start reader.lanes fits alsoFits
    generalize Cell.decodeAll reader.rowOffset columns reader.lanes row.cells = decoded at result lanes cells ⊢
    generalize Cell.decodeAll reader.rowOffset columns reader.lanes other.cells = again at result lanes cells ⊢
    obtain ⟨outcome, left, held⟩ := decoded
    obtain ⟨_, _, alsoHeld⟩ := again
    cases result
    cases lanes
    cases outcome with
    | error e => exact ⟨rfl, by rintro ⟨⟩⟩
    | ok _ =>
      cases cells rfl
      exact ⟨rfl, fun _ => rfl⟩

end Row

namespace ResultSet

/-- A set whose next call for a row goes to the server. -/
structure AsksNext (set : ResultSet) (server : Server) : Prop where
  openSet : set.state ≠ .closed
  going : set.state ≠ .failed
  more : set.exhausted = false
  noRow : set.page.hasRow = false
  held : set.server = some server

/-- A set after a reply that it has refused: without a row, and with the later replies still to come. -/
structure LeftWaiting (next : ResultSet) (rest : Server) : Prop where
  state : next.state = .needsFetch
  noRow : next.row.present = false
  more : next.exhausted = false
  asks : AsksNext next rest
  resumes : next.advance = next.waiting.seek rest.fetchReplies

/-- What a call for the next row gives when a reply decides it, and how it leaves the set. Of the faults that
a reply can have at once, the first one in this order counts. -/
inductive Decides (columns : List Column) (rest : Server) : FetchReply → Except Error Bool × ResultSet → Prop where
  | lost (fault : TransportFault) (next : ResultSet) (waits : LeftWaiting next rest) :
      Decides columns rest (.lost fault) (.error (.connection .fetch fault), next)
  | refused (response : Response) (next : ResultSet) (refusal : response.status.code ≠ 200)
      (waits : LeftWaiting next rest) :
      Decides columns rest (.answered response)
        (.error (.refusedByServer response.status.code (response.status.message.getD "")), next)
  | ended (response : Response) (next : ResultSet) (success : response.status.code = 200)
      (last : response.hasResultSet = false) (noRow : next.row.present = false) (state : next.state = .empty)
      (exhausted : next.exhausted = true) (noPage : next.page.hasRow = false) :
      Decides columns rest (.answered response) (.ok false, next)
  | missing (response : Response) (next : ResultSet) (success : response.status.code = 200)
      (more : response.hasResultSet = true) (noPage : response.page = none) (waits : LeftWaiting next rest) :
      Decides columns rest (.answered response) (.error (.malformedPage .missingPage), next)
  | ragged (response : Response) (page : Page) (next : ResultSet) (success : response.status.code = 200)
      (more : response.hasResultSet = true) (sent : response.page = some page)
      (ragged : page.time.length % 8 ≠ 0) (waits : LeftWaiting next rest) :
      Decides columns rest (.answered response) (.error (.malformedPage (.raggedTime page.time.length)), next)
  | unaligned (response : Response) (page : Page) (next : ResultSet) (success : response.status.code = 200)
      (more : response.hasResultSet = true) (sent : response.page = some page)
      (whole : page.time.length % 8 = 0) (rows : page.time ≠ [])
      (unfit : page.bitmaps.length ≠ columns.length ∨ page.values.length ≠ columns.length)
      (waits : LeftWaiting next rest) :
      Decides columns rest (.answered response)
        (.error (.malformedPage (.columnCount columns.length page.bitmaps.length page.values.length)), next)
  | undecodable (response : Response) (page : Page) (next : ResultSet) (e : Error)
      (success : response.status.code = 200) (more : response.hasResultSet = true)
      (sent : response.page = some page) (whole : page.time.length % 8 = 0) (rows : page.time ≠ [])
      (fits : page.bitmaps.length = columns.length ∧ page.values.length = columns.length)
      (first : ((Row.empty columns.length).materialize columns ⟨page.time, page.lanes, 0⟩).1 = .error e)
      (noRow : next.row.present = false) (state : next.state = .failed) (recorded : next.failure = some e) :
      Decides columns rest (.answered response) (.error e, next)
  | read (response : Response) (page : Page) (next : ResultSet) (success : response.status.code = 200)
      (more : response.hasResultSet = true) (sent : response.page = some page)
      (whole : page.time.length % 8 = 0) (rows : page.time ≠ [])
      (fits : page.bitmaps.length = columns.length ∧ page.values.length = columns.length)
      (first : (Row.empty columns.length).materialize columns ⟨page.time, page.lanes, 0⟩ =
        (.ok (), next.page, next.row))
      (state : next.state = .hasCachedRow) : Decides columns rest (.answered response) (.ok true, next)

variable {set : ResultSet} {server rest : Server}

theorem Decides.not_barren {columns : List Column} {reply : FetchReply} {outcome : Except Error Bool × ResultSet}
    (decides : Decides columns rest reply outcome) : ¬ reply.Barren := by
  intro barren
  cases barren with
  | page response page success more sent noRow =>
    cases decides with
    | refused _ _ refusal => exact refusal success
    | ended _ _ _ last =>
      rw [more] at last
      cases last
    | missing _ _ _ _ noPage =>
      rw [sent] at noPage
      cases noPage
    | ragged _ other _ _ _ also ragged =>
      cases sent.symm.trans also
      exact ragged (by rw [noRow]; rfl)
    | unaligned _ other _ _ _ also _ rows =>
      cases sent.symm.trans also
      exact rows noRow
    | undecodable _ other _ _ _ _ also _ rows =>
      cases sent.symm.trans also
      exact rows noRow
    | read _ other _ _ _ also _ rows =>
      cases sent.symm.trans also
      exact rows noRow

theorem AsksNext.usable (asks : AsksNext set server) (intact : set.failure = none) : set.usable = .ok () :=
  (usable_eq_ok_iff set).mpr ⟨asks.openSet, intact⟩

theorem AsksNext.advance (asks : AsksNext set server) (intact : set.failure = none) :
    set.advance = set.waiting.seek server.fetchReplies := by
  rw [ResultSet.advance, asks.usable intact]
  simp only [asks.noRow, asks.more, asks.held, Bool.false_eq_true, if_false]

theorem asksNext_of_waits (waits : Waits set) (more : set.exhausted = false) (noRow : set.page.hasRow = false)
    (held : set.server = some server) : AsksNext set server :=
  ⟨waits.going.notClosed, waits.going.notFailed, more, noRow, held⟩

theorem leftWaiting_of_waits (waits : Waits set) (more : set.exhausted = false) (noRow : set.page.hasRow = false)
    (held : set.server = some server) : LeftWaiting set server where
  state := waits.state
  noRow := waits.noRow
  more := more
  asks := asksNext_of_waits waits more noRow held
  resumes := (asksNext_of_waits waits more noRow held).advance waits.going.intact

theorem decides_of_refusal {reply : FetchReply} {e : Error} (received : Received set reply (.error e, set))
    (waits : LeftWaiting set rest) : Decides set.schema.columns rest reply (.error e, set) := by
  cases received with
  | lost fault => exact .lost fault set waits
  | refused response e refusal =>
    have other : response.status.code ≠ 200 := by
      intro success
      rw [(Status.verify_eq_ok_iff _).mpr success] at refusal
      cases refusal
    rw [Status.verify_of_ne other] at refusal
    cases refusal
    exact .refused response set other waits
  | missing response success more none =>
    exact .missing response set ((Status.verify_eq_ok_iff _).mp success) more none waits
  | unfit response page e success more sent unfit =>
    have success := (Status.verify_eq_ok_iff _).mp success
    unfold PageReader.start at unfit
    split at unfit
    · rename_i ragged
      cases unfit
      exact .ragged response page set success more sent ragged waits
    · rename_i whole
      split at unfit
      · rename_i misfit
        cases unfit
        exact .unaligned response page set success more sent (Decidable.not_not.mp whole) misfit.1 misfit.2 waits
      · cases unfit

theorem decides_of_page {response : Response} {page : Page} {reader : PageReader}
    (success : response.status.code = 200) (more : response.hasResultSet = true)
    (sent : response.page = some page) (cells : set.row.cells.length = set.schema.slotCount)
    (accepted : PageReader.start page set.schema.slotCount = .ok reader) (row : reader.hasRow = true) :
    Decides set.schema.columns rest (.answered response) (set.install page reader).readRow := by
  obtain ⟨rfl, whole, fits⟩ := PageReader.start_eq_ok accepted
  have rows : page.time ≠ [] := (PageReader.hasRow_eq_true_iff _).mp row
  have whole : page.time.length % 8 = 0 := by
    rw [whole, Page.timeWidth]
    omega
  obtain ⟨result, same⟩ := @Row.materialize_of_startsBlock set.schema.columns ⟨page.time, page.lanes, 0⟩ set.row
    (Row.empty set.schema.slotCount) rfl cells List.length_replicate
  rw [readRow]
  dsimp only [install, report, note]
  generalize set.row.materialize set.schema.columns ⟨page.time, page.lanes, 0⟩ = decoded at result same ⊢
  obtain ⟨outcome, left, next⟩ := decoded
  cases outcome with
  | error e => exact .undecodable response page _ e success more sent whole rows (fits rows) result.symm rfl rfl rfl
  | ok _ => exact .read response page _ success more sent whole rows (fits rows) (same rfl).symm rfl

theorem Search.decides {replies : List FetchReply} {asked : Nat} {outcome : Except Error Bool × ResultSet}
    (search : Search set replies asked outcome) (waits : Waits set) (more : set.exhausted = false)
    (noRow : set.page.hasRow = false) (held : set.server = some server) :
    Decides set.schema.columns { server with fetchReplies := replies.drop asked } (replyTo replies (asked - 1))
      outcome := by
  induction search generalizing server with
  | ranOut set => exact .ended _ _ rfl rfl waits.noRow rfl rfl noRow
  | stopped set reply later e received =>
    have left : (set.ask later).server = some { server with fetchReplies := later } := congrArg (Option.map _) held
    exact decides_of_refusal received (leftWaiting_of_waits (waits.ask later) more noRow left)
  | noMore set reply later received =>
    cases received with
    | noMore response success last =>
      exact .ended response _ ((Status.verify_eq_ok_iff _).mp success) last waits.noRow rfl rfl noRow
  | read set reply later page reader brought accepted row =>
    cases reply with
    | lost fault => cases brought
    | answered response =>
      obtain ⟨success, more, sent⟩ := FetchReply.response_of_page? brought
      exact @decides_of_page (set.ask later) _ response page reader success more sent waits.reads.cells accepted row
  | skipped set reply later page reader asked outcome brought accepted empty rest ih =>
    have left : ((set.ask later).install page reader).server = some { server with fetchReplies := later } :=
      congrArg (Option.map _) held
    have next := ih ((waits.ask later).install accepted) more empty left
    -- the last reply of the rest of the search is the last one of the whole search
    obtain ⟨before, rfl⟩ := Nat.exists_eq_add_of_lt rest.asked_pos
    have same : replyTo (reply :: later) (0 + before + 1 + 1 - 1) = replyTo later (0 + before + 1 - 1) := by
      simp [replyTo]
    rw [same]
    exact next

theorem FetchReply.barren_of_page? {slots : Nat} {reply : FetchReply} {page : Page}
    (brought : reply.page? slots = some page) (noRow : page.time = []) : reply.Barren := by
  cases reply with
  | lost fault => cases brought
  | answered response =>
    obtain ⟨success, more, sent⟩ := FetchReply.response_of_page? brought
    exact .page response page success more sent noRow

theorem Search.asked_eq {replies : List FetchReply} {asked skipped : Nat} {outcome : Except Error Bool × ResultSet}
    (search : Search set replies asked outcome) (last : ¬ (replyTo replies (asked - 1)).Barren)
    (barren : ∀ request < skipped, (replyTo replies request).Barren) (decisive : ¬ (replyTo replies skipped).Barren) :
    asked = skipped + 1 := by
  have some := search.asked_pos
  apply Nat.le_antisymm
  · apply Nat.le_of_not_lt
    intro beyond
    obtain ⟨page, brought, noRow⟩ := search.brought_no_row beyond
    exact decisive (FetchReply.barren_of_page? brought noRow)
  · apply Nat.le_of_not_lt
    intro early
    exact last (barren (asked - 1) (by omega))

/-- On every set that can be reached, a call for the next row that has to ask the server asks until a reply is
something else than a page without rows, and that reply decides what the call gives. -/
theorem advance_decided {options : Options} {names types : List String} {index : Option SlotIndex}
    {initial : Option Page} {first left : Server}
    (built : ofRaw options names types index first initial = .ok set) (calls : List Call)
    (asks : AsksNext (set.run calls) left) {skipped : Nat}
    (barren : ∀ request < skipped, (replyTo left.fetchReplies request).Barren)
    (decisive : ¬ (replyTo left.fetchReplies skipped).Barren) :
    let rest : Server := { left with fetchReplies := left.fetchReplies.drop (skipped + 1) }
    Decides (set.run calls).schema.columns rest (replyTo left.fetchReplies skipped) (set.run calls).advance ∧
      (set.run calls).advance.2.server = some rest ∧
      (set.run calls).advance.2.journal.requests =
        (set.run calls).journal.requests ++ List.replicate (skipped + 1)
          (.fetch ⟨options.sessionId, options.statement, options.fetchSize, options.queryId, true⟩) := by
  obtain ⟨schema, _, created⟩ := create_of_ofRaw built
  have coherent := coherent_run (coherent_create created).1 calls
  obtain ⟨_, accounted⟩ := accounted_run (accounted_create created) calls
  have going := coherent.going (coherent.usable_of_state asks.openSet asks.going)
  have waits := waits_waiting coherent going
  obtain ⟨asked, search⟩ := seek_search (set.run calls).waiting left.fetchReplies
  have decides := search.decides waits asks.more asks.noRow asks.held
  obtain rfl := search.asked_eq decides.not_barren barren decisive
  rw [asks.advance going.intact, ← accounted.sameOptions]
  refine ⟨decides, ?_, search.requests⟩
  rw [search.server]
  exact congrArg (Option.map _) asks.held

def failsThird : Server :=
  ⟨[.answered (.ofPage emptyPage), .answered (.ofPage ⟨[], [], []⟩),
    .answered ⟨.failure 500 "busy", true, some oneRow⟩, .answered (.ofPage oneRow)], []⟩

theorem advance_decided_of_third_reply :
    ∃ set, ofRaw oneColumn ["s1"] ["INT32"] none failsThird (some oneRow) = .ok set ∧
      AsksNext (set.run [.advance]) failsThird ∧
      (∀ request < 2, (replyTo failsThird.fetchReplies request).Barren) ∧
      ¬ (replyTo failsThird.fetchReplies 2).Barren ∧
      (set.run [.advance]).advance.1 = .error (.refusedByServer 500 "busy") ∧
      Decides [⟨"s1", .int32⟩] ⟨[.answered (.ofPage oneRow)], []⟩ (replyTo failsThird.fetchReplies 2)
        (set.run [.advance]).advance ∧
      (set.run [.advance]).advance.2.server = some ⟨[.answered (.ofPage oneRow)], []⟩ ∧
      (set.run [.advance]).advance.2.journal.requests =
        (set.run [.advance]).journal.requests ++
          List.replicate 3 (.fetch ⟨1, "select s1 from root.d", oneColumn.fetchSize, 2, true⟩) := by
  have asks : ∀ set, ofRaw oneColumn ["s1"] ["INT32"] none failsThird (some oneRow) = .ok set →
      AsksNext (set.run [.advance]) failsThird := by
    rintro _ ⟨⟩
    exact ⟨by rintro ⟨⟩, by rintro ⟨⟩, rfl, rfl, rfl⟩
  have barren : ∀ request < 2, (replyTo failsThird.fetchReplies request).Barren := by
    rintro (_ | _ | request) inside
    · exact .page _ _ rfl rfl rfl rfl
    · exact .page _ _ rfl rfl rfl rfl
    · omega
  have decisive : ¬ (replyTo failsThird.fetchReplies 2).Barren := by
    rintro ⟨⟩
    contradiction
  exact ⟨_, rfl, asks _ rfl, barren, decisive, rfl,
    @advance_decided _ oneColumn ["s1"] ["INT32"] none (some oneRow) failsThird failsThird rfl [.advance]
      (asks _ rfl) 2 barren decisive⟩

end ResultSet

end SeriesCursor
