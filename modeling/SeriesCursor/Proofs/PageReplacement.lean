import SeriesCursor.Proofs.Coherence
import SeriesCursor.Proofs.Reading
import SeriesCursor.Proofs.Requests

/-!
Setting a page. A page that does not fit changes nothing; one that fits takes the place of the page in
hand, and its rows are given as a new set gives them that starts on it, whatever was read before. Only
then does the set go back to the server's replies, where it had left them.

The two sets come to the page with different cells, left by the rows before. At the first row of a page,
as at the start of every block, each cell takes a new bitmap byte and a new value, so that what it held
has no say; from there on the cells of the two are the same.
-/

namespace SeriesCursor

namespace Cell

theorem decode_of_startsBlock {row : Nat} (start : Bitmap.startsBlock row = true) (column : Column) (lane : Lane)
    (cell other : Cell) :
    (decode column row lane cell).1 = (decode column row lane other).1 ∧
      (decode column row lane cell).2.1 = (decode column row lane other).2.1 ∧
        ((decode column row lane cell).1 = .ok () →
          (decode column row lane cell).2.2 = (decode column row lane other).2.2) := by
  simp only [decode, refresh, start, if_true]
  cases lane.bitmap with
  | nil => exact ⟨rfl, rfl, by rintro ⟨⟩⟩
  | cons byte rest =>
    simp only [fill]
    cases Bitmap.isNull byte row with
    | true => exact ⟨rfl, rfl, fun _ => rfl⟩
    | false =>
      simp only [Bool.false_eq_true, if_false]
      rcases Frame.take column.type lane.values column.name with ⟨e | raw, left⟩
      · exact ⟨rfl, rfl, by rintro ⟨⟩⟩
      · exact ⟨rfl, rfl, fun _ => rfl⟩

theorem decodeAll_of_startsBlock {row : Nat} (start : Bitmap.startsBlock row = true) {columns : List Column}
    (lanes : List Lane) {cells others : List Cell} (fits : cells.length = columns.length)
    (alsoFits : others.length = columns.length) :
    (decodeAll row columns lanes cells).1 = (decodeAll row columns lanes others).1 ∧
      (decodeAll row columns lanes cells).2.1 = (decodeAll row columns lanes others).2.1 ∧
        ((decodeAll row columns lanes cells).1 = .ok () →
          (decodeAll row columns lanes cells).2.2 = (decodeAll row columns lanes others).2.2) := by
  induction columns generalizing lanes cells others with
  | nil =>
    rw [List.length_eq_zero_iff.mp fits, List.length_eq_zero_iff.mp alsoFits]
    exact ⟨rfl, rfl, fun _ => rfl⟩
  | cons column columns ih =>
    obtain ⟨cell, cells, rfl⟩ := List.exists_cons_of_length_eq_add_one fits
    obtain ⟨other, others, rfl⟩ := List.exists_cons_of_length_eq_add_one alsoFits
    cases lanes with
    | nil => exact ⟨rfl, rfl, by rintro ⟨⟩⟩
    | cons lane lanes =>
      obtain ⟨result, left, value⟩ := decode_of_startsBlock start column lane cell other
      obtain ⟨results, lefts, values⟩ := ih lanes (Nat.succ.inj fits) (Nat.succ.inj alsoFits)
      rw [decodeAll, decodeAll]
      generalize decode column row lane cell = decoded at result left value ⊢
      generalize decode column row lane other = again at result left value ⊢
      obtain ⟨outcome, lane', cell'⟩ := decoded
      obtain ⟨_, _, cell''⟩ := again
      cases result
      cases left
      cases outcome with
      | error e => exact ⟨rfl, rfl, by rintro ⟨⟩⟩
      | ok _ =>
        cases value rfl
        exact ⟨results, congrArg (lane' :: ·) lefts, fun ok => congrArg (cell' :: ·) (values ok)⟩

end Cell

def Call.visits (call : Call) : Prop :=
  call = .advance ∨ call.readsRow = true

namespace ResultSet

def answers (set : ResultSet) : List Call → List (Except Error Answer)
  | [] => []
  | call :: rest => (set.perform call).1 :: (set.perform call).2.answers rest

/-- Two sets with the same page in hand, of which that many rows are left unless a row has failed. Their
cells are the same, or neither has used them for this page yet. -/
structure Alike (set other : ResultSet) (left : Nat) : Prop where
  schema : set.schema = other.schema
  page : set.page = other.page
  failure : set.failure = other.failure
  openSet : set.state ≠ .closed
  alsoOpen : other.state ≠ .closed
  current : set.current = other.current
  cells : set.row.cells.length = set.schema.slotCount
  alsoCells : other.row.cells.length = set.schema.slotCount
  unread : set.failure = none → set.page.time.length = Page.timeWidth * left
  decodes : set.failure = none → set.row.cells = other.row.cells ∨ Bitmap.startsBlock set.page.rowOffset = true

variable {set other : ResultSet} {left : Nat}

theorem usable_eq_of_openSet (openSet : set.state ≠ .closed) (alsoOpen : other.state ≠ .closed)
    (failure : set.failure = other.failure) : set.usable = other.usable := by
  rw [usable, usable, if_neg openSet, if_neg alsoOpen, failure]

theorem Alike.decodeAll (alike : Alike set other left) (going : set.failure = none) :
    let columns := set.schema.columns
    let reader := set.page
    (Cell.decodeAll reader.rowOffset columns reader.lanes set.row.cells).1 =
        (Cell.decodeAll reader.rowOffset columns reader.lanes other.row.cells).1 ∧
      (Cell.decodeAll reader.rowOffset columns reader.lanes set.row.cells).2.1 =
          (Cell.decodeAll reader.rowOffset columns reader.lanes other.row.cells).2.1 ∧
        ((Cell.decodeAll reader.rowOffset columns reader.lanes set.row.cells).1 = .ok () →
          (Cell.decodeAll reader.rowOffset columns reader.lanes set.row.cells).2.2 =
            (Cell.decodeAll reader.rowOffset columns reader.lanes other.row.cells).2.2) := by
  rcases alike.decodes going with same | start
  · rw [same]
    exact ⟨rfl, rfl, fun _ => rfl⟩
  · exact Cell.decodeAll_of_startsBlock start _ alike.cells alike.alsoCells

theorem Alike.readRow (alike : Alike set other (left + 1)) (going : set.failure = none) :
    set.readRow.1 = other.readRow.1 ∧ Alike set.readRow.2 other.readRow.2 left := by
  have enough : ¬ set.page.time.length < Page.timeWidth := by
    rw [alike.unread going]
    exact Nat.not_lt.mpr (Nat.le_mul_of_pos_right _ (Nat.succ_pos left))
  have unread : (set.page.time.drop Page.timeWidth).length = Page.timeWidth * left := by
    rw [List.length_drop, alike.unread going, Nat.mul_succ, Nat.add_sub_cancel]
  obtain ⟨result, lanes, values⟩ := alike.decodeAll going
  have lengths := Cell.length_decodeAll set.page.rowOffset set.schema.columns set.page.lanes set.row.cells
  have alsoLengths := Cell.length_decodeAll set.page.rowOffset set.schema.columns set.page.lanes other.row.cells
  rw [ResultSet.readRow, ResultSet.readRow, Row.materialize, Row.materialize, ← alike.page, ← alike.schema,
    if_neg enough, if_neg enough]
  generalize Cell.decodeAll set.page.rowOffset set.schema.columns set.page.lanes set.row.cells = decoded
    at result lanes values lengths ⊢
  generalize Cell.decodeAll set.page.rowOffset set.schema.columns set.page.lanes other.row.cells = again
    at result lanes values alsoLengths ⊢
  obtain ⟨outcome, rest, cells⟩ := decoded
  obtain ⟨_, _, others⟩ := again
  cases result
  cases lanes
  cases outcome with
  | error e =>
    -- the cells may differ from here on, but neither set reads or decodes them again
    exact ⟨rfl,
      { schema := rfl
        page := rfl
        failure := rfl
        openSet := by rintro ⟨⟩
        alsoOpen := by rintro ⟨⟩
        current := rfl
        cells := lengths.2.trans alike.cells
        alsoCells := alsoLengths.2.trans alike.alsoCells
        unread := by rintro ⟨⟩
        decodes := by rintro ⟨⟩ }⟩
  | ok _ =>
    cases values rfl
    exact ⟨rfl,
      { schema := rfl
        page := rfl
        failure := alike.failure
        openSet := by rintro ⟨⟩
        alsoOpen := by rintro ⟨⟩
        current := rfl
        cells := lengths.2.trans alike.cells
        alsoCells := alsoLengths.2.trans alike.alsoCells
        unread := fun _ => unread
        decodes := fun _ => .inl rfl }⟩

theorem advance_of_row (usable : set.usable = .ok ()) (row : set.page.hasRow = true) : set.advance = set.readRow := by
  rw [advance, usable]
  exact if_pos row

theorem Alike.of_failure {more : Nat} {e : Error} (alike : Alike set other left) (failure : set.failure = some e) :
    Alike set other more :=
  { alike with
    unread := by
      rw [failure]
      rintro ⟨⟩ }

theorem Alike.advance (alike : Alike set other (left + 1)) :
    set.advance.1 = other.advance.1 ∧ Alike set.advance.2 other.advance.2 left ∧
      KeptByReading set set.advance.2 := by
  have sameUsable := usable_eq_of_openSet alike.openSet alike.alsoOpen alike.failure
  cases failure : set.failure with
  | some e =>
    -- an earlier row has failed: both refuse for the same reason, and their pages are given up
    have stop : set.usable = .error (.stopped e.message) := by
      rw [usable, if_neg alike.openSet, failure]
    rw [advance_of_unusable stop, advance_of_unusable (sameUsable ▸ stop)]
    exact ⟨rfl, alike.of_failure failure, ⟨rfl, rfl, rfl, rfl, rfl⟩⟩
  | none =>
    have usable := (usable_eq_ok_iff set).mpr ⟨alike.openSet, failure⟩
    have row : set.page.hasRow = true := by
      rw [PageReader.hasRow_eq_true_iff, ← List.length_pos_iff, alike.unread failure]
      exact Nat.mul_pos (by decide) (Nat.succ_pos left)
    rw [advance_of_row usable row, advance_of_row (sameUsable ▸ usable) (alike.page ▸ row)]
    obtain ⟨result, next⟩ := alike.readRow failure
    exact ⟨result, next, kept_of_rowRead (readRow_rowRead set)⟩

theorem Alike.run {calls : List Call} (visits : ∀ call ∈ calls, call.visits)
    (alike : Alike set other (calls.count .advance + left)) :
    set.answers calls = other.answers calls ∧ Alike (set.run calls) (other.run calls) left ∧
      KeptByReading set (set.run calls) := by
  induction calls generalizing set other with
  | nil =>
    rw [List.count_nil, Nat.zero_add] at alike
    exact ⟨rfl, alike, ⟨rfl, rfl, rfl, rfl, rfl⟩⟩
  | cons call rest ih =>
    have later : ∀ call ∈ rest, call.visits := fun call known => visits call (List.mem_cons_of_mem _ known)
    rcases visits call List.mem_cons_self with rfl | reads
    · rw [List.count_cons_self, Nat.add_right_comm] at alike
      obtain ⟨result, next, kept⟩ := alike.advance
      obtain ⟨results, last, keeps⟩ := ih later next
      refine ⟨?_, last, kept.trans keeps⟩
      rw [answers, answers, perform, perform, result, results]
    · have same : (set.perform call).2 = set ∧ (other.perform call).2 = other := by
        cases call <;> first | exact ⟨rfl, rfl⟩ | cases reads
      have counted : (call :: rest).count .advance = rest.count .advance := by
        refine List.count_cons_of_ne ?_
        rintro rfl
        cases reads
      rw [counted] at alike
      obtain ⟨results, last, keeps⟩ := ih later alike
      rw [answers, answers, run, run, same.1, same.2, results,
        perform_of_readsRow alike.schema alike.current reads]
      exact ⟨rfl, last, keeps⟩

/-- The answers of a set whose page has no more rows come from the replies that the server has left. -/
structure Resumes (before drained : ResultSet) (server : Server) (asked : Nat) : Prop where
  held : before.server = some server
  asks : 0 < asked
  search : Search drained.waiting server.fetchReplies asked drained.advance
  replies : drained.advance.2.server = some { server with fetchReplies := server.fetchReplies.drop asked }
  requests : drained.advance.2.journal.requests =
    before.journal.requests ++ List.replicate asked (.fetch
      ⟨before.options.sessionId, before.options.statement, before.options.fetchSize, before.options.queryId, true⟩)

/-- What a set does after a page was set in place of the one before. A new set that starts on the page may be
of any query and have any server. -/
structure TakesOver (before : ResultSet) (page : Page) (after : ResultSet) : Prop where
  hidesRow : ∀ call, call.readsRow = true → (after.perform call).1 = .error .noCurrentRow
  likeNew : ∀ options server, ∃ fresh, create options before.schema server (some page) = .ok fresh ∧
    ∀ calls, (∀ call ∈ calls, call.visits) → calls.count .advance ≤ page.rowCount →
      after.answers calls = fresh.answers calls
  asksNothing : ∀ calls, (∀ call ∈ calls, call.visits) → calls.count .advance ≤ page.rowCount →
    KeptByReading before (after.run calls)
  resumes : before.exhausted = false → ∀ calls, (∀ call ∈ calls, call.visits) →
    calls.count .advance = page.rowCount → (after.run calls).state ≠ .failed →
      ∃ server asked, Resumes before (after.run calls) server asked
  ended : before.exhausted = true → ∀ calls, (after.run calls).fetchesSent = before.fetchesSent
  finishes : before.exhausted = true → ∀ calls, (∀ call ∈ calls, call.visits) →
    calls.count .advance = page.rowCount → (after.run calls).state ≠ .failed →
      (after.run calls).advance.1 = .ok false

theorem exhausted_perform (ended : set.exhausted = true) (call : Call) :
    (set.perform call).2.exhausted = true ∧ (set.perform call).2.fetchesSent = set.fetchesSent := by
  cases call with
  | advance =>
    have advanced := advance_advanced set
    change set.advance.2.exhausted = true ∧ set.advance.2.fetchesSent = set.fetchesSent
    generalize set.advance = outcome at advanced ⊢
    cases advanced with
    | unusable e stop => exact ⟨ended, rfl⟩
    | read usable row =>
      have kept := kept_of_rowRead (readRow_rowRead set)
      exact ⟨kept.exhausted.trans ended, fetchesSent_of_kept kept⟩
    | ended usable row last => exact ⟨ended, rfl⟩
    | unserved usable row more released => exact ⟨ended, rfl⟩
    | sought server usable row more held =>
      rw [more] at ended
      cases ended
  | setPage page =>
    have pageSet := setPage_pageSet set page
    change (set.setPage page).2.exhausted = true ∧ (set.setPage page).2.fetchesSent = set.fetchesSent
    generalize set.setPage page = outcome at pageSet ⊢
    cases pageSet with
    | installed reader =>
      exact ⟨ended, congrArg List.length (fetchRequests_install set page reader)⟩
    | _ => exact ⟨ended, rfl⟩
  | close =>
    refine ⟨?_, fetchesSent_close set⟩
    change set.close.2.exhausted = true
    by_cases closed : set.state = .closed
    · rw [close_of_closed closed]
      exact ended
    · obtain ⟨entries, next⟩ := close_eq_released closed
      rw [next]
      exact ended
  | read reading selector => exact ⟨ended, rfl⟩
  | currentRow => exact ⟨ended, rfl⟩

theorem fetchesSent_run_of_exhausted (ended : set.exhausted = true) (calls : List Call) :
    (set.run calls).fetchesSent = set.fetchesSent := by
  refine (run_keeps (P := fun next => next.exhausted = true ∧ next.fetchesSent = set.fetchesSent) ?_
    ⟨ended, rfl⟩ calls).2
  rintro next call ⟨stillEnded, same⟩
  obtain ⟨ended, sent⟩ := exhausted_perform stillEnded call
  exact ⟨ended, sent.trans same⟩

theorem replaced_openSet (openSet : set.state ≠ .closed) (page : Page) (reader : PageReader) :
    (set.replaced page reader).state ≠ .closed :=
  state_replaced_ne openSet (by decide) page reader

theorem kept_replaced (set : ResultSet) (page : Page) (reader : PageReader) :
    KeptByReading set (set.replaced page reader) :=
  ⟨rfl, rfl, rfl, rfl, requests_report _ _⟩

theorem alike_replaced (usable : set.usable = .ok ()) (cells : set.row.cells.length = set.schema.slotCount)
    {page : Page} {reader : PageReader} (accepted : PageReader.start page set.schema.slotCount = .ok reader)
    (options : Options) (server : Server) :
    Alike (set.replaced page reader) ((opened options set.schema server).install page reader) page.rowCount := by
  have openSet := replaced_openSet ((usable_eq_ok_iff set).mp usable).1 page reader
  obtain ⟨isReader, whole, _⟩ := PageReader.start_eq_ok accepted
  exact
    { schema := rfl
      page := rfl
      failure := ((usable_eq_ok_iff set).mp usable).2
      openSet := openSet
      alsoOpen := by rintro ⟨⟩
      current := current_of_no_row openSet rfl
      cells := cells
      alsoCells := List.length_replicate
      unread := fun _ => by rw [← whole, isReader]; rfl
      decodes := fun _ => .inr (by rw [isReader]; rfl) }

theorem Alike.hasRow_eq_false (alike : Alike set other 0) (intact : set.failure = none) : set.page.hasRow = false := by
  have none := alike.unread intact
  rw [Nat.mul_zero, List.length_eq_zero_iff] at none
  rw [PageReader.hasRow, none]
  rfl

theorem resumes_of_drained {before : ResultSet} (coherent : Coherent set) (alike : Alike set other 0)
    (kept : KeptByReading before set) (more : before.exhausted = false) (going : set.state ≠ .failed) :
    ∃ server asked, Resumes before set server asked := by
  have usable := coherent.usable_of_state alike.openSet going
  have noRow := alike.hasRow_eq_false ((usable_eq_ok_iff set).mp usable).2
  obtain ⟨server, held⟩ : ∃ server, set.server = some server := by
    cases released : set.server with
    | none => exact absurd (coherent.released.mpr released) alike.openSet
    | some server => exact ⟨server, rfl⟩
  have seeks : set.advance = set.waiting.seek server.fetchReplies := by
    rw [advance, usable]
    simp only [noRow, kept.exhausted, more, held, Bool.false_eq_true, if_false]
  obtain ⟨asked, search⟩ := seek_search set.waiting server.fetchReplies
  rw [← seeks] at search
  refine ⟨server, asked, kept.server.symm.trans held, search.asked_pos, search, ?_, ?_⟩
  · rw [search.server]
    change set.server.map _ = _
    rw [held]
    rfl
  · rw [search.requests]
    change set.journal.requests ++ List.replicate asked
      (.fetch ⟨set.options.sessionId, set.options.statement, set.options.fetchSize, set.options.queryId, true⟩) = _
    rw [kept.requests, kept.options]

theorem finishes_of_drained (coherent : Coherent set) (alike : Alike set other 0) (last : set.exhausted = true)
    (going : set.state ≠ .failed) : set.advance.1 = .ok false := by
  have usable := coherent.usable_of_state alike.openSet going
  have noRow := alike.hasRow_eq_false ((usable_eq_ok_iff set).mp usable).2
  rw [advance, usable]
  simp only [noRow, last, Bool.false_eq_true, if_false, if_true]

theorem takesOver_replaced (coherent : Coherent set) {page : Page} {reader : PageReader}
    (usable : set.usable = .ok ()) (accepted : PageReader.start page set.schema.slotCount = .ok reader) :
    TakesOver set page (set.replaced page reader) := by
  have openSet := replaced_openSet ((usable_eq_ok_iff set).mp usable).1 page reader
  have kept := kept_replaced set page reader
  have alike := alike_replaced usable coherent.cells accepted
  have reached : Coherent (set.replaced page reader) :=
    coherent_of_pageSet coherent (.installed reader usable accepted)
  have lasts : ∀ calls : List Call, calls.count .advance ≤ page.rowCount →
      page.rowCount = calls.count .advance + (page.rowCount - calls.count .advance) := by
    intro calls within
    omega
  constructor
  case hidesRow => exact fun call reads => perform_of_unreadable (current_of_no_row openSet rfl) reads
  case likeNew =>
    intro options server
    refine ⟨_, create_of_accepted accepted server, fun calls visits within => ?_⟩
    have alike := alike options server
    rw [lasts calls within] at alike
    exact (alike.run visits).1
  case asksNothing =>
    intro calls visits within
    -- any new set will do to compare with
    have alike := alike set.options ⟨[], []⟩
    rw [lasts calls within] at alike
    exact kept.trans (alike.run visits).2.2
  case resumes =>
    intro more calls visits drained going
    have alike := alike set.options ⟨[], []⟩
    rw [← drained] at alike
    obtain ⟨_, alike, keeps⟩ := @Alike.run _ _ 0 _ visits alike
    exact resumes_of_drained (coherent_run reached calls) alike (kept.trans keeps) more going
  case ended =>
    intro last calls
    exact (fetchesSent_run_of_exhausted (kept.exhausted.trans last) calls).trans (fetchesSent_of_kept kept)
  case finishes =>
    intro last calls visits drained going
    have alike := alike set.options ⟨[], []⟩
    rw [← drained] at alike
    obtain ⟨_, alike, keeps⟩ := @Alike.run _ _ 0 _ visits alike
    exact finishes_of_drained (coherent_run reached calls) alike ((kept.trans keeps).exhausted.trans last) going

/-- A page is set all or not at all: one that does not fit leaves the set as it was, and one that fits takes
the place of the page in hand, in whatever state the set is and however much of its page was read. -/
theorem setPage_replaces {options : Options} {schema : Schema} {server : Server} {initial : Option Page}
    (created : create options schema server initial = .ok set) (calls : List Call)
    (openSet : (set.run calls).state ≠ .closed) (going : (set.run calls).state ≠ .failed) (page : Page) :
    (∃ fault, (set.run calls).setPage page = (.error (.malformedPage fault), set.run calls)) ∨
      ∃ after, (set.run calls).setPage page = (.ok (), after) ∧ TakesOver (set.run calls) page after := by
  have coherent := coherent_run (coherent_create created).1 calls
  have usable := coherent.usable_of_state openSet going
  have pageSet := setPage_pageSet (set.run calls) page
  generalize (set.run calls).setPage page = outcome at pageSet ⊢
  cases pageSet with
  | unusable e stop =>
    rw [usable] at stop
    cases stop
  | unfit e _ unfit =>
    obtain ⟨fault, rfl⟩ := PageReader.start_eq_error unfit
    exact .inl ⟨fault, rfl⟩
  | installed reader _ accepted => exact .inr ⟨_, rfl, takesOver_replaced coherent usable accepted⟩

theorem setPage_replaces_of_row_in_hand :
    ∃ set before, create oneColumn ⟨["Time", "s1"], [⟨"s1", .int32⟩], true⟩ ⟨[.answered .exhausted], []⟩ none =
        .ok set ∧
      before = set.run [.advance, .setPage
        ⟨[0, 0, 0, 0, 0, 0, 0, 1, 0, 0, 0, 0, 0, 0, 0, 2], [[0x40]], [[0, 0, 0, 7]]⟩, .advance] ∧
      before.state = .hasCachedRow ∧ before.exhausted = true ∧
      ((∃ fault, before.setPage ⟨[0, 0, 0, 0, 0, 0, 0, 3], [[0x80]], [[0, 0, 0, 9]]⟩ =
          (.error (.malformedPage fault), before)) ∨
        ∃ after, before.setPage ⟨[0, 0, 0, 0, 0, 0, 0, 3], [[0x80]], [[0, 0, 0, 9]]⟩ = (.ok (), after) ∧
          TakesOver before ⟨[0, 0, 0, 0, 0, 0, 0, 3], [[0x80]], [[0, 0, 0, 9]]⟩ after) :=
  ⟨_, _, rfl, rfl, rfl, rfl, @setPage_replaces _ oneColumn ⟨["Time", "s1"], [⟨"s1", .int32⟩], true⟩
    ⟨[.answered .exhausted], []⟩ none rfl _ (by rintro ⟨⟩) (by rintro ⟨⟩) _⟩

end ResultSet

end SeriesCursor
