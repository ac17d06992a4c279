import SeriesCursor.Proofs.Coherence
import SeriesCursor.Proofs.Reading
import SeriesCursor.Proofs.Searching
import SeriesCursor.Proofs.Stopping

/-!
Where the answers about a row come from. Cells are overwritten in place and never cleared, pages are
replaced in the middle of a block, and a row that fails leaves some of its cells behind. Still, an answer
is always decoded from the row that the last call for a next row took, off the page that was in hand then.

The page and the number of the row are told by an account that is kept from outside, from what the calls
give and from the replies that they use up; the cells by the columns of that page, each decoded by itself.
-/

namespace SeriesCursor

/-- A page as it was delivered, and how many of its rows have been taken. -/
structure Position where
  page : Page
  taken : Nat
  deriving DecidableEq, Repr

namespace Page

def rowInHand (columns : List Column) (page : Page) (row : Nat) : Row :=
  (⟨page.time, page.lanes, 0⟩ : PageReader).rowAt columns row

end Page

namespace ResultSet

def repliesLeft (set : ResultSet) : List FetchReply :=
  set.server.elim [] Server.fetchReplies

def broughtLast (slots : Nat) (used : List FetchReply) : Option Page :=
  (used.filterMap (FetchReply.page? slots)).getLast?

/-- The page that a call for the next row installs last, told by the replies that it uses up. -/
def fetchedPage (set : ResultSet) : Option Page :=
  broughtLast set.schema.slotCount
    (set.repliesLeft.take (set.repliesLeft.length - set.advance.2.repliesLeft.length))

def track (set : ResultSet) (position : Option Position) : Call → Option Position
  | .advance =>
    let standing := (set.fetchedPage.map fun page => ⟨page, 0⟩).or position
    match set.advance.1 with
    | .ok true => standing.map fun position => { position with taken := position.taken + 1 }
    | _ => standing
  | .setPage page =>
    match (set.setPage page).1 with
    | .ok _ => some ⟨page, 0⟩
    | .error _ => position
  | _ => position

def trackAll (set : ResultSet) (position : Option Position) : List Call → Option Position
  | [] => position
  | call :: rest => (set.perform call).2.trackAll (set.track position call) rest

def LeavesRow (set : ResultSet) : List Call → Prop
  | [] => True
  | call :: rest =>
    call ≠ .advance ∧ call ≠ .close ∧ (∀ page, call = .setPage page → (set.setPage page).1 ≠ .ok ()) ∧
      LeavesRow (set.perform call).2 rest

def showing (options : Options) (schema : Schema) (row : Row) : ResultSet where
  options := options
  schema := schema
  server := none
  page := .empty
  row := row
  state := .hasCachedRow
  exhausted := false
  failure := none
  journal := []

/-- The set is that many rows into a page, and what it has in hand is the row that was taken last. -/
structure ReadsPage (set : ResultSet) (page : Page) (taken : Nat) : Prop where
  whole : page.time.length = Page.timeWidth * page.rowCount
  aligned : page.lanes.length = set.schema.slotCount
  inside : taken ≤ page.rowCount
  inHand : set.page = (⟨page.time, page.lanes, 0⟩ : PageReader).past set.schema.columns taken
  going : Lane.firstFailure set.schema.columns page.lanes taken = none
  ready : Row.Ready set.schema.columns ⟨page.time, page.lanes, 0⟩ taken set.row
  row : set.row.present = true → ∃ row, taken = row + 1 ∧ set.row = page.rowInHand set.schema.columns row

structure Bare (set : ResultSet) : Prop where
  noRow : set.row.present = false
  drained : set.page.hasRow = false

/-- The account agrees with the set, which may have nothing to account for. -/
inductive Traced (set : ResultSet) : Option Position → Prop where
  | bare (position : Option Position) (bare : Bare set) : Traced set position
  | reads (page : Page) (taken : Nat) (reads : ReadsPage set page taken) : Traced set (some ⟨page, taken⟩)

variable {set : ResultSet} {page : Page} {taken : Nat}

theorem bare_fail (row : Row) (e : Error) : Bare (fail { set with row := row } e) :=
  ⟨rfl, rfl⟩

theorem ReadsPage.unread (reads : ReadsPage set page taken) (row : set.page.hasRow = true) :
    taken < page.rowCount := by
  apply Nat.lt_of_le_of_ne reads.inside
  rintro rfl
  apply (PageReader.hasRow_eq_true_iff _).mp row
  rw [reads.inHand]
  exact List.drop_eq_nil_of_le (Nat.le_of_eq reads.whole)

theorem ReadsPage.readRow (reads : ReadsPage set page taken) (row : set.page.hasRow = true) :
    (set.readRow.1 = .ok true ∧ ReadsPage set.readRow.2 page (taken + 1)) ∨
      (∃ e, set.readRow.1 = .error e) ∧ Bare set.readRow.2 := by
  have more := reads.unread row
  have unread : Page.timeWidth * (taken + 1) ≤ page.time.length := by
    rw [reads.whole]
    exact Nat.mul_le_mul_left _ more
  rw [ResultSet.readRow, reads.inHand]
  cases failure : Lane.firstFailure set.schema.columns page.lanes (taken + 1) with
  | none =>
    rw [Row.materialize_past reads.aligned unread reads.ready failure]
    refine .inl ⟨rfl, ?_⟩
    exact
      { whole := reads.whole
        aligned := reads.aligned
        inside := more
        inHand := rfl
        going := failure
        ready := Row.ready_next reads.aligned failure
        row := fun _ => ⟨taken, rfl, rfl⟩ }
  | some e =>
    -- the columns before the one that fails have new cells already, but the row is no row in hand
    have failed := Row.materialize_past_of_failure reads.aligned unread reads.ready reads.going failure
    right
    cases result : set.row.materialize set.schema.columns
        ((⟨page.time, page.lanes, 0⟩ : PageReader).past set.schema.columns taken) with
    | mk outcome inHand =>
      rw [result] at failed
      cases failed
      exact ⟨⟨e, rfl⟩, bare_fail _ _⟩

theorem readsPage_start {reader : PageReader} (accepted : PageReader.start page set.schema.slotCount = .ok reader)
    (inHand : set.page = reader) (cells : set.row.cells.length = set.schema.slotCount)
    (noRow : set.row.present = false) (row : reader.hasRow = true) : ReadsPage set page 0 := by
  obtain ⟨rfl, whole, fits⟩ := PageReader.start_eq_ok accepted
  obtain ⟨bitmaps, values⟩ := fits ((PageReader.hasRow_eq_true_iff _).mp row)
  have aligned : page.lanes.length = set.schema.slotCount := by simp [Page.lanes, bitmaps, values]
  exact
    { whole := whole
      aligned := aligned
      inside := Nat.zero_le _
      inHand := by rw [inHand, PageReader.past_zero aligned rfl]
      going := Lane.firstFailure_zero _ _
      ready := ⟨cells, Cell.allCover_zero _ _⟩
      row := by
        intro present
        rw [noRow] at present
        cases present }

theorem traced_start {reader : PageReader} (accepted : PageReader.start page set.schema.slotCount = .ok reader)
    (inHand : set.page = reader) (cells : set.row.cells.length = set.schema.slotCount)
    (noRow : set.row.present = false) : Traced set (some ⟨page, 0⟩) := by
  cases row : reader.hasRow with
  | true => exact .reads page 0 (readsPage_start accepted inHand cells noRow row)
  | false => exact .bare _ ⟨noRow, inHand ▸ row⟩

theorem broughtLast_cons (slots : Nat) {reply : FetchReply} {page : Page} (used : List FetchReply)
    (brought : reply.page? slots = some page) :
    broughtLast slots (reply :: used) = (broughtLast slots used).or (some page) := by
  rw [broughtLast, List.filterMap_cons_some brought, List.getLast?_cons, broughtLast]
  cases (used.filterMap (FetchReply.page? slots)).getLast? <;> rfl

theorem Search.traced {replies : List FetchReply} {asked : Nat} {outcome : Except Error Bool × ResultSet}
    (search : Search set replies asked outcome) (bare : Bare set)
    (cells : set.row.cells.length = set.schema.slotCount) :
    (outcome.1 = .ok true ∧ ∃ page, broughtLast set.schema.slotCount (replies.take asked) = some page ∧
        ReadsPage outcome.2 page 1) ∨
      outcome.1 ≠ .ok true ∧ Bare outcome.2 := by
  induction search with
  | ranOut set => exact .inr ⟨by rintro ⟨⟩, bare.noRow, bare.drained⟩
  | stopped set reply later e received => exact .inr ⟨by rintro ⟨⟩, bare.noRow, bare.drained⟩
  | noMore set reply later received => exact .inr ⟨by rintro ⟨⟩, bare.noRow, bare.drained⟩
  | read set reply later page reader brought accepted row =>
    have reads : ReadsPage ((set.ask later).install page reader) page 0 :=
      readsPage_start accepted rfl cells bare.noRow row
    rcases reads.readRow row with ⟨served, next⟩ | ⟨⟨e, failed⟩, gone⟩
    · refine .inl ⟨served, page, ?_, next⟩
      rw [List.take_succ_cons, List.take_zero, broughtLast_cons _ _ brought]
      rfl
    · refine .inr ⟨?_, gone⟩
      rw [failed]
      rintro ⟨⟩
  | skipped set reply later page reader asked outcome brought accepted noRow rest ih =>
    have next : Bare ((set.ask later).install page reader) := ⟨bare.noRow, noRow⟩
    rcases ih next cells with ⟨served, found, last, reads⟩ | missed
    · refine .inl ⟨served, found, ?_, reads⟩
      have newer : broughtLast set.schema.slotCount (later.take asked) = some found := last
      rw [List.take_succ_cons, broughtLast_cons _ _ brought, newer]
      rfl
    · exact .inr missed

theorem take_used (replies : List FetchReply) (asked : Nat) :
    replies.take (replies.length - (replies.drop asked).length) = replies.take asked := by
  rw [List.length_drop, List.take_eq_take_iff]
  omega

theorem fetchedPage_of_kept (kept : set.advance.2.server = set.server) : set.fetchedPage = none := by
  rw [fetchedPage, repliesLeft, repliesLeft, kept, Nat.sub_self]
  rfl

theorem fetchedPage_of_search {server : Server} {asked : Nat} (held : set.server = some server)
    (search : Search set.waiting server.fetchReplies asked set.advance) :
    set.fetchedPage = broughtLast set.schema.slotCount (server.fetchReplies.take asked) := by
  have before : set.repliesLeft = server.fetchReplies := by
    rw [repliesLeft, held]
    rfl
  have left : set.advance.2.repliesLeft = server.fetchReplies.drop asked := by
    rw [repliesLeft, search.server]
    change ((set.server.map _).elim [] Server.fetchReplies) = _
    rw [held]
    rfl
  rw [fetchedPage, left, before, take_used]

theorem traced_advance {position : Option Position} (cells : set.row.cells.length = set.schema.slotCount)
    (traced : Traced set position) : Traced set.advance.2 (set.track position .advance) := by
  have advanced := advance_advanced set
  generalize outcome : set.advance = next at advanced
  rw [track]
  cases advanced with
  | unusable e stop =>
    have none := fetchedPage_of_kept (congrArg (fun moved => moved.2.server) outcome)
    rw [none, outcome]
    exact traced
  | read usable row =>
    cases traced with
    | bare position bare =>
      rw [bare.drained] at row
      cases row
    | reads page taken reads =>
      -- no reply is used up, so that the account stays on the page
      have kept := kept_of_rowRead (readRow_rowRead set)
      have none := fetchedPage_of_kept ((congrArg (fun moved => moved.2.server) outcome).trans kept.server)
      rw [none, outcome]
      rcases reads.readRow row with ⟨served, next⟩ | ⟨⟨e, failed⟩, gone⟩
      · rw [served]
        exact .reads page (taken + 1) next
      · exact .bare _ gone
  | ended usable row last => exact .bare _ ⟨rfl, row⟩
  | unserved usable row more released => exact .bare _ ⟨rfl, row⟩
  | sought server usable row more held =>
    obtain ⟨asked, search⟩ := seek_search set.waiting server.fetchReplies
    have fetched := fetchedPage_of_search held (outcome ▸ search)
    rcases search.traced ⟨rfl, row⟩ cells with ⟨served, page, last, reads⟩ | ⟨missed, bare⟩
    · have brought : broughtLast set.schema.slotCount (server.fetchReplies.take asked) = some page := last
      rw [fetched, brought, outcome, served]
      exact .reads page 1 reads
    · exact .bare _ bare

theorem traced_perform {position : Option Position} (coherent : Coherent set) (traced : Traced set position)
    (call : Call) : Traced (set.perform call).2 (set.track position call) := by
  cases call with
  | advance => exact traced_advance coherent.cells traced
  | setPage page =>
    have pageSet := setPage_pageSet set page
    simp only [perform, track]
    generalize set.setPage page = outcome at pageSet ⊢
    cases pageSet with
    | unusable e stop => exact traced
    | unfit e usable unfit => exact traced
    | installed reader usable accepted =>
      exact @traced_start (set.replaced page reader) page reader accepted rfl coherent.cells rfl
  | close =>
    by_cases closed : set.state = .closed
    · rw [perform, close_of_closed closed]
      exact traced
    · obtain ⟨entries, next⟩ := close_eq_released closed
      rw [perform, next]
      exact .bare _ ⟨rfl, rfl⟩
  | read reading selector => exact traced
  | currentRow => exact traced

theorem traced_run {position : Option Position} (coherent : Coherent set) (traced : Traced set position)
    (calls : List Call) : Traced (set.run calls) (set.trackAll position calls) := by
  induction calls generalizing set position with
  | nil => exact traced
  | cons call rest ih => exact ih (coherent_perform coherent call) (traced_perform coherent traced call)

theorem traced_create {options : Options} {schema : Schema} {server : Server} {initial : Option Page}
    (created : create options schema server initial = .ok set) :
    Traced set (initial.map fun page => ⟨page, 0⟩) := by
  cases create_created created with
  | withoutPage => exact .bare _ ⟨rfl, rfl⟩
  | onPage page reader accepted => exact traced_start accepted rfl List.length_replicate rfl

theorem served_of_present (coherent : Coherent set) (present : set.advance.2.row.present = true) :
    set.advance.1 = .ok true := by
  have advanced := advance_advanced set
  generalize set.advance = outcome at advanced present ⊢
  cases advanced with
  | unusable e stop =>
    have cached := coherent.row.mp present
    rw [coherent.usable_of_state (by rw [cached]; rintro ⟨⟩) (by rw [cached]; rintro ⟨⟩)] at stop
    cases stop
  | read usable row =>
    have read := readRow_rowRead set
    generalize set.readRow = outcome at read present ⊢
    cases read with
    | decoded => rfl
    | stopped => cases present
  | ended => cases present
  | unserved => cases present
  | sought server usable row more held =>
    obtain ⟨asked, search⟩ := seek_search set.waiting server.fetchReplies
    rcases search.traced ⟨rfl, row⟩ coherent.cells with ⟨served, _⟩ | ⟨_, bare⟩
    · exact served
    · rw [bare.noRow] at present
      cases present

theorem setPage_of_present (present : (set.setPage page).2.row.present = true) :
    (set.setPage page).1 ≠ .ok () ∧ (set.setPage page).2 = set := by
  have pageSet := setPage_pageSet set page
  generalize set.setPage page = outcome at pageSet present ⊢
  cases pageSet with
  | unusable e stop => exact ⟨by rintro ⟨⟩, rfl⟩
  | unfit e usable unfit => exact ⟨by rintro ⟨⟩, rfl⟩
  | installed => cases present

theorem last_advance_of_present (coherent : Coherent set) (calls : List Call)
    (present : (set.run calls).row.present = true) :
    (LeavesRow set calls ∧ set.run calls = set) ∨
      ∃ before after, calls = before ++ .advance :: after ∧ (set.run before).advance.1 = .ok true ∧
        LeavesRow (set.run before).advance.2 after ∧ set.run calls = (set.run before).advance.2 := by
  induction calls generalizing set with
  | nil => exact .inl ⟨trivial, rfl⟩
  | cons call rest ih =>
    have kept := coherent_perform coherent call
    rcases ih kept present with ⟨leaves, same⟩ | ⟨before, after, split, served, leaves, same⟩
    · -- the later calls leave the row, so that this one gave it or left it as well
      rw [run, same] at present ⊢
      cases call with
      | advance => exact .inr ⟨[], rest, rfl, served_of_present coherent present, leaves, rfl⟩
      | setPage page =>
        obtain ⟨refused, unchanged⟩ := setPage_of_present present
        refine .inl ⟨⟨by rintro ⟨⟩, by rintro ⟨⟩, ?_, leaves⟩, unchanged⟩
        rintro _ ⟨⟩
        exact refused
      | close =>
        have cached := kept.row.mp present
        rw [show (set.perform .close).2.state = .closed from close_closed set] at cached
        cases cached
      | read reading selector =>
        exact .inl ⟨⟨by rintro ⟨⟩, by rintro ⟨⟩, by rintro _ ⟨⟩, leaves⟩, rfl⟩
      | currentRow => exact .inl ⟨⟨by rintro ⟨⟩, by rintro ⟨⟩, by rintro _ ⟨⟩, leaves⟩, rfl⟩
    · exact .inr ⟨call :: before, after, by rw [split]; rfl, served, leaves, same⟩

/-- The call for a next row that took the row in hand, and the row of the page that it took: no call after it
asked for another row, closed, or replaced the page. -/
structure Origin (set : ResultSet) (initial : Option Page) (calls before after : List Call) (page : Page)
    (row : Nat) : Prop where
  split : calls = before ++ .advance :: after
  served : (set.run before).advance.1 = .ok true
  untouched : LeavesRow (set.run before).advance.2 after
  taken : set.trackAll (initial.map fun page => ⟨page, 0⟩) (before ++ [.advance]) = some ⟨page, row + 1⟩
  inside : row < page.rowCount

variable {options : Options} {schema : Schema} {server : Server} {initial : Option Page}

theorem origin_of_present (created : create options schema server initial = .ok set) (calls : List Call)
    (present : (set.run calls).row.present = true) :
    ∃ before after page row, Origin set initial calls before after page row ∧
      (set.run calls).row = page.rowInHand schema.columns row := by
  have coherent := (coherent_create created).1
  rcases last_advance_of_present coherent calls present with
    ⟨_, same⟩ | ⟨before, after, split, served, untouched, same⟩
  · rw [same] at present
    cases create_created created <;> cases present
  · have now : set.run (before ++ [.advance]) = (set.run before).advance.2 := by
      rw [run_append]
      rfl
    have traced := traced_run coherent (traced_create created) (before ++ [.advance])
    rw [now] at traced
    rw [same] at present ⊢
    have here := schema_run set (before ++ [.advance])
    rw [now] at here
    generalize held : set.trackAll (initial.map fun page => ⟨page, 0⟩) (before ++ [.advance]) = position
      at traced
    cases traced with
    | bare position bare =>
      rw [bare.noRow] at present
      cases present
    | reads page taken reads =>
      obtain ⟨row, rfl, value⟩ := reads.row present
      have sameSchema : set.schema = schema := by cases create_created created <;> rfl
      rw [here, sameSchema] at value
      exact ⟨before, after, page, row, ⟨split, served, untouched, held, reads.inside⟩, value⟩

/-- What a call that reads gives back is what it gives back for the row that the last call for a next row
took, as the columns of its page decode it. -/
theorem reads_row_of_last_advance (created : create options schema server initial = .ok set) (calls : List Call)
    {call : Call} (reads : call.readsRow = true) {answer : Answer}
    (answered : ((set.run calls).perform call).1 = .ok answer) :
    ∃ before after page row, Origin set initial calls before after page row ∧
      ((showing options schema (page.rowInHand schema.columns row)).perform call).1 = .ok answer := by
  obtain ⟨row, readable⟩ : ∃ row, (set.run calls).current = .ok row := by
    cases unreadable : (set.run calls).current with
    | error e =>
      rw [perform_of_unreadable unreadable reads] at answered
      cases answered
    | ok row => exact ⟨row, rfl⟩
  obtain ⟨rfl, present⟩ := current_eq_ok readable
  obtain ⟨before, after, page, row, origin, inHand⟩ := origin_of_present created calls present
  refine ⟨before, after, page, row, origin, ?_⟩
  rw [← answered]
  refine perform_of_readsRow ?_ ?_ reads
  · rw [schema_run]
    cases create_created created <;> rfl
  · rw [readable, inHand]
    rfl

theorem reads_row_of_last_advance_of_null_after_value :
    ∃ set, create oneColumn ⟨["Time", "s1"], [⟨"s1", .int32⟩], true⟩ ⟨[], []⟩
        (some ⟨[0, 0, 0, 0, 0, 0, 0, 1, 0, 0, 0, 0, 0, 0, 0, 2], [[0xC0]], [[0, 0, 0, 7, 0, 0, 0, 8]]⟩) = .ok set ∧
      ((set.run [.advance]).perform (.read .isNull (.position 2))).1 = .ok (.bool false) ∧
      ∃ before after page row,
        Origin set (some ⟨[0, 0, 0, 0, 0, 0, 0, 1, 0, 0, 0, 0, 0, 0, 0, 2], [[0xC0]], [[0, 0, 0, 7, 0, 0, 0, 8]]⟩)
          [.advance, .setPage ⟨[0, 0, 0, 0, 0, 0, 0, 3], [[0]], [[]]⟩, .advance, .setPage ⟨[9], [], []⟩]
          before after page row ∧
        ((showing oneColumn ⟨["Time", "s1"], [⟨"s1", .int32⟩], true⟩
          (page.rowInHand [⟨"s1", .int32⟩] row)).perform (.read .isNull (.position 2))).1 = .ok (.bool true) :=
  ⟨_, rfl, rfl, @reads_row_of_last_advance _ _ _ _ _ rfl _ (.read .isNull (.position 2)) rfl _ rfl⟩

end ResultSet

end SeriesCursor
