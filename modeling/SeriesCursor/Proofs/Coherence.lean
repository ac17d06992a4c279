import SeriesCursor.Proofs.ColumnRefinement
import SeriesCursor.Proofs.Transitions

/-!
The parts of a result set stay in step. State, row, server, failure and exhaustion are kept in fields of
their own, which every move changes in its own order; after every call they agree, and the cursors of
the page agree with the rows it had when it was installed.
-/

namespace SeriesCursor

namespace Journal

def installedRows (journal : Journal) : Nat :=
  journal.foldl (fun rows entry => match entry with
    | .event (.pageInstalled installed _) => installed
    | _ => rows) 0

theorem installedRows_append_request (journal : Journal) (event : Event) (request : FetchRequest)
    (quiet : ∀ rows bytes, event ≠ .pageInstalled rows bytes) :
    installedRows (journal ++ [.event event, .fetch request]) = journal.installedRows := by
  rw [installedRows, List.foldl_append]
  cases event with
  | pageInstalled rows bytes => exact absurd rfl (quiet rows bytes)
  | _ => rfl

theorem installedRows_append_pageInstalled (journal : Journal) (rows bytes : Nat) :
    installedRows (journal ++ [.event (.pageInstalled rows bytes)]) = rows := by
  rw [installedRows, List.foldl_append]
  rfl

theorem installedRows_append_noMoreData (journal : Journal) (queryId : Int64) :
    installedRows (journal ++ [.event (.noMoreData queryId)]) = journal.installedRows := by
  rw [installedRows, List.foldl_append]
  rfl

end Journal

namespace ResultSet

/-- The rows that the page in hand had when it was installed. A set that has failed or is closed has
given its page up for the empty one. -/
def installedRows (set : ResultSet) : Nat :=
  if set.state = .failed ∨ set.state = .closed then 0 else set.journal.installedRows

structure Coherent (set : ResultSet) : Prop where
  row : set.row.present = true ↔ set.state = .hasCachedRow
  released : set.state = .closed ↔ set.server = none
  failed : set.state = .failed → set.failure.isSome
  stopped : set.failure.isSome → set.state = .failed ∨ set.state = .closed
  exhausted : set.state = .empty → set.exhausted = true
  drained : set.state = .failed ∨ set.state = .closed → set.page.hasRow = false
  wholeTimes : set.page.time.length % 8 = 0
  lanes : set.page.hasRow = true → set.page.lanes.length = set.schema.slotCount
  cells : set.row.cells.length = set.schema.slotCount
  rows : set.page.rowOffset + set.page.remainingRows = set.installedRows

structure Going (set : ResultSet) : Prop where
  notFailed : set.state ≠ .failed
  notClosed : set.state ≠ .closed
  served : set.server ≠ none
  intact : set.failure = none

/-- The page in hand and the row fit the schema and each other, and the journal has the page's rows. -/
structure Reads (set : ResultSet) : Prop where
  wholeTimes : set.page.time.length % 8 = 0
  lanes : set.page.hasRow = true → set.page.lanes.length = set.schema.slotCount
  cells : set.row.cells.length = set.schema.slotCount
  rows : set.page.rowOffset + set.page.remainingRows = set.journal.installedRows

variable {set : ResultSet}

theorem installedRows_of_going (going : Going set) : set.installedRows = set.journal.installedRows :=
  if_neg (not_or.mpr ⟨going.notFailed, going.notClosed⟩)

theorem rows_of_given_up (gaveUp : set.state = .failed ∨ set.state = .closed) (given : set.page = .empty) :
    set.page.rowOffset + set.page.remainingRows = set.installedRows := by
  rw [installedRows, if_pos gaveUp, given]
  rfl

theorem Reads.enough (reads : Reads set) (row : set.page.hasRow = true) :
    Page.timeWidth ≤ set.page.time.length := by
  have some := List.length_pos_iff.mpr ((PageReader.hasRow_eq_true_iff _).mp row)
  have whole := reads.wholeTimes
  simp only [Page.timeWidth]
  omega

theorem Coherent.going (coherent : Coherent set) (usable : set.usable = .ok ()) : Going set where
  notFailed := by
    intro failed
    have recorded := coherent.failed failed
    rw [((usable_eq_ok_iff set).mp usable).2] at recorded
    cases recorded
  notClosed := ((usable_eq_ok_iff set).mp usable).1
  served := by
    intro none
    exact ((usable_eq_ok_iff set).mp usable).1 (coherent.released.mpr none)
  intact := ((usable_eq_ok_iff set).mp usable).2

theorem Coherent.usable_of_state (coherent : Coherent set) (openSet : set.state ≠ .closed)
    (going : set.state ≠ .failed) : set.usable = .ok () := by
  refine (usable_eq_ok_iff set).mpr ⟨openSet, ?_⟩
  cases failure : set.failure with
  | none => rfl
  | some e =>
    rcases coherent.stopped (by rw [failure]; rfl) with failed | closed
    · exact absurd failed going
    · exact absurd closed openSet

theorem Coherent.reads (coherent : Coherent set) (going : Going set) : Reads set where
  wholeTimes := coherent.wholeTimes
  lanes := coherent.lanes
  cells := coherent.cells
  rows := by rw [coherent.rows, installedRows_of_going going]

theorem Going.coherent (going : Going set) (reads : Reads set)
    (row : set.row.present = true ↔ set.state = .hasCachedRow)
    (exhausted : set.state = .empty → set.exhausted = true) : Coherent set where
  row := row
  released := ⟨fun closed => absurd closed going.notClosed, fun none => absurd none going.served⟩
  failed := fun failed => absurd failed going.notFailed
  stopped := by
    intro recorded
    rw [going.intact] at recorded
    cases recorded
  exhausted := exhausted
  drained := by
    rintro (failed | closed)
    · exact absurd failed going.notFailed
    · exact absurd closed going.notClosed
  wholeTimes := reads.wholeTimes
  lanes := reads.lanes
  cells := reads.cells
  rows := by rw [reads.rows, installedRows_of_going going]

theorem Going.coherent_fail (going : Going set) {row : Row} (cells : row.cells.length = set.schema.slotCount)
    (e : Error) : Coherent (fail { set with row := row } e) where
  row := ⟨by rintro ⟨⟩, by rintro ⟨⟩⟩
  released := ⟨by rintro ⟨⟩, fun none => absurd none going.served⟩
  failed := fun _ => rfl
  stopped := fun _ => .inl rfl
  exhausted := by rintro ⟨⟩
  drained := fun _ => rfl
  wholeTimes := rfl
  lanes := by rintro ⟨⟩
  cells := cells
  rows := rows_of_given_up (.inl rfl) rfl

theorem coherent_of_rowRead (going : Going set) (reads : Reads set) {outcome : Except Error Bool × ResultSet}
    (read : RowRead set outcome) : Coherent outcome.2 := by
  cases read with
  | stopped e row sameCells => exact going.coherent_fail (sameCells.trans reads.cells) e
  | decoded time lanes cells enough sameLanes sameCells =>
    have some : set.page.hasRow = true := by
      rw [PageReader.hasRow_eq_true_iff]
      intro none
      rw [none] at enough
      cases enough
    have whole := reads.wholeTimes
    have rows := reads.rows
    simp only [PageReader.remainingRows, Page.timeWidth] at rows enough
    apply Going.coherent
    case going => exact ⟨by rintro ⟨⟩, by rintro ⟨⟩, going.served, going.intact⟩
    case row => exact ⟨fun _ => rfl, fun _ => rfl⟩
    case exhausted => rintro ⟨⟩
    case reads =>
      constructor
      case wholeTimes =>
        simp only [List.length_drop, Page.timeWidth]
        omega
      case lanes => exact fun _ => sameLanes.trans (reads.lanes some)
      case cells => exact sameCells.trans reads.cells
      case rows =>
        simp only [PageReader.remainingRows, List.length_drop, Page.timeWidth]
        omega

theorem reads_install (cells : set.row.cells.length = set.schema.slotCount) {page : Page} {reader : PageReader}
    (accepted : PageReader.start page set.schema.slotCount = .ok reader) : Reads (set.install page reader) where
  wholeTimes := by
    obtain ⟨rfl, whole, _⟩ := PageReader.start_eq_ok accepted
    simp only [install, report, note, whole, Page.timeWidth]
    omega
  lanes := by
    intro some
    obtain ⟨rfl, whole, fits⟩ := PageReader.start_eq_ok accepted
    obtain ⟨bitmaps, values⟩ := fits ((PageReader.hasRow_eq_true_iff _).mp some)
    simp [install, report, note, Page.lanes, bitmaps, values]
  cells := cells
  rows := by
    obtain ⟨rfl, _, _⟩ := PageReader.start_eq_ok accepted
    simp only [install, report, note, List.map_cons, List.map_nil, Journal.installedRows_append_pageInstalled]
    exact Nat.zero_add _

structure Waits (set : ResultSet) : Prop where
  going : Going set
  reads : Reads set
  state : set.state = .needsFetch
  noRow : set.row.present = false

theorem Waits.coherent (waits : Waits set) : Coherent set := by
  apply waits.going.coherent waits.reads
  · rw [waits.state, waits.noRow]
    exact ⟨by rintro ⟨⟩, by rintro ⟨⟩⟩
  · rw [waits.state]
    rintro ⟨⟩

theorem Waits.ask (waits : Waits set) (later : List FetchReply) : Waits (set.ask later) where
  going :=
    { notFailed := waits.going.notFailed
      notClosed := waits.going.notClosed
      served := by simpa [ResultSet.ask, note] using waits.going.served
      intact := waits.going.intact }
  reads :=
    { wholeTimes := waits.reads.wholeTimes
      lanes := waits.reads.lanes
      cells := waits.reads.cells
      rows := waits.reads.rows.trans (Journal.installedRows_append_request _ _ _ (by rintro _ _ ⟨⟩)).symm }
  state := waits.state
  noRow := waits.noRow

theorem Waits.install (waits : Waits set) {page : Page} {reader : PageReader}
    (accepted : PageReader.start page set.schema.slotCount = .ok reader) : Waits (set.install page reader) where
  going := ⟨waits.going.notFailed, waits.going.notClosed, waits.going.served, waits.going.intact⟩
  reads := reads_install waits.reads.cells accepted
  state := waits.state
  noRow := waits.noRow

theorem Waits.coherent_exhaust (waits : Waits set) : Coherent set.exhaust := by
  refine Going.coherent ⟨by rintro ⟨⟩, by rintro ⟨⟩, waits.going.served, waits.going.intact⟩ ?_ ?_ fun _ => rfl
  · exact
      { wholeTimes := waits.reads.wholeTimes
        lanes := waits.reads.lanes
        cells := waits.reads.cells
        rows := waits.reads.rows.trans (Journal.installedRows_append_noMoreData _ _).symm }
  · simp only [exhaust, report, note, waits.noRow]
    exact ⟨by rintro ⟨⟩, by rintro ⟨⟩⟩

theorem Waits.coherent_seek (waits : Waits set) (replies : List FetchReply) : Coherent (set.seek replies).2 := by
  apply seek_induction (fun outcome => Coherent outcome.2) _ _ _ _ _ waits replies
  · intro set later waits
    exact waits.ask later
  · intro set reply e waits _
    exact waits.coherent
  · intro set waits
    exact waits.coherent_exhaust
  · intro set page reader waits accepted _
    exact waits.install accepted
  · intro set page reader waits accepted _
    exact coherent_of_rowRead (waits.install accepted).going (waits.install accepted).reads (readRow_rowRead _)

theorem waits_waiting (coherent : Coherent set) (going : Going set) : Waits set.waiting where
  going := ⟨by rintro ⟨⟩, by rintro ⟨⟩, going.served, going.intact⟩
  reads :=
    { wholeTimes := coherent.wholeTimes
      lanes := coherent.lanes
      cells := coherent.cells
      rows := (coherent.reads going).rows }
  state := rfl
  noRow := rfl

theorem coherent_of_advanced (coherent : Coherent set) {outcome : Except Error Bool × ResultSet}
    (advanced : Advanced set outcome) : Coherent outcome.2 := by
  cases advanced with
  | unusable e stop => exact coherent
  | read usable row =>
    have going := coherent.going usable
    exact coherent_of_rowRead going (coherent.reads going) (readRow_rowRead set)
  | ended usable row last =>
    have going := coherent.going usable
    have reads := coherent.reads going
    exact Going.coherent ⟨by rintro ⟨⟩, by rintro ⟨⟩, going.served, going.intact⟩
      ⟨reads.wholeTimes, reads.lanes, reads.cells, reads.rows⟩ ⟨by rintro ⟨⟩, by rintro ⟨⟩⟩ fun _ => last
  | unserved usable row more released => exact absurd released (coherent.going usable).served
  | sought server usable row more held =>
    exact (waits_waiting coherent (coherent.going usable)).coherent_seek server.fetchReplies

theorem coherent_of_pageSet (coherent : Coherent set) {page : Page} {outcome : Except Error Unit × ResultSet}
    (pageSet : PageSet set page outcome) : Coherent outcome.2 := by
  cases pageSet with
  | unusable e stop => exact coherent
  | unfit e usable unfit => exact coherent
  | installed reader usable accepted =>
    have going := coherent.going usable
    have reads := reads_install coherent.cells accepted
    refine Going.coherent ?_ ⟨reads.wholeTimes, reads.lanes, reads.cells, reads.rows⟩ ⟨by rintro ⟨⟩, ?_⟩ ?_
    · exact ⟨state_replaced_ne going.notFailed (by decide) page reader,
        state_replaced_ne going.notClosed (by decide) page reader, going.served, going.intact⟩
    · exact fun cached => absurd cached (state_replaced_ne_cached set page reader)
    · intro drained
      rcases state_replaced set page reader with next | ⟨next, _⟩
      · exact absurd (next.symm.trans drained) (by decide)
      · exact coherent.exhausted (next.symm.trans drained)

theorem coherent_close (coherent : Coherent set) : Coherent set.close.2 := by
  by_cases closed : set.state = .closed
  · rw [close_of_closed closed]
    exact coherent
  · obtain ⟨entries, next⟩ := close_eq_released closed
    rw [next]
    exact
      { row := ⟨by rintro ⟨⟩, by rintro ⟨⟩⟩
        released := ⟨fun _ => rfl, fun _ => rfl⟩
        failed := by rintro ⟨⟩
        stopped := fun _ => .inr rfl
        exhausted := by rintro ⟨⟩
        drained := fun _ => rfl
        wholeTimes := rfl
        lanes := by rintro ⟨⟩
        cells := coherent.cells
        rows := rows_of_given_up (.inr rfl) rfl }

theorem coherent_perform (coherent : Coherent set) (call : Call) : Coherent (set.perform call).2 := by
  cases call with
  | advance => exact coherent_of_advanced coherent (advance_advanced set)
  | setPage page => exact coherent_of_pageSet coherent (setPage_pageSet set page)
  | close => exact coherent_close coherent
  | read reading selector => exact coherent
  | currentRow => exact coherent

theorem coherent_run (coherent : Coherent set) (calls : List Call) : Coherent (set.run calls) :=
  run_keeps (P := Coherent) (fun _ call holds => coherent_perform holds call) coherent calls

theorem coherent_create {options : Options} {schema : Schema} {server : Server} {initial : Option Page}
    (created : create options schema server initial = .ok set) : Coherent set ∧ set.failure = none := by
  have fresh : Waits (opened options schema server) :=
    { going := ⟨by rintro ⟨⟩, by rintro ⟨⟩, by rintro ⟨⟩, rfl⟩
      reads :=
        { wholeTimes := rfl
          lanes := by rintro ⟨⟩
          cells := List.length_replicate
          rows := by simp [opened, PageReader.empty, PageReader.remainingRows, Journal.installedRows] }
      state := rfl
      noRow := rfl }
  cases create_created created with
  | withoutPage => exact ⟨fresh.coherent, rfl⟩
  | onPage page reader accepted => exact ⟨(fresh.install accepted).coherent, rfl⟩

theorem create_of_ofRaw {options : Options} {names types : List String} {index : Option SlotIndex}
    {server : Server} {initial : Option Page} (built : ofRaw options names types index server initial = .ok set) :
    ∃ schema, Schema.resolve names types index options.includesTime = .ok schema ∧
      create options schema server initial = .ok set := by
  unfold ofRaw at built
  cases resolved : Schema.resolve names types index options.includesTime with
  | error e =>
    rw [resolved] at built
    cases built
  | ok schema =>
    rw [resolved] at built
    exact ⟨schema, rfl, built⟩

theorem failure_kept_of_rowRead {outcome : Except Error Bool × ResultSet} (read : RowRead set outcome) :
    outcome.2.failure = set.failure ∨ outcome.2.state = .failed := by
  cases read with
  | decoded => exact .inl rfl
  | stopped => exact .inr rfl

theorem failure_kept_of_advanced {outcome : Except Error Bool × ResultSet} (advanced : Advanced set outcome) :
    outcome.2.failure = set.failure ∨ outcome.2.state = .failed := by
  cases advanced with
  | unusable => exact .inl rfl
  | read => exact failure_kept_of_rowRead (readRow_rowRead set)
  | ended => exact .inl rfl
  | unserved => exact .inl rfl
  | sought server usable row more held =>
    apply @seek_induction (fun waiting => waiting.failure = set.failure)
      fun outcome => outcome.2.failure = set.failure ∨ outcome.2.state = .failed
    · exact fun _ _ same => same
    · exact fun _ _ _ same _ => .inl same
    · exact fun _ same => .inl same
    · exact fun _ _ _ same _ _ => same
    · intro waiting page reader same _ _
      have kept := failure_kept_of_rowRead (readRow_rowRead (waiting.install page reader))
      rwa [show (waiting.install page reader).failure = set.failure from same] at kept
    · rfl

/-- A failure is recorded in entering the failed state only, and never replaced. -/
theorem failure_kept (set : ResultSet) (call : Call) :
    (set.perform call).2.failure = set.failure ∨ (set.perform call).2.state = .failed := by
  cases call with
  | advance => exact failure_kept_of_advanced (advance_advanced set)
  | setPage page =>
    left
    have pageSet := setPage_pageSet set page
    change (set.setPage page).2.failure = set.failure
    cases outcome : set.setPage page with
    | mk result next =>
      rw [outcome] at pageSet
      cases pageSet <;> rfl
  | close =>
    left
    change set.close.2.failure = set.failure
    by_cases closed : set.state = .closed
    · rw [close_of_closed closed]
    · obtain ⟨entries, next⟩ := close_eq_released closed
      rw [next]
      rfl
  | read reading selector => exact .inl rfl
  | currentRow => exact .inl rfl

theorem isSome_failure_perform (coherent : Coherent set) (call : Call) :
    (set.perform call).2.failure.isSome ↔ set.failure.isSome ∨ (set.perform call).2.state = .failed := by
  have after := coherent_perform coherent call
  rcases failure_kept set call with same | failed
  · rw [same]
    refine ⟨Or.inl, ?_⟩
    rintro (recorded | failed)
    · exact recorded
    · exact same ▸ after.failed failed
  · exact ⟨fun _ => .inr failed, fun _ => after.failed failed⟩

theorem isSome_failure_run (coherent : Coherent set) (calls : List Call) :
    (set.run calls).failure.isSome ↔
      set.failure.isSome ∨ ∃ earlier, earlier <+: calls ∧ (set.run earlier).state = .failed := by
  induction calls generalizing set with
  | nil =>
    refine ⟨Or.inl, ?_⟩
    rintro (recorded | ⟨earlier, short, failed⟩)
    · exact recorded
    · cases List.prefix_nil.mp short
      exact coherent.failed failed
  | cons call rest ih =>
    rw [run, ih (coherent_perform coherent call), isSome_failure_perform coherent call]
    constructor
    · rintro ((recorded | failed) | ⟨earlier, short, failed⟩)
      · exact .inl recorded
      · exact .inr ⟨[call], List.prefix_cons_inj call |>.mpr List.nil_prefix, failed⟩
      · exact .inr ⟨call :: earlier, List.prefix_cons_inj call |>.mpr short, failed⟩
    · rintro (recorded | ⟨earlier, short, failed⟩)
      · exact .inl (.inl recorded)
      · cases earlier with
        | nil => exact .inl (.inl (coherent.failed failed))
        | cons first later =>
          obtain ⟨rfl, shorter⟩ := List.cons_prefix_cons.mp short
          exact .inr ⟨later, shorter, failed⟩

/-- The parts of a set are in step after every run of calls on a set that was built, whatever the calls
and whatever the server replies. -/
theorem coherent_run_of_ofRaw {options : Options} {names types : List String} {index : Option SlotIndex}
    {server : Server} {initial : Option Page} (built : ofRaw options names types index server initial = .ok set)
    (calls : List Call) :
    Coherent (set.run calls) ∧
      ((set.run calls).failure.isSome ↔ ∃ earlier, earlier <+: calls ∧ (set.run earlier).state = .failed) := by
  obtain ⟨schema, _, created⟩ := create_of_ofRaw built
  obtain ⟨coherent, intact⟩ := coherent_create created
  refine ⟨run_keeps (P := Coherent) (fun _ call holds => coherent_perform holds call) coherent calls, ?_⟩
  rw [isSome_failure_run coherent calls]
  simp [intact]

theorem coherent_run_of_broken_page :
    ∃ set, ofRaw ⟨"select s1 from root.d", 1, 2, 100, true⟩ ["s1"] ["INT32"] none
        ⟨[.answered (.ofPage ⟨[0, 0, 0, 0, 0, 0, 0, 2, 0, 0, 0, 0, 0, 0, 0, 3], [[0x40]], [[0, 0]]⟩)], []⟩
        (some ⟨[0, 0, 0, 0, 0, 0, 0, 1], [[0x80]], [[0, 0, 0, 7]]⟩) = .ok set ∧
      (set.run [.advance, .advance, .advance]).state = .failed ∧
      Coherent (set.run [.advance, .advance, .advance, .close]) ∧
      ((set.run [.advance, .advance, .advance, .close]).failure.isSome ↔
        ∃ earlier, earlier <+: [.advance, .advance, .advance, .close] ∧ (set.run earlier).state = .failed) :=
  ⟨_, rfl, rfl, @coherent_run_of_ofRaw _ ⟨"select s1 from root.d", 1, 2, 100, true⟩ ["s1"] ["INT32"] none
    ⟨[.answered (.ofPage ⟨[0, 0, 0, 0, 0, 0, 0, 2, 0, 0, 0, 0, 0, 0, 0, 3], [[0x40]], [[0, 0]]⟩)], []⟩
    (some ⟨[0, 0, 0, 0, 0, 0, 0, 1], [[0x80]], [[0, 0, 0, 7]]⟩) rfl _⟩

end ResultSet

end SeriesCursor
