import SeriesCursor.Proofs.RowDecoding

/-!
A whole page decoded row by row, against its columns decoded by themselves, for any bytes that are
accepted as a page. Calls succeed exactly as long as there is a row and no column fails; after each of
them the row in hand is the row of all columns; and the first failure is the earliest failure of any
column, that of the lowest slot where several columns fail at one row.
-/

namespace SeriesCursor

namespace Page

def lanes (page : Page) : List Lane :=
  page.bitmaps.zipWith Lane.mk page.values

end Page

namespace PageReader

theorem hasRow_eq_true_iff (reader : PageReader) : reader.hasRow = true ↔ reader.time ≠ [] := by
  simp [hasRow]

theorem start_eq_ok {page : Page} {slots : Nat} {fresh : PageReader} (accepted : start page slots = .ok fresh) :
    fresh = ⟨page.time, page.lanes, 0⟩ ∧ page.time.length = Page.timeWidth * page.rowCount ∧
      (page.time ≠ [] → page.bitmaps.length = slots ∧ page.values.length = slots) := by
  unfold start at accepted
  split at accepted
  · cases accepted
  · rename_i whole
    split at accepted
    · cases accepted
    · rename_i fits
      cases accepted
      refine ⟨rfl, ?_, ?_⟩
      · simp only [Page.rowCount, Page.timeWidth] at whole ⊢
        omega
      · intro some
        simp only [not_and, not_or, Decidable.not_not] at fits
        exact fits some

theorem start_eq_error {page : Page} {slots : Nat} {e : Error} (unfit : start page slots = .error e) :
    ∃ fault, e = .malformedPage fault := by
  unfold start at unfit
  split at unfit
  · cases unfit
    exact ⟨_, rfl⟩
  · split at unfit
    · cases unfit
      exact ⟨_, rfl⟩
    · cases unfit

theorem length_lanes_of_start {page : Page} {slots : Nat} {fresh : PageReader}
    (accepted : start page slots = .ok fresh) (rows : 0 < page.rowCount) : fresh.lanes.length = slots := by
  obtain ⟨rfl, whole, fits⟩ := start_eq_ok accepted
  have some : page.time ≠ [] := by
    intro none
    simp [Page.rowCount, none] at rows
  obtain ⟨bitmaps, values⟩ := fits some
  simp [Page.lanes, bitmaps, values]

theorem past_zero {columns : List Column} {fresh : PageReader} (aligned : fresh.lanes.length = columns.length)
    (start : fresh.rowOffset = 0) : fresh.past columns 0 = fresh := by
  obtain ⟨time, lanes, offset⟩ := fresh
  cases start
  simp only [past, Nat.mul_zero, List.drop_zero, Lane.allPast_zero aligned]

end PageReader

namespace Lane

theorem getElem?_decodeEach {columns : List Column} {lanes : List Lane} {count slot : Nat} {decoded : Decoded} :
    (decodeEach columns lanes count)[slot]? = some decoded ↔
      ∃ column lane, columns[slot]? = some column ∧ lanes[slot]? = some lane ∧ decode column lane count = decoded :=
  List.getElem?_zipWith_eq_some

theorem failure_eq_none_of_firstFailure {columns : List Column} {lanes : List Lane} {count slot : Nat}
    {column : Column} {lane : Lane} (going : firstFailure columns lanes count = none)
    (known : columns[slot]? = some column) (held : lanes[slot]? = some lane) :
    (decode column lane count).failure = none := by
  have member : decode column lane count ∈ decodeEach columns lanes count :=
    List.mem_of_getElem? (getElem?_decodeEach.mpr ⟨column, lane, known, held, rfl⟩)
  exact firstFailure_eq_none_iff.mp going _ member

end Lane

namespace Row

section

variable {columns : List Column} {fresh : PageReader} {prior : Row}

theorem afterCalls_past (aligned : fresh.lanes.length = columns.length) (start : fresh.rowOffset = 0)
    (slots : prior.cells.length = columns.length) {count : Nat}
    (unread : Page.timeWidth * count ≤ fresh.time.length)
    (going : Lane.firstFailure columns fresh.lanes count = none) :
    (afterCalls columns fresh prior count).1 = fresh.past columns count ∧
      Ready columns fresh count (afterCalls columns fresh prior count).2 ∧
      ∀ call < count, outcome columns fresh prior call = .ok () ∧
        afterCalls columns fresh prior (call + 1) = (fresh.past columns (call + 1), fresh.rowAt columns call) := by
  induction count with
  | zero =>
    refine ⟨(PageReader.past_zero aligned start).symm, ⟨slots, Cell.allCover_zero _ _⟩, ?_⟩
    intro call none
    exact absurd none (Nat.not_lt_zero call)
  | succ count ih =>
    have before := Lane.firstFailure_eq_none_of_le going (Nat.le_succ count)
    have fewer : Page.timeWidth * count ≤ fresh.time.length := by
      simp only [Page.timeWidth] at unread ⊢
      omega
    obtain ⟨page, ready, earlier⟩ := ih fewer before
    have step := materialize_past aligned unread ready going
    have here : afterCalls columns fresh prior (count + 1) =
        (fresh.past columns (count + 1), fresh.rowAt columns count) := by
      simp only [afterCalls, page, step]
    refine ⟨by rw [here], by rw [here]; exact ready_next aligned going, ?_⟩
    intro call inside
    rcases Nat.lt_succ_iff_lt_or_eq.mp inside with already | rfl
    · exact earlier call already
    · refine ⟨?_, here⟩
      simp only [outcome, page, step]

theorem outcome_of_failure (aligned : fresh.lanes.length = columns.length) (start : fresh.rowOffset = 0)
    (slots : prior.cells.length = columns.length) {row : Nat} {e : Error}
    (unread : Page.timeWidth * (row + 1) ≤ fresh.time.length)
    (going : Lane.firstFailure columns fresh.lanes row = none)
    (stop : Lane.firstFailure columns fresh.lanes (row + 1) = some e) :
    (∀ call < row, outcome columns fresh prior call = .ok ()) ∧ outcome columns fresh prior row = .error e := by
  have fewer : Page.timeWidth * row ≤ fresh.time.length := by
    simp only [Page.timeWidth] at unread ⊢
    omega
  obtain ⟨page, ready, earlier⟩ := afterCalls_past aligned start slots fewer going
  refine ⟨fun call inside => (earlier call inside).1, ?_⟩
  simp only [outcome, page]
  exact materialize_past_of_failure aligned unread ready going stop

end

end Row

def Page.columnValue (columns : List Column) (page : Page) (row slot : Nat) : Option Bytes :=
  (Lane.decodeEach columns page.lanes (row + 1))[slot]?.bind fun decoded => decoded.cells[row]?.join

section

variable {columns : List Column} {page : Page} {row : Nat}

theorem rowAt_value? (slot : Nat) :
    ((⟨page.time, page.lanes, 0⟩ : PageReader).rowAt columns row).value? slot =
      page.columnValue columns row slot := by
  simp only [PageReader.rowAt, Row.value?, Page.columnValue, Lane.cellsAt, Lane.decodeEach, List.getElem?_zipWith]
  cases columns[slot]? with
  | none => rfl
  | some column => cases page.lanes[slot]? <;> rfl

end

section

variable {schema : Schema} {page : Page} {fresh : PageReader} {prior : Row}

theorem unread_of_start (accepted : PageReader.start page schema.slotCount = .ok fresh) {rows : Nat}
    (inside : rows ≤ page.rowCount) : Page.timeWidth * rows ≤ fresh.time.length := by
  obtain ⟨rfl, whole, _⟩ := PageReader.start_eq_ok accepted
  exact whole ▸ Nat.mul_le_mul_left _ inside

theorem afterCalls_of_start (accepted : PageReader.start page schema.slotCount = .ok fresh)
    (slots : prior.cells.length = schema.slotCount) {calls : Nat} (inside : calls ≤ page.rowCount)
    (going : Lane.firstFailure schema.columns page.lanes calls = none) :
    ∀ call < calls, Row.outcome schema.columns fresh prior call = .ok () ∧
      Row.afterCalls schema.columns fresh prior (call + 1) =
        (fresh.past schema.columns (call + 1), fresh.rowAt schema.columns call) := by
  intro call before
  have aligned := PageReader.length_lanes_of_start accepted (by omega)
  have unread := unread_of_start accepted inside
  obtain ⟨rfl, _, _⟩ := PageReader.start_eq_ok accepted
  exact (Row.afterCalls_past aligned rfl slots unread going).2.2 call before

theorem outcome_rowCount (accepted : PageReader.start page schema.slotCount = .ok fresh)
    (slots : prior.cells.length = schema.slotCount)
    (going : Lane.firstFailure schema.columns page.lanes page.rowCount = none) :
    Row.outcome schema.columns fresh prior page.rowCount = .error (.truncated .time 8 0) := by
  have drained : (Row.afterCalls schema.columns fresh prior page.rowCount).1.time = [] := by
    obtain ⟨rfl, whole, _⟩ := PageReader.start_eq_ok accepted
    cases rows : page.rowCount with
    | zero =>
      rw [rows] at whole
      exact List.eq_nil_of_length_eq_zero whole
    | succ last =>
      rw [(afterCalls_of_start accepted slots (Nat.le_refl _) going last (by omega)).2]
      exact List.drop_eq_nil_of_le (Nat.le_of_eq (by rw [whole, rows]))
  simp only [Row.outcome, Row.materialize_drained drained]
  rfl

theorem going_of_outcomes (accepted : PageReader.start page schema.slotCount = .ok fresh)
    (slots : prior.cells.length = schema.slotCount) {calls : Nat}
    (ok : ∀ call < calls, Row.outcome schema.columns fresh prior call = .ok ()) :
    calls ≤ page.rowCount ∧ Lane.firstFailure schema.columns page.lanes calls = none := by
  induction calls with
  | zero => exact ⟨Nat.zero_le _, Lane.firstFailure_zero _ _⟩
  | succ calls ih =>
    obtain ⟨inside, going⟩ := ih fun call before => ok call (Nat.lt_succ_of_lt before)
    have last := ok calls (Nat.lt_succ_self calls)
    rcases Nat.lt_or_eq_of_le inside with more | rfl
    · refine ⟨more, ?_⟩
      cases stop : Lane.firstFailure schema.columns page.lanes (calls + 1) with
      | none => rfl
      | some e =>
        have aligned := PageReader.length_lanes_of_start accepted (by omega)
        have unread := unread_of_start accepted more
        obtain ⟨rfl, _, _⟩ := PageReader.start_eq_ok accepted
        rw [(Row.outcome_of_failure aligned rfl slots unread going stop).2] at last
        cases last
    · rw [outcome_rowCount accepted slots going] at last
      cases last

end

end SeriesCursor
