import SeriesCursor.Proofs.Column
import SeriesCursor.Row.Basic

/-!
Row by row against column by column. While no column fails, the cursors of a page stand at every row
where the columns decoded by themselves say, and the row in hand holds their cells; a row that fails
fails with the error of the first column that does.

The columns are decoded by `Lane.decode`, which looks up every bit in the whole bitmap and knows of no
byte in hand. What ties the two is `Cell.Covers`: off the start of a block, the byte in hand is the one
that the column would look up.
-/

namespace SeriesCursor

namespace Lane

def past (column : Column) (lane : Lane) (rows : Nat) : Lane :=
  ⟨lane.bitmap.drop (Bitmap.size rows), (decode column lane rows).values⟩

def cellAt (column : Column) (lane : Lane) (row : Nat) : Cell :=
  ⟨(decode column lane (row + 1)).cells[row]?.join, lane.bitmap[row / 8]?.getD 0⟩

theorem covered_of_decoded {column : Column} {lane : Lane} {row : Nat}
    (going : (decode column lane (row + 1)).failure = none) :
    lane.bitmap[row / 8]? = some (cellAt column lane row).presence := by
  have before := failure_eq_none_of_le going (Nat.le_succ row)
  rcases decode_succ_cases before with ⟨value, rest, taken, _⟩ | ⟨e, rest, _, next⟩
  · cases byte : lane.bitmap[row / 8]? with
    | none => simp [cell, Bitmap.isNullAt?, byte] at taken
    | some byte => simp [cellAt, *]
  · rw [next] at going
    cases going

end Lane

namespace Cell

/-- The byte in hand covers a row, unless the row starts a block and is about to take its own. -/
def Covers (lane : Lane) (row : Nat) (cell : Cell) : Prop :=
  row % 8 ≠ 0 → lane.bitmap[row / 8]? = some cell.presence

theorem covers_succ {lane : Lane} {row : Nat} {cell : Cell} (covered : lane.bitmap[row / 8]? = some cell.presence) :
    Covers lane (row + 1) cell := by
  intro inside
  have block : (row + 1) / 8 = row / 8 := by omega
  rw [block]
  exact covered

theorem covers_next {column : Column} {lane : Lane} {row : Nat}
    (going : (Lane.decode column lane (row + 1)).failure = none) :
    Covers lane (row + 1) (lane.cellAt column row) :=
  covers_succ (Lane.covered_of_decoded going)

theorem refresh_of_covers (column : Column) {lane : Lane} {row : Nat} {cell : Cell} {byte : UInt8} (values : Bytes)
    (covers : Covers lane row cell) (covered : lane.bitmap[row / 8]? = some byte) :
    refresh column row ⟨lane.bitmap.drop (Bitmap.size row), values⟩ cell =
      (.ok (), ⟨lane.bitmap.drop (Bitmap.size (row + 1)), values⟩, ⟨cell.value, byte⟩) := by
  by_cases start : row % 8 = 0
  · have size : Bitmap.size row = row / 8 := by unfold Bitmap.size; omega
    have next : Bitmap.size (row + 1) = row / 8 + 1 := by unfold Bitmap.size; omega
    obtain ⟨inside, value⟩ := List.getElem?_eq_some_iff.mp covered
    have front : lane.bitmap.drop (row / 8) = byte :: lane.bitmap.drop (row / 8 + 1) := by
      rw [List.drop_eq_getElem_cons inside, value]
    simp [refresh, Bitmap.startsBlock, start, size, next, front]
  · have next : Bitmap.size (row + 1) = Bitmap.size row := by unfold Bitmap.size; omega
    have held : cell.presence = byte := by
      have known := covers start
      rw [covered] at known
      exact (Option.some.inj known).symm
    subst held
    simp [refresh, Bitmap.startsBlock, start, next]

theorem refresh_past {column : Column} {lane : Lane} {row : Nat} {cell : Cell} {byte : UInt8}
    (covers : Covers lane row cell) (covered : lane.bitmap[row / 8]? = some byte) :
    refresh column row (lane.past column row) cell =
      (.ok (), ⟨lane.bitmap.drop (Bitmap.size (row + 1)), (Lane.decode column lane row).values⟩,
        ⟨cell.value, byte⟩) :=
  refresh_of_covers column _ covers covered

theorem refresh_past_of_none (column : Column) {lane : Lane} {row : Nat} {cell : Cell}
    (covers : Covers lane row cell) (uncovered : lane.bitmap[row / 8]? = none) :
    (refresh column row (lane.past column row) cell).1 = .error (.truncated (.bitmap column.name) 1 0) := by
  have start : row % 8 = 0 := by
    apply Classical.byContradiction
    intro inside
    rw [covers inside] at uncovered
    cases uncovered
  have size : Bitmap.size row = row / 8 := by unfold Bitmap.size; omega
  have short : lane.bitmap.drop (row / 8) = [] := List.drop_eq_nil_of_le (List.getElem?_eq_none_iff.mp uncovered)
  simp [refresh, Bitmap.startsBlock, start, Lane.past, size, short]

/-- With the byte in hand that the column would look up, a cell is filled as the column decodes it. -/
theorem fill_eq_cell {column : Column} {bitmap : Bytes} {row : Nat} {byte : UInt8}
    (covered : bitmap[row / 8]? = some byte) (front values : Bytes) (old : Option Bytes) :
    fill column row ⟨front, values⟩ ⟨old, byte⟩ =
      match Lane.cell column bitmap row values with
      | (.ok value, rest) => (.ok (), ⟨front, rest⟩, ⟨value, byte⟩)
      | (.error e, rest) => (.error e, ⟨front, rest⟩, ⟨old, byte⟩) := by
  have found : Bitmap.isNullAt? bitmap row = some (Bitmap.isNull byte row) := by
    rw [Bitmap.isNullAt?, covered, Option.map_some]
  rw [fill, Lane.cell, found]
  cases Bitmap.isNull byte row with
  | true => rfl
  | false =>
    rcases Frame.take column.type values column.name with ⟨e | raw, rest⟩ <;> rfl

theorem decode_past {column : Column} {lane : Lane} {row : Nat} {cell : Cell} (covers : Covers lane row cell)
    (going : (Lane.decode column lane (row + 1)).failure = none) :
    decode column row (lane.past column row) cell =
      (.ok (), lane.past column (row + 1), lane.cellAt column row) := by
  have covered := Lane.covered_of_decoded going
  have before := Lane.failure_eq_none_of_le going (Nat.le_succ row)
  rcases Lane.decode_succ_cases before with ⟨value, rest, taken, next⟩ | ⟨e, rest, _, next⟩
  · have length := Lane.length_cells before
    have decoded : lane.cellAt column row = ⟨value, (lane.cellAt column row).presence⟩ := by
      simp [Lane.cellAt, next, length]
    have left : lane.past column (row + 1) = ⟨lane.bitmap.drop (Bitmap.size (row + 1)), rest⟩ := by
      rw [Lane.past, next]
    rw [decoded, left, decode, refresh_past covers covered]
    exact (fill_eq_cell covered _ _ _).trans (by rw [taken])
  · rw [next] at going
    cases going

theorem decode_past_of_failure {column : Column} {lane : Lane} {row : Nat} {cell : Cell} {e : Error}
    (covers : Covers lane row cell) (before : (Lane.decode column lane row).failure = none)
    (failed : (Lane.decode column lane (row + 1)).failure = some e) :
    (decode column row (lane.past column row) cell).1 = .error e := by
  rcases Lane.decode_succ_cases before with ⟨value, rest, _, next⟩ | ⟨stop, rest, taken, next⟩
  · rw [next] at failed
    cases failed
  · rw [next] at failed
    cases failed
    cases covered : lane.bitmap[row / 8]? with
    | none =>
      have short := refresh_past_of_none column covers covered
      simp only [Lane.cell, Bitmap.isNullAt?, covered, Option.map_none] at taken
      cases taken
      unfold decode
      split
      · rename_i refreshed
        rw [refreshed] at short
        cases short
      · exact short
    | some byte =>
      rw [decode, refresh_past covers covered]
      exact congrArg Prod.fst ((fill_eq_cell covered _ _ _).trans (by rw [taken]))

end Cell

namespace Lane

def allPast (columns : List Column) (lanes : List Lane) (rows : Nat) : List Lane :=
  columns.zipWith (fun column lane => lane.past column rows) lanes

def cellsAt (columns : List Column) (lanes : List Lane) (row : Nat) : List Cell :=
  columns.zipWith (fun column lane => lane.cellAt column row) lanes

def decodeEach (columns : List Column) (lanes : List Lane) (count : Nat) : List Decoded :=
  columns.zipWith (fun column lane => decode column lane count) lanes

def firstFailure (columns : List Column) (lanes : List Lane) (count : Nat) : Option Error :=
  (decodeEach columns lanes count).findSome? Decoded.failure

theorem allPast_zero {columns : List Column} {lanes : List Lane} (aligned : lanes.length = columns.length) :
    allPast columns lanes 0 = lanes := by
  induction columns generalizing lanes with
  | nil => exact (List.eq_nil_of_length_eq_zero aligned).symm
  | cons column columns ih =>
    cases lanes with
    | nil => cases aligned
    | cons lane lanes => exact congrArg (lane :: ·) (ih (Nat.succ.inj aligned))

theorem firstFailure_cons (column : Column) (columns : List Column) (lane : Lane) (lanes : List Lane)
    (count : Nat) :
    firstFailure (column :: columns) (lane :: lanes) count =
      (decode column lane count).failure.or (firstFailure columns lanes count) := by
  simp only [firstFailure, decodeEach, List.zipWith_cons_cons, List.findSome?_cons]
  cases (decode column lane count).failure <;> rfl

theorem firstFailure_eq_none_iff {columns : List Column} {lanes : List Lane} {count : Nat} :
    firstFailure columns lanes count = none ↔ ∀ decoded ∈ decodeEach columns lanes count, decoded.failure = none :=
  List.findSome?_eq_none_iff

theorem firstFailure_zero (columns : List Column) (lanes : List Lane) : firstFailure columns lanes 0 = none := by
  induction columns generalizing lanes with
  | nil => rfl
  | cons column columns ih =>
    cases lanes with
    | nil => rfl
    | cons lane lanes => rw [firstFailure_cons, ih]; rfl

theorem firstFailure_eq_none_of_le {columns : List Column} {lanes : List Lane} {count later : Nat}
    (going : firstFailure columns lanes later = none) (order : count ≤ later) :
    firstFailure columns lanes count = none := by
  induction columns generalizing lanes with
  | nil => rfl
  | cons column columns ih =>
    cases lanes with
    | nil => rfl
    | cons lane lanes =>
      rw [firstFailure_cons, Option.or_eq_none_iff] at going ⊢
      exact ⟨failure_eq_none_of_le going.1 order, ih going.2⟩

end Lane

namespace Cell

def AllCover (lanes : List Lane) (row : Nat) (cells : List Cell) : Prop :=
  ∀ pair ∈ lanes.zip cells, Covers pair.1 row pair.2

theorem allCover_cons {lane : Lane} {lanes : List Lane} {row : Nat} {cell : Cell} {cells : List Cell} :
    AllCover (lane :: lanes) row (cell :: cells) ↔ Covers lane row cell ∧ AllCover lanes row cells := by
  simp only [AllCover, List.zip_cons_cons, List.forall_mem_cons]

theorem allCover_zero (lanes : List Lane) (cells : List Cell) : AllCover lanes 0 cells := by
  intro pair _ inside
  exact absurd rfl inside

theorem allCover_next {columns : List Column} {lanes : List Lane} {row : Nat}
    (going : Lane.firstFailure columns lanes (row + 1) = none) :
    AllCover lanes (row + 1) (Lane.cellsAt columns lanes row) := by
  induction columns generalizing lanes with
  | nil =>
    intro pair member
    simp [Lane.cellsAt] at member
  | cons column columns ih =>
    cases lanes with
    | nil =>
      intro pair member
      cases member
    | cons lane lanes =>
      rw [Lane.firstFailure_cons, Option.or_eq_none_iff] at going
      exact allCover_cons.mpr ⟨covers_next going.1, ih going.2⟩

theorem decodeAll_past {columns : List Column} {lanes : List Lane} {cells : List Cell} {row : Nat}
    (aligned : lanes.length = columns.length) (slots : cells.length = columns.length)
    (covers : AllCover lanes row cells) (going : Lane.firstFailure columns lanes (row + 1) = none) :
    decodeAll row columns (Lane.allPast columns lanes row) cells =
      (.ok (), Lane.allPast columns lanes (row + 1), Lane.cellsAt columns lanes row) := by
  induction columns generalizing lanes cells with
  | nil =>
    cases List.eq_nil_of_length_eq_zero slots
    rfl
  | cons column columns ih =>
    cases lanes with
    | nil => cases aligned
    | cons lane lanes =>
      cases cells with
      | nil => cases slots
      | cons cell cells =>
        rw [Lane.firstFailure_cons, Option.or_eq_none_iff] at going
        rw [allCover_cons] at covers
        have first := decode_past covers.1 going.1
        have others := ih (Nat.succ.inj aligned) (Nat.succ.inj slots) covers.2 going.2
        simp only [Lane.allPast, Lane.cellsAt] at others ⊢
        simp only [List.zipWith_cons_cons, decodeAll, first, others]

theorem decodeAll_past_of_failure {columns : List Column} {lanes : List Lane} {cells : List Cell} {row : Nat}
    {e : Error} (aligned : lanes.length = columns.length) (slots : cells.length = columns.length)
    (covers : AllCover lanes row cells) (before : Lane.firstFailure columns lanes row = none)
    (failed : Lane.firstFailure columns lanes (row + 1) = some e) :
    (decodeAll row columns (Lane.allPast columns lanes row) cells).1 = .error e := by
  induction columns generalizing lanes cells with
  | nil => cases failed
  | cons column columns ih =>
    cases lanes with
    | nil => cases aligned
    | cons lane lanes =>
      cases cells with
      | nil => cases slots
      | cons cell cells =>
        rw [Lane.firstFailure_cons] at before failed
        rw [Option.or_eq_none_iff] at before
        rw [allCover_cons] at covers
        simp only [Lane.allPast, List.zipWith_cons_cons, decodeAll]
        cases here : (Lane.decode column lane (row + 1)).failure with
        | some stop =>
          have first := decode_past_of_failure covers.1 before.1 here
          rw [here] at failed
          cases failed
          split
          · rename_i decoded
            rw [decoded] at first
            cases first
          · rename_i decoded
            rw [decoded] at first
            exact first
        | none =>
          rw [here] at failed
          have others := ih (Nat.succ.inj aligned) (Nat.succ.inj slots) covers.2 before.2 failed
          simpa only [decode_past covers.1 here, Lane.allPast] using others

end Cell

namespace PageReader

def past (columns : List Column) (reader : PageReader) (rows : Nat) : PageReader :=
  ⟨reader.time.drop (Page.timeWidth * rows), Lane.allPast columns reader.lanes rows, rows⟩

def rowAt (columns : List Column) (reader : PageReader) (row : Nat) : Row :=
  ⟨Bytes.toInt64 ((reader.time.drop (Page.timeWidth * row)).take Page.timeWidth),
    Lane.cellsAt columns reader.lanes row, true⟩

end PageReader

namespace Row

def afterCalls (columns : List Column) (reader : PageReader) (row : Row) : (calls : Nat) → PageReader × Row
  | 0 => (reader, row)
  | calls + 1 =>
    let before := afterCalls columns reader row calls
    (before.2.materialize columns before.1).2

def outcome (columns : List Column) (reader : PageReader) (row : Row) (call : Nat) : Except Error Unit :=
  let before := afterCalls columns reader row call
  (before.2.materialize columns before.1).1

/-- A row that can take the next row of a page: one cell a slot, whose bytes cover that row. -/
structure Ready (columns : List Column) (reader : PageReader) (next : Nat) (row : Row) : Prop where
  slots : row.cells.length = columns.length
  covers : Cell.AllCover reader.lanes next row.cells

section

variable {columns : List Column} {fresh : PageReader} {row : Row} {n : Nat}

theorem enough_past (unread : Page.timeWidth * (n + 1) ≤ fresh.time.length) :
    ¬ (fresh.past columns n).time.length < Page.timeWidth := by
  simp only [PageReader.past, List.length_drop, Page.timeWidth] at unread ⊢
  omega

theorem materialize_past (aligned : fresh.lanes.length = columns.length)
    (unread : Page.timeWidth * (n + 1) ≤ fresh.time.length) (ready : Ready columns fresh n row)
    (going : Lane.firstFailure columns fresh.lanes (n + 1) = none) :
    row.materialize columns (fresh.past columns n) =
      (.ok (), fresh.past columns (n + 1), fresh.rowAt columns n) := by
  have decoded := Cell.decodeAll_past aligned ready.slots ready.covers going
  rw [materialize, if_neg (enough_past unread)]
  simp only [PageReader.past, decoded, List.drop_drop, Nat.mul_succ, PageReader.rowAt]

theorem materialize_past_of_failure {e : Error} (aligned : fresh.lanes.length = columns.length)
    (unread : Page.timeWidth * (n + 1) ≤ fresh.time.length) (ready : Ready columns fresh n row)
    (before : Lane.firstFailure columns fresh.lanes n = none)
    (failed : Lane.firstFailure columns fresh.lanes (n + 1) = some e) :
    (row.materialize columns (fresh.past columns n)).1 = .error e := by
  have decoded := Cell.decodeAll_past_of_failure aligned ready.slots ready.covers before failed
  rw [materialize, if_neg (enough_past unread)]
  simp only [PageReader.past]
  split
  · rename_i result
    rw [result] at decoded
    cases decoded
  · rename_i result
    rw [result] at decoded
    exact decoded

theorem materialize_drained {reader : PageReader} (drained : reader.time = []) :
    row.materialize columns reader =
      (.error (.truncated .time Page.timeWidth 0), reader, row.invalidate) := by
  simp [materialize, drained, Page.timeWidth]

theorem ready_next (aligned : fresh.lanes.length = columns.length)
    (going : Lane.firstFailure columns fresh.lanes (n + 1) = none) :
    Ready columns fresh (n + 1) (fresh.rowAt columns n) where
  slots := by simp [PageReader.rowAt, Lane.cellsAt, aligned]
  covers := Cell.allCover_next going

end

end Row

end SeriesCursor
