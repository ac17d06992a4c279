import SeriesCursor.Proofs.ColumnRefinement
import SeriesCursor.Proofs.Presence

/-!
Pages written and read back. A column that was written decodes to its cells and never fails; so a page
of rows gives these rows again, one after the other, whatever row was in hand before.
-/

namespace SeriesCursor

structure PageRow.Fits (columns : List Column) (row : PageRow) : Prop where
  slots : row.cells.length = columns.length
  cells : ∀ (slot : Nat) (column : Column) (raw : Bytes),
    columns[slot]? = some column → row.cell slot = some raw → Frame.Fits column.type raw

namespace Lane

def written (type : DataType) (cells : List (Option Bytes)) : Lane :=
  ⟨Bitmap.ofPresence (cells.map Option.isSome), Page.writeValues type cells⟩

variable {column : Column} {cells : List (Option Bytes)}

theorem cell_written (fits : ∀ raw, some raw ∈ cells → Frame.Fits column.type raw) {row : Nat}
    (inside : row < cells.length) :
    cell column (Bitmap.ofPresence (cells.map Option.isSome)) row
      (Page.writeValues column.type (cells.drop row)) =
        (.ok cells[row], Page.writeValues column.type (cells.drop (row + 1))) := by
  have covered : row < (cells.map Option.isSome).length := by simpa using inside
  have presence := Bitmap.isNullAt?_ofPresence (cells.map Option.isSome) row covered
  have split : cells.drop row = cells[row] :: cells.drop (row + 1) := List.drop_eq_getElem_cons inside
  rw [List.getElem_map] at presence
  rw [cell, presence, split]
  cases value : cells[row] with
  | none => rfl
  | some raw =>
    have member : some raw ∈ cells := value ▸ List.getElem_mem inside
    have taken :=
      Frame.take_write (fits raw member) (Page.writeValues column.type (cells.drop (row + 1))) column.name
    simp only [Option.isSome_some, Bool.not_true, Page.writeValues, List.flatMap_cons] at taken ⊢
    rw [taken]

theorem decode_written (fits : ∀ raw, some raw ∈ cells → Frame.Fits column.type raw) {count : Nat}
    (inside : count ≤ cells.length) :
    decode column (written column.type cells) count =
      ⟨cells.take count, none, Page.writeValues column.type (cells.drop count)⟩ := by
  induction count with
  | zero => rfl
  | succ count ih =>
    have here := cell_written fits inside
    rw [decode_succ, ih (Nat.le_of_succ_le inside), Decoded.extend]
    simp only [written, here, List.take_append_getElem inside]

end Lane

namespace Page

variable {columns : List Column} {rows : List PageRow}

theorem getElem?_lanes_ofRows {slot : Nat} {column : Column} (known : columns[slot]? = some column) :
    (ofRows (columns.map Column.type) rows).lanes[slot]? =
      some (Lane.written column.type (rows.map fun row => row.cell slot)) := by
  simp [lanes, ofRows, Lane.written, List.getElem?_zipWith, List.getElem?_mapIdx, known, Function.comp_def]

theorem length_lanes_ofRows : (ofRows (columns.map Column.type) rows).lanes.length = columns.length := by
  simp [lanes, ofRows]

theorem drop_time_ofRows (types : List DataType) (rows : List PageRow) (count : Nat) :
    (ofRows types rows).time.drop (timeWidth * count) = (ofRows types (rows.drop count)).time := by
  induction count generalizing rows with
  | zero => rfl
  | succ count ih =>
    cases rows with
    | nil => simp [ofRows]
    | cons row rest =>
      rw [List.drop_succ_cons, ← ih rest]
      simp [ofRows, timeWidth, Nat.mul_succ, List.drop_append, Nat.add_comm]

theorem length_time_ofRows (types : List DataType) (rows : List PageRow) :
    (ofRows types rows).time.length = timeWidth * rows.length := by
  induction rows with
  | nil => rfl
  | cons row rest ih =>
    simp only [ofRows, timeWidth, List.flatMap_cons, List.length_append, List.length_cons,
      Bytes.length_ofInt64] at ih ⊢
    omega

theorem fits_column (fits : ∀ row ∈ rows, row.Fits columns) {slot : Nat} {column : Column}
    (known : columns[slot]? = some column) (raw : Bytes)
    (written : some raw ∈ rows.map fun row => row.cell slot) : Frame.Fits column.type raw := by
  obtain ⟨row, member, cell⟩ := List.mem_map.mp written
  exact (fits row member).cells slot column raw known cell

theorem firstFailure_ofRows (fits : ∀ row ∈ rows, row.Fits columns) {count : Nat} (inside : count ≤ rows.length) :
    Lane.firstFailure columns (ofRows (columns.map Column.type) rows).lanes count = none := by
  rw [Lane.firstFailure_eq_none_iff]
  intro decoded member
  obtain ⟨slot, found⟩ := List.getElem?_of_mem member
  obtain ⟨column, lane, known, held, rfl⟩ := Lane.getElem?_decodeEach.mp found
  cases (getElem?_lanes_ofRows known).symm.trans held
  rw [Lane.decode_written (fits_column fits known) (by simpa using inside)]

theorem cellsAt_ofRows (fits : ∀ row ∈ rows, row.Fits columns) {n : Nat} (inside : n < rows.length) :
    (Lane.cellsAt columns (ofRows (columns.map Column.type) rows).lanes n).map Cell.value = rows[n].cells := by
  have slots := (fits rows[n] (List.getElem_mem inside)).slots
  apply List.ext_getElem?
  intro slot
  rw [List.getElem?_map, Lane.cellsAt, List.getElem?_zipWith]
  cases known : columns[slot]? with
  | none =>
    have past : rows[n].cells.length ≤ slot := slots ▸ List.getElem?_eq_none_iff.mp known
    simp [past]
  | some column =>
    have within : slot < rows[n].cells.length := slots ▸ (List.getElem?_eq_some_iff.mp known).1
    have covered : n + 1 ≤ (rows.map fun row => row.cell slot).length := by simpa using Nat.succ_le_of_lt inside
    simp only [getElem?_lanes_ofRows known, Lane.cellAt, Lane.decode_written (fits_column fits known) covered]
    simp [inside, within, PageRow.cell]

end Page

namespace PageReader

def ofRows (columns : List Column) (rows : List PageRow) : PageReader :=
  ⟨(Page.ofRows (columns.map Column.type) rows).time, (Page.ofRows (columns.map Column.type) rows).lanes, 0⟩

theorem start_ofRows (columns : List Column) (rows : List PageRow) :
    start (Page.ofRows (columns.map Column.type) rows) columns.length = .ok (ofRows columns rows) := by
  have whole : ¬ (Page.ofRows (columns.map Column.type) rows).time.length % Page.timeWidth ≠ 0 := by
    rw [Page.length_time_ofRows]
    simp
  rw [start, if_neg whole, if_neg (by simp [Page.ofRows])]
  rfl

theorem time_past_ofRows (columns : List Column) (rows : List PageRow) (n : Nat) :
    ((ofRows columns rows).past columns n).time = (rows.drop n).flatMap fun row => Bytes.ofInt64 row.time :=
  Page.drop_time_ofRows (columns.map Column.type) rows n

theorem time_rowAt_ofRows {columns : List Column} {rows : List PageRow} {n : Nat} (inside : n < rows.length) :
    ((ofRows columns rows).rowAt columns n).time = rows[n].time := by
  calc ((ofRows columns rows).rowAt columns n).time
      = Bytes.toInt64 (((ofRows columns rows).past columns n).time.take Page.timeWidth) := rfl
    _ = rows[n].time := by
      rw [time_past_ofRows, List.drop_eq_getElem_cons inside, List.flatMap_cons, Page.timeWidth,
        List.take_left' (Bytes.length_ofInt64 _), Bytes.toInt64_ofInt64]

end PageReader

/-- The rows that can be read off a page one after the other, up to its end, into a row in hand. -/
def Serves (columns : List Column) (reader : PageReader) (row : Row) : List PageRow → Prop
  | [] => reader.hasRow = false
  | first :: rest =>
    reader.hasRow = true ∧ ∃ reader' row', row.materialize columns reader = (.ok (), reader', row') ∧
      row'.present = true ∧ row'.time = first.time ∧ row'.cells.map Cell.value = first.cells ∧
        Serves columns reader' row' rest

theorem serves_past {columns : List Column} {rows : List PageRow} (fits : ∀ row ∈ rows, row.Fits columns)
    {row : Row} {n : Nat} (ready : row.Ready columns (.ofRows columns rows) n) {rest : List PageRow}
    (left : rows.drop n = rest) :
    Serves columns ((PageReader.ofRows columns rows).past columns n) row rest := by
  have aligned : (PageReader.ofRows columns rows).lanes.length = columns.length := Page.length_lanes_ofRows
  induction rest generalizing n row with
  | nil =>
    have drained := PageReader.time_past_ofRows columns rows n
    rw [left] at drained
    rw [Serves, PageReader.hasRow, drained]
    rfl
  | cons first rest ih =>
    have inside : n < rows.length := by
      apply Nat.lt_of_not_le
      intro past
      rw [List.drop_eq_nil_of_le past] at left
      cases left
    rw [List.drop_eq_getElem_cons inside] at left
    cases left
    have unread : Page.timeWidth * (n + 1) ≤ (PageReader.ofRows columns rows).time.length := by
      rw [PageReader.ofRows, Page.length_time_ofRows]
      exact Nat.mul_le_mul_left _ inside
    have going := Page.firstFailure_ofRows fits inside
    refine ⟨?_, _, _, Row.materialize_past aligned unread ready going, rfl, PageReader.time_rowAt_ofRows inside,
      Page.cellsAt_ofRows fits inside, ih (Row.ready_next aligned going) rfl⟩
    rw [PageReader.hasRow_eq_true_iff]
    intro none
    apply Row.enough_past unread
    rw [none]
    decide

theorem serves_ofRows {columns : List Column} {rows : List PageRow} (fits : ∀ row ∈ rows, row.Fits columns)
    {row : Row} (slots : row.cells.length = columns.length) : Serves columns (.ofRows columns rows) row rows := by
  have start : (PageReader.ofRows columns rows).past columns 0 = .ofRows columns rows :=
    PageReader.past_zero Page.length_lanes_ofRows rfl
  rw [← start]
  exact serves_past fits ⟨slots, Cell.allCover_zero _ _⟩ rfl

end SeriesCursor
