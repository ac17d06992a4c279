import SeriesCursor.Proofs.ColumnRefinement
import SeriesCursor.Proofs.Presence

/-!
Decoding loses nothing. The rows of a page, written in the layout of a page again, give back its times,
the bits of its bitmaps that cover a row, and of its values all that was consumed. So two pages with the
same rows differ at most in the bits after the last row and in bytes that nobody has read.
-/

namespace SeriesCursor

namespace Bitmap

/-- What of a bitmap counts for a number of rows: the bytes that cover one, and in the last of them the
high bits that do. -/
def covering (rows : Nat) (bitmap : Bytes) : Bytes :=
  (bitmap.take (size rows)).modify (rows / 8) (· &&& 0xFF <<< UInt8.ofNat (8 - rows % 8))

theorem isNull_eq_not_getMsbD (byte : UInt8) (row : Nat) :
    isNull byte row = !byte.toBitVec.getMsbD (row % 8) := by
  have small : row % 8 < 8 := Nat.mod_lt _ (by decide)
  have table : ∀ bit : Fin 8,
      ((0x80 : UInt8) >>> UInt8.ofNat bit.val).toBitVec = BitVec.twoPow 8 (7 - bit.val) ∧
        BitVec.twoPow 8 (7 - bit.val) ≠ 0 := by decide
  obtain ⟨power, nonzero⟩ := table ⟨row % 8, small⟩
  have bits : (mask row &&& byte).toBitVec =
      if byte.toBitVec.getMsbD (row % 8) = true then BitVec.twoPow 8 (7 - row % 8) else 0 := by
    rw [UInt8.toBitVec_and, mask, power, BitVec.twoPow_and, BitVec.getMsbD_eq_getLsbD]
    simp [small]
  rw [isNull, Bool.eq_iff_iff, beq_iff_eq, ← UInt8.toBitVec_inj, bits]
  cases byte.toBitVec.getMsbD (row % 8) with
  | true => simpa using nonzero
  | false => simp

theorem eq_of_isNull {byte other : UInt8} (same : ∀ bit < 8, isNull byte bit = isNull other bit) :
    byte = other := by
  apply UInt8.eq_of_toBitVec_eq
  apply BitVec.eq_of_getMsbD_eq
  intro bit inside
  have here := same bit inside
  rw [isNull_eq_not_getMsbD, isNull_eq_not_getMsbD, Nat.mod_eq_of_lt inside] at here
  simpa using here

theorem isNull_mod (byte : UInt8) (row : Nat) : isNull byte (row % 8) = isNull byte row := by
  simp [isNull, mask]

theorem eq_of_isNullAt? {bitmap other : Bytes}
    (same : ∀ row, isNullAt? bitmap row = isNullAt? other row) : bitmap = other := by
  apply List.ext_getElem?
  intro block
  have rows : ∀ bit < 8, (bitmap[block]?.map fun byte => isNull byte bit) =
      other[block]?.map fun byte => isNull byte bit := by
    intro bit inside
    have here := same (8 * block + bit)
    have index : (8 * block + bit) / 8 = block := by omega
    have place : (8 * block + bit) % 8 = bit := by omega
    simpa only [isNullAt?, index, ← isNull_mod _ (8 * block + bit), place] using here
  cases left : bitmap[block]? with
  | none =>
    cases right : other[block]? with
    | none => rfl
    | some byte => simpa [left, right] using rows 0 (by decide)
  | some byte =>
    cases right : other[block]? with
    | none => simpa [left, right] using rows 0 (by decide)
    | some byte' =>
      congr 1
      apply eq_of_isNull
      intro bit inside
      simpa [left, right] using rows bit inside

theorem isNull_and_front (byte : UInt8) {row rows : Nat} (inside : rows % 8 ≠ 0) :
    isNull (byte &&& 0xFF <<< UInt8.ofNat (8 - rows % 8)) row =
      (isNull byte row || decide (rows % 8 ≤ row % 8)) := by
  have table : ∀ used bit : Fin 8, used.val ≠ 0 →
      ((0xFF : UInt8) <<< UInt8.ofNat (8 - used.val)).toBitVec.getMsbD bit.val = !decide (used ≤ bit) := by decide
  have front := table ⟨rows % 8, Nat.mod_lt _ (by decide)⟩ ⟨row % 8, Nat.mod_lt _ (by decide)⟩ inside
  simp only [Fin.mk_le_mk] at front
  rw [isNull_eq_not_getMsbD, isNull_eq_not_getMsbD, UInt8.toBitVec_and, BitVec.getMsbD_and, front]
  simp

theorem isNullAt?_covering (rows : Nat) (bitmap : Bytes) (row : Nat) :
    isNullAt? (covering rows bitmap) row =
      if row / 8 < size rows then (isNullAt? bitmap row).map (· || decide (rows ≤ row)) else none := by
  unfold isNullAt? covering
  rw [List.getElem?_modify, List.getElem?_take]
  by_cases inside : row / 8 < size rows
  · simp only [if_pos inside]
    cases bitmap[row / 8]? with
    | none => rfl
    | some byte =>
      unfold size at inside
      by_cases last : rows / 8 = row / 8
      · have partly : rows % 8 ≠ 0 := by omega
        have order : rows % 8 ≤ row % 8 ↔ rows ≤ row := by omega
        simp [last, isNull_and_front byte partly, order]
      · have before : ¬ rows ≤ row := by omega
        simp [last, before]
  · simp [if_neg inside]

theorem isNullAt?_ofPresence_eq (present : List Bool) (row : Nat) :
    isNullAt? (ofPresence present) row =
      if row / 8 < size present.length then some (!present[row]?.getD false) else none := by
  have start : isNullAt? (empty present.length) row =
      if row / 8 < size present.length then some true else none := by
    simp only [isNullAt?, empty, List.getElem?_replicate]
    split <;> simp [isNull]
  rw [ofPresence, isNullAt?_foldl_setPresent, start]
  split
  · by_cases inside : row < present.length
    · cases held : present[row] <;> simp [inside, held]
    · simp [inside]
  · rfl

theorem ofPresence_eq_covering {present : List Bool} {bitmap : Bytes}
    (read : ∀ row (inside : row < present.length), isNullAt? bitmap row = some (!present[row])) :
    ofPresence present = covering present.length bitmap ∧ size present.length ≤ bitmap.length := by
  have enough : size present.length ≤ bitmap.length := by
    unfold size
    by_cases none : present.length = 0
    · omega
    · have last := read (present.length - 1) (by omega)
      have byte : (present.length - 1) / 8 < bitmap.length := by
        apply Nat.lt_of_not_le
        intro short
        simp [isNullAt?, List.getElem?_eq_none short] at last
      omega
  refine ⟨eq_of_isNullAt? ?_, enough⟩
  intro row
  rw [isNullAt?_ofPresence_eq, isNullAt?_covering]
  by_cases covered : row / 8 < size present.length
  · rw [if_pos covered, if_pos covered]
    by_cases inside : row < present.length
    · simp [read row inside, inside, Nat.not_le_of_lt inside]
    · have byte : row / 8 < bitmap.length := Nat.lt_of_lt_of_le covered enough
      simp [isNullAt?, byte, Nat.le_of_not_lt inside, inside]
  · rw [if_neg covered, if_neg covered]

end Bitmap

namespace Lane

variable {column : Column} {lane : Lane} {count later : Nat}

theorem take_cells (going : (decode column lane later).failure = none) (order : count ≤ later) :
    (decode column lane later).cells.take count = (decode column lane count).cells := by
  induction order with
  | refl => rw [List.take_of_length_le (Nat.le_of_eq (length_cells going))]
  | @step later order ih =>
    have before := failure_eq_none_of_le going (Nat.le_succ later)
    rcases decode_succ_cases before with ⟨value, rest, _, next⟩ | ⟨e, rest, _, next⟩
    · rw [next, List.take_append_of_le_length, ih before]
      rw [length_cells before]
      exact order
    · rw [next] at going
      cases going

theorem getElem?_cells (going : (decode column lane later).failure = none) {row : Nat} (inside : row < later) :
    (decode column lane (row + 1)).cells[row]? = (decode column lane later).cells[row]? := by
  rw [← take_cells going inside, List.getElem?_take_of_lt (Nat.lt_succ_self row)]

theorem isNullAt?_of_decoded (going : (decode column lane count).failure = none) {row : Nat}
    (inside : row < (decode column lane count).cells.length) :
    Bitmap.isNullAt? lane.bitmap row = some (!(decode column lane count).cells[row].isSome) := by
  induction count with
  | zero => cases inside
  | succ count ih =>
    have before := failure_eq_none_of_le going (Nat.le_succ count)
    have length := length_cells before
    rcases decode_succ_cases before with ⟨value, rest, taken, next⟩ | ⟨e, rest, _, next⟩
    · simp only [next, List.length_append, List.length_singleton, length] at inside ⊢
      rcases Nat.lt_succ_iff_lt_or_eq.mp inside with earlier | rfl
      · rw [List.getElem_append_left (by omega)]
        exact ih before (by omega)
      · have last : Bitmap.isNullAt? lane.bitmap row = some (!value.isSome) := by
          unfold cell at taken
          split at taken
          · cases taken
          · rename_i null
            cases taken
            exact null
          · rename_i present
            split at taken
            · cases taken
              exact present
            · cases taken
        simpa [length] using last
    · rw [next] at going
      cases going

theorem presence_written (going : (decode column lane count).failure = none) :
    Bitmap.ofPresence ((decode column lane count).cells.map Option.isSome) =
        Bitmap.covering count lane.bitmap ∧ Bitmap.size count ≤ lane.bitmap.length := by
  have read : ∀ row (inside : row < ((decode column lane count).cells.map Option.isSome).length),
      Bitmap.isNullAt? lane.bitmap row = some (!((decode column lane count).cells.map Option.isSome)[row]) := by
    intro row inside
    rw [List.getElem_map]
    exact isNullAt?_of_decoded going (by simpa using inside)
  have written := Bitmap.ofPresence_eq_covering read
  rwa [List.length_map, length_cells going] at written

end Lane

def Row.delivered (row : Row) : PageRow :=
  ⟨row.time, row.cells.map Cell.value⟩

theorem Row.cell_delivered (row : Row) (slot : Nat) : row.delivered.cell slot = row.value? slot := by
  rw [PageRow.cell, Row.delivered, List.getElem?_map, Row.value?]
  cases row.cells[slot]? <;> rfl

def Row.decodedRows (columns : List Column) (fresh : PageReader) (prior : Row) (calls : Nat) : List PageRow :=
  (List.range calls).map fun call => (afterCalls columns fresh prior (call + 1)).2.delivered

namespace Page

theorem times_written (time : Bytes) (rows : Nat) (whole : timeWidth * rows ≤ time.length) :
    ((List.range rows).flatMap fun row =>
      Bytes.ofInt64 (Bytes.toInt64 ((time.drop (timeWidth * row)).take timeWidth))) =
        time.take (timeWidth * rows) := by
  induction rows with
  | zero => simp
  | succ rows ih =>
    have fewer : timeWidth * rows ≤ time.length := by
      simp only [timeWidth] at whole ⊢
      omega
    have width : ((time.drop (timeWidth * rows)).take timeWidth).length = 8 := by
      simp only [List.length_take, List.length_drop, timeWidth] at whole ⊢
      omega
    rw [List.range_succ, List.flatMap_append, ih fewer, Nat.mul_succ, List.take_add]
    simp [Bytes.ofInt64_toInt64 _ width]

end Page

/-- What rows that were decoded off a page give when they are written again, where the page is left with the
given reader. -/
structure WrittenBack (types : List DataType) (page : Page) (rows : List PageRow) (left : PageReader) :
    Prop where
  time : (Page.ofRows types rows).time = page.time
  values : ∀ (slot : Nat) (values : Bytes) (lane : Lane), page.values[slot]? = some values →
    left.lanes[slot]? = some lane → values = (Page.ofRows types rows).values[slot]?.getD [] ++ lane.values
  bitmaps : ∀ (slot : Nat) (bitmap : Bytes), page.bitmaps[slot]? = some bitmap →
    (Page.ofRows types rows).bitmaps[slot]?.getD [] = Bitmap.covering rows.length bitmap ∧
      Bitmap.size rows.length ≤ bitmap.length
  buffers : rows ≠ [] → (Page.ofRows types rows).bitmaps.length = page.bitmaps.length ∧
    (Page.ofRows types rows).values.length = page.values.length ∧ left.lanes.length = page.values.length

/-- Two pages, left with the given readers, differ at most in bits that cover no row and in bytes that are
left. -/
structure DifferUnread (rows : Nat) (page other : Page) (left otherLeft : PageReader) : Prop where
  time : page.time = other.time
  bitmaps : ∀ (slot : Nat) (bitmap bitmap' : Bytes), page.bitmaps[slot]? = some bitmap →
    other.bitmaps[slot]? = some bitmap' → Bitmap.covering rows bitmap = Bitmap.covering rows bitmap'
  values : ∀ (slot : Nat) (values values' : Bytes) (lane lane' : Lane), page.values[slot]? = some values →
    other.values[slot]? = some values' → left.lanes[slot]? = some lane → otherLeft.lanes[slot]? = some lane' →
      ∃ consumed, values = consumed ++ lane.values ∧ values' = consumed ++ lane'.values
  buffers : rows ≠ 0 → page.bitmaps.length = other.bitmaps.length ∧ page.values.length = other.values.length

theorem differUnread_of_writtenBack {types : List DataType} {page other : Page} {rows : List PageRow}
    {left otherLeft : PageReader} (written : WrittenBack types page rows left)
    (alsoWritten : WrittenBack types other rows otherLeft) :
    DifferUnread rows.length page other left otherLeft where
  time := written.time.symm.trans alsoWritten.time
  bitmaps := by
    intro slot bitmap bitmap' held alsoHeld
    rw [← (written.bitmaps slot bitmap held).1, (alsoWritten.bitmaps slot bitmap' alsoHeld).1]
  values := by
    intro slot values values' lane lane' held alsoHeld remains alsoRemains
    exact ⟨_, written.values slot values lane held remains,
      alsoWritten.values slot values' lane' alsoHeld alsoRemains⟩
  buffers := by
    intro some
    have rows : rows ≠ [] := by
      rintro rfl
      exact some rfl
    obtain ⟨bitmaps, values, _⟩ := written.buffers rows
    obtain ⟨alsoBitmaps, alsoValues, _⟩ := alsoWritten.buffers rows
    exact ⟨bitmaps.symm.trans alsoBitmaps, values.symm.trans alsoValues⟩

section

variable {schema : Schema} {page : Page} {fresh : PageReader} {prior : Row}

theorem decodedRows_eq (accepted : PageReader.start page schema.slotCount = .ok fresh)
    (slots : prior.cells.length = schema.slotCount)
    (going : Lane.firstFailure schema.columns page.lanes page.rowCount = none) :
    Row.decodedRows schema.columns fresh prior page.rowCount =
      (List.range page.rowCount).map fun row => (fresh.rowAt schema.columns row).delivered := by
  apply List.map_congr_left
  intro row member
  have inside := List.mem_range.mp member
  rw [(afterCalls_of_start accepted slots (Nat.le_refl _) going row inside).2]

theorem cells_decodedRows (accepted : PageReader.start page schema.slotCount = .ok fresh)
    (slots : prior.cells.length = schema.slotCount)
    (going : Lane.firstFailure schema.columns page.lanes page.rowCount = none) {slot : Nat} {column : Column}
    {lane : Lane} (known : schema.columns[slot]? = some column) (held : page.lanes[slot]? = some lane) :
    (Row.decodedRows schema.columns fresh prior page.rowCount).map (PageRow.cell · slot) =
      (Lane.decode column lane page.rowCount).cells := by
  have decodes := Lane.failure_eq_none_of_firstFailure going known held
  have length := Lane.length_cells decodes
  rw [decodedRows_eq accepted slots going, List.map_map]
  obtain ⟨rfl, _, _⟩ := PageReader.start_eq_ok accepted
  apply List.ext_getElem
  · simp [length]
  · intro row inside _
    have before : row < page.rowCount := by simpa using inside
    have column := Lane.getElem?_cells decodes before
    simp only [List.getElem_map, List.getElem_range, Function.comp_apply, Row.cell_delivered, rowAt_value?,
      Page.columnValue, Lane.decodeEach, List.getElem?_zipWith, known, held, Option.bind_some, column]
    simp [length, before]

theorem length_decodedRows (columns : List Column) (fresh : PageReader) (prior : Row) (calls : Nat) :
    (Row.decodedRows columns fresh prior calls).length = calls := by
  simp [Row.decodedRows]

theorem writtenBack_nil (accepted : PageReader.start page schema.slotCount = .ok fresh)
    (none : page.rowCount = 0) (types : List DataType) : WrittenBack types page [] fresh := by
  obtain ⟨rfl, whole, _⟩ := PageReader.start_eq_ok accepted
  rw [none] at whole
  constructor
  case time => exact (List.eq_nil_of_length_eq_zero whole).symm
  case values =>
    intro slot values lane held remains
    obtain ⟨bitmap, values', _, held', rfl⟩ := List.getElem?_zipWith_eq_some.mp remains
    cases held.symm.trans held'
    cases known : types[slot]? <;> simp [Page.ofRows, Page.writeValues, known]
  case bitmaps =>
    intro slot bitmap _
    cases known : types[slot]? <;>
      simp [Page.ofRows, known, Bitmap.covering, Bitmap.size, Bitmap.ofPresence, Bitmap.empty]
  case buffers =>
    intro some
    exact absurd rfl some

theorem time_written (accepted : PageReader.start page schema.slotCount = .ok fresh)
    (slots : prior.cells.length = schema.slotCount)
    (going : Lane.firstFailure schema.columns page.lanes page.rowCount = none) (types : List DataType) :
    (Page.ofRows types (Row.decodedRows schema.columns fresh prior page.rowCount)).time = page.time := by
  rw [decodedRows_eq accepted slots going, Page.ofRows, List.flatMap_map]
  obtain ⟨rfl, whole, _⟩ := PageReader.start_eq_ok accepted
  have times := Page.times_written page.time page.rowCount (Nat.le_of_eq whole.symm)
  rw [List.take_of_length_le (Nat.le_of_eq whole)] at times
  exact times

theorem buffers_of_start (accepted : PageReader.start page schema.slotCount = .ok fresh)
    (more : 0 < page.rowCount) :
    page.bitmaps.length = schema.slotCount ∧ page.values.length = schema.slotCount ∧
      ∀ slot < schema.slotCount, ∃ column bitmap values, schema.columns[slot]? = some column ∧
        page.bitmaps[slot]? = some bitmap ∧ page.values[slot]? = some values ∧
          page.lanes[slot]? = some ⟨bitmap, values⟩ := by
  obtain ⟨_, whole, fits⟩ := PageReader.start_eq_ok accepted
  obtain ⟨bitmaps, values⟩ : page.bitmaps.length = schema.slotCount ∧ page.values.length = schema.slotCount := by
    apply fits
    intro empty
    simp only [empty, List.length_nil, Page.timeWidth] at whole
    omega
  refine ⟨bitmaps, values, ?_⟩
  intro slot inside
  refine ⟨schema.columns[slot], page.bitmaps[slot], page.values[slot], ?_⟩
  simp [Page.lanes, bitmaps, values, inside]

theorem writtenBack_decodedRows (accepted : PageReader.start page schema.slotCount = .ok fresh)
    (slots : prior.cells.length = schema.slotCount)
    (ok : ∀ call < page.rowCount, Row.outcome schema.columns fresh prior call = .ok ()) :
    WrittenBack (schema.columns.map Column.type) page
      (Row.decodedRows schema.columns fresh prior page.rowCount)
      (Row.afterCalls schema.columns fresh prior page.rowCount).1 := by
  -- a page without rows may have any number of buffers, which then say nothing
  rcases Nat.eq_zero_or_pos page.rowCount with none | more
  · rw [none]
    exact writtenBack_nil accepted none _
  · obtain ⟨_, going⟩ := going_of_outcomes accepted slots ok
    have cells := @cells_decodedRows schema page fresh prior accepted slots going
    obtain ⟨bitmaps, values, each⟩ := buffers_of_start accepted more
    have left : (Row.afterCalls schema.columns fresh prior page.rowCount).1.lanes =
        Lane.allPast schema.columns page.lanes page.rowCount := by
      have last := (afterCalls_of_start accepted slots (Nat.le_refl _) going (page.rowCount - 1) (by omega)).2
      rw [Nat.sub_add_cancel more] at last
      obtain ⟨rfl, _, _⟩ := PageReader.start_eq_ok accepted
      rw [last]
      rfl
    constructor
    case time => exact time_written accepted slots going _
    case values =>
      intro slot buffer lane held remains
      obtain ⟨column, bitmap, _, known, _, held', lanes⟩ :=
        each slot (values ▸ (List.getElem?_eq_some_iff.mp held).1)
      cases held.symm.trans held'
      have written := cells known lanes
      rw [left, Lane.allPast, List.getElem?_zipWith, known, lanes] at remains
      cases remains
      simp only [Page.ofRows, List.getElem?_mapIdx, List.getElem?_map, known, Option.map_some, Option.getD_some,
        written]
      exact Lane.values_eq_written (Lane.failure_eq_none_of_firstFailure going known lanes)
    case bitmaps =>
      intro slot bitmap held
      obtain ⟨column, _, buffer, known, held', _, lanes⟩ :=
        each slot (bitmaps ▸ (List.getElem?_eq_some_iff.mp held).1)
      cases held.symm.trans held'
      have presence : (Row.decodedRows schema.columns fresh prior page.rowCount).map
          (fun row => (row.cell slot).isSome) =
            (Lane.decode column ⟨bitmap, buffer⟩ page.rowCount).cells.map Option.isSome := by
        rw [← cells known lanes, List.map_map]
        rfl
      simp only [Page.ofRows, List.getElem?_mapIdx, List.getElem?_map, known, Option.map_some, Option.getD_some,
        presence, length_decodedRows]
      exact Lane.presence_written (Lane.failure_eq_none_of_firstFailure going known lanes)
    case buffers =>
      intro _
      simp [Page.ofRows, bitmaps, values, left, Lane.allPast, Page.lanes]

/-- Decoding loses nothing, for every page that is accepted and decodes to its last row: its rows, written
again, give back the times, the bits that cover them, and all that was consumed of the values. So another
page with the same rows differs at most in bits that cover none and in bytes that are left. -/
theorem writing_undoes_decoding (accepted : PageReader.start page schema.slotCount = .ok fresh)
    (slots : prior.cells.length = schema.slotCount)
    (ok : ∀ call < page.rowCount, Row.outcome schema.columns fresh prior call = .ok ()) :
    WrittenBack (schema.columns.map Column.type) page
        (Row.decodedRows schema.columns fresh prior page.rowCount)
        (Row.afterCalls schema.columns fresh prior page.rowCount).1 ∧
      ∀ (other : Page) (otherFresh : PageReader) (otherPrior : Row),
        PageReader.start other schema.slotCount = .ok otherFresh →
        otherPrior.cells.length = schema.slotCount →
        (∀ call < other.rowCount, Row.outcome schema.columns otherFresh otherPrior call = .ok ()) →
        Row.decodedRows schema.columns otherFresh otherPrior other.rowCount =
          Row.decodedRows schema.columns fresh prior page.rowCount →
        DifferUnread page.rowCount page other (Row.afterCalls schema.columns fresh prior page.rowCount).1
          (Row.afterCalls schema.columns otherFresh otherPrior other.rowCount).1 := by
  have written := writtenBack_decodedRows accepted slots ok
  refine ⟨written, ?_⟩
  intro other otherFresh otherPrior alsoAccepted alsoSlots alsoOk sameRows
  have alsoWritten := writtenBack_decodedRows alsoAccepted alsoSlots alsoOk
  rw [sameRows] at alsoWritten
  have differ := differUnread_of_writtenBack written alsoWritten
  rwa [length_decodedRows] at differ

end

def twoTypes : Schema := ⟨["a", "b"], [⟨"a", .int32⟩, ⟨"b", .text⟩], false⟩

def twoRows : Page :=
  ⟨[0, 0, 0, 0, 0, 0, 0, 1, 0, 0, 0, 0, 0, 0, 0, 2], [[0x40], [0xC0]],
    [[0, 0, 0, 5], [0, 0, 0, 1, 0x78, 0, 0, 0, 0]]⟩

def twoRowsPadded : Page :=
  ⟨[0, 0, 0, 0, 0, 0, 0, 1, 0, 0, 0, 0, 0, 0, 0, 2], [[0x7F, 0xFF], [0xD5]],
    [[0, 0, 0, 5, 9], [0, 0, 0, 1, 0x78, 0, 0, 0, 0]]⟩

def readerOf (page : Page) : PageReader :=
  ⟨page.time, page.lanes, 0⟩

theorem writing_undoes_decoding_of_padded_page :
    PageReader.start twoRows 2 = .ok (readerOf twoRows) ∧
      PageReader.start twoRowsPadded 2 = .ok (readerOf twoRowsPadded) ∧
      (∀ call < 2, Row.outcome twoTypes.columns (readerOf twoRows) (.empty 2) call = .ok ()) ∧
      (∀ call < 2, Row.outcome twoTypes.columns (readerOf twoRowsPadded) (.empty 2) call = .ok ()) ∧
      WrittenBack [.int32, .text] twoRows (Row.decodedRows twoTypes.columns (readerOf twoRows) (.empty 2) 2)
        (Row.afterCalls twoTypes.columns (readerOf twoRows) (.empty 2) 2).1 ∧
      DifferUnread 2 twoRows twoRowsPadded
        (Row.afterCalls twoTypes.columns (readerOf twoRows) (.empty 2) 2).1
        (Row.afterCalls twoTypes.columns (readerOf twoRowsPadded) (.empty 2) 2).1 := by
  have ok : ∀ call < 2, Row.outcome twoTypes.columns (readerOf twoRows) (.empty 2) call = .ok () := by
    intro call inside
    match call, inside with
    | 0, _ | 1, _ => rfl
  have alsoOk : ∀ call < 2, Row.outcome twoTypes.columns (readerOf twoRowsPadded) (.empty 2) call = .ok () := by
    intro call inside
    match call, inside with
    | 0, _ | 1, _ => rfl
  obtain ⟨written, differ⟩ := @writing_undoes_decoding twoTypes twoRows (readerOf twoRows) (.empty 2) rfl rfl ok
  exact ⟨rfl, rfl, ok, alsoOk, written, differ twoRowsPadded (readerOf twoRowsPadded) (.empty 2) rfl rfl alsoOk rfl⟩

end SeriesCursor
