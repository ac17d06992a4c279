import SeriesCursor.Proofs.ColumnRefinement
import SeriesCursor.Proofs.Transitions

/-!
What a row leaves behind when it cannot be decoded. The slots before the one at fault have been decoded as in
any other row; that slot keeps its value, and has lost the bitmap byte it took and the length of a text it read;
the slots after it are as they were. The time is gone, and the count of rows stands where it stood, so that the
two are out of step for every later call: nothing here supposes that they agree.
-/

namespace SeriesCursor

namespace Frame

/-- Why no frame comes off the front of a buffer, and what is then left of it. -/
inductive Broken (type : DataType) (column : String) (buffer : Bytes) : Error → Bytes → Prop where
  | width {width : Nat} (fixed : type.width? = some width) (short : buffer.length < width) :
      Broken type column buffer (.truncated (.values column) width buffer.length) buffer
  | length (text : type = .text) (short : buffer.length < 4) :
      Broken type column buffer (.truncated (.values column) 4 buffer.length) buffer
  | negative (text : type = .text) (enough : 4 ≤ buffer.length) (sign : Bytes.toInt32 (buffer.take 4) < 0) :
      Broken type column buffer (.malformedPage (.negativeLength (Bytes.toInt32 (buffer.take 4)) column))
        (buffer.drop 4)
  | text {length : Nat} (text : type = .text) (enough : 4 ≤ buffer.length)
      (announced : (Bytes.toInt32 (buffer.take 4)).toInt = length) (short : buffer.length - 4 < length) :
      Broken type column buffer (.truncated (.values column) length (buffer.length - 4)) (buffer.drop 4)

variable {column : String} {buffer rest : Bytes} {e : Error}

theorem broken_of_takeText (failed : takeText buffer column = (.error e, rest)) :
    Broken .text column buffer e rest := by
  rw [takeText] at failed
  by_cases short : buffer.length < 4
  · rw [takeWidth_of_short short] at failed
    cases failed
    exact .length rfl short
  · have enough := Nat.le_of_not_lt short
    rw [takeWidth_of_length enough] at failed
    by_cases sign : Bytes.toInt32 (buffer.take 4) < 0
    · simp only [if_pos sign] at failed
      cases failed
      exact .negative rfl enough sign
    · simp only [if_neg sign] at failed
      obtain ⟨short, rfl, rfl⟩ := takeWidth_eq_error failed
      rw [List.length_drop] at short ⊢
      have nonnegative : 0 ≤ (Bytes.toInt32 (buffer.take 4)).toInt := by
        rw [Int32.lt_iff_toInt_lt] at sign
        exact Int.not_lt.mp sign
      exact .text rfl enough (Int.toNat_of_nonneg nonnegative).symm short

theorem broken_of_take {type : DataType} (failed : take type buffer column = (.error e, rest)) :
    Broken type column buffer e rest := by
  rw [take_eq] at failed
  cases fixed : type.width? with
  | some width =>
    rw [fixed] at failed
    obtain ⟨short, rfl, rfl⟩ := takeWidth_eq_error failed
    exact .width fixed short
  | none =>
    rw [fixed] at failed
    cases type <;> cases fixed
    exact broken_of_takeText failed

end Frame

def Lane.Supplies (row : Nat) (lane : Lane) : Prop :=
  Bitmap.startsBlock row = true → lane.bitmap ≠ []

def Lane.bitmapPast (row : Nat) (lane : Lane) : Bytes :=
  if Bitmap.startsBlock row then lane.bitmap.tail else lane.bitmap

def Cell.presencePast (row : Nat) (lane : Lane) (cell : Cell) : UInt8 :=
  if Bitmap.startsBlock row then lane.bitmap.headD cell.presence else cell.presence

namespace Cell

/-- What a row does to a slot that it decodes: it takes a bitmap byte where one is due, and a frame off the
values unless the byte says that the row is null. -/
inductive Taken (row : Nat) (column : Column) (lane : Lane) (cell : Cell) : Lane → Cell → Prop where
  | null (supplied : lane.Supplies row) (null : Bitmap.isNull (cell.presencePast row lane) row = true) :
      Taken row column lane cell ⟨lane.bitmapPast row, lane.values⟩ ⟨none, cell.presencePast row lane⟩
  | value {raw rest : Bytes} (supplied : lane.Supplies row)
      (notNull : Bitmap.isNull (cell.presencePast row lane) row = false)
      (frame : lane.values = Frame.write column.type raw ++ rest) (fits : Frame.Fits column.type raw) :
      Taken row column lane cell ⟨lane.bitmapPast row, rest⟩ ⟨some raw, cell.presencePast row lane⟩

/-- What a row does to the slot at which it fails, for want of a bitmap byte or of a frame. -/
inductive Stuck (e : Error) (row : Nat) (column : Column) (lane : Lane) (cell : Cell) : Lane → Cell → Prop where
  | bitmap (due : Bitmap.startsBlock row = true) (none : lane.bitmap = [])
      (error : e = .truncated (.bitmap column.name) 1 0) : Stuck e row column lane cell lane cell
  | values {rest : Bytes} (supplied : lane.Supplies row)
      (notNull : Bitmap.isNull (cell.presencePast row lane) row = false)
      (broken : Frame.Broken column.type column.name lane.values e rest) :
      Stuck e row column lane cell ⟨lane.bitmapPast row, rest⟩ ⟨cell.value, cell.presencePast row lane⟩

section

variable {column : Column} {row : Nat} {lane lane' : Lane} {cell cell' : Cell} {e : Error}

theorem refresh_of_supplies (supplied : lane.Supplies row) :
    refresh column row lane cell =
      (.ok (), ⟨lane.bitmapPast row, lane.values⟩, ⟨cell.value, cell.presencePast row lane⟩) := by
  unfold refresh Lane.bitmapPast presencePast
  by_cases due : Bitmap.startsBlock row = true
  · obtain ⟨byte, rest, held⟩ := List.exists_cons_of_ne_nil (supplied due)
    simp only [due, held, if_true, List.tail_cons, List.headD_cons]
  · simp only [due, Bool.false_eq_true, if_false]

theorem refresh_of_empty (due : Bitmap.startsBlock row = true) (none : lane.bitmap = []) :
    refresh column row lane cell = (.error (.truncated (.bitmap column.name) 1 0), lane, cell) := by
  simp only [refresh, due, none, if_true]

theorem supplies_or_empty (row : Nat) (lane : Lane) :
    lane.Supplies row ∨ Bitmap.startsBlock row = true ∧ lane.bitmap = [] := by
  by_cases due : Bitmap.startsBlock row = true
  · by_cases none : lane.bitmap = []
    · exact .inr ⟨due, none⟩
    · exact .inl fun _ => none
  · exact .inl fun wanted => absurd wanted due

theorem taken_of_decode (decoded : decode column row lane cell = (.ok (), lane', cell')) :
    Taken row column lane cell lane' cell' := by
  rcases supplies_or_empty row lane with supplied | ⟨due, none⟩
  · simp only [decode, refresh_of_supplies supplied, fill] at decoded
    split at decoded
    · rename_i null
      cases decoded
      exact .null supplied null
    · rename_i notNull
      split at decoded
      · rename_i raw rest taken
        cases decoded
        obtain ⟨frame, fits⟩ := Frame.eq_write_of_take taken
        exact .value supplied (Bool.eq_false_iff.mpr notNull) frame fits
      · cases decoded
  · simp only [decode, refresh_of_empty due none] at decoded
    cases decoded

theorem stuck_of_decode (failed : decode column row lane cell = (.error e, lane', cell')) :
    Stuck e row column lane cell lane' cell' := by
  rcases supplies_or_empty row lane with supplied | ⟨due, none⟩
  · simp only [decode, refresh_of_supplies supplied, fill] at failed
    split at failed
    · cases failed
    · rename_i notNull
      split at failed
      · cases failed
      · rename_i fault rest taken
        cases failed
        exact .values supplied (Bool.eq_false_iff.mpr notNull) (Frame.broken_of_take taken)
  · simp only [decode, refresh_of_empty due none] at failed
    cases failed
    exact .bitmap due none rfl

end

def AtSlot (columns : List Column) (lanes : List Lane) (cells : List Cell) (lanes' : List Lane) (cells' : List Cell)
    (moves : Column → Lane → Cell → Lane → Cell → Prop) (slot : Nat) : Prop :=
  ∃ column lane cell lane' cell', columns[slot]? = some column ∧ lanes[slot]? = some lane ∧
    cells[slot]? = some cell ∧ lanes'[slot]? = some lane' ∧ cells'[slot]? = some cell' ∧
    moves column lane cell lane' cell'

/-- A row breaks off at a slot: the slots below have been decoded, the ones above are as they were. -/
structure BreaksAt (e : Error) (row : Nat) (columns : List Column) (lanes : List Lane) (cells : List Cell)
    (lanes' : List Lane) (cells' : List Cell) (slot : Nat) : Prop where
  below : ∀ lower < slot, AtSlot columns lanes cells lanes' cells' (Taken row) lower
  here : AtSlot columns lanes cells lanes' cells' (Stuck e row) slot
  above : ∀ higher, slot < higher → lanes'[higher]? = lanes[higher]? ∧ cells'[higher]? = cells[higher]?

section

variable {columns : List Column} {row : Nat} {lanes lanes' : List Lane} {cells cells' : List Cell} {e : Error}

theorem taken_of_decodeAll (aligned : lanes.length = columns.length) (slots : cells.length = columns.length)
    (decoded : decodeAll row columns lanes cells = (.ok (), lanes', cells')) :
    ∀ slot < columns.length, AtSlot columns lanes cells lanes' cells' (Taken row) slot := by
  induction columns generalizing lanes cells lanes' cells' with
  | nil => exact fun slot none => absurd none (Nat.not_lt_zero slot)
  | cons column columns ih =>
    obtain ⟨lane, lanes, rfl⟩ := List.exists_cons_of_length_eq_add_one aligned
    obtain ⟨cell, cells, rfl⟩ := List.exists_cons_of_length_eq_add_one slots
    rw [decodeAll] at decoded
    split at decoded
    · rename_i first
      cases later : decodeAll row columns lanes cells with
      | mk result left =>
        rw [later] at decoded
        cases decoded
        intro slot inside
        cases slot with
        | zero => exact ⟨_, _, _, _, _, rfl, rfl, rfl, rfl, rfl, taken_of_decode first⟩
        | succ slot =>
          exact ih (Nat.succ.inj aligned) (Nat.succ.inj slots) later slot (Nat.lt_of_succ_lt_succ inside)
    · cases decoded

theorem breaksAt_of_decodeAll (aligned : lanes.length = columns.length) (slots : cells.length = columns.length)
    (failed : decodeAll row columns lanes cells = (.error e, lanes', cells')) :
    ∃ slot, BreaksAt e row columns lanes cells lanes' cells' slot := by
  -- the row is stuck in its first slot, or decodes it and breaks off in what is a row of the slots above
  induction columns generalizing lanes cells lanes' cells' with
  | nil => cases failed
  | cons column columns ih =>
    obtain ⟨lane, lanes, rfl⟩ := List.exists_cons_of_length_eq_add_one aligned
    obtain ⟨cell, cells, rfl⟩ := List.exists_cons_of_length_eq_add_one slots
    rw [decodeAll] at failed
    split at failed
    · rename_i first
      cases later : decodeAll row columns lanes cells with
      | mk result left =>
        rw [later] at failed
        cases failed
        obtain ⟨slot, breaks⟩ := ih (Nat.succ.inj aligned) (Nat.succ.inj slots) later
        refine ⟨slot + 1, ?_, breaks.here, ?_⟩
        · intro lower below
          cases lower with
          | zero => exact ⟨_, _, _, _, _, rfl, rfl, rfl, rfl, rfl, taken_of_decode first⟩
          | succ lower => exact breaks.below lower (Nat.lt_of_succ_lt_succ below)
        · intro higher above
          cases higher with
          | zero => exact absurd above (Nat.not_lt_zero _)
          | succ higher => exact breaks.above higher (Nat.lt_of_succ_lt_succ above)
    · rename_i stopped
      cases failed
      refine ⟨0, ?_, ⟨_, _, _, _, _, rfl, rfl, rfl, rfl, rfl, stuck_of_decode stopped⟩, ?_⟩
      · exact fun lower none => absurd none (Nat.not_lt_zero lower)
      · intro higher above
        cases higher with
        | zero => exact absurd above (Nat.lt_irrefl 0)
        | succ higher => exact ⟨rfl, rfl⟩

end

end Cell

namespace Row

/-- What a call for the next row of a page gives, and what it leaves of the page and of the row in hand. -/
inductive Leaves (columns : List Column) (reader : PageReader) (row : Row) :
    Except Error Unit × PageReader × Row → Prop where
  | decoded {lanes : List Lane} {cells : List Cell} (enough : Page.timeWidth ≤ reader.time.length)
      (taken : ∀ slot < columns.length,
        Cell.AtSlot columns reader.lanes row.cells lanes cells (Cell.Taken reader.rowOffset) slot) :
      Leaves columns reader row
        (.ok (), ⟨reader.time.drop Page.timeWidth, lanes, reader.rowOffset + 1⟩,
          ⟨Bytes.toInt64 (reader.time.take Page.timeWidth), cells, true⟩)
  | noTime (short : reader.time.length < Page.timeWidth) :
      Leaves columns reader row
        (.error (.truncated .time Page.timeWidth reader.time.length), reader, { row with present := false })
  | failed {e : Error} {lanes : List Lane} {cells : List Cell} {slot : Nat}
      (enough : Page.timeWidth ≤ reader.time.length)
      (breaks : Cell.BreaksAt e reader.rowOffset columns reader.lanes row.cells lanes cells slot) :
      Leaves columns reader row
        (.error e, ⟨reader.time.drop Page.timeWidth, lanes, reader.rowOffset⟩,
          ⟨Bytes.toInt64 (reader.time.take Page.timeWidth), cells, false⟩)

theorem leaves_of_aligned {columns : List Column} {reader : PageReader} {row : Row}
    (slots : row.cells.length = columns.length)
    (aligned : Page.timeWidth ≤ reader.time.length → reader.lanes.length = columns.length) :
    Leaves columns reader row (row.materialize columns reader) := by
  by_cases short : reader.time.length < Page.timeWidth
  · rw [materialize, if_pos short]
    exact .noTime short
  · have enough := Nat.le_of_not_lt short
    rw [materialize, if_neg short]
    dsimp only
    split
    · rename_i decoded
      exact .decoded enough (Cell.taken_of_decodeAll (aligned enough) slots decoded)
    · rename_i failed
      obtain ⟨slot, breaks⟩ := Cell.breaksAt_of_decodeAll (aligned enough) slots failed
      exact .failed enough breaks

end Row

namespace PageReader

def worn (columns : List Column) (fresh : PageReader) (rows : List Row) : PageReader :=
  rows.foldl (fun reader row => (row.materialize columns reader).2.1) fresh

theorem lengths_materialize (columns : List Column) (reader : PageReader) (row : Row) :
    (row.materialize columns reader).2.1.lanes.length = reader.lanes.length ∧
      (row.materialize columns reader).2.1.time.length ≤ reader.time.length := by
  have materialized := Row.materialize_materialized columns reader row
  generalize row.materialize columns reader = outcome at materialized ⊢
  cases materialized with
  | noTime short => exact ⟨rfl, Nat.le_refl _⟩
  | failed e time lanes cells enough sameLanes sameCells => exact ⟨sameLanes, by simp⟩
  | decoded time lanes cells enough sameLanes sameCells => exact ⟨sameLanes, by simp⟩

theorem lengths_worn (columns : List Column) (fresh : PageReader) (rows : List Row) :
    (fresh.worn columns rows).lanes.length = fresh.lanes.length ∧
      (fresh.worn columns rows).time.length ≤ fresh.time.length := by
  induction rows generalizing fresh with
  | nil => exact ⟨rfl, Nat.le_refl _⟩
  | cons row rows ih =>
    have step := lengths_materialize columns fresh row
    have rest := ih (row.materialize columns fresh).2.1
    exact ⟨rest.1.trans step.1, Nat.le_trans rest.2 step.2⟩

theorem length_lanes_worn {columns : List Column} {page : Page} {slots : Nat} {fresh : PageReader}
    (accepted : start page slots = .ok fresh) {rows : List Row}
    (enough : Page.timeWidth ≤ (fresh.worn columns rows).time.length) :
    (fresh.worn columns rows).lanes.length = slots := by
  obtain ⟨lanes, shorter⟩ := lengths_worn columns fresh rows
  have some : 0 < page.rowCount := by
    obtain ⟨rfl, whole, _⟩ := start_eq_ok accepted
    simp only [Page.timeWidth] at enough whole shorter
    omega
  exact lanes.trans (length_lanes_of_start accepted some)

end PageReader

/-- Whatever calls a page has seen, the next one leaves of page and row what its outcome says. -/
theorem leaves_materialize {schema : Schema} {page : Page} {fresh : PageReader}
    (accepted : PageReader.start page schema.slotCount = .ok fresh) (earlier : List Row) {row : Row}
    (slots : row.cells.length = schema.slotCount) :
    Row.Leaves schema.columns (fresh.worn schema.columns earlier) row
      (row.materialize schema.columns (fresh.worn schema.columns earlier)) := by
  apply Row.leaves_of_aligned slots
  intro enough
  -- the calls before this one may have taken any of the bytes, but no lane
  exact PageReader.length_lanes_worn accepted enough

/-- A call fails within a text and leaves the count of rows behind the times; so the next call takes a byte off
each bitmap again, finds the first column null, and fails in the second after the length of its text. -/
theorem leaves_materialize_of_short_text :
    ∃ fresh, PageReader.start ⟨[0, 0, 0, 0, 0, 0, 0, 1, 0, 0, 0, 0, 0, 0, 0, 2], [[0x80, 0x00], [0x80, 0x80]],
        [[0, 0, 0, 5], [0, 0, 0, 9, 0, 0, 0, 1]]⟩ 2 = .ok fresh ∧
      (⟨7, [⟨some [0, 0, 0, 4], 0xFF⟩, ⟨some [0x61], 0⟩], true⟩ : Row).cells.length = 2 ∧
      (⟨7, [⟨some [0, 0, 0, 4], 0xFF⟩, ⟨some [0x61], 0⟩], true⟩ : Row).materialize [⟨"a", .int32⟩, ⟨"b", .text⟩]
          (fresh.worn [⟨"a", .int32⟩, ⟨"b", .text⟩] [.empty 2]) =
        (.error (.truncated (.values "b") 1 0), ⟨[], [⟨[], []⟩, ⟨[], []⟩], 0⟩,
          ⟨2, [⟨none, 0⟩, ⟨some [0x61], 0x80⟩], false⟩) ∧
      Row.Leaves [⟨"a", .int32⟩, ⟨"b", .text⟩] (fresh.worn [⟨"a", .int32⟩, ⟨"b", .text⟩] [.empty 2])
        ⟨7, [⟨some [0, 0, 0, 4], 0xFF⟩, ⟨some [0x61], 0⟩], true⟩
        (.error (.truncated (.values "b") 1 0), ⟨[], [⟨[], []⟩, ⟨[], []⟩], 0⟩,
          ⟨2, [⟨none, 0⟩, ⟨some [0x61], 0x80⟩], false⟩) :=
  ⟨_, rfl, rfl, rfl, @leaves_materialize ⟨["a", "b"], [⟨"a", .int32⟩, ⟨"b", .text⟩], false⟩
    ⟨[0, 0, 0, 0, 0, 0, 0, 1, 0, 0, 0, 0, 0, 0, 0, 2], [[0x80, 0x00], [0x80, 0x80]],
      [[0, 0, 0, 5], [0, 0, 0, 9, 0, 0, 0, 1]]⟩
    _ rfl [.empty 2] ⟨7, [⟨some [0, 0, 0, 4], 0xFF⟩, ⟨some [0x61], 0⟩], true⟩ rfl⟩

end SeriesCursor
