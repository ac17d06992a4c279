import SeriesCursor.Proofs.Presence
import SeriesCursor.Proofs.RowDecoding

/-!
A bitmap read as it was written. The writer sets the bits of rows in any order; the reader goes from row to row,
takes a byte where a block starts and keeps it until the next one. What a row finds in the byte in hand is what was
written for that row and for no other, and the bytes run out with the rows.
-/

namespace SeriesCursor

namespace Bitmap

def due (bitmap : Bytes) (row : Nat) : Bytes :=
  if startsBlock row then bitmap[row / 8]?.toList else []

theorem take_size_succ (bitmap : Bytes) (row : Nat) :
    bitmap.take (size (row + 1)) = bitmap.take (size row) ++ due bitmap row := by
  by_cases start : row % 8 = 0
  · have before : size row = row / 8 := by unfold size; omega
    have after : size (row + 1) = row / 8 + 1 := by unfold size; omega
    simp [due, startsBlock, start, before, after, List.take_add_one]
  · have same : size (row + 1) = size row := by unfold size; omega
    simp [due, startsBlock, start, same]

theorem take_due {bitmap : Bytes} {row : Nat} (reached : size (row + 1) ≤ bitmap.length) :
    (bitmap.drop (size row)).take ((bitmap.drop (size row)).length - (bitmap.drop (size (row + 1))).length) =
      due bitmap row := by
  have before : size row ≤ size (row + 1) := by unfold size; omega
  have front : (bitmap.take (size row)).length = size row := List.length_take_of_le (Nat.le_trans before reached)
  have width : (bitmap.drop (size row)).length - (bitmap.drop (size (row + 1))).length = size (row + 1) - size row := by
    simp only [List.length_drop]
    omega
  rw [width, ← List.drop_take, take_size_succ, List.drop_left' front]

theorem flatten_due (bitmap : Bytes) (count : Nat) :
    ((List.range count).map (due bitmap)).flatten = bitmap.take (size count) := by
  induction count with
  | zero => rfl
  | succ count ih => rw [List.range_succ, List.map_append, List.flatten_append, ih, take_size_succ]; simp

end Bitmap

/-- What a column sees of its bitmap while rows go by. -/
structure Sight where
  taken : List Bytes
  inHand : Bytes
  left : Bytes
  deriving DecidableEq, Repr

namespace Cell

def watch (column : Column) : (row count : Nat) → Lane → Cell → Except Error Sight
  | _, 0, lane, _ => .ok ⟨[], [], lane.bitmap⟩
  | row, count + 1, lane, cell =>
    match refresh column row lane cell with
    | (.error e, _, _) => .error e
    | (.ok (), lane', cell') => do
      let later ← watch column (row + 1) count lane' cell'
      let gone := lane.bitmap.take (lane.bitmap.length - lane'.bitmap.length)
      .ok ⟨gone :: later.taken, cell'.presence :: later.inHand, later.left⟩

variable {lane : Lane} {row : Nat} {cell : Cell}

theorem watch_of_covers (column : Column) (values : Bytes) (count : Nat) (covers : Covers lane row cell)
    (enough : Bitmap.size (row + count) ≤ lane.bitmap.length) :
    watch column row count ⟨lane.bitmap.drop (Bitmap.size row), values⟩ cell =
      .ok ⟨(List.range' row count).map (Bitmap.due lane.bitmap),
        (List.range' row count).map fun row => lane.bitmap[row / 8]?.getD 0,
        lane.bitmap.drop (Bitmap.size (row + count))⟩ := by
  induction count generalizing row cell with
  | zero => rfl
  | succ count ih =>
    have next : row + (count + 1) = row + 1 + count := by omega
    rw [next] at enough ⊢
    have reached : Bitmap.size (row + 1) ≤ lane.bitmap.length := by
      unfold Bitmap.size at enough ⊢
      omega
    have inside : row / 8 < lane.bitmap.length := by
      unfold Bitmap.size at reached
      omega
    have covered := List.getElem?_eq_getElem inside
    have later := @ih (row + 1) ⟨cell.value, lane.bitmap[row / 8]⟩ (covers_succ covered) enough
    rw [watch, refresh_of_covers column values covers covered]
    dsimp only
    rw [later, Bitmap.take_due reached, List.range'_succ, List.map_cons, List.map_cons, covered]
    rfl

theorem watch_whole (column : Column) (values : Bytes) (cell : Cell) {bitmap : Bytes} {count : Nat}
    (whole : bitmap.length = Bitmap.size count) :
    watch column 0 count ⟨bitmap, values⟩ cell =
      .ok ⟨(List.range count).map (Bitmap.due bitmap),
        (List.range count).map fun row => bitmap[row / 8]?.getD 0, []⟩ := by
  have covers : Covers ⟨bitmap, values⟩ 0 cell := fun inside => absurd rfl inside
  have enough : Bitmap.size (0 + count) ≤ bitmap.length := Nat.le_of_eq (by rw [Nat.zero_add, whole])
  have seen := watch_of_covers column values count covers enough
  rwa [Nat.zero_add, ← whole, List.drop_length, ← List.range_eq_range'] at seen

end Cell

namespace Bitmap

theorem length_foldl_setPresent (rows : List Nat) (bitmap : Bytes) :
    (rows.foldl setPresent bitmap).length = bitmap.length := by
  induction rows generalizing bitmap with
  | nil => rfl
  | cons row rest ih => rw [List.foldl_cons, ih, length_setPresent]

def written (count : Nat) (rows : List Nat) : Bytes :=
  rows.foldl setPresent (empty count)

section

variable {rows : List Nat} {count row : Nat}

theorem length_written : (written count rows).length = size count := by
  rw [written, length_foldl_setPresent, length_empty]

theorem getElem?_written (covered : row < count) :
    ∃ byte, (written count rows)[row / 8]? = some byte ∧ (isNull byte row = false ↔ row ∈ rows) := by
  have told := isNullAt?_foldl_setPresent rows (empty count) row
  rw [isNullAt?_empty covered] at told
  obtain ⟨byte, held, null⟩ := Option.map_eq_some_iff.mp told
  exact ⟨byte, held, by simp [null]⟩

end

/-- Reading gives back what was written: the bits by themselves, and the bytes as rows go by. -/
structure ReadsBack (count : Nat) (rows : List Nat) : Prop where
  lands : ∀ row ∈ rows, row / 8 < (empty count).length
  told : ∀ row, row < count → ∃ byte, (written count rows)[row / 8]? = some byte ∧
    (isNull byte row = false ↔ row ∈ rows)
  apart : ∀ (bitmap : Bytes) (row other : Nat), other ≠ row →
    isNullAt? (setPresent bitmap row) other = isNullAt? bitmap other
  walked : ∀ column values cell, ∃ sight, Cell.watch column 0 count ⟨written count rows, values⟩ cell = .ok sight ∧
    (∀ row, row < count → sight.taken[row]? = some (due (written count rows) row) ∧
      sight.inHand[row]? = (written count rows)[row / 8]?) ∧
    sight.taken.flatten = written count rows ∧ sight.left = []

theorem reading_undoes_writing {count : Nat} {rows : List Nat} (inside : ∀ row ∈ rows, row < count) :
    ReadsBack count rows where
  lands := by
    intro row member
    have below := inside row member
    rw [length_empty, size]
    omega
  told _ := getElem?_written
  apart := by
    intro bitmap row other apart
    rw [isNullAt?_setPresent, decide_eq_true apart]
    cases isNullAt? bitmap other <;> simp
  walked := by
    intro column values cell
    refine ⟨_, Cell.watch_whole column values cell length_written, fun row below => ?_, ?_, rfl⟩
    · obtain ⟨byte, held, _⟩ := @getElem?_written rows count row below
      simp [below, held]
    · rw [flatten_due, ← @length_written rows count, List.take_length]

theorem reading_undoes_writing_of_repeated_row :
    (∀ row ∈ [9, 0, 9, 19, 7], row < 20) ∧ written 20 [9, 0, 9, 19, 7] = [0x81, 0x40, 0x10] ∧
      ReadsBack 20 [9, 0, 9, 19, 7] :=
  have inside : ∀ row ∈ [9, 0, 9, 19, 7], row < 20 := by decide
  ⟨inside, by decide, reading_undoes_writing inside⟩

end Bitmap

end SeriesCursor
