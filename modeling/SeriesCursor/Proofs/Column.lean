import SeriesCursor.Page.Column
import SeriesCursor.Proofs.Framing
import SeriesCursor.Page.Writer

/-!
A column decoded by itself. One row more decodes one cell more, until a failure, which stays; what has
been taken off the values is exactly the frames of the cells that are not null.
-/

namespace SeriesCursor

namespace Lane

def Decoded.extend (column : Column) (bitmap : Bytes) (row : Nat) (decoded : Decoded) : Decoded :=
  match decoded.failure with
  | some _ => decoded
  | none =>
    match cell column bitmap row decoded.values with
    | (.ok value, rest) => ⟨decoded.cells ++ [value], none, rest⟩
    | (.error e, rest) => ⟨decoded.cells, some e, rest⟩

theorem decodeFrom_succ (column : Column) (bitmap : Bytes) (row count : Nat) (values : Bytes) :
    decodeFrom column bitmap row (count + 1) values =
      (decodeFrom column bitmap row count values).extend column bitmap (row + count) := by
  induction count generalizing row values with
  | zero =>
    simp only [decodeFrom, Decoded.extend, Nat.add_zero]
    rcases cell column bitmap row values with ⟨_ | value, rest⟩ <;> rfl
  | succ count ih =>
    rw [decodeFrom, decodeFrom]
    rcases cell column bitmap row values with ⟨e | value, rest⟩
    · rfl
    · simp only [ih (row + 1) rest, Nat.add_right_comm row 1 count, Nat.add_assoc]
      rcases decodeFrom column bitmap (row + 1) count rest with ⟨cells, _ | e, left⟩
      · simp only [Decoded.extend]
        rcases cell column bitmap (row + (count + 1)) left with ⟨_ | value, rest⟩ <;> rfl
      · rfl

theorem decode_succ (column : Column) (lane : Lane) (count : Nat) :
    decode column lane (count + 1) = (decode column lane count).extend column lane.bitmap count := by
  rw [decode, decodeFrom_succ, Nat.zero_add]
  rfl

theorem decode_succ_of_failure {column : Column} {lane : Lane} {count : Nat} {e : Error}
    (failed : (decode column lane count).failure = some e) :
    decode column lane (count + 1) = decode column lane count := by
  rw [decode_succ, Decoded.extend, failed]

theorem decode_of_failure {column : Column} {lane : Lane} {count later : Nat} {e : Error}
    (failed : (decode column lane count).failure = some e) (order : count ≤ later) :
    decode column lane later = decode column lane count := by
  induction order with
  | refl => rfl
  | step _ ih => rw [decode_succ_of_failure (e := e) (by rw [ih, failed]), ih]

theorem failure_eq_none_of_le {column : Column} {lane : Lane} {count later : Nat}
    (going : (decode column lane later).failure = none) (order : count ≤ later) :
    (decode column lane count).failure = none := by
  cases failed : (decode column lane count).failure with
  | none => rfl
  | some e => rw [decode_of_failure failed order, failed] at going; exact going

theorem decode_succ_cases {column : Column} {lane : Lane} {count : Nat}
    (going : (decode column lane count).failure = none) :
    (∃ value rest, cell column lane.bitmap count (decode column lane count).values = (.ok value, rest) ∧
      decode column lane (count + 1) = ⟨(decode column lane count).cells ++ [value], none, rest⟩) ∨
    (∃ e rest, cell column lane.bitmap count (decode column lane count).values = (.error e, rest) ∧
      decode column lane (count + 1) = ⟨(decode column lane count).cells, some e, rest⟩) := by
  rw [decode_succ, Decoded.extend, going]
  rcases cell column lane.bitmap count (decode column lane count).values with ⟨e | value, rest⟩
  · exact .inr ⟨e, rest, rfl, rfl⟩
  · exact .inl ⟨value, rest, rfl, rfl⟩

theorem length_cells {column : Column} {lane : Lane} {count : Nat}
    (going : (decode column lane count).failure = none) :
    (decode column lane count).cells.length = count := by
  induction count with
  | zero => rfl
  | succ count ih =>
    have before := failure_eq_none_of_le going (Nat.le_succ count)
    rcases decode_succ_cases before with ⟨value, rest, _, next⟩ | ⟨e, rest, _, next⟩
    · rw [next, List.length_append, ih before, List.length_singleton]
    · rw [next] at going
      cases going

/-- The values that a column has given are its frames, in order, and nothing between them. -/
theorem values_eq_written {column : Column} {lane : Lane} {count : Nat}
    (going : (decode column lane count).failure = none) :
    lane.values =
      Page.writeValues column.type (decode column lane count).cells ++ (decode column lane count).values := by
  induction count with
  | zero => rfl
  | succ count ih =>
    have before := failure_eq_none_of_le going (Nat.le_succ count)
    rcases decode_succ_cases before with ⟨value, rest, taken, next⟩ | ⟨e, rest, _, next⟩
    · have left : (decode column lane count).values = Page.writeValues column.type [value] ++ rest := by
        unfold cell at taken
        split at taken
        · cases taken
        · cases taken
          rfl
        · split at taken
          · rename_i raw later frame
            cases taken
            simpa [Page.writeValues] using (Frame.eq_write_of_take frame).1
          · cases taken
      rw [next, ih before, left]
      simp [Page.writeValues]
    · rw [next] at going
      cases going

end Lane

end SeriesCursor
