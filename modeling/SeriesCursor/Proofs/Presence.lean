import SeriesCursor.Page.Writer

/-!
Presence bitmaps read back. Setting the bit of a row makes that row present and says nothing about any
other; so the bitmap of a list of rows has, for each of them, exactly the bit that was written.
-/

namespace SeriesCursor

namespace Bitmap

theorem mask_and_mask {row other : Nat} (apart : row % 8 ≠ other % 8) : mask other &&& mask row = 0 := by
  have table : ∀ bit turn : Fin 8, bit ≠ turn →
      (0x80 : UInt8) >>> UInt8.ofNat turn.val &&& 0x80 >>> UInt8.ofNat bit.val = 0 := by decide
  have small : row % 8 < 8 := Nat.mod_lt _ (by decide)
  have smaller : other % 8 < 8 := Nat.mod_lt _ (by decide)
  exact table ⟨row % 8, small⟩ ⟨other % 8, smaller⟩ (fun same => apart (Fin.val_eq_of_eq same))

theorem and_or_distrib (a b c : UInt8) : a &&& (b ||| c) = a &&& b ||| a &&& c := by
  apply UInt8.eq_of_toBitVec_eq
  simp only [UInt8.toBitVec_and, UInt8.toBitVec_or, BitVec.and_or_distrib_left]

theorem isNull_or_mask_self (byte : UInt8) (row : Nat) : isNull (byte ||| mask row) row = false := by
  have distributed : mask row &&& (byte ||| mask row) = mask row &&& byte ||| mask row := by
    rw [and_or_distrib, UInt8.and_self]
  have nonzero : mask row &&& (byte ||| mask row) ≠ 0 := by
    rw [distributed]
    intro zero
    exact mask_ne_zero row (UInt8.or_eq_zero_iff.mp zero).2
  simpa [isNull] using nonzero

theorem isNull_or_mask_other (byte : UInt8) {row other : Nat} (apart : row % 8 ≠ other % 8) :
    isNull (byte ||| mask row) other = isNull byte other := by
  have distributed : mask other &&& (byte ||| mask row) = mask other &&& byte := by
    rw [and_or_distrib, mask_and_mask apart, UInt8.or_zero]
  rw [isNull, isNull, distributed]

theorem isNullAt?_setPresent (bitmap : Bytes) (row other : Nat) :
    isNullAt? (setPresent bitmap row) other =
      (isNullAt? bitmap other).map fun null => null && decide (other ≠ row) := by
  unfold isNullAt? setPresent
  rw [List.getElem?_modify]
  by_cases block : row / 8 = other / 8
  · by_cases same : other = row
    · subst same
      cases bitmap[other / 8]? with
      | none => rfl
      | some byte => simp [isNull_or_mask_self]
    · -- within one byte, two rows differ in their bit
      have apart : row % 8 ≠ other % 8 := by omega
      cases bitmap[other / 8]? with
      | none => rfl
      | some byte => simp [block, same, isNull_or_mask_other byte apart]
  · have differs : other ≠ row := by
      rintro rfl
      exact block rfl
    cases bitmap[other / 8]? with
    | none => rfl
    | some byte => simp [block, differs]

theorem isNullAt?_foldl_setPresent (rows : List Nat) (bitmap : Bytes) (row : Nat) :
    isNullAt? (rows.foldl setPresent bitmap) row =
      (isNullAt? bitmap row).map fun null => null && decide (row ∉ rows) := by
  induction rows generalizing bitmap with
  | nil => simp
  | cons first rest ih =>
    rw [List.foldl_cons, ih, isNullAt?_setPresent]
    cases isNullAt? bitmap row with
    | none => rfl
    | some null => by_cases here : row = first <;> simp [here]

theorem isNullAt?_empty {rows row : Nat} (covered : row < rows) : isNullAt? (empty rows) row = some true := by
  have inside : row / 8 < size rows := by
    unfold size
    omega
  simp [isNullAt?, empty, inside, isNull]

theorem isNullAt?_ofPresence (present : List Bool) (row : Nat) (covered : row < present.length) :
    isNullAt? (ofPresence present) row = some (!present[row]) := by
  rw [ofPresence, isNullAt?_foldl_setPresent, isNullAt?_empty covered]
  simp [covered]

end Bitmap

end SeriesCursor
