import Mathlib.Data.List.Forall2
import SeriesCursor.Proofs.FailedRow
import SeriesCursor.Proofs.WholeCells

/-!
The grammar of value buffers. A value is taken off a buffer exactly where a frame of its type is at the front,
and no two frames of one type start the same buffer; so a buffer of frames is taken apart in one way. Where no
frame is at the front, the first four bytes and the length of the buffer say what the error is and what is left.
-/

namespace SeriesCursor

namespace Frame

section

variable {type : DataType} {column : String} {buffer raw rest : Bytes} {e : Error}

theorem take_eq_ok_iff :
    take type buffer column = (.ok raw, rest) ↔ Fits type raw ∧ buffer = write type raw ++ rest := by
  constructor
  · intro taken
    exact (eq_write_of_take taken).symm
  · rintro ⟨fits, rfl⟩
    exact take_write fits rest column

theorem write_append_inj {other left : Bytes} (fits : Fits type raw) (alsoFits : Fits type other)
    (same : write type raw ++ rest = write type other ++ left) : raw = other ∧ rest = left := by
  have taken := take_write fits rest ""
  rw [same, take_write alsoFits left ""] at taken
  cases taken
  exact ⟨rfl, rfl⟩

theorem takeText_of_broken (broken : Broken .text column buffer e rest) :
    takeText buffer column = (.error e, rest) := by
  rw [takeText]
  cases broken with
  | width fixed => cases fixed
  | length _ short => rw [takeWidth_of_short short]
  | negative _ enough sign => simp only [takeWidth_of_length enough, if_pos sign]
  | text _ enough announced short =>
    have sign : ¬ Bytes.toInt32 (buffer.take 4) < 0 := by
      rw [Int32.lt_iff_toInt_lt, announced]
      exact Int.not_lt.mpr (Int.natCast_nonneg _)
    have after : (buffer.drop 4).length = buffer.length - 4 := List.length_drop
    rw [← after] at short ⊢
    simp only [takeWidth_of_length enough, if_neg sign, announced, Int.toNat_natCast, takeWidth_of_short short]

theorem take_of_broken (broken : Broken type column buffer e rest) :
    take type buffer column = (.error e, rest) := by
  rw [take_eq]
  cases fixed : type.width? with
  | some width =>
    cases broken with
    | width given short =>
      cases fixed.symm.trans given
      exact takeWidth_of_short short
    | length text | negative text | text text =>
      subst text
      cases fixed
  | none =>
    cases type <;> cases fixed
    exact takeText_of_broken broken

theorem take_eq_error_iff :
    take type buffer column = (.error e, rest) ↔ Broken type column buffer e rest :=
  ⟨broken_of_take, take_of_broken⟩

theorem fails_iff_no_frame :
    (∃ e rest, take type buffer column = (.error e, rest)) ↔
      ¬ ∃ raw, Fits type raw ∧ write type raw <+: buffer := by
  constructor
  · rintro ⟨e, left, failed⟩ ⟨raw, fits, rest, rfl⟩
    rw [take_write fits] at failed
    cases failed
  · intro noFrame
    match outcome : take type buffer column with
    | (.error e, rest) => exact ⟨e, rest, rfl⟩
    | (.ok raw, rest) =>
      obtain ⟨fits, split⟩ := take_eq_ok_iff.mp outcome
      exact absurd ⟨raw, fits, rest, split.symm⟩ noFrame

theorem malformed_iff_negative :
    (∃ fault rest, take type buffer column = (.error (.malformedPage fault), rest)) ↔
      type = .text ∧ 4 ≤ buffer.length ∧ Bytes.toInt32 (buffer.take 4) < 0 := by
  constructor
  · rintro ⟨fault, rest, failed⟩
    cases take_eq_error_iff.mp failed with
    | negative text enough sign => exact ⟨text, enough, sign⟩
  · rintro ⟨text, enough, sign⟩
    exact ⟨_, _, take_of_broken (.negative text enough sign)⟩

/-- A failure takes nothing, except that the length of a text stays taken once it has been read. -/
theorem Broken.left (broken : Broken type column buffer e rest) :
    rest = if type = .text ∧ 4 ≤ buffer.length then buffer.drop 4 else buffer := by
  cases broken with
  | width fixed =>
    have sized : ¬ (type = .text ∧ 4 ≤ buffer.length) := by
      rintro ⟨rfl, _⟩
      cases fixed
    rw [if_neg sized]
  | length _ short => rw [if_neg fun whole => Nat.not_le.mpr short whole.2]
  | negative text enough | text text enough => rw [if_pos ⟨text, enough⟩]

end

def takeEach : List DataType → Bytes → String → Except Error (List Bytes) × Bytes
  | [], buffer, _ => (.ok [], buffer)
  | type :: types, buffer, column =>
    match take type buffer column with
    | (.error e, rest) => (.error e, rest)
    | (.ok raw, rest) => ((takeEach types rest column).1.map (raw :: ·), (takeEach types rest column).2)

def writeEach (types : List DataType) (raws : List Bytes) : Bytes :=
  (List.zipWith write types raws).flatten

theorem takeEach_eq_ok_iff {types : List DataType} {buffer rest : Bytes} {column : String} {raws : List Bytes} :
    takeEach types buffer column = (.ok raws, rest) ↔
      List.Forall₂ Fits types raws ∧ buffer = writeEach types raws ++ rest := by
  induction types generalizing buffer raws with
  | nil =>
    rw [takeEach, List.forall₂_nil_left_iff]
    constructor
    · rintro ⟨⟩
      exact ⟨rfl, rfl⟩
    · rintro ⟨rfl, rfl⟩
      rfl
  | cons type types ih =>
    rw [takeEach, List.forall₂_cons_left_iff]
    constructor
    · intro taken
      split at taken
      · cases taken
      · rename_i raw later first
        obtain ⟨fits, rfl⟩ := take_eq_ok_iff.mp first
        obtain ⟨raws', others, rfl⟩ := ok_of_map (Prod.ext_iff.mp taken).1
        obtain ⟨fitEach, split⟩ := ih.mp (Prod.ext others (Prod.ext_iff.mp taken).2)
        refine ⟨⟨raw, raws', fits, fitEach, rfl⟩, ?_⟩
        simp [writeEach, split]
    · rintro ⟨⟨raw, raws', fits, fitEach, rfl⟩, rfl⟩
      have whole : writeEach (type :: types) (raw :: raws') ++ rest =
          write type raw ++ (writeEach types raws' ++ rest) := by
        simp [writeEach]
      rw [whole, take_write fits]
      dsimp only
      rw [ih.mpr ⟨fitEach, rfl⟩]
      rfl

/-- What taking a value off a buffer gives, told by the frames of its type. -/
structure ByFrames (type : DataType) (buffer : Bytes) (column : String) : Prop where
  ok : ∀ raw rest, take type buffer column = (.ok raw, rest) ↔ Fits type raw ∧ buffer = write type raw ++ rest
  unique : ∀ raw rest other left, Fits type raw → Fits type other →
    write type raw ++ rest = buffer → write type other ++ left = buffer → raw = other ∧ rest = left
  each : ∀ types raws rest, takeEach types buffer column = (.ok raws, rest) ↔
    List.Forall₂ Fits types raws ∧ buffer = writeEach types raws ++ rest
  fails : (∃ e rest, take type buffer column = (.error e, rest)) ↔
    ¬ ∃ raw, Fits type raw ∧ write type raw <+: buffer
  error : ∀ e rest, take type buffer column = (.error e, rest) ↔ Broken type column buffer e rest
  malformed : (∃ fault rest, take type buffer column = (.error (.malformedPage fault), rest)) ↔
    type = .text ∧ 4 ≤ buffer.length ∧ Bytes.toInt32 (buffer.take 4) < 0
  left : ∀ e rest, take type buffer column = (.error e, rest) →
    rest = if type = .text ∧ 4 ≤ buffer.length then buffer.drop 4 else buffer

/-- Of every buffer exactly a frame is taken, and where there is none the failure is told by the buffer. -/
theorem take_byFrames (type : DataType) (buffer : Bytes) (column : String) : ByFrames type buffer column where
  ok _ _ := take_eq_ok_iff
  unique _ _ _ _ fits alsoFits front alsoFront := write_append_inj fits alsoFits (front.trans alsoFront.symm)
  each _ _ _ := takeEach_eq_ok_iff
  fails := fails_iff_no_frame
  error _ _ := take_eq_error_iff
  malformed := malformed_iff_negative
  left _ _ failed := (take_eq_error_iff.mp failed).left

theorem take_byFrames_of_short_text :
    ByFrames .text [0, 0, 0, 3, 0x61, 0x62] "s1" ∧
      take .text [0, 0, 0, 3, 0x61, 0x62] "s1" = (.error (.truncated (.values "s1") 3 2), [0x61, 0x62]) ∧
      ¬ ∃ raw, Fits .text raw ∧ write .text raw <+: [0, 0, 0, 3, 0x61, 0x62] :=
  ⟨take_byFrames _ _ _, rfl, (take_byFrames _ _ "s1").fails.mp ⟨_, _, rfl⟩⟩

end Frame

end SeriesCursor
