import SeriesCursor.Proofs.WholeCells

/-!
Values decoded and written back. Bytes are a value of a type exactly if they have the width of the type or, for a
text, are the UTF-8 of some characters; the value written back is these bytes, and every value comes back from the
bytes that are written for it. What is taken off a buffer has the right width, so that only a text can be refused.
-/

namespace SeriesCursor

namespace Bytes

def IsUtf8 (raw : Bytes) : Prop :=
  ∃ chars : List Char, raw = chars.flatMap String.utf8EncodeChar

theorem ofText_eq_flatMap (text : String) : ofText text = text.toList.flatMap String.utf8EncodeChar := by
  have spelled : text.toByteArray = text.toList.utf8Encode := String.utf8Encode_toList.symm
  rw [ofText, spelled, List.utf8Encode]
  simp

theorem toText?_eq_some_iff {raw : Bytes} {text : String} : raw.toText? = some text ↔ raw = ofText text := by
  constructor
  · exact fun spelled => (ofText_of_toText? spelled).symm
  · rintro rfl
    exact toText?_ofText text

theorem toText?_eq_none_iff {raw : Bytes} : raw.toText? = none ↔ ¬ raw.IsUtf8 := by
  rw [Option.eq_none_iff_forall_ne_some]
  constructor
  · rintro unspelled ⟨chars, rfl⟩
    refine unspelled (String.ofList chars) (toText?_eq_some_iff.mpr ?_)
    rw [ofText_eq_flatMap, String.toList_ofList]
  · intro garbled text spelled
    rw [toText?_eq_some_iff, ofText_eq_flatMap] at spelled
    exact garbled ⟨_, spelled⟩

end Bytes

namespace Value

def Spells (type : DataType) (raw : Bytes) : Prop :=
  match type.width? with
  | some width => raw.length = width
  | none => raw.IsUtf8

inductive Refused (type : DataType) (raw : Bytes) (column : String) : Error → Prop where
  | width {width : Nat} (fixed : type.width? = some width) (other : raw.length ≠ width) :
      Refused type raw column (.truncated (.values column) width raw.length)
  | text (text : type = .text) (garbled : ¬ raw.IsUtf8) : Refused type raw column (.invalidText column)

/-- The bytes of a value as they are written: every byte is kept, but that all true booleans look alike. -/
def canonical (type : DataType) (raw : Bytes) : Bytes :=
  match type with
  | .boolean => raw.map fun byte => if byte = 0 then 0 else 1
  | _ => raw

section

variable {type : DataType} {raw : Bytes} {column : String} {value : Value} {e : Error}

theorem ofWidth_eq_ok {width : Nat} {bytes : Bytes} (read : ofWidth width raw column = .ok bytes) :
    bytes = raw ∧ raw.length = width := by
  unfold ofWidth at read
  split at read
  · rename_i fits
    cases read
    exact ⟨rfl, fits⟩
  · cases read

theorem ofWidth_of_ne {width : Nat} (other : raw.length ≠ width) :
    ofWidth width raw column = .error (.truncated (.values column) width raw.length) :=
  if_neg other

theorem encode_of_readBool {b : Bool} (read : readBool raw column = .ok b) :
    (Value.bool b).encode = canonical .boolean raw := by
  obtain ⟨bytes, whole, rfl⟩ := ok_of_map read
  obtain ⟨rfl, width⟩ := ofWidth_eq_ok whole
  obtain ⟨byte, rfl⟩ := List.length_eq_one_iff.mp width
  have zero : Bytes.toNat [byte] = 0 ↔ byte = 0 := by
    rw [← UInt8.toNat_inj, UInt8.toNat_zero]
    simp [Bytes.toNat]
  by_cases false : byte = 0
  · rw [false]
    rfl
  · simp [encode, canonical, zero, false]

theorem encode_of_readInt32 {n : Int32} (read : readInt32 raw column = .ok n) : (Value.int32 n).encode = raw := by
  obtain ⟨bytes, whole, rfl⟩ := ok_of_map read
  obtain ⟨rfl, width⟩ := ofWidth_eq_ok whole
  exact Bytes.ofInt32_toInt32 bytes width

theorem encode_of_readInt64 {n : Int64} (read : readInt64 raw column = .ok n) : (Value.int64 n).encode = raw := by
  obtain ⟨bytes, whole, rfl⟩ := ok_of_map read
  obtain ⟨rfl, width⟩ := ofWidth_eq_ok whole
  exact Bytes.ofInt64_toInt64 bytes width

theorem ofNat_of_ofWidth {width : Nat} {bytes : Bytes} (read : ofWidth width raw column = .ok bytes) :
    bytes.toNat < Nat.pow 256 width ∧ Bytes.ofNat width bytes.toNat = raw := by
  obtain ⟨rfl, rfl⟩ := ofWidth_eq_ok read
  exact ⟨Bytes.toNat_lt bytes, Bytes.ofNat_toNat bytes⟩

theorem encode_of_readFloat {bits : UInt32} (read : readFloat raw column = .ok bits) :
    (Value.float bits).encode = raw := by
  obtain ⟨bytes, whole, rfl⟩ := ok_of_map read
  obtain ⟨small, again⟩ := ofNat_of_ofWidth whole
  have kept : (UInt32.ofNat bytes.toNat).toNat = bytes.toNat := UInt32.toNat_ofNat_of_lt small
  rw [encode, kept, again]

theorem encode_of_readDouble {bits : UInt64} (read : readDouble raw column = .ok bits) :
    (Value.double bits).encode = raw := by
  obtain ⟨bytes, whole, rfl⟩ := ok_of_map read
  obtain ⟨small, again⟩ := ofNat_of_ofWidth whole
  have kept : (UInt64.ofNat bytes.toNat).toNat = bytes.toNat := UInt64.toNat_ofNat_of_lt small
  rw [encode, kept, again]

theorem encode_of_readText {text : String} (read : readText raw column = .ok text) :
    (Value.text text).encode = raw := by
  unfold readText at read
  split at read
  · rename_i spelled
    cases read
    exact Bytes.ofText_of_toText? spelled
  · cases read

theorem encode_of_decode (decoded : decode type raw column = .ok value) : value.encode = canonical type raw := by
  cases type <;> obtain ⟨content, read, rfl⟩ := ok_of_map decoded
  case boolean => exact encode_of_readBool read
  case int32 => exact encode_of_readInt32 read
  case int64 => exact encode_of_readInt64 read
  case float => exact encode_of_readFloat read
  case double => exact encode_of_readDouble read
  case text => exact encode_of_readText read

theorem exists_decode_of_spells (spells : Spells type raw) (column : String) :
    ∃ value, decode type raw column = .ok value := by
  cases fixed : type.width? with
  | some width =>
    have fits : Frame.Fits type raw := by
      rw [Spells, fixed] at spells
      rwa [Frame.Fits, fixed]
    rcases decode_of_fits fits column with ⟨value, _, decoded⟩ | ⟨text, _⟩
    · exact ⟨value, decoded⟩
    · subst text
      cases fixed
  | none =>
    cases type <;> cases fixed
    cases spelled : raw.toText? with
    | some text => exact ⟨.text text, by rw [decode, readText, spelled]; rfl⟩
    | none => exact absurd spells (Bytes.toText?_eq_none_iff.mp spelled)

theorem decode_of_refused (refused : Refused type raw column e) : decode type raw column = .error e := by
  cases refused with
  | width fixed other =>
    cases type <;> cases fixed <;>
      simp only [decode, readBool, readInt32, readInt64, readFloat, readDouble, ofWidth_of_ne other, Except.map]
  | text text garbled =>
    rw [text, decode, readText, Bytes.toText?_eq_none_iff.mpr garbled]
    rfl

theorem spells_or_refused (type : DataType) (raw : Bytes) (column : String) :
    Spells type raw ∨ ∃ e, Refused type raw column e := by
  cases fixed : type.width? with
  | some width =>
    by_cases fits : raw.length = width
    · exact .inl (by rwa [Spells, fixed])
    · exact .inr ⟨_, .width fixed fits⟩
  | none =>
    cases type <;> cases fixed
    by_cases spelled : raw.IsUtf8
    · exact .inl spelled
    · exact .inr ⟨_, .text rfl spelled⟩

theorem exists_decode_iff : (∃ value, decode type raw column = .ok value) ↔ Spells type raw := by
  refine ⟨fun ⟨value, decoded⟩ => ?_, fun spells => exists_decode_of_spells spells column⟩
  rcases spells_or_refused type raw column with spells | ⟨e, refused⟩
  · exact spells
  · rw [decode_of_refused refused] at decoded
    cases decoded

theorem decode_eq_error_iff : decode type raw column = .error e ↔ Refused type raw column e := by
  refine ⟨fun failed => ?_, decode_of_refused⟩
  rcases spells_or_refused type raw column with spells | ⟨_, refused⟩
  · obtain ⟨value, decoded⟩ := exists_decode_of_spells spells column
    cases failed.symm.trans decoded
  · cases failed.symm.trans (decode_of_refused refused)
    exact refused

theorem Refused.text_of_fits (refused : Refused type raw column e) (fits : Frame.Fits type raw) :
    type = .text ∧ ¬ raw.IsUtf8 ∧ e = .invalidText column := by
  cases refused with
  | width fixed other =>
    rw [Frame.Fits, fixed] at fits
    exact absurd fits other
  | text text garbled => exact ⟨text, garbled, rfl⟩

end

/-- Decoding and writing are each other's inverse, and taking, decoding and the table of widths agree. -/
structure ExactDecoding (type : DataType) : Prop where
  ok : ∀ raw column, (∃ value, decode type raw column = .ok value) ↔ Spells type raw
  error : ∀ raw column e, decode type raw column = .error e ↔ Refused type raw column e
  kind : ∀ raw column value, decode type raw column = .ok value → value.type? = some type
  back : ∀ raw column value, decode type raw column = .ok value → value.encode = canonical type raw
  forth : ∀ value column, value.type? = some type → decode type value.encode column = .ok value
  width : ∀ buffer column raw rest, Frame.take type buffer column = (.ok raw, rest) →
    ∀ width, type.width? = some width → raw.length = width
  taken : ∀ buffer column raw rest, Frame.take type buffer column = (.ok raw, rest) →
    ∀ e, decode type raw column = .error e → type = .text ∧ ¬ raw.IsUtf8 ∧ e = .invalidText column

theorem decode_exact (type : DataType) : ExactDecoding type where
  ok _ _ := exists_decode_iff
  error _ _ _ := decode_eq_error_iff
  kind _ _ _ := type?_of_decode
  back _ _ _ := encode_of_decode
  forth _ column typed := decode_encode typed column
  width := by
    intro buffer column raw rest taken width fixed
    have fits := (Frame.eq_write_of_take taken).2
    rwa [Frame.Fits, fixed] at fits
  taken := by
    intro buffer column raw rest taken e failed
    exact (decode_eq_error_iff.mp failed).text_of_fits (Frame.eq_write_of_take taken).2

/-- A true boolean that is not one, a NaN with a sign and a payload, and half a character that fits its frame. -/
theorem decode_exact_of_nan :
    ExactDecoding .boolean ∧ ExactDecoding .float ∧ ExactDecoding .text ∧
      decode .boolean [0x80] "s1" = .ok (.bool true) ∧ (Value.bool true).encode = [1] ∧
      decode .float [0xFF, 0xC0, 0, 7] "s1" = .ok (.float 0xFFC00007) ∧
      (Value.float 0xFFC00007).encode = [0xFF, 0xC0, 0, 7] ∧
      Frame.take .text [0, 0, 0, 1, 0xC3, 0xA9] "s1" = (.ok [0xC3], [0xA9]) ∧
      decode .text [0xC3] "s1" = .error (.invalidText "s1") ∧ ¬ Bytes.IsUtf8 [0xC3] := by
  have garbled : decode .text [0xC3] "s1" = .error (.invalidText "s1") := rfl
  refine ⟨decode_exact _, decode_exact _, decode_exact _, rfl, ?_, rfl, ?_, rfl, garbled, ?_⟩
  · exact (decode_exact .boolean).back [0x80] "s1" _ rfl
  · exact (decode_exact .float).back [0xFF, 0xC0, 0, 7] "s1" _ rfl
  · exact ((decode_exact .text).taken [0, 0, 0, 1, 0xC3, 0xA9] "s1" _ _ rfl _ garbled).2.1

end Value

end SeriesCursor
