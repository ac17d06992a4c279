import SeriesCursor.Frame

/-!
Frames written and taken. What is written for a value comes off the front of a buffer again and leaves
what follows it; and whatever comes off the front of a buffer is what would have been written.
-/

namespace SeriesCursor

namespace Bytes

theorem toInt_toInt32_ofNat {n : Nat} (small : n < Nat.pow 2 31) : (toInt32 (ofNat 4 n)).toInt = n := by
  have whole : n % Nat.pow 256 4 = n := Nat.mod_eq_of_lt (Nat.lt_trans small (by decide))
  rw [toInt32, toNat_ofNat, whole]
  exact Int32.toInt_ofNat_of_lt small

theorem ofNat_toInt_toInt32 {bytes : Bytes} (width : bytes.length = 4) (sign : ¬ toInt32 bytes < 0) :
    ofNat 4 (toInt32 bytes).toInt.toNat = bytes := by
  have nonnegative : 0 ≤ toInt32 bytes := Int32.not_lt.mp sign
  have spelled : (toInt32 bytes).toInt.toNat = (toInt32 bytes).toUInt32.toNat :=
    (Int32.toNat_toUInt32_of_le nonnegative).symm
  rw [spelled]
  exact ofInt32_toInt32 bytes width

end Bytes

namespace Frame

/-- Whether bytes can be those of a value of a type: the length of a text has to fit its prefix. -/
def Fits (type : DataType) (raw : Bytes) : Prop :=
  match type.width? with
  | some width => raw.length = width
  | none => raw.length < Nat.pow 2 31

theorem takeWidth_append (raw rest : Bytes) (column : String) :
    takeWidth raw.length (raw ++ rest) column = (.ok raw, rest) := by
  simp [takeWidth]

theorem takeWidth_eq_ok {width : Nat} {buffer raw rest : Bytes} {column : String}
    (taken : takeWidth width buffer column = (.ok raw, rest)) :
    buffer = raw ++ rest ∧ raw.length = width := by
  unfold takeWidth at taken
  split at taken
  · cases taken
  · rename_i enough
    cases taken
    rw [List.length_take]
    exact ⟨(List.take_append_drop width buffer).symm, Nat.min_eq_left (Nat.le_of_not_lt enough)⟩

theorem takeWidth_of_length {width : Nat} {buffer : Bytes} {column : String} (enough : width ≤ buffer.length) :
    takeWidth width buffer column = (.ok (buffer.take width), buffer.drop width) :=
  if_neg (Nat.not_lt.mpr enough)

theorem takeWidth_of_short {width : Nat} {buffer : Bytes} {column : String} (short : buffer.length < width) :
    takeWidth width buffer column = (.error (.truncated (.values column) width buffer.length), buffer) :=
  if_pos short

theorem takeWidth_eq_error {width : Nat} {buffer rest : Bytes} {column : String} {e : Error}
    (failed : takeWidth width buffer column = (.error e, rest)) :
    buffer.length < width ∧ e = .truncated (.values column) width buffer.length ∧ rest = buffer := by
  by_cases short : buffer.length < width
  · rw [takeWidth_of_short short] at failed
    cases failed
    exact ⟨short, rfl, rfl⟩
  · rw [takeWidth_of_length (Nat.le_of_not_lt short)] at failed
    cases failed

theorem takeText_write (raw rest : Bytes) (column : String) (small : raw.length < Nat.pow 2 31) :
    takeText (Bytes.ofNat 4 raw.length ++ raw ++ rest) column = (.ok raw, rest) := by
  have header := takeWidth_append (Bytes.ofNat 4 raw.length) (raw ++ rest) column
  rw [Bytes.length_ofNat] at header
  have value := Bytes.toInt_toInt32_ofNat small
  have sign : ¬ Bytes.toInt32 (Bytes.ofNat 4 raw.length) < 0 := by
    rw [Int32.lt_iff_toInt_lt, value]
    simp
  rw [List.append_assoc, takeText, header]
  simp only [if_neg sign, value, Int.toNat_natCast]
  exact takeWidth_append raw rest column

theorem takeText_eq_ok {buffer raw rest : Bytes} {column : String}
    (taken : takeText buffer column = (.ok raw, rest)) :
    buffer = Bytes.ofNat 4 raw.length ++ raw ++ rest ∧ raw.length < Nat.pow 2 31 := by
  unfold takeText at taken
  split at taken
  · cases taken
  · rename_i header later headed
    obtain ⟨split, width⟩ := takeWidth_eq_ok headed
    dsimp only at taken
    split at taken
    · cases taken
    · rename_i sign
      obtain ⟨body, length⟩ := takeWidth_eq_ok taken
      have bound := header.toInt32.toInt_lt
      constructor
      · rw [split, body, length, Bytes.ofNat_toInt_toInt32 width sign, List.append_assoc]
      · change raw.length < 2147483648
        omega

theorem take_write {type : DataType} {raw : Bytes} (fits : Fits type raw) (rest : Bytes) (column : String) :
    take type (write type raw ++ rest) column = (.ok raw, rest) := by
  unfold Fits at fits
  rw [take_eq, write]
  cases kind : type.width? with
  | some width =>
    rw [kind] at fits
    simp only at fits
    subst fits
    exact takeWidth_append raw rest column
  | none =>
    rw [kind] at fits
    exact takeText_write raw rest column fits

theorem eq_write_of_take {type : DataType} {buffer raw rest : Bytes} {column : String}
    (taken : take type buffer column = (.ok raw, rest)) :
    buffer = write type raw ++ rest ∧ Fits type raw := by
  rw [take_eq] at taken
  unfold Fits write
  cases kind : type.width? with
  | some width =>
    rw [kind] at taken
    exact takeWidth_eq_ok taken
  | none =>
    rw [kind] at taken
    exact takeText_eq_ok taken

end Frame

namespace Value

theorem decode_encode {type : DataType} {value : Value} (typed : value.type? = some type) (column : String) :
    decode type value.encode column = .ok value := by
  cases value with
  | bool b =>
    cases typed
    cases b <;> rfl
  | int32 n =>
    cases typed
    simp [decode, encode, readInt32, ofWidth, Bytes.toInt32_ofInt32, Except.map]
  | int64 n =>
    cases typed
    simp [decode, encode, readInt64, ofWidth, Bytes.toInt64_ofInt64, Except.map]
  | float bits =>
    cases typed
    have whole : bits.toNat % Nat.pow 256 4 = bits.toNat := Nat.mod_eq_of_lt bits.toNat_lt
    simp [decode, encode, readFloat, ofWidth, Bytes.toNat_ofNat, whole, Except.map]
  | double bits =>
    cases typed
    have whole : bits.toNat % Nat.pow 256 8 = bits.toNat := Nat.mod_eq_of_lt bits.toNat_lt
    simp [decode, encode, readDouble, ofWidth, Bytes.toNat_ofNat, whole, Except.map]
  | text s =>
    cases typed
    simp [decode, encode, readText, Bytes.toText?_ofText, Except.map]
  | timestamp millis => cases typed

theorem fits_encode {type : DataType} {value : Value} (typed : value.type? = some type)
    (short : ∀ s, value = .text s → (Bytes.ofText s).length < Nat.pow 2 31) : Frame.Fits type value.encode := by
  cases value with
  | text s =>
    cases typed
    exact short s rfl
  | timestamp millis => cases typed
  | bool b =>
    cases typed
    rfl
  | int32 n =>
    cases typed
    exact Bytes.length_ofInt32 n
  | int64 n =>
    cases typed
    exact Bytes.length_ofInt64 n
  | float bits =>
    cases typed
    exact Bytes.length_ofNat 4 bits.toNat
  | double bits =>
    cases typed
    exact Bytes.length_ofNat 8 bits.toNat

end Value

end SeriesCursor
