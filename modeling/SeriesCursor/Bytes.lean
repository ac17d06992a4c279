/-!
Bytes as they travel: octet lists, whole numbers in big-endian order, and text in UTF-8.

Lists rather than packed arrays, because a list can be taken apart in a proof. The laws beside the
definitions say that a number survives being written at a width that holds it, that text survives
always, and that a front of known length can be taken off what follows it.
-/

namespace SeriesCursor

abbrev Bytes := List UInt8

namespace Bytes

/-- The low `width` bytes of a number, most significant first. -/
def ofNat : (width : Nat) → Nat → Bytes
  | 0, _ => []
  | width + 1, n => ofNat width (n / 256) ++ [UInt8.ofNat (n % 256)]

def toNat (bytes : Bytes) : Nat :=
  bytes.foldl (fun n byte => n * 256 + byte.toNat) 0

@[simp] theorem length_ofNat (width n : Nat) : (ofNat width n).length = width := by
  induction width generalizing n with
  | zero => rfl
  | succ width ih => simp [ofNat, ih]

theorem toNat_concat (bytes : Bytes) (byte : UInt8) :
    toNat (bytes ++ [byte]) = toNat bytes * 256 + byte.toNat := by
  simp [toNat, List.foldl_append]

theorem toNat_ofNat (width n : Nat) : toNat (ofNat width n) = n % Nat.pow 256 width := by
  induction width generalizing n with
  | zero =>
    have one : n % 1 = 0 := Nat.mod_one n
    simpa [ofNat, toNat] using one.symm
  | succ width ih =>
    have last : (UInt8.ofNat (n % 256)).toNat = n % 256 := by simp
    have next : Nat.pow 256 (width + 1) = 256 * Nat.pow 256 width := Nat.mul_comm _ _
    rw [ofNat, toNat_concat, ih, last, next, Nat.mod_mul]
    omega

theorem ofNat_toNat (bytes : Bytes) : ofNat bytes.length (toNat bytes) = bytes := by
  suffices backward : ∀ reversed : Bytes,
      ofNat reversed.reverse.length (toNat reversed.reverse) = reversed.reverse by
    simpa using backward bytes.reverse
  intro reversed
  induction reversed with
  | nil => rfl
  | cons byte rest ih =>
    have small := byte.toNat_lt
    rw [List.reverse_cons, List.length_append, List.length_singleton, toNat_concat, ofNat]
    have front : (toNat rest.reverse * 256 + byte.toNat) / 256 = toNat rest.reverse := by omega
    have last : (toNat rest.reverse * 256 + byte.toNat) % 256 = byte.toNat := by omega
    rw [front, last, ih, UInt8.ofNat_toNat]

theorem toNat_lt (bytes : Bytes) : toNat bytes < Nat.pow 256 bytes.length := by
  have reduced := toNat_ofNat bytes.length (toNat bytes)
  rw [ofNat_toNat] at reduced
  rw [reduced]
  exact Nat.mod_lt _ (Nat.pow_pos (by decide))

/-- Two's complement of 32 bits; only the low 32 bits of longer input count. -/
def toInt32 (bytes : Bytes) : Int32 :=
  (UInt32.ofNat (toNat bytes)).toInt32

def ofInt32 (n : Int32) : Bytes :=
  ofNat 4 n.toUInt32.toNat

def toInt64 (bytes : Bytes) : Int64 :=
  (UInt64.ofNat (toNat bytes)).toInt64

def ofInt64 (n : Int64) : Bytes :=
  ofNat 8 n.toUInt64.toNat

@[simp] theorem length_ofInt32 (n : Int32) : (ofInt32 n).length = 4 := length_ofNat 4 _

@[simp] theorem length_ofInt64 (n : Int64) : (ofInt64 n).length = 8 := length_ofNat 8 _

theorem toInt32_ofInt32 (n : Int32) : toInt32 (ofInt32 n) = n := by
  have small := n.toUInt32.toNat_lt
  have whole : n.toUInt32.toNat % Nat.pow 256 4 = n.toUInt32.toNat := Nat.mod_eq_of_lt small
  rw [toInt32, ofInt32, toNat_ofNat, whole]
  simp

theorem toInt64_ofInt64 (n : Int64) : toInt64 (ofInt64 n) = n := by
  have small := n.toUInt64.toNat_lt
  have whole : n.toUInt64.toNat % Nat.pow 256 8 = n.toUInt64.toNat := Nat.mod_eq_of_lt small
  rw [toInt64, ofInt64, toNat_ofNat, whole]
  simp

theorem ofInt32_toInt32 (bytes : Bytes) (width : bytes.length = 4) : ofInt32 (toInt32 bytes) = bytes := by
  have small := toNat_lt bytes
  rw [width] at small
  have whole : (UInt32.ofNat (toNat bytes)).toNat = toNat bytes := UInt32.toNat_ofNat_of_lt small
  have again := ofNat_toNat bytes
  rw [width] at again
  simp only [ofInt32, toInt32]
  simp [whole, again]

theorem ofInt64_toInt64 (bytes : Bytes) (width : bytes.length = 8) : ofInt64 (toInt64 bytes) = bytes := by
  have small := toNat_lt bytes
  rw [width] at small
  have whole : (UInt64.ofNat (toNat bytes)).toNat = toNat bytes := UInt64.toNat_ofNat_of_lt small
  have again := ofNat_toNat bytes
  rw [width] at again
  simp only [ofInt64, toInt64]
  simp [whole, again]

def toText? (bytes : Bytes) : Option String :=
  String.fromUTF8? ⟨bytes.toArray⟩

def ofText (text : String) : Bytes :=
  text.toByteArray.data.toList

theorem toText?_ofText (text : String) : toText? (ofText text) = some text := by
  have same : (⟨(text.toByteArray.data.toList).toArray⟩ : ByteArray) = text.toByteArray := rfl
  rw [toText?, ofText, same, String.fromUTF8?, dif_pos text.isValidUTF8]
  rfl

theorem ofText_of_toText? {bytes : Bytes} {text : String} (spelled : toText? bytes = some text) :
    ofText text = bytes := by
  rw [toText?, String.fromUTF8?] at spelled
  split at spelled
  · cases spelled
    simp [ofText, String.fromUTF8]
  · cases spelled

def take? (n : Nat) (bytes : Bytes) : Option (Bytes × Bytes) :=
  if n ≤ bytes.length then some (bytes.take n, bytes.drop n) else none

end Bytes

end SeriesCursor
