/-!
Hexadecimal digits, and the characters that code points stand for.
-/

namespace SeriesCursor

namespace Text

def hexValue? (c : Char) : Option Nat :=
  if c.isDigit then some (c.toNat - 48)
  else if 'a' ≤ c ∧ c ≤ 'f' then some (c.toNat - 87)
  else if 'A' ≤ c ∧ c ≤ 'F' then some (c.toNat - 55)
  else none

/-- The character of a code point; none for surrogates and beyond the last code point. -/
def charOf? (n : Nat) : Option Char :=
  if n.isValidChar then some (Char.ofNat n) else none

theorem hexValue?_digitChar {n : Nat} (small : n < 16) : hexValue? n.digitChar = some n := by
  have table : ∀ digit : Fin 16, hexValue? (Nat.digitChar digit.val) = some digit.val := by decide
  exact table ⟨n, small⟩

theorem charOf?_toNat (c : Char) : charOf? c.toNat = some c := by
  have valid : c.toNat.isValidChar := c.valid
  simp [charOf?, valid, Char.ofNat_toNat]

end Text

end SeriesCursor
