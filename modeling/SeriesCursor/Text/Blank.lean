/-!
Blank characters, those with the property White_Space, and the text that is left when the blanks
around it are taken off. The main law: trimming splits a text into blanks, a text with no blank at
either end, and blanks.
-/

namespace SeriesCursor

namespace Text

/-- The characters with the property White_Space: 25 in all. -/
def isBlank (c : Char) : Bool :=
  let n := c.toNat
  (0x09 ≤ n && n ≤ 0x0D) || n == 0x20 || n == 0x85 || n == 0xA0 || n == 0x1680 ||
    (0x2000 ≤ n && n ≤ 0x200A) || n == 0x2028 || n == 0x2029 || n == 0x202F || n == 0x205F ||
    n == 0x3000

def trimEnd (text : List Char) : List Char :=
  (text.reverse.dropWhile isBlank).reverse

def trim (text : List Char) : List Char :=
  trimEnd (text.dropWhile isBlank)

theorem blank_of_mem_takeWhile {c : Char} {text : List Char} (member : c ∈ text.takeWhile isBlank) :
    isBlank c = true :=
  List.all_eq_true.mp List.all_takeWhile c member

theorem trimEnd_split (text : List Char) :
    ∃ after, text = trimEnd text ++ after ∧ ∀ c ∈ after, isBlank c = true := by
  refine ⟨(text.reverse.takeWhile isBlank).reverse, ?_, ?_⟩
  · rw [trimEnd, ← List.reverse_append, List.takeWhile_append_dropWhile, List.reverse_reverse]
  · intro c member
    exact blank_of_mem_takeWhile (List.mem_reverse.mp member)

theorem trim_split (text : List Char) :
    ∃ before after, text = before ++ trim text ++ after ∧
      (∀ c ∈ before, isBlank c = true) ∧ (∀ c ∈ after, isBlank c = true) := by
  obtain ⟨after, split, blank⟩ := trimEnd_split (text.dropWhile isBlank)
  refine ⟨text.takeWhile isBlank, after, ?_, fun _ member => blank_of_mem_takeWhile member, blank⟩
  rw [trim, List.append_assoc, ← split, List.takeWhile_append_dropWhile]

end Text

end SeriesCursor
