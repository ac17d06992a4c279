import Mathlib.Data.List.Basic
import SeriesCursor.Json.Reader
import SeriesCursor.Record

/-!
The numbers of JSON. A number is a sign, a whole part, a fraction and an exponent, and the reader takes all of it
where no further digit, point or exponent follows. Every whole number is written as such a text, which spells that
number; and every layout of decimals writes such texts.
-/

namespace SeriesCursor

namespace Json

def AllDigits (text : List Char) : Prop :=
  ∀ c ∈ text, c.isDigit = true

inductive IsWhole : List Char → Prop where
  | zero : IsWhole ['0']
  | digits {first : Char} {rest : List Char} (all : AllDigits (first :: rest)) (nonzero : first ≠ '0') :
      IsWhole (first :: rest)

inductive IsFraction : List Char → Prop where
  | none : IsFraction []
  | digits {first : Char} {rest : List Char} (all : AllDigits (first :: rest)) : IsFraction ('.' :: first :: rest)

def IsSign (text : List Char) : Prop :=
  text = [] ∨ text = ['+'] ∨ text = ['-']

inductive IsExponent : List Char → Prop where
  | none : IsExponent []
  | digits {letter first : Char} {sign rest : List Char} (marked : letter = 'e' ∨ letter = 'E') (signed : IsSign sign)
      (all : AllDigits (first :: rest)) : IsExponent (letter :: (sign ++ first :: rest))

inductive IsUnsigned : List Char → Prop where
  | parts {whole fraction exponent : List Char} (isWhole : IsWhole whole) (isFraction : IsFraction fraction)
      (isExponent : IsExponent exponent) : IsUnsigned (whole ++ fraction ++ exponent)

inductive IsNumber : List Char → Prop where
  | unsigned {text : List Char} (size : IsUnsigned text) : IsNumber text
  | negative {text : List Char} (size : IsUnsigned text) : IsNumber ('-' :: text)

/-- What may follow a value: nothing, or a comma, or the end of an array or an object. -/
def Delimited (text : List Char) : Prop :=
  ∀ c, text.head? = some c → c = ',' ∨ c = ']' ∨ c = '\x7d'

section

variable {text rest : List Char}

theorem splitDigits_append {digits : List Char} (all : AllDigits digits)
    (ends : ∀ c, rest.head? = some c → c.isDigit = false) : splitDigits (digits ++ rest) = (digits, rest) := by
  rw [splitDigits, List.takeWhile_append_of_pos all, List.dropWhile_append_of_pos all]
  cases rest with
  | nil => simp
  | cons c later => simp [ends c rfl]

theorem readWhole_append {whole : List Char} (isWhole : IsWhole whole)
    (ends : ∀ c, rest.head? = some c → c.isDigit = false) : readWhole (whole ++ rest) = some (whole, rest) := by
  cases isWhole with
  | zero => rfl
  | @digits first others all nonzero =>
    have digit := all first List.mem_cons_self
    rw [List.cons_append, readWhole, if_neg nonzero, if_pos digit, ← List.cons_append, splitDigits_append all ends]

theorem readFraction_append {fraction : List Char} (isFraction : IsFraction fraction)
    (ends : ∀ c, rest.head? = some c → c.isDigit = false ∧ c ≠ '.') :
    readFraction (fraction ++ rest) = some (fraction, rest) := by
  cases isFraction with
  | none =>
    rw [List.nil_append]
    unfold readFraction
    split
    · exact absurd rfl (ends '.' rfl).2
    · rfl
  | digits all =>
    rw [List.cons_append, readFraction, splitDigits_append all fun c ahead => (ends c ahead).1]

theorem splitSign_append {sign : List Char} (signed : IsSign sign) {first : Char} (digit : first.isDigit = true) :
    splitSign (sign ++ first :: rest) = (sign, first :: rest) := by
  rcases signed with rfl | rfl | rfl
  · rw [List.nil_append]
    unfold splitSign
    split
    · rename_i same
      cases same
      cases digit
    · rename_i same
      cases same
      cases digit
    · rfl
  · rfl
  · rfl

theorem readExponent_append {exponent : List Char} (isExponent : IsExponent exponent)
    (ends : ∀ c, rest.head? = some c → c.isDigit = false ∧ c ≠ 'e' ∧ c ≠ 'E') :
    readExponent (exponent ++ rest) = some (exponent, rest) := by
  cases isExponent with
  | none =>
    cases rest with
    | nil => rfl
    | cons c later =>
      obtain ⟨_, notLower, notUpper⟩ := ends c rfl
      rw [List.nil_append, readExponent, if_neg (not_or.mpr ⟨notLower, notUpper⟩)]
  | @digits letter first sign others marked signed all =>
    rw [List.cons_append, List.append_assoc, List.cons_append, readExponent, if_pos marked,
      splitSign_append signed (all first List.mem_cons_self), ← List.cons_append,
      splitDigits_append all fun c ahead => (ends c ahead).1]
    simp

theorem readUnsigned_append (size : IsUnsigned text) (ends : Delimited rest) :
    readUnsigned (text ++ rest) = some (text, rest) := by
  have outside : ∀ c, rest.head? = some c → c.isDigit = false ∧ c ≠ '.' ∧ c ≠ 'e' ∧ c ≠ 'E' := by
    intro c ahead
    rcases ends c ahead with rfl | rfl | rfl <;> decide
  cases size with
  | @parts whole fraction exponent isWhole isFraction isExponent =>
    have afterFraction : ∀ c, (exponent ++ rest).head? = some c → c.isDigit = false ∧ c ≠ '.' := by
      intro c ahead
      cases isExponent with
      | none => exact ⟨(outside c ahead).1, (outside c ahead).2.1⟩
      | digits marked =>
        cases ahead
        rcases marked with rfl | rfl <;> decide
    have afterWhole : ∀ c, (fraction ++ (exponent ++ rest)).head? = some c → c.isDigit = false := by
      intro c ahead
      cases isFraction with
      | none => exact (afterFraction c ahead).1
      | digits =>
        cases ahead
        decide
    have afterExponent : ∀ c, rest.head? = some c → c.isDigit = false ∧ c ≠ 'e' ∧ c ≠ 'E' :=
      fun c ahead => ⟨(outside c ahead).1, (outside c ahead).2.2⟩
    simp only [readUnsigned, List.append_assoc, readWhole_append isWhole afterWhole,
      readFraction_append isFraction afterFraction, readExponent_append isExponent afterExponent, bind, Option.bind]

theorem IsWhole.head {whole : List Char} (isWhole : IsWhole whole) :
    ∃ first later, whole = first :: later ∧ first.isDigit = true := by
  cases isWhole with
  | zero => exact ⟨'0', [], rfl, by decide⟩
  | digits all => exact ⟨_, _, rfl, all _ List.mem_cons_self⟩

theorem IsUnsigned.head (size : IsUnsigned text) : ∃ first later, text = first :: later ∧ first.isDigit = true := by
  cases size with
  | parts isWhole =>
    obtain ⟨first, later, rfl, digit⟩ := isWhole.head
    exact ⟨first, _, by rw [List.cons_append, List.cons_append], digit⟩

theorem IsNumber.head (number : IsNumber text) :
    ∃ first later, text = first :: later ∧ ∀ c, c.isDigit = false → c ≠ '-' → first ≠ c := by
  cases number with
  | unsigned size =>
    obtain ⟨first, later, rfl, digit⟩ := size.head
    refine ⟨first, later, rfl, fun c other _ same => ?_⟩
    rw [same, other] at digit
    cases digit
  | negative => exact ⟨'-', _, rfl, fun _ _ other => other.symm⟩

theorem readNumber_append (number : IsNumber text) (ends : Delimited rest) :
    readNumber (text ++ rest) = some (text, rest) := by
  cases number with
  | unsigned size =>
    have read := readUnsigned_append size ends
    obtain ⟨first, later, rfl, digit⟩ := size.head
    rw [List.cons_append] at read ⊢
    unfold readNumber
    split
    · rename_i same
      cases same
      cases digit
    · exact read
  | negative size =>
    rw [List.cons_append, readNumber, readUnsigned_append size ends]
    rfl

end

theorem allDigits_toDigits (n : Nat) : AllDigits (Nat.toDigits 10 n) :=
  fun _ member => Nat.isDigit_of_mem_toDigits (by decide) (by decide) member

theorem head_toDigits {n : Nat} (positive : 0 < n) {first : Char} (leads : (Nat.toDigits 10 n).head? = some first) :
    first ≠ '0' := by
  induction n using Nat.strongRecOn generalizing first with
  | ind n ih =>
    by_cases small : n < 10
    · have table : ∀ digit : Fin 10, 0 < digit.val → Nat.digitChar digit.val ≠ '0' := by decide
      rw [Nat.toDigits_of_lt_base small] at leads
      cases leads
      exact table ⟨n, small⟩ positive
    · have more : 0 < n / 10 := Nat.div_pos (Nat.le_of_not_lt small) (by decide)
      rw [Nat.toDigits_of_base_le (by decide) (Nat.le_of_not_lt small),
        List.head?_append_of_ne_nil _ Nat.toDigits_ne_nil] at leads
      exact ih (n / 10) (Nat.div_lt_self positive (by decide)) more leads

theorem toDigits_eq_cons (n : Nat) : ∃ first rest, Nat.toDigits 10 n = first :: rest ∧ AllDigits (first :: rest) := by
  cases digits : Nat.toDigits 10 n with
  | nil => exact absurd digits Nat.toDigits_ne_nil
  | cons first rest => exact ⟨first, rest, rfl, digits ▸ allDigits_toDigits n⟩

theorem isWhole_toDigits (n : Nat) : IsWhole (Nat.toDigits 10 n) := by
  rcases Nat.eq_zero_or_pos n with rfl | positive
  · exact .zero
  · obtain ⟨first, rest, digits, all⟩ := toDigits_eq_cons n
    rw [digits]
    exact .digits all (head_toDigits positive (by rw [digits]; rfl))

theorem IsWhole.isUnsigned {text : List Char} (isWhole : IsWhole text) : IsUnsigned text := by
  simpa using IsUnsigned.parts isWhole .none .none

/-- The text is a whole part, after a minus or alone, and its digits have the given number for their value. -/
inductive Spells : List Char → Int → Prop where
  | unsigned {digits : List Char} (isWhole : IsWhole digits) : Spells digits (Nat.ofDigitChars 10 digits 0)
  | negative {digits : List Char} (isWhole : IsWhole digits) :
      Spells ('-' :: digits) (-(Nat.ofDigitChars 10 digits 0 : Int))

theorem exists_ofInt (n : Int) : ∃ text, ofInt n = .number text ∧ Spells text n := by
  have isWhole := isWhole_toDigits n.natAbs
  refine ⟨_, rfl, ?_⟩
  split
  · have spells := Spells.negative isWhole
    have size : -(n.natAbs : Int) = n := by omega
    rwa [Nat.ofDigitChars_ten_toDigits, size] at spells
  · have spells := Spells.unsigned isWhole
    have size : (n.natAbs : Int) = n := by omega
    rwa [Nat.ofDigitChars_ten_toDigits, size] at spells

section

variable {text : List Char} {n m : Int}

theorem Spells.isNumber (spells : Spells text n) : IsNumber text := by
  cases spells with
  | unsigned isWhole => exact .unsigned isWhole.isUnsigned
  | negative isWhole => exact .negative isWhole.isUnsigned

theorem not_isWhole_minus (digits : List Char) : ¬ IsWhole ('-' :: digits) := by
  intro isWhole
  obtain ⟨first, later, same, digit⟩ := isWhole.head
  cases same
  cases digit

theorem Spells.injective (spells : Spells text n) (also : Spells text m) : n = m := by
  cases spells with
  | unsigned isWhole =>
    cases also with
    | unsigned => rfl
    | negative => exact absurd isWhole (not_isWhole_minus _)
  | negative =>
    cases also with
    | unsigned isWhole => exact absurd isWhole (not_isWhole_minus _)
    | negative => rfl

end

end Json

namespace Decimal

open Json

theorem allDigits_padded (count n : Nat) : AllDigits (padded count n) := by
  intro c member
  rcases List.mem_append.mp member with zero | digit
  · rw [List.eq_of_mem_replicate zero]
    decide
  · exact allDigits_toDigits n c digit

theorem isFraction_padded (count : Nat) (n : Nat) : IsFraction ('.' :: padded count n) := by
  cases digits : padded count n with
  | nil => exact absurd (List.append_eq_nil_iff.mp digits).2 Nat.toDigits_ne_nil
  | cons first rest => exact .digits (digits ▸ allDigits_padded count n)

theorem isUnsigned_positional (number : Decimal) (pointed : Bool) : IsUnsigned (number.positional pointed) := by
  have pointZero : IsFraction ['.', '0'] := .digits (by simp [AllDigits])
  unfold positional
  split
  · have whole := isWhole_toDigits (number.coefficient * Nat.pow 10 number.exponent.toNat)
    cases pointed with
    | true => simpa using IsUnsigned.parts whole pointZero .none
    | false => simpa using whole.isUnsigned
  · have whole := isWhole_toDigits (number.coefficient / Nat.pow 10 (-number.exponent).toNat)
    simpa using IsUnsigned.parts whole (isFraction_padded _ _) .none

theorem isExponent_written (place : Int) :
    IsExponent ('e' :: (if 0 ≤ place then '+' else '-') :: Nat.toDigits 10 place.natAbs) := by
  obtain ⟨first, rest, digits, all⟩ := toDigits_eq_cons place.natAbs
  rw [digits]
  split
  · exact .digits (.inl rfl) (.inr (.inl rfl)) all
  · exact .digits (.inl rfl) (.inr (.inr rfl)) all

theorem isUnsigned_scientific (number : Decimal) : IsUnsigned number.scientific := by
  have whole := isWhole_toDigits number.coefficient
  have exponent := isExponent_written number.leadingPlace
  unfold scientific
  split
  · rename_i first second rest digits
    -- the first of several digits is not zero, and is a whole part on its own
    rw [digits] at whole
    cases whole with
    | digits all nonzero =>
      obtain ⟨leading, others⟩ := List.forall_mem_cons.mp all
      have single : IsWhole [first] := .digits (by simpa [AllDigits] using leading) nonzero
      simpa using IsUnsigned.parts single (.digits others) exponent
  · simpa using IsUnsigned.parts whole .none exponent

end Decimal

theorem DecimalLayout.isNumber_write (layout : DecimalLayout) (negative : Bool) (size : Magnitude) :
    Json.IsNumber (layout.write negative size) := by
  have unsigned : Json.IsUnsigned
      (if layout.isPositional (size.shortest layout.tie) then (size.shortest layout.tie).positional layout.pointed
        else (size.shortest layout.tie).scientific) := by
    split
    · exact Decimal.isUnsigned_positional _ _
    · exact Decimal.isUnsigned_scientific _
  unfold write
  cases negative with
  | true => exact .negative unsigned
  | false => exact .unsigned unsigned

end SeriesCursor
