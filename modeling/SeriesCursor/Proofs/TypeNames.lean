import Mathlib.Data.List.Forall2
import SeriesCursor.Schema.Basic

/-!
The grammar of type names. A text names a type exactly if it is the name of the type, each of its letters small or
capital, between blanks; no text names two types. Every other text is refused, and the error has the text as it came.

Blanks and letters are told here by tables of their own: the 25 characters with the property White_Space, and the
pairs of letters that lie 32 apart. The reader trims and maps to capitals, and knows neither table.
-/

namespace SeriesCursor

namespace Text

def whiteSpace : List Nat :=
  [0x09, 0x0A, 0x0B, 0x0C, 0x0D, 0x20, 0x85, 0xA0, 0x1680, 0x2000, 0x2001, 0x2002, 0x2003, 0x2004, 0x2005, 0x2006,
    0x2007, 0x2008, 0x2009, 0x200A, 0x2028, 0x2029, 0x202F, 0x205F, 0x3000]

def Blanks (text : List Char) : Prop :=
  ∀ c ∈ text, c.toNat ∈ whiteSpace

instance (text : List Char) : Decidable (Blanks text) :=
  List.decidableBAll _ text

/-- Whether two characters are one, or the small and the capital form of one of the 26 letters. -/
def SameLetter (c d : Char) : Prop :=
  c = d ∨ c.isLower = true ∧ d.toNat + 32 = c.toNat ∨ d.isLower = true ∧ c.toNat + 32 = d.toNat

theorem isBlank_iff {c : Char} : isBlank c = true ↔ c.toNat ∈ whiteSpace := by
  simp only [isBlank, whiteSpace, Bool.or_eq_true, Bool.and_eq_true, decide_eq_true_eq, beq_iff_eq, List.mem_cons,
    List.not_mem_nil, or_false]
  omega

theorem blanks_of_append {text other : List Char} (blank : Blanks (text ++ other)) : Blanks text ∧ Blanks other :=
  List.forall_mem_append.mp blank

section

variable {before word after : List Char} (nonempty : word ≠ []) (solid : ∀ c ∈ word, c.toNat ∉ whiteSpace)

include nonempty solid

theorem dropWhile_of_blanks (blank : Blanks before) (rest : List Char) :
    (before ++ (word ++ rest)).dropWhile isBlank = word ++ rest := by
  rw [List.dropWhile_append_of_pos fun c member => isBlank_iff.mpr (blank c member)]
  obtain ⟨c, later, rfl⟩ := List.exists_cons_of_ne_nil nonempty
  exact List.dropWhile_cons_of_neg fun white => solid c List.mem_cons_self (isBlank_iff.mp white)

theorem trim_of_blanks (blank : Blanks before) (blankAfter : Blanks after) : trim (before ++ word ++ after) = word := by
  have reversed : Blanks after.reverse := fun c member => blankAfter c (List.mem_reverse.mp member)
  have backward := @dropWhile_of_blanks after.reverse word.reverse (by simpa using nonempty)
    (fun c member => solid c (List.mem_reverse.mp member)) reversed []
  rw [List.append_nil] at backward
  rw [trim, List.append_assoc, dropWhile_of_blanks nonempty solid blank, trimEnd, List.reverse_append, backward,
    List.reverse_reverse]

end

theorem isLower_iff {c : Char} : c.isLower = true ↔ 97 ≤ c.toNat ∧ c.toNat ≤ 122 := by
  have lower : c.isLower = (decide (97 ≤ c.toNat) && decide (c.toNat ≤ 122)) := rfl
  rw [lower, Bool.and_eq_true, decide_eq_true_iff, decide_eq_true_iff]

theorem toNat_toUpper (c : Char) : c.toUpper.toNat = if c.isLower then c.toNat - 32 else c.toNat := by
  have same : c.val.toNat = c.toNat := rfl
  by_cases small : c.isLower = true
  · have range := isLower_iff.mp small
    have within : 'a'.val ≤ c.val ∧ c.val ≤ 'z'.val := range
    have capital : ∃ valid, c.toUpper = ⟨c.val + ('A'.val - 'a'.val), valid⟩ := ⟨_, dif_pos within⟩
    -- in words of 32 bits, 32 less is 2 ^ 32 - 32 more
    have less : ('A'.val - 'a'.val).toNat = 4294967264 := by decide
    obtain ⟨valid, capital⟩ := capital
    rw [if_pos small, capital, Char.toNat, UInt32.toNat_add, less, same]
    omega
  · have outside : ¬ ('a'.val ≤ c.val ∧ c.val ≤ 'z'.val) := fun within => small (isLower_iff.mpr within)
    have kept : c.toUpper = c := dif_neg outside
    rw [if_neg small, kept]

theorem toUpper_eq_iff {c d : Char} : c.toUpper = d.toUpper ↔ SameLetter c d := by
  simp only [SameLetter, ← Char.toNat_inj, toNat_toUpper, isLower_iff]
  split <;> split <;> omega

theorem map_toUpper_eq_iff {word other : List Char} :
    word.map Char.toUpper = other.map Char.toUpper ↔ List.Forall₂ SameLetter word other := by
  rw [← List.forall₂_eq_eq_eq, List.forall₂_map_left_iff, List.forall₂_map_right_iff]
  simp only [toUpper_eq_iff]

end Text

namespace DataType

open Text

/-- Whether a text names a type: by its name, in any case of letters and with any blanks around it. -/
def Names (type : DataType) (text : List Char) : Prop :=
  ∃ before word after, text = before ++ word ++ after ∧ Blanks before ∧ Blanks after ∧
    List.Forall₂ SameLetter word type.name.toList

section

variable {type other : DataType} {text tail word : List Char}

theorem map_toUpper_name (type : DataType) : type.name.toList.map Char.toUpper = type.name.toList := by
  cases type <;> decide

theorem same_letters_iff :
    List.Forall₂ SameLetter word type.name.toList ↔ word.map Char.toUpper = type.name.toList := by
  rw [← map_toUpper_eq_iff, map_toUpper_name]

theorem capitals_of_name (type : DataType) : ∀ c ∈ type.name.toList, 48 ≤ c.toNat ∧ c.toNat ≤ 90 := by
  cases type <;> simp [name]

theorem eq_of_name_prefix (front : type.name.toList <+: other.name.toList) : type = other := by
  cases type <;> cases other <;> first | rfl | exact absurd front (by decide)

theorem ne_nil_of_same_letters (same : List.Forall₂ SameLetter word type.name.toList) : word ≠ [] := by
  rintro rfl
  cases type <;> cases same

theorem range_of_same_letters (same : List.Forall₂ SameLetter word type.name.toList) {c : Char} (member : c ∈ word) :
    48 ≤ c.toNat ∧ c.toNat ≤ 122 := by
  have inName : c.toUpper ∈ type.name.toList := same_letters_iff.mp same ▸ List.mem_map_of_mem member
  have range := capitals_of_name type _ inName
  have small := @isLower_iff c
  rw [toNat_toUpper] at range
  split at range <;> omega

theorem solid_of_same_letters (same : List.Forall₂ SameLetter word type.name.toList) :
    ∀ c ∈ word, c.toNat ∉ whiteSpace := by
  have outside : ∀ n ∈ whiteSpace, n < 48 ∨ 122 < n := by decide
  intro c member white
  have range := range_of_same_letters same member
  have blank := outside c.toNat white
  omega

theorem names_iff : Names type text ↔ List.Forall₂ SameLetter (trim text) type.name.toList := by
  constructor
  · rintro ⟨before, word, after, rfl, blank, blankAfter, same⟩
    rwa [trim_of_blanks (ne_nil_of_same_letters same) (solid_of_same_letters same) blank blankAfter]
  · intro same
    obtain ⟨before, after, split, blank, blankAfter⟩ := trim_split text
    exact ⟨before, trim text, after, split, fun c member => isBlank_iff.mp (blank c member),
      fun c member => isBlank_iff.mp (blankAfter c member), same⟩

theorem names_unique (first : Names type text) (second : Names other text) : type = other := by
  rw [names_iff, same_letters_iff] at first second
  exact eq_of_name_prefix (first ▸ second ▸ List.prefix_refl _)

theorem ofName?_eq_some_iff {text : String} : ofName? text = some type ↔ Names type text.toList := by
  rw [names_iff, same_letters_iff, ofName?]
  constructor
  · intro found
    exact (eq_of_beq (List.find?_eq_some_iff_append.mp found).1).symm
  · intro same
    rw [same]
    cases type <;> decide

theorem parse_eq_ok_iff {text : String} : parse text = .ok type ↔ Names type text.toList := by
  rw [← ofName?_eq_some_iff, parse]
  cases ofName? text <;> simp

theorem parse_eq_error_iff {text : String} {e : Error} :
    parse text = .error e ↔ e = .unsupportedType text ∧ ∀ type, ¬ Names type text.toList := by
  simp only [← ofName?_eq_some_iff, ← Option.eq_none_iff_forall_ne_some, parse]
  cases ofName? text <;> simp [eq_comm]

theorem not_names_of_foreign {c : Char} (member : c ∈ text) (foreign : 128 ≤ c.toNat) (noBlank : c.toNat ∉ whiteSpace)
    (type : DataType) : ¬ Names type text := by
  rintro ⟨before, word, after, rfl, blank, blankAfter, same⟩
  rcases List.mem_append.mp member with front | here
  · rcases List.mem_append.mp front with here | here
    · exact noBlank (blank c here)
    · have range := range_of_same_letters same here
      omega
  · exact noBlank (blankAfter c here)

theorem not_names_of_parted {front back : List Char} {c : Char} (blank : c.toNat ∈ whiteSpace)
    (someFront : ¬ Blanks front) (someBack : ¬ Blanks back) (type : DataType) : ¬ Names type (front ++ c :: back) := by
  rintro ⟨before, word, after, split, blankBefore, blankAfter, same⟩
  rw [List.append_assoc, List.append_eq_append_iff] at split
  rcases split with ⟨rest, rfl, _⟩ | ⟨rest, rfl, later⟩
  · exact someFront (blanks_of_append blankBefore).1
  · rcases List.append_eq_append_iff.mp later with ⟨gap, rfl, rfl⟩ | ⟨inside, rfl, here⟩
    · exact someBack (@blanks_of_append [c] back (blanks_of_append blankAfter).2).2
    · cases inside with
      | nil =>
        cases here
        exact someBack (@blanks_of_append [c] back blankAfter).2
      | cons d inside =>
        cases here
        exact solid_of_same_letters same c (by simp) blank

theorem blanks_of_names {before rest : List Char} (blank : Blanks before)
    (same : List.Forall₂ SameLetter word type.name.toList) (names : Names other (before ++ (word ++ rest))) :
    Blanks rest := by
  obtain ⟨before', word', after', split, blank', blankAfter', same'⟩ := names
  -- both words start at the first character that is no blank
  have start := dropWhile_of_blanks (ne_nil_of_same_letters same) (solid_of_same_letters same) blank rest
  have start' := dropWhile_of_blanks (ne_nil_of_same_letters same') (solid_of_same_letters same') blank' after'
  rw [split, List.append_assoc, start', List.append_eq_append_iff] at start
  rcases start with ⟨inside, rfl, rfl⟩ | ⟨inside, rfl, rfl⟩
  · exact (blanks_of_append blankAfter').2
  · rw [same_letters_iff] at same same'
    have front : type.name.toList <+: other.name.toList := by
      rw [← same', ← same, List.map_append]
      exact List.prefix_append _ _
    cases eq_of_name_prefix front
    rw [← same', List.map_append] at same
    have none : inside = [] := by simpa using same
    rwa [none]

theorem not_names_of_longer (names : Names type text) (more : ¬ Blanks tail) (other : DataType) :
    ¬ Names other (text ++ tail) := by
  obtain ⟨before, word, after, rfl, blank, _, same⟩ := names
  intro longer
  rw [List.append_assoc, List.append_assoc] at longer
  exact more (blanks_of_append (blanks_of_names blank same longer)).2

end

/-- What becomes of a text that is read as the name of a type. -/
structure ByGrammar (text : String) : Prop where
  ok : ∀ type, parse text = .ok type ↔ Names type text.toList
  error : ∀ e, parse text = .error e ↔ e = .unsupportedType text ∧ ∀ type, ¬ Names type text.toList
  unique : ∀ type other, Names type text.toList → Names other text.toList → type = other
  shown : ∀ (type : DataType) before word after, Blanks before → Blanks after →
    List.Forall₂ SameLetter word type.name.toList → text.toList = before ++ word ++ after → parse text = .ok type
  foreign : ∀ c ∈ text.toList, 128 ≤ c.toNat → c.toNat ∉ whiteSpace → parse text = .error (.unsupportedType text)
  parted : ∀ front c back, text.toList = front ++ c :: back → c.toNat ∈ whiteSpace → ¬ Blanks front → ¬ Blanks back →
    parse text = .error (.unsupportedType text)
  longer : ∀ type tail, Names type text.toList → ¬ Blanks tail.toList →
    parse (text ++ tail) = .error (.unsupportedType (text ++ tail))

/-- A text is read as the type that it names by the grammar, or refused as it came. -/
theorem parse_byGrammar (text : String) : ByGrammar text where
  ok _ := parse_eq_ok_iff
  error _ := parse_eq_error_iff
  unique _ _ := names_unique
  shown _ before word after blank blankAfter same split :=
    parse_eq_ok_iff.mpr ⟨before, word, after, split, blank, blankAfter, same⟩
  foreign _ member foreign noBlank := parse_eq_error_iff.mpr ⟨rfl, not_names_of_foreign member foreign noBlank⟩
  parted _ _ _ split blank someFront someBack := by
    rw [parse_eq_error_iff, split]
    exact ⟨rfl, not_names_of_parted blank someFront someBack⟩
  longer _ tail names more := by
    rw [parse_eq_error_iff, String.toList_append]
    exact ⟨rfl, not_names_of_longer names more⟩

/-- Blanks of three kinds around a name; a letter and a ligature whose capitals would make a name in a larger alphabet;
a blank inside a name; and a digit behind one. -/
theorem parse_byGrammar_of_look_alikes :
    Names .int64 "\u00A0iNt64\u3000\t".toList ∧ parse "\u00A0iNt64\u3000\t" = .ok .int64 ∧
      parse "\u0131nt32" = .error (.unsupportedType "\u0131nt32") ∧
      parse "\uFB02oat" = .error (.unsupportedType "\uFB02oat") ∧
      parse " INT 32" = .error (.unsupportedType " INT 32") ∧
      parse (" Text" ++ "1 ") = .error (.unsupportedType (" Text" ++ "1 ")) := by
  have read : parse "\u00A0iNt64\u3000\t" = .ok .int64 := by decide
  have text : parse " Text" = .ok .text := by decide
  refine ⟨((parse_byGrammar _).ok _).mp read, read, ?_, ?_, ?_, ?_⟩
  · exact (parse_byGrammar _).foreign '\u0131' (by decide) (by decide) (by decide)
  · exact (parse_byGrammar _).foreign '\uFB02' (by decide) (by decide) (by decide)
  · exact (parse_byGrammar _).parted [' ', 'I', 'N', 'T'] ' ' ['3', '2'] rfl (by decide) (by decide) (by decide)
  · exact (parse_byGrammar _).longer .text "1 " (((parse_byGrammar _).ok _).mp text) (by decide)

end DataType

end SeriesCursor
