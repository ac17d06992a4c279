import SeriesCursor.Proofs.JsonNumber

/-!
JSON text reads back as the value it was written from. A string reads back whatever its characters are, since each
is written as itself or as one escape; and a value reads back in front of any text that ends it, with no more fuel
than its text has characters.
-/

namespace SeriesCursor

namespace Json

theorem skipBlanks_cons {c : Char} (visible : isBlank c = false) (rest : List Char) :
    skipBlanks (c :: rest) = c :: rest := by
  rw [skipBlanks, List.dropWhile_cons_of_neg (by rw [visible]; decide)]

section Strings

theorem unit?_of_control {c : Char} (control : c.toNat < 0x20) :
    unit? '0' '0' (Nat.digitChar (c.toNat / 16)) (Nat.digitChar (c.toNat % 16)) = some c.toNat := by
  have zero : Text.hexValue? '0' = some 0 := by decide
  have high : Text.hexValue? (Nat.digitChar (c.toNat / 16)) = some (c.toNat / 16) :=
    Text.hexValue?_digitChar (by omega)
  have low : Text.hexValue? (Nat.digitChar (c.toNat % 16)) = some (c.toNat % 16) := Text.hexValue?_digitChar (by omega)
  have sum : c.toNat / 16 * 16 + c.toNat % 16 = c.toNat := Nat.div_add_mod' c.toNat 16
  simpa [unit?, zero, high, low] using sum

theorem readChars_escapeChar (c : Char) (tail : List Char) :
    readChars (escapeChar c ++ tail) = before c (readChars tail) := by
  unfold escapeChar
  split
  · rename_i quote
    subst quote
    rfl
  split
  · rename_i backslash
    subst backslash
    rfl
  split
  · rename_i lineFeed
    subst lineFeed
    rfl
  split
  · rename_i carriageReturn
    subst carriageReturn
    rfl
  split
  · rename_i tab
    subst tab
    rfl
  split
  · rename_i backspace
    subst backspace
    rfl
  split
  · rename_i formFeed
    subst formFeed
    rfl
  split
  · rename_i control
    -- of the four digits the first two are zero
    have read : readChars ('\\' :: 'u' :: '0' :: '0' :: Nat.digitChar (c.toNat / 16) ::
        Nat.digitChar (c.toNat % 16) :: tail) = before c (readChars tail) := by
      simp [readChars, unit?_of_control control, Text.charOf?_toNat]
    exact read
  · rename_i notQuote notBackslash _ _ _ _ _ notControl
    have plain : readChars (c :: tail) = before c (readChars tail) := by
      rw [readChars.eq_def]
      simp only [notQuote, notBackslash, notControl, if_false]
    exact plain

theorem readChars_quote (rest : List Char) : readChars ('"' :: rest) = some ([], rest) := by
  rw [readChars.eq_def]
  rfl

theorem readChars_escaped (chars rest : List Char) :
    readChars (chars.flatMap escapeChar ++ '"' :: rest) = some (chars, rest) := by
  induction chars with
  | nil => exact readChars_quote rest
  | cons c chars ih => rw [List.flatMap_cons, List.append_assoc, readChars_escapeChar, ih, before, Option.map_some]

theorem writeString_append (s : String) (rest : List Char) :
    writeString s ++ rest = '"' :: (s.toList.flatMap escapeChar ++ '"' :: rest) := by
  simp [writeString]

theorem readName_write (name : String) (rest : List Char) :
    readName (writeString name ++ ':' :: rest) = some (name, rest) := by
  have visible : isBlank ':' = false := by decide
  rw [writeString_append, readName, skipBlanks_cons (by decide), readString, readChars_escaped]
  simp only [Option.map_some, String.ofList_toList, skipBlanks_cons visible]

end Strings

inductive WellFormed : Json → Prop where
  | null : WellFormed .null
  | bool (b : Bool) : WellFormed (.bool b)
  | number {text : List Char} (isNumber : IsNumber text) : WellFormed (.number text)
  | string (s : String) : WellFormed (.string s)
  | array {items : List Json} (each : ∀ item ∈ items, WellFormed item) : WellFormed (.array items)
  | object {members : List (String × Json)} (each : ∀ member ∈ members, WellFormed member.2) :
      WellFormed (.object members)

/-- In front of any text that ends it the value reads back. -/
def Reads (value : Json) : Prop :=
  ∀ fuel rest, Delimited rest → value.write.length ≤ fuel → readValue fuel (value.write ++ rest) = some (value, rest)

theorem isBlank_of_number {first : Char} (starts : ∀ c, c.isDigit = false → c ≠ '-' → first ≠ c) :
    isBlank first = false := by
  simp [isBlank, starts ' ' (by decide) (by decide), starts '\t' (by decide) (by decide),
    starts '\n' (by decide) (by decide), starts '\r' (by decide) (by decide)]

theorem WellFormed.head {value : Json} (wellFormed : value.WellFormed) :
    ∃ first later, value.write = first :: later ∧ isBlank first = false ∧ first ≠ ']' := by
  cases wellFormed with
  | null => exact ⟨'n', _, rfl, by decide, by decide⟩
  | bool b => cases b <;> exact ⟨_, _, rfl, by decide, by decide⟩
  | number isNumber =>
    obtain ⟨first, later, rfl, starts⟩ := isNumber.head
    exact ⟨first, later, rfl, isBlank_of_number starts, starts ']' (by decide) (by decide)⟩
  | string s => exact ⟨'"', _, by rw [write, writeString, List.cons_append], by decide, by decide⟩
  | @array items => cases items <;> exact ⟨'[', _, rfl, by decide, by decide⟩
  | @object members =>
    cases members with
    | nil => exact ⟨'\x7b', _, rfl, by decide, by decide⟩
    | cons member members => exact ⟨'\x7b', _, by rw [write, List.cons_append, List.cons_append], by decide, by decide⟩

theorem writeItems_cons_append (item : Json) (items : List Json) (rest : List Char) :
    writeItems (item :: items) ++ rest = ',' :: (item.write ++ (writeItems items ++ rest)) := by
  simp [writeItems]

theorem writeMembers_cons_append (name : String) (value : Json) (members : List (String × Json)) (rest : List Char) :
    writeMembers ((name, value) :: members) ++ rest =
      ',' :: (writeString name ++ ':' :: (value.write ++ (writeMembers members ++ rest))) := by
  simp [writeMembers]

theorem write_array_append (item : Json) (items : List Json) (rest : List Char) :
    write (.array (item :: items)) ++ rest = '[' :: (item.write ++ (writeItems items ++ rest)) := by
  simp [write]

theorem write_object_append (name : String) (value : Json) (members : List (String × Json)) (rest : List Char) :
    write (.object ((name, value) :: members)) ++ rest =
      '\x7b' :: (writeString name ++ ':' :: (value.write ++ (writeMembers members ++ rest))) := by
  simp [write]

theorem delimited_writeItems (items : List Json) (rest : List Char) : Delimited (writeItems items ++ rest) := by
  intro c leads
  cases items with
  | nil =>
    rw [writeItems] at leads
    cases leads
    exact .inr (.inl rfl)
  | cons item items =>
    rw [writeItems_cons_append] at leads
    cases leads
    exact .inl rfl

theorem delimited_writeMembers (members : List (String × Json)) (rest : List Char) :
    Delimited (writeMembers members ++ rest) := by
  intro c leads
  cases members with
  | nil =>
    rw [writeMembers] at leads
    cases leads
    exact .inr (.inr rfl)
  | cons member members =>
    rw [writeMembers_cons_append] at leads
    cases leads
    exact .inl rfl

theorem readItems_write {items : List Json} (each : ∀ item ∈ items, Reads item) :
    ∀ fuel rest, (writeItems items).length ≤ fuel → readItems fuel (writeItems items ++ rest) = some (items, rest) := by
  have comma : isBlank ',' = false := by decide
  have close : isBlank ']' = false := by decide
  induction items with
  | nil =>
    intro fuel rest enough
    cases fuel with
    | zero => cases enough
    | succ fuel => simp only [writeItems, List.singleton_append, readItems, skipBlanks_cons close]
  | cons item items ih =>
    intro fuel rest enough
    obtain ⟨reads, others⟩ := List.forall_mem_cons.mp each
    cases fuel with
    | zero => simp [writeItems] at enough
    | succ fuel =>
      simp only [writeItems, List.length_append, List.length_cons] at enough
      have itemRead := reads fuel _ (delimited_writeItems items rest) (by omega)
      have itemsRead := ih others fuel rest (by omega)
      rw [writeItems_cons_append, readItems]
      simp only [skipBlanks_cons comma, itemRead, itemsRead, Option.map_some]

theorem readMember_write (name : String) {value : Json} (reads : Reads value) {fuel : Nat} {rest : List Char}
    (ends : Delimited rest) (enough : value.write.length < fuel) :
    readMember fuel (writeString name ++ ':' :: (value.write ++ rest)) = some ((name, value), rest) := by
  cases fuel with
  | zero => cases enough
  | succ fuel =>
    rw [readMember, readName_write]
    simp only [reads fuel rest ends (Nat.le_of_lt_succ enough), Option.map_some]

theorem readMembers_write {members : List (String × Json)} (each : ∀ member ∈ members, Reads member.2) :
    ∀ fuel rest, (writeMembers members).length ≤ fuel →
      readMembers fuel (writeMembers members ++ rest) = some (members, rest) := by
  have comma : isBlank ',' = false := by decide
  have close : isBlank '\x7d' = false := by decide
  induction members with
  | nil =>
    intro fuel rest enough
    cases fuel with
    | zero => cases enough
    | succ fuel => simp only [writeMembers, List.singleton_append, readMembers, skipBlanks_cons close]
  | cons member members ih =>
    intro fuel rest enough
    obtain ⟨name, value⟩ := member
    obtain ⟨reads, others⟩ := List.forall_mem_cons.mp each
    cases fuel with
    | zero => simp [writeMembers] at enough
    | succ fuel =>
      simp only [writeMembers, List.length_append, List.length_cons] at enough
      have inside : value.write.length < fuel := by omega
      have memberRead := readMember_write name reads (delimited_writeMembers members rest) inside
      have membersRead := ih others fuel rest (by omega)
      rw [writeMembers_cons_append, readMembers]
      simp only [skipBlanks_cons comma, memberRead, membersRead, Option.map_some]

section Opened

variable {fuel : Nat} {later after rest : List Char}

theorem readValue_bracket {first : Char} {item : Json} {items : List Json} (visible : isBlank first = false)
    (notClose : first ≠ ']') (itemRead : readValue fuel (first :: later) = some (item, after))
    (itemsRead : readItems fuel after = some (items, rest)) :
    readValue (fuel + 1) ('[' :: first :: later) = some (.array (item :: items), rest) := by
  have bracket : isBlank '[' = false := by decide
  have notQuote : '[' ≠ '"' := by decide
  rw [readValue, skipBlanks_cons bracket]
  simp only [notQuote, if_false, if_true, skipBlanks_cons visible]
  split
  · rename_i same
    cases same
    exact absurd rfl notClose
  · simp only [itemRead, itemsRead, Option.map_some]

theorem readValue_brace {member : String × Json} {members : List (String × Json)}
    (memberRead : readMember fuel ('"' :: later) = some (member, after))
    (membersRead : readMembers fuel after = some (members, rest)) :
    readValue (fuel + 1) ('\x7b' :: '"' :: later) = some (.object (member :: members), rest) := by
  have brace : isBlank '\x7b' = false := by decide
  have quote : isBlank '"' = false := by decide
  have notQuote : '\x7b' ≠ '"' := by decide
  have notBracket : '\x7b' ≠ '[' := by decide
  rw [readValue, skipBlanks_cons brace]
  simp only [notQuote, notBracket, if_false, if_true, skipBlanks_cons quote]
  split
  · rename_i same
    cases same
  · simp only [memberRead, membersRead, Option.map_some]

end Opened

theorem reads_array {items : List Json} (wellFormed : ∀ item ∈ items, WellFormed item)
    (each : ∀ item ∈ items, Reads item) : Reads (.array items) := by
  intro fuel rest ends enough
  cases fuel with
  | zero => cases items <;> simp [write] at enough
  | succ fuel =>
    cases items with
    | nil => rfl
    | cons item items =>
      obtain ⟨reads, others⟩ := List.forall_mem_cons.mp each
      obtain ⟨first, later, text, visible, notClose⟩ := (wellFormed item List.mem_cons_self).head
      simp only [write, List.length_append, List.length_cons] at enough
      have itemRead := reads fuel _ (delimited_writeItems items rest) (by omega)
      have itemsRead := readItems_write others fuel rest (by omega)
      rw [text, List.cons_append] at itemRead
      rw [write_array_append, text, List.cons_append]
      exact readValue_bracket visible notClose itemRead itemsRead

theorem reads_object {members : List (String × Json)} (each : ∀ member ∈ members, Reads member.2) :
    Reads (.object members) := by
  intro fuel rest ends enough
  cases fuel with
  | zero => cases members <;> simp [write] at enough
  | succ fuel =>
    cases members with
    | nil => rfl
    | cons member members =>
      obtain ⟨name, value⟩ := member
      obtain ⟨reads, others⟩ := List.forall_mem_cons.mp each
      simp only [write, List.length_append, List.length_cons] at enough
      have inside : value.write.length < fuel := by omega
      have memberRead := readMember_write name reads (delimited_writeMembers members rest) inside
      have membersRead := readMembers_write others fuel rest (by omega)
      rw [writeString_append] at memberRead
      rw [write_object_append, writeString_append]
      exact readValue_brace memberRead membersRead

/-- By induction on the value: each part reads back with the fuel that its own text takes. -/
theorem WellFormed.reads {value : Json} (wellFormed : value.WellFormed) : Reads value := by
  induction wellFormed with
  | array wellFormed each => exact reads_array wellFormed each
  | object _ each => exact reads_object each
  | null =>
    intro fuel rest ends enough
    cases fuel with
    | zero => cases enough
    | succ fuel => rfl
  | bool b =>
    intro fuel rest ends enough
    cases fuel with
    | zero => cases b <;> cases enough
    | succ fuel => cases b <;> rfl
  | string s =>
    intro fuel rest ends enough
    cases fuel with
    | zero => simp [write, writeString] at enough
    | succ fuel =>
      rw [write, writeString_append, readValue, skipBlanks_cons (by decide)]
      simp only [if_true, readChars_escaped, Option.map_some, String.ofList_toList]
  | @number text isNumber =>
    intro fuel rest ends enough
    have whole := readNumber_append isNumber ends
    obtain ⟨first, later, rfl, starts⟩ := isNumber.head
    cases fuel with
    | zero => simp [write] at enough
    | succ fuel =>
      rw [List.cons_append] at whole
      rw [write, List.cons_append, readValue, skipBlanks_cons (isBlank_of_number starts)]
      simp only [starts '"' (by decide) (by decide), starts '[' (by decide) (by decide),
        starts '\x7b' (by decide) (by decide), starts 'n' (by decide) (by decide), starts 't' (by decide) (by decide),
        starts 'f' (by decide) (by decide), if_false, whole, Option.map_some]

theorem read?_write {value : Json} (wellFormed : value.WellFormed) : read? value.write = some value := by
  have whole := wellFormed.reads (2 * value.write.length + 2) [] (by intro c leads; cases leads) (by omega)
  rw [List.append_nil] at whole
  rw [read?, whole]
  rfl

end Json

end SeriesCursor
