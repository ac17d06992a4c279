import SeriesCursor.Proofs.GivenSlots

/-!
The ordinals as a map. A resolver can give every name its ordinal where the name first comes, and skip the names
that have one; it then comes to the same columns, or to the same error, as a resolver that only remembers which
names have come. What the map holds for a name is what a search of the columns finds.
-/

namespace SeriesCursor

namespace Schema

/-- Names and their ordinals. A name is put on the front, and only where it has no ordinal yet. -/
abbrev Ordinals := List (String × Nat)

def startOrdinals (includesTime : Bool) : Ordinals :=
  if includesTime then [(timeName, 1)] else []

def numberInOrder : (raw : List (String × String)) → (ordinals : Ordinals) → (columns : List Column) →
    Except Error (Ordinals × List Column)
  | [], ordinals, columns => .ok (ordinals, columns)
  | (name, typeName) :: rest, ordinals, columns =>
    if (ordinals.lookup name).isSome then numberInOrder rest ordinals columns
    else do
      let type ← DataType.parse typeName
      numberInOrder rest ((name, columns.length + 2) :: ordinals) (columns ++ [⟨name, type⟩])

def numberPlaced (index : SlotIndex) : (raw : List (String × String)) → (ordinals : Ordinals) →
    (slots : List (Option Column)) → Except Error (Ordinals × List (Option Column))
  | [], ordinals, slots => .ok (ordinals, slots)
  | (name, typeName) :: rest, ordinals, slots =>
    if (ordinals.lookup name).isSome then numberPlaced index rest ordinals slots
    else match index.slot? name with
      | none => .error (.invalidSchema (.unassigned name))
      | some slot =>
        if slots.length ≤ slot then
          .error (.invalidSchema (.slotOutOfRange name slot slots.length))
        else do
          let type ← DataType.parse typeName
          numberPlaced index rest ((name, slot + 2) :: ordinals) (slots.set slot (some ⟨name, type⟩))

def resolveNumbered (names types : List String) (index : Option SlotIndex) (includesTime : Bool) :
    Except Error (Schema × Ordinals) :=
  if names.length ≠ types.length then
    .error (.invalidSchema (.unequalLists names.length types.length))
  else do
    let raw := names.zip types
    let numbered ← match index with
      | none => numberInOrder raw (startOrdinals includesTime) []
      | some index => do
        let placed ← numberPlaced index raw (startOrdinals includesTime) (List.replicate index.size none)
        let columns ← filled 0 placed.2
        .ok (placed.1, columns)
    .ok (⟨if includesTime then timeName :: names else names, numbered.2, includesTime⟩, numbered.1)

def Knows (ordinals : Ordinals) (seen : List String) : Prop :=
  ∀ name, (ordinals.lookup name).isSome = true ↔ name ∈ seen

variable {raw : List (String × String)} {ordinals last : Ordinals} {seen : List String} {name : String}
  {includesTime : Bool}

theorem lookup_cons_eq (name other : String) (ordinal : Nat) (ordinals : Ordinals) :
    List.lookup other ((name, ordinal) :: ordinals) = if other = name then some ordinal else ordinals.lookup other := by
  by_cases same : other = name
  · simp [same]
  · rw [if_neg same, lookup_cons_of_ne same]

theorem Knows.cons (knows : Knows ordinals seen) (name : String) (ordinal : Nat) :
    Knows ((name, ordinal) :: ordinals) (name :: seen) := by
  intro other
  rw [lookup_cons_eq, List.mem_cons, ← knows other]
  split <;> simp [*]

theorem knows_start (includesTime : Bool) : Knows (startOrdinals includesTime) (seenAtStart includesTime) := by
  have none : Knows [] [] := fun name => by simp
  cases includesTime with
  | false => exact none
  | true => exact none.cons timeName 1

theorem numberInOrder_eq (knows : Knows ordinals seen) (columns : List Column) :
    (numberInOrder raw ordinals columns).map Prod.snd = (inOrder raw seen).map (columns ++ ·) := by
  induction raw generalizing ordinals seen columns with
  | nil => simp [numberInOrder, inOrder, Except.map]
  | cons entry rest ih =>
    obtain ⟨name, typeName⟩ := entry
    rw [numberInOrder, inOrder]
    by_cases known : name ∈ seen
    · rw [if_pos ((knows name).mpr known), if_pos known]
      exact ih knows columns
    · rw [if_neg fun given => known ((knows name).mp given), if_neg known]
      cases DataType.parse typeName with
      | error e => rfl
      | ok type =>
        have next := ih (knows.cons name (columns.length + 2)) (columns ++ [⟨name, type⟩])
        change (numberInOrder rest _ _).map Prod.snd = (inOrder rest (name :: seen) >>= _).map _
        rw [next]
        cases inOrder rest (name :: seen) <;> simp [bind, Except.bind, Except.map]

theorem numberPlaced_eq {index : SlotIndex} (knows : Knows ordinals seen) (slots : List (Option Column)) :
    (numberPlaced index raw ordinals slots).map Prod.snd = place index raw seen slots := by
  induction raw generalizing ordinals seen slots with
  | nil => rfl
  | cons entry rest ih =>
    obtain ⟨name, typeName⟩ := entry
    rw [numberPlaced, place]
    by_cases known : name ∈ seen
    · rw [if_pos ((knows name).mpr known), if_pos known]
      exact ih knows slots
    · rw [if_neg fun given => known ((knows name).mp given), if_neg known]
      cases index.slot? name with
      | none => rfl
      | some slot =>
        dsimp only
        split
        · rfl
        · cases DataType.parse typeName with
          | error e => rfl
          | ok type => exact ih (knows.cons name (slot + 2)) _

theorem ordinal?_eq_findIdx? (schema : Schema) (name : String) :
    schema.ordinal? name = if schema.isTime name then some 1 else
      (schema.columns.findIdx? fun column => column.name == name).map (· + 2) := by
  rw [ordinal?, slot?, List.findIdx?_eq_map_findFinIdx?_val, Option.map_map]
  rfl

theorem ordinal?_append {shown : List String} {columns : List Column}
    (new : (Schema.mk shown columns includesTime).ordinal? name = none) (type : DataType) (other : String) :
    (Schema.mk shown (columns ++ [⟨name, type⟩]) includesTime).ordinal? other =
      if other = name then some (columns.length + 2)
      else (Schema.mk shown columns includesTime).ordinal? other := by
  have unnumbered : isTime ⟨shown, columns, includesTime⟩ name = false ∧
      (columns.findIdx? fun column => column.name == name) = none := by
    rw [ordinal?_eq_findIdx?] at new
    split at new
    · cases new
    · rename_i data
      exact ⟨Bool.eq_false_iff.mpr data, Option.map_eq_none_iff.mp new⟩
  have sameTime : isTime ⟨shown, columns ++ [⟨name, type⟩], includesTime⟩ other =
      isTime ⟨shown, columns, includesTime⟩ other := rfl
  rw [ordinal?_eq_findIdx?, ordinal?_eq_findIdx?, sameTime, List.findIdx?_append]
  by_cases same : other = name
  · rw [if_pos same, same, unnumbered.1, unnumbered.2]
    simp
  · simp [same, List.findIdx?_cons, Ne.symm same]

theorem lookup_of_numberInOrder {shown : List String} {columns all : List Column}
    (numbers : ∀ name, ordinals.lookup name = (Schema.mk shown columns includesTime).ordinal? name)
    (numbered : numberInOrder raw ordinals columns = .ok (last, all)) (name : String) :
    last.lookup name = (Schema.mk shown all includesTime).ordinal? name := by
  -- the columns grow with the map, and what the map has for a name is always what a search of them finds
  induction raw generalizing ordinals columns with
  | nil =>
    cases numbered
    exact numbers name
  | cons entry rest ih =>
    obtain ⟨first, typeName⟩ := entry
    rw [numberInOrder] at numbered
    split at numbered
    · exact ih numbers numbered
    · rename_i unnumbered
      obtain ⟨type, _, numbered⟩ := ok_of_bind numbered
      have new : (Schema.mk shown columns includesTime).ordinal? first = none := by
        rw [← numbers]
        exact Option.not_isSome_iff_eq_none.mp unnumbered
      refine ih (fun other => ?_) numbered
      rw [lookup_cons_eq, numbers, ordinal?_append new type]

theorem lookup_startOrdinals (shown : List String) (includesTime : Bool) (name : String) :
    (startOrdinals includesTime).lookup name = (Schema.mk shown [] includesTime).ordinal? name := by
  cases includesTime with
  | false => rfl
  | true =>
    rw [startOrdinals, if_pos rfl, lookup_cons_eq, ordinal?, isTime]
    by_cases time : name = timeName <;> simp [time, slot?]

theorem lookup_of_numberPlaced {index : SlotIndex} {slots all : List (Option Column)}
    (numbered : numberPlaced index raw ordinals slots = .ok (last, all)) (name : String) :
    last.lookup name = (ordinals.lookup name).or
      (if name ∈ raw.map Prod.fst then (index.slot? name).map (· + 2) else none) := by
  induction raw generalizing ordinals slots with
  | nil =>
    cases numbered
    simp
  | cons entry rest ih =>
    obtain ⟨first, typeName⟩ := entry
    rw [numberPlaced] at numbered
    split at numbered
    · rename_i known
      rw [ih numbered, List.map_cons]
      by_cases same : name = first
      · obtain ⟨ordinal, held⟩ := Option.isSome_iff_exists.mp known
        rw [same, held, Option.some_or, Option.some_or]
      · simp only [List.mem_cons, same, false_or]
    · rename_i unknown
      split at numbered
      · cases numbered
      · rename_i slot given
        split at numbered
        · cases numbered
        · obtain ⟨type, _, numbered⟩ := ok_of_bind numbered
          rw [ih numbered, lookup_cons_eq, List.map_cons]
          by_cases same : name = first
          · rw [same, Option.not_isSome_iff_eq_none.mp unknown, given]
            simp
          · simp only [List.mem_cons, same, false_or, if_false]

/-- Numbering the names changes nothing in what they are resolved to. -/
theorem resolveNumbered_eq (names types : List String) (index : Option SlotIndex) (includesTime : Bool) :
    (resolveNumbered names types index includesTime).map Prod.fst = resolve names types index includesTime := by
  rw [resolveNumbered, resolve]
  split
  · rfl
  · cases index with
    | none =>
      have same : inOrder (names.zip types) (seenAtStart includesTime) =
          (numberInOrder (names.zip types) (startOrdinals includesTime) []).map Prod.snd := by
        rw [numberInOrder_eq (knows_start includesTime)]
        cases inOrder (names.zip types) (seenAtStart includesTime) <;> rfl
      dsimp only
      rw [same]
      rcases numberInOrder (names.zip types) (startOrdinals includesTime) [] with e | ⟨ordinals, columns⟩ <;> rfl
    | some index =>
      have numbered := @numberPlaced_eq (names.zip types) _ _ index (knows_start includesTime)
        (List.replicate index.size none)
      dsimp only
      rw [← numbered]
      rcases numberPlaced index (names.zip types) (startOrdinals includesTime) (List.replicate index.size none) with
        e | ⟨ordinals, slots⟩
      · rfl
      · simp only [Except.map, bind, Except.bind]
        cases filled 0 slots <;> rfl

end Schema

end SeriesCursor
