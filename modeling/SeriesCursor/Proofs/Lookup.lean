import SeriesCursor.Proofs.Ordinals

/-!
What a resolved schema knows of its names, whether or not an index was given: every name that is shown is the
time column or has one slot, and every slot has a name that is shown. Names, slots, ordinals and positions are
looked up by functions of their own, and these agree with each other and with the list that was resolved.
-/

namespace SeriesCursor

namespace Schema

/-- No two slots have one name; the names that are shown are those of the slots, and that of the time column
where times are included, which then is not the name of a slot. -/
structure Sound (schema : Schema) : Prop where
  distinct : (schema.columns.map Column.name).Nodup
  shown : ∀ name, name ∈ schema.displayNames ↔
    schema.includesTime = true ∧ name = timeName ∨ name ∈ schema.columns.map Column.name
  noTime : schema.includesTime = true → timeName ∉ schema.columns.map Column.name

variable {names types : List String} {index : Option SlotIndex} {includesTime : Bool} {schema : Schema}

theorem names_of_no_index (resolved : resolve names types none includesTime = .ok schema) :
    schema.columns.map Column.name = distinctNames names (seenAtStart includesTime) := by
  unfold resolve at resolved
  split at resolved
  · cases resolved
  · rename_i sameLengths
    obtain ⟨columns, ordered, ⟨⟩⟩ := ok_of_bind resolved
    rw [names_inOrder ordered, List.map_fst_zip (Nat.le_of_eq (Decidable.not_not.mp sameLengths))]

theorem stored_of_resolve (resolved : resolve names types index includesTime = .ok schema) :
    (schema.columns.map Column.name).Nodup ∧
      ∀ name, name ∈ schema.columns.map Column.name ↔ name ∈ names ∧ name ∉ seenAtStart includesTime := by
  cases index with
  | some given =>
    have answers := answers_of_resolve resolved
    refine ⟨nodup_of_slots fun slot column held => (answers.column slot column held).1, fun name => ?_⟩
    rw [← mem_dataNames, List.mem_map]
    constructor
    · rintro ⟨column, stored, rfl⟩
      obtain ⟨slot, held⟩ := List.mem_iff_getElem?.mp stored
      exact (answers.column slot column held).2.1
    · intro member
      obtain ⟨slot, sent⟩ := answers.given name member
      obtain ⟨type, held⟩ := answers.used name slot sent
      exact ⟨_, List.mem_of_getElem? held, rfl⟩
  | none =>
    rw [names_of_no_index resolved]
    exact ⟨nodup_distinctNames _ _, fun name => mem_distinctNames⟩

theorem shown_of_resolve (resolved : resolve names types index includesTime = .ok schema) :
    schema.includesTime = includesTime ∧
      schema.displayNames = if includesTime then timeName :: names else names := by
  cases index with
  | some given =>
    rw [(resolve_eq_ok_iff.mp resolved).2.1]
    exact ⟨rfl, rfl⟩
  | none =>
    unfold resolve at resolved
    split at resolved
    · cases resolved
    · obtain ⟨columns, _, ⟨⟩⟩ := ok_of_bind resolved
      exact ⟨rfl, rfl⟩

theorem sound_of_resolve (resolved : resolve names types index includesTime = .ok schema) : schema.Sound := by
  obtain ⟨distinct, stored⟩ := stored_of_resolve resolved
  obtain ⟨timed, shown⟩ := shown_of_resolve resolved
  refine ⟨distinct, fun name => ?_, fun included => ?_⟩
  · rw [shown, timed, stored]
    cases includesTime with
    | false => simp [seenAtStart]
    | true =>
      rw [if_pos rfl, List.mem_cons]
      by_cases time : name = timeName <;> simp [seenAtStart, time]
  · rw [stored, ← timed, included]
    simp [seenAtStart]

theorem Sound.isTime_of_stored (sound : schema.Sound) {name : String} (stored : name ∈ schema.columns.map Column.name) :
    schema.isTime name = false := by
  cases included : schema.includesTime with
  | false => simp [isTime, included]
  | true =>
    have apart : name ≠ timeName := fun same => sound.noTime included (same ▸ stored)
    simp [isTime, apart]

theorem Sound.resolveName_of_held (sound : schema.Sound) {slot : Nat} {column : Column}
    (held : schema.columns[slot]? = some column) :
    ∃ inside : slot < schema.slotCount, schema.resolveName column.name = .ok (.slot ⟨slot, inside⟩) := by
  have data := sound.isTime_of_stored (List.mem_map_of_mem (List.mem_of_getElem? held))
  obtain ⟨inside, found⟩ := slot?_of_held sound.distinct held
  exact ⟨inside, by simp [resolveName, data, found]⟩

theorem Sound.held_of_shown (sound : schema.Sound) {name : String} (shown : name ∈ schema.displayNames)
    (data : schema.isTime name = false) :
    ∃ (slot : Nat) (column : Column), schema.columns[slot]? = some column ∧ column.name = name := by
  rcases (sound.shown name).mp shown with ⟨included, time⟩ | stored
  · simp [isTime, included, time] at data
  · obtain ⟨column, member, named⟩ := List.mem_map.mp stored
    obtain ⟨slot, held⟩ := List.mem_iff_getElem?.mp member
    exact ⟨slot, column, held, named⟩

def slotName (schema : Schema) (slot : Fin schema.slotCount) : String :=
  (schema.columns.get slot).name

theorem Sound.resolveName_eq_slot_iff (sound : schema.Sound) {name : String} {slot : Fin schema.slotCount} :
    schema.resolveName name = .ok (.slot slot) ↔ schema.slotName slot = name := by
  constructor
  · intro resolved
    unfold resolveName at resolved
    split at resolved
    · cases resolved
    · split at resolved
      · rename_i found
        cases resolved
        simpa [slotName] using (List.findFinIdx?_eq_some_iff.mp found).1
      · cases resolved
  · rintro rfl
    exact (sound.resolveName_of_held (List.getElem?_eq_getElem slot.isLt)).2

theorem Sound.resolveName_eq_error_iff (sound : schema.Sound) {name : String} {e : Error} :
    schema.resolveName name = .error e ↔ name ∉ schema.displayNames ∧ e = .unknownColumn name := by
  cases time : schema.isTime name with
  | true =>
    have shown := (sound.shown name).mpr (.inl (isTime_iff.mp time))
    simp [resolveName, time, shown]
  | false =>
    by_cases shown : name ∈ schema.displayNames
    · obtain ⟨slot, column, held, rfl⟩ := sound.held_of_shown shown time
      obtain ⟨_, found⟩ := sound.resolveName_of_held held
      simp [found, shown]
    · cases found : schema.slot? name with
      | none => simp [resolveName, time, found, shown, eq_comm]
      | some slot =>
        have resolved : schema.resolveName name = .ok (.slot slot) := by simp [resolveName, time, found]
        have stored : schema.slotName slot ∈ schema.columns.map Column.name :=
          List.mem_map_of_mem (List.getElem_mem slot.isLt)
        rw [sound.resolveName_eq_slot_iff.mp resolved] at stored
        exact absurd ((sound.shown name).mpr (.inr stored)) shown

theorem Sound.exists_resolveName_iff (sound : schema.Sound) {name : String} :
    (∃ found, schema.resolveName name = .ok found) ↔ name ∈ schema.displayNames := by
  cases outcome : schema.resolveName name with
  | error e =>
    obtain ⟨unlisted, _⟩ := sound.resolveName_eq_error_iff.mp outcome
    simp [unlisted]
  | ok found =>
    refine ⟨fun _ => Decidable.byContradiction fun unlisted => ?_, fun _ => ⟨found, rfl⟩⟩
    rw [sound.resolveName_eq_error_iff.mpr ⟨unlisted, rfl⟩] at outcome
    cases outcome

theorem ordinal?_eq_one_iff {name : String} :
    schema.ordinal? name = some 1 ↔ schema.includesTime = true ∧ name = timeName := by
  rw [← resolveName_eq_time_iff, ordinal?_eq_resolveName]
  rcases schema.resolveName name with _ | _ | slot <;> simp

theorem Sound.ordinal?_eq_add_two_iff (sound : schema.Sound) {name : String} {slot : Nat} :
    schema.ordinal? name = some (slot + 2) ↔
      ∃ inside : slot < schema.slotCount, schema.slotName ⟨slot, inside⟩ = name := by
  simp only [← sound.resolveName_eq_slot_iff]
  rw [ordinal?_eq_resolveName]
  rcases schema.resolveName name with _ | _ | found
  · simp
  · simp
  · simp only [Option.some.injEq, Nat.add_right_cancel_iff, Except.ok.injEq, ColumnRef.slot.injEq, Fin.ext_iff]
    exact ⟨fun same => ⟨same ▸ found.isLt, same⟩, fun ⟨_, same⟩ => same⟩

theorem Sound.ordinal?_injective (sound : schema.Sound) {name other : String} {ordinal : Nat}
    (known : schema.ordinal? name = some ordinal) (also : schema.ordinal? other = some ordinal) : name = other := by
  have none : schema.ordinal? name ≠ some 0 := by
    rw [ordinal?_eq_resolveName]
    rcases schema.resolveName name with _ | _ | slot <;> simp
  match ordinal with
  | 0 => exact absurd known none
  | 1 => exact (ordinal?_eq_one_iff.mp known).2.trans (ordinal?_eq_one_iff.mp also).2.symm
  | slot + 2 =>
    obtain ⟨_, named⟩ := sound.ordinal?_eq_add_two_iff.mp known
    obtain ⟨_, alsoNamed⟩ := sound.ordinal?_eq_add_two_iff.mp also
    exact named.symm.trans alsoNamed

theorem ordinal?_of_given {given : SlotIndex} (resolved : resolve names types (some given) includesTime = .ok schema)
    (name : String) : schema.ordinal? name = ((startOrdinals includesTime).lookup name).or
      (if name ∈ names then (given.slot? name).map (· + 2) else none) := by
  have sound := sound_of_resolve resolved
  have answers := answers_of_resolve resolved
  obtain ⟨rfl, shown⟩ := shown_of_resolve resolved
  have starts := lookup_startOrdinals [] schema.includesTime name
  by_cases time : schema.includesTime = true ∧ name = timeName
  · have first : (startOrdinals schema.includesTime).lookup name = some 1 := starts.trans (ordinal?_eq_one_iff.mpr time)
    rw [ordinal?_eq_one_iff.mpr time, first, Option.some_or]
  · have data : schema.isTime name = false := Bool.eq_false_iff.mpr fun is => time (isTime_iff.mp is)
    have none : (startOrdinals schema.includesTime).lookup name = none := by
      rw [starts, ordinal?]
      exact if_neg fun is => time (isTime_iff.mp is)
    rw [none, Option.none_or, ordinal?_eq_resolveName]
    by_cases sent : name ∈ names
    · have member : name ∈ dataNames names schema.includesTime :=
        mem_dataNames.mpr ⟨sent, fun seen => time (by simpa [seenAtStart] using seen)⟩
      obtain ⟨slot, given⟩ := answers.given name member
      obtain ⟨type, held⟩ := answers.used name slot given
      obtain ⟨_, found⟩ := sound.resolveName_of_held held
      rw [found, if_pos sent, given]
      rfl
    · have unlisted : name ∉ schema.displayNames := by
        rw [shown]
        split <;> simp_all
      rw [sound.resolveName_eq_error_iff.mpr ⟨unlisted, rfl⟩, if_neg sent]

/-- The ordinals are those that are given out while the names are resolved. -/
theorem numbered_of_resolve (resolved : resolve names types index includesTime = .ok schema) :
    ∃ ordinals, resolveNumbered names types index includesTime = .ok (schema, ordinals) ∧
      ∀ name, ordinals.lookup name = schema.ordinal? name := by
  have same := (resolveNumbered_eq names types index includesTime).trans resolved
  obtain ⟨⟨schema, ordinals⟩, numbered, rfl⟩ := ok_of_map same
  refine ⟨ordinals, numbered, fun name => ?_⟩
  unfold resolveNumbered at numbered
  split at numbered
  · cases numbered
  · rename_i sameLengths
    cases index with
    | none =>
      obtain ⟨⟨last, all⟩, found, ⟨⟩⟩ := ok_of_bind numbered
      exact lookup_of_numberInOrder (lookup_startOrdinals _ includesTime) found name
    | some given =>
      have listed : (names.zip types).map Prod.fst = names :=
        List.map_fst_zip (Nat.le_of_eq (Decidable.not_not.mp sameLengths))
      have ordinal := ordinal?_of_given resolved name
      obtain ⟨⟨last, slots⟩, placed, rest⟩ := ok_of_bind numbered
      obtain ⟨columns, _, ⟨⟩⟩ := ok_of_bind rest
      rw [ordinal, lookup_of_numberPlaced placed, listed]

/-- The lookups of a schema agree with each other, and with the list of names that it was resolved from. -/
structure Lookups (names types : List String) (index : Option SlotIndex) (includesTime : Bool) (schema : Schema) :
    Prop where
  shown : schema.displayNames = if includesTime then timeName :: names else names
  position : ∀ position, (∃ name, schema.nameAt position = .ok name) ↔
    1 ≤ position ∧ position ≤ schema.displayCount
  resolves : ∀ position name, schema.nameAt position = .ok name →
    schema.displayNames[position - 1]? = some name ∧ ∃ found, schema.resolveName name = .ok found
  known : ∀ name, (∃ found, schema.resolveName name = .ok found) ↔ name ∈ schema.displayNames
  time : ∀ name, schema.resolveName name = .ok .time ↔ includesTime = true ∧ name = timeName
  slot : ∀ name slot, schema.resolveName name = .ok (.slot slot) ↔ schema.slotName slot = name
  bijective : Set.BijOn schema.slotName Set.univ (dataNames names includesTime)
  ordinalKnown : ∀ name, (∃ ordinal, schema.ordinal? name = some ordinal) ↔ name ∈ schema.displayNames
  ordinalTime : ∀ name, schema.ordinal? name = some 1 ↔ includesTime = true ∧ name = timeName
  ordinalSlot : ∀ name slot, schema.ordinal? name = some (slot + 2) ↔
    ∃ inside : slot < schema.slotCount, schema.slotName ⟨slot, inside⟩ = name
  ordinal : ∀ name other ordinal, schema.ordinal? name = some ordinal → schema.ordinal? other = some ordinal →
    name = other
  dataOrdinal : ∀ slot, schema.ordinal? (schema.slotName slot) ≠ some 1
  numbered : ∃ ordinals, resolveNumbered names types index includesTime = .ok (schema, ordinals) ∧
    ∀ name, ordinals.lookup name = schema.ordinal? name
  noTime : includesTime = true → ∀ slot, schema.slotName slot ≠ timeName
  slotCount : schema.slotCount = (dataNames names includesTime).card

theorem slotName_mem_iff {name : String} :
    name ∈ schema.columns.map Column.name ↔ ∃ slot, schema.slotName slot = name := by
  rw [List.mem_map]
  constructor
  · rintro ⟨column, stored, rfl⟩
    obtain ⟨slot, inside, rfl⟩ := List.mem_iff_getElem.mp stored
    exact ⟨⟨slot, inside⟩, rfl⟩
  · rintro ⟨slot, rfl⟩
    exact ⟨_, List.getElem_mem slot.isLt, rfl⟩

theorem Sound.bijOn_slotName (sound : schema.Sound) {data : Finset String}
    (listed : ∀ name, name ∈ data ↔ ∃ slot, schema.slotName slot = name) :
    Set.BijOn schema.slotName Set.univ data := by
  refine ⟨fun slot _ => (listed _).mpr ⟨slot, rfl⟩, ?injective, ?surjective⟩
  case injective =>
    -- a name resolves to one slot, and to that of which it is the name
    intro slot _ other _ same
    have found := sound.resolveName_eq_slot_iff.mpr same
    rw [sound.resolveName_eq_slot_iff.mpr rfl] at found
    cases found
    rfl
  case surjective =>
    intro name member
    obtain ⟨slot, named⟩ := (listed name).mp member
    exact ⟨slot, trivial, named⟩

/-- Whatever a schema was resolved from, its lookups agree. -/
theorem lookups_of_resolve (resolved : resolve names types index includesTime = .ok schema) :
    Lookups names types index includesTime schema := by
  have sound := sound_of_resolve resolved
  obtain ⟨distinct, stored⟩ := stored_of_resolve resolved
  obtain ⟨rfl, shown⟩ := shown_of_resolve resolved
  have listed : ∀ name, name ∈ dataNames names schema.includesTime ↔ ∃ slot, schema.slotName slot = name := by
    intro name
    rw [mem_dataNames, ← stored, slotName_mem_iff]
  have noTime : schema.includesTime = true → ∀ slot, schema.slotName slot ≠ timeName := fun included slot named =>
    sound.noTime included (slotName_mem_iff.mpr ⟨slot, named⟩)
  refine
    { shown := shown
      position := fun _ => exists_nameAt_iff
      resolves := ?resolves
      known := fun _ => sound.exists_resolveName_iff
      time := fun _ => resolveName_eq_time_iff
      slot := fun _ _ => sound.resolveName_eq_slot_iff
      bijective := sound.bijOn_slotName listed
      ordinalKnown := ?ordinalKnown
      ordinalTime := fun _ => ordinal?_eq_one_iff
      ordinalSlot := fun _ _ => sound.ordinal?_eq_add_two_iff
      ordinal := fun _ _ _ => sound.ordinal?_injective
      dataOrdinal := ?dataOrdinal
      numbered := numbered_of_resolve resolved
      noTime := noTime
      slotCount := ?slotCount }
  case resolves =>
    intro position name placed
    obtain ⟨_, here⟩ := nameAt_eq_ok_iff.mp placed
    exact ⟨here, sound.exists_resolveName_iff.mpr (List.mem_of_getElem? here)⟩
  case ordinalKnown =>
    intro name
    rw [← sound.exists_resolveName_iff, ordinal?_eq_resolveName]
    rcases schema.resolveName name with _ | _ | slot <;> simp
  case dataOrdinal =>
    intro slot first
    obtain ⟨included, named⟩ := ordinal?_eq_one_iff.mp first
    exact noTime included slot named
  case slotCount =>
    have same : (schema.columns.map Column.name).toFinset = dataNames names schema.includesTime := by
      ext name
      rw [List.mem_toFinset, stored, mem_dataNames]
    rw [← same, List.toFinset_card_of_nodup distinct, List.length_map]

theorem lookups_of_resolve_of_repeated_name :
    (∃ schema, resolve ["s1", "Time", "s2", "s1"] ["INT32", "?", "TEXT", "?"]
        (some ⟨[("s1", 1), ("s2", 0)], by decide⟩) true = .ok schema ∧
      schema.nameAt 3 = .ok "Time" ∧ schema.ordinal? "Time" = some 1 ∧ schema.ordinal? "s1" = some 3 ∧
      Lookups ["s1", "Time", "s2", "s1"] ["INT32", "?", "TEXT", "?"] (some ⟨[("s1", 1), ("s2", 0)], by decide⟩) true
        schema) ∧
    ∃ schema, resolve ["s1", "Time", "s1"] ["INT32", "TEXT", "?"] none false = .ok schema ∧
      schema.nameAt 4 = .error (.indexOutOfRange 4 3) ∧ schema.ordinal? "Time" = some 3 ∧
      Lookups ["s1", "Time", "s1"] ["INT32", "TEXT", "?"] none false schema :=
  ⟨⟨_, rfl, rfl, rfl, rfl, @lookups_of_resolve _ ["INT32", "?", "TEXT", "?"]
      (some ⟨[("s1", 1), ("s2", 0)], by decide⟩) _ _ rfl⟩,
    ⟨_, rfl, rfl, rfl, @lookups_of_resolve _ ["INT32", "TEXT", "?"] none _ _ rfl⟩⟩

end Schema

end SeriesCursor
