import SeriesCursor.Proofs.Precedence

/-!
When an ordinal may be used as a position. Ordinals count slots from two, positions count the names that are shown
from one, and nothing keeps a caller from mixing them. With times shown the two agree on every name exactly if the
list starts with all the names that get a slot, each once; without times, on a list without repeats, the ordinal of
a name is the position of the next one.
-/

namespace SeriesCursor

namespace ResultSet

variable {set : ResultSet}

theorem read_position_of_nameAt {index : Nat} {name : String}
    (shown : set.schema.nameAt index = .ok name) (reading : Reading) :
    set.read reading (.position index) = set.read reading (.name name) := by
  cases readable : set.current with
  | ok row => exact read_of_nameAt readable shown reading
  | error e => rw [read_of_unreadable readable, read_of_unreadable readable]

theorem read_position_of_outside {index : Nat} (outside : set.schema.displayCount < index)
    (reading : Reading) : ∃ e, set.read reading (.position index) = .error e := by
  cases readable : set.current with
  | ok row =>
    obtain ⟨rfl, _⟩ := current_eq_ok readable
    exact ⟨_, read_of_outside readable (.inr outside)⟩
  | error e => exact ⟨e, read_of_unreadable readable reading _⟩

end ResultSet

namespace Schema

/-- The name that is shown where the ordinal of a name, taken for a position, points. -/
def nameAtOrdinal (schema : Schema) (name : String) : Except Error String := do
  schema.nameAt (← schema.findColumn name)

section

variable {schema : Schema} {name : String}

theorem findColumn_of_slot {slot : Fin schema.slotCount} (found : schema.resolveName name = .ok (.slot slot)) :
    schema.findColumn name = .ok (slot.val + 2) := by
  rw [findColumn, ordinal?_eq_resolveName, found]

theorem findColumn_of_time (found : schema.resolveName name = .ok .time) : schema.findColumn name = .ok 1 := by
  rw [findColumn, ordinal?_eq_resolveName, found]

theorem nameAtOrdinal_of_findColumn {ordinal : Nat} (found : schema.findColumn name = .ok ordinal) :
    schema.nameAtOrdinal name = schema.nameAt ordinal := by
  rw [nameAtOrdinal, found]
  rfl

theorem nameAtOrdinal_eq_self_iff {slot : Fin schema.slotCount}
    (found : schema.resolveName name = .ok (.slot slot)) :
    schema.nameAtOrdinal name = .ok name ↔ schema.displayNames[slot.val + 1]? = some name := by
  rw [nameAtOrdinal_of_findColumn (findColumn_of_slot found), nameAt_eq_ok_iff]
  simp

end

section

variable {names seen : List String}

theorem distinctNames_append_of_new {front : List String} (distinct : front.Nodup)
    (new : ∀ name ∈ front, name ∉ seen) (rest : List String) :
    distinctNames (front ++ rest) seen = front ++ distinctNames rest (front.reverse ++ seen) := by
  induction front generalizing seen with
  | nil => rfl
  | cons name front ih =>
    obtain ⟨apart, distinct⟩ := List.nodup_cons.mp distinct
    obtain ⟨newHere, newLater⟩ := List.forall_mem_cons.mp new
    have others := @ih (name :: seen) distinct fun other member =>
      List.not_mem_cons_of_ne_of_not_mem (fun same => apart (same ▸ member)) (newLater other member)
    rw [List.cons_append, distinctNames, if_neg newHere, others]
    simp

theorem distinctNames_eq_take (distinct : (names.take (distinctNames names seen).length).Nodup)
    (new : ∀ name ∈ names.take (distinctNames names seen).length, name ∉ seen) :
    distinctNames names seen = names.take (distinctNames names seen).length := by
  have few : (distinctNames names seen).length ≤ names.length :=
    ((nodup_distinctNames names seen).subperm fun _ member => (mem_distinctNames.mp member).1).length_le
  generalize count : (distinctNames names seen).length = slots at distinct new few ⊢
  have split := distinctNames_append_of_new distinct new (names.drop slots)
  rw [List.take_append_drop] at split
  have none : distinctNames (names.drop slots) ((names.take slots).reverse ++ seen) = [] := by
    rw [split, List.length_append, List.length_take_of_le few] at count
    exact List.length_eq_zero_iff.mp (by omega)
  rw [split, none, List.append_nil]

theorem ranks_are_places_iff :
    (∀ (rank : Nat) (name : String), (distinctNames names seen)[rank]? = some name → names[rank]? = some name) ↔
      (names.take (distinctNames names seen).length).Nodup ∧
        ∀ name ∈ names.take (distinctNames names seen).length, name ∉ seen := by
  constructor
  · intro placed
    have front : names.take (distinctNames names seen).length = distinctNames names seen := by
      apply List.ext_getElem?
      intro rank
      rw [List.getElem?_take]
      split
      · rename_i inside
        rw [List.getElem?_eq_getElem inside]
        exact placed rank _ (List.getElem?_eq_getElem inside)
      · rename_i outside
        exact (List.getElem?_eq_none (Nat.le_of_not_lt outside)).symm
    rw [front]
    exact ⟨nodup_distinctNames names seen, fun name member => (mem_distinctNames.mp member).2⟩
  · rintro ⟨distinct, new⟩ rank name ranked
    rw [distinctNames_eq_take distinct new, List.getElem?_take] at ranked
    split at ranked
    · exact ranked
    · cases ranked

theorem distinctNames_of_nodup (distinct : names.Nodup) : distinctNames names [] = names := by
  have whole := @distinctNames_append_of_new [] names distinct (fun _ _ => List.not_mem_nil) []
  rwa [List.append_nil, distinctNames, List.append_nil] at whole

end

/-- The ordinal of a name, taken for a position, leads to the name that follows, or past the end of the list. -/
structure LeadsPast (names : List String) (schema : Schema) (position : Nat) (name : String) : Prop where
  ordinal : schema.findColumn name = .ok (position + 2)
  elsewhere : schema.nameAt (position + 2) ≠ .ok name
  following : ∀ next, names[position + 1]? = some next →
    next ≠ name ∧ schema.nameAt (position + 2) = .ok next ∧
      ∀ set : ResultSet, set.schema = schema → ∀ reading,
        set.read reading (.position (position + 2)) = set.read reading (.name next)
  last : names[position + 1]? = none →
    schema.nameAt (position + 2) = .error (.indexOutOfRange (position + 2) names.length) ∧
      ∀ set : ResultSet, set.schema = schema → ∀ reading,
        ∃ e, set.read reading (.position (position + 2)) = .error e

section

variable {names types : List String} {schema : Schema}

theorem Sound.nameAtOrdinal_of_rank (sound : schema.Sound) {rank : Nat} {name : String}
    (ranked : (schema.columns.map Column.name)[rank]? = some name) :
    schema.findColumn name = .ok (rank + 2) ∧
      (schema.nameAtOrdinal name = .ok name ↔ schema.displayNames[rank + 1]? = some name) := by
  rw [List.getElem?_map] at ranked
  obtain ⟨column, held, rfl⟩ := Option.map_eq_some_iff.mp ranked
  obtain ⟨inside, found⟩ := sound.resolveName_of_held held
  exact ⟨findColumn_of_slot found, nameAtOrdinal_eq_self_iff found⟩

theorem ordinals_are_positions_iff (resolved : resolve names types none true = .ok schema) :
    (∀ name, (∃ found, schema.resolveName name = .ok found) → schema.nameAtOrdinal name = .ok name) ↔
      (names.take schema.slotCount).Nodup ∧ timeName ∉ names.take schema.slotCount := by
  have sound := sound_of_resolve resolved
  have ranks := names_of_no_index resolved
  obtain ⟨included, shown⟩ := shown_of_resolve resolved
  have slots : schema.slotCount = (distinctNames names (seenAtStart true)).length := by
    rw [← ranks, List.length_map]
  -- the name of the time column is the one that counts as seen
  have noTime : timeName ∉ names.take schema.slotCount ↔
      ∀ name ∈ names.take schema.slotCount, name ∉ seenAtStart true := by
    simp only [seenAtStart, if_true, List.mem_singleton]
    exact ⟨fun absent name member same => absent (same ▸ member), fun unlike member => unlike _ member rfl⟩
  have front : (names.take schema.slotCount).Nodup ∧ timeName ∉ names.take schema.slotCount ↔
      ∀ (rank : Nat) (name : String),
        (schema.columns.map Column.name)[rank]? = some name → names[rank]? = some name := by
    rw [noTime, slots, ranks, ranks_are_places_iff]
  rw [front]
  constructor
  · intro agree rank name ranked
    obtain ⟨found, here⟩ := sound.nameAtOrdinal_of_rank ranked
    have known : name ∈ schema.displayNames := (sound.shown name).mpr (.inr (List.mem_of_getElem? ranked))
    have placed := here.mp (agree name (sound.exists_resolveName_iff.mpr known))
    rwa [shown, if_pos rfl, List.getElem?_cons_succ] at placed
  · intro placed name known
    rcases (sound.shown name).mp (sound.exists_resolveName_iff.mp known) with ⟨_, rfl⟩ | stored
    · rw [nameAtOrdinal_of_findColumn (findColumn_of_time (resolveName_time included)), nameAt_eq_ok_iff, shown]
      exact ⟨Nat.one_pos, rfl⟩
    · obtain ⟨rank, ranked⟩ := List.mem_iff_getElem?.mp stored
      rw [(sound.nameAtOrdinal_of_rank ranked).2, shown, if_pos rfl, List.getElem?_cons_succ]
      exact placed rank name ranked

theorem leadsPast_of_nodup (resolved : resolve names types none false = .ok schema) (distinct : names.Nodup)
    {position : Nat} {name : String} (placed : names[position]? = some name) :
    LeadsPast names schema position name := by
  have ranks := names_of_no_index resolved
  rw [seenAtStart, if_neg Bool.false_ne_true, distinctNames_of_nodup distinct] at ranks
  obtain ⟨ordinal, here⟩ := (sound_of_resolve resolved).nameAtOrdinal_of_rank (ranks.symm ▸ placed)
  have shown : schema.displayNames = names := (shown_of_resolve resolved).2
  -- the name that follows is another one, as none is repeated
  have apart : names[position + 1]? ≠ some name := by
    intro again
    have inside := (List.getElem?_eq_some_iff.mp placed).1
    exact Nat.succ_ne_self position ((List.getElem?_inj inside distinct).mp (placed.trans again.symm)).symm
  refine ⟨ordinal, ?_, ?_, ?_⟩
  · rwa [← nameAtOrdinal_of_findColumn ordinal, ne_eq, here, shown]
  · intro next follows
    have there : schema.nameAt (position + 2) = .ok next := by
      rw [nameAt_eq_ok_iff, shown]
      exact ⟨Nat.succ_pos _, follows⟩
    refine ⟨?_, there, ?_⟩
    · rintro rfl
      exact apart follows
    · rintro set rfl reading
      exact ResultSet.read_position_of_nameAt there reading
  · intro ends
    have outside : schema.displayCount < position + 2 := by
      rw [displayCount, shown]
      exact Nat.lt_succ_of_le (List.getElem?_eq_none_iff.mp ends)
    refine ⟨?_, ?_⟩
    · rw [nameAt_eq_error_iff, displayCount, shown]
      exact ⟨.inr (by rwa [displayCount, shown] at outside), rfl⟩
    · rintro set rfl reading
      exact ResultSet.read_position_of_outside outside reading

end

/-- An ordinal may be used as a position of its name exactly if the name is shown one place after its slot; and
what that means for a list without an index, with times and without. -/
theorem ordinal_as_position {names types : List String} {index : Option SlotIndex} {includesTime : Bool}
    {schema : Schema} (resolved : resolve names types index includesTime = .ok schema) :
    (∀ name slot, schema.resolveName name = .ok (.slot slot) →
      (schema.nameAtOrdinal name = .ok name ↔ schema.displayNames[slot.val + 1]? = some name)) ∧
    (index = none → includesTime = true →
      ((∀ name, (∃ found, schema.resolveName name = .ok found) → schema.nameAtOrdinal name = .ok name) ↔
        (names.take schema.slotCount).Nodup ∧ timeName ∉ names.take schema.slotCount)) ∧
    (index = none → includesTime = false → names.Nodup →
      ∀ position name, names[position]? = some name → LeadsPast names schema position name) := by
  refine ⟨fun name slot found => nameAtOrdinal_eq_self_iff found, ?_, ?_⟩
  · rintro rfl rfl
    exact ordinals_are_positions_iff resolved
  · rintro rfl rfl distinct position name placed
    exact leadsPast_of_nodup resolved distinct placed

theorem ordinal_as_position_of_repeated_name :
    (∃ schema slot, resolve ["s1", "s1", "s2"] ["INT32", "?", "TEXT"] none true = .ok schema ∧
      schema.resolveName "s2" = .ok (.slot slot) ∧
      (schema.nameAtOrdinal "s2" = .ok "s2" ↔ schema.displayNames[slot.val + 1]? = some "s2") ∧
      schema.nameAtOrdinal "s2" = .ok "s1" ∧
      ¬ ∀ name, (∃ found, schema.resolveName name = .ok found) → schema.nameAtOrdinal name = .ok name) ∧
    ∃ schema, resolve ["s1", "s2"] ["INT32", "TEXT"] none false = .ok schema ∧ ["s1", "s2"].Nodup ∧
      LeadsPast ["s1", "s2"] schema 0 "s1" ∧ LeadsPast ["s1", "s2"] schema 1 "s2" := by
  constructor
  · have repeated := @ordinal_as_position ["s1", "s1", "s2"] ["INT32", "?", "TEXT"] none true _ rfl
    refine ⟨_, ⟨1, by decide⟩, rfl, rfl, repeated.1 _ _ rfl, rfl, fun agree => ?_⟩
    exact absurd ((repeated.2.1 rfl rfl).mp agree).1 (by decide)
  · have distinct : ["s1", "s2"].Nodup := by decide
    have past := (@ordinal_as_position ["s1", "s2"] ["INT32", "TEXT"] none false _ rfl).2.2 rfl rfl distinct
    exact ⟨_, rfl, distinct, past 0 "s1" rfl, past 1 "s2" rfl⟩

end Schema

end SeriesCursor
