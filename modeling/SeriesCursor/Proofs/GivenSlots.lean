import Mathlib.Data.Finset.Card
import Mathlib.Data.Set.Function
import SeriesCursor.Proofs.FirstAppearance

/-!
Which index a list of columns can be resolved with. It has to give every name a slot of its own, with no slot
and no name left over, and the first type of every name has to be known.

That no two names share a slot is never checked: the second would take the slot over from the first. But an
index has as many slots as names, all of its slots have to hold a column in the end, and each column that
they hold has a name of its own; so there is no name left for a slot to be taken over by.
-/

namespace SeriesCursor

namespace Schema

def dataNames (names : List String) (includesTime : Bool) : Finset String :=
  names.toFinset.filter fun name => name ∉ seenAtStart includesTime

def firstType? (names types : List String) (name : String) : Option DataType :=
  ((names.zip types).lookup name).bind DataType.ofName?

/-- The index gives the names that get a slot the slots from zero on, one to each, and gives none to any other
name; and the first type of each of them is known. -/
structure Suits (index : SlotIndex) (names types : List String) (includesTime : Bool) : Prop where
  sameLengths : names.length = types.length
  keys : ∀ name, (index.slot? name).isSome ↔ name ∈ dataNames names includesTime
  bijective : Set.BijOn index.slot? (dataNames names includesTime) (some '' Set.Iio (dataNames names includesTime).card)
  typed : ∀ name ∈ dataNames names includesTime, (firstType? names types name).isSome

inductive Misgives (index : SlotIndex) (names : List String) (includesTime : Bool) : Prop where
  | shared (name other : String) (slot : Nat) (apart : name ≠ other) (given : index.slot? name = some slot)
      (also : index.slot? other = some slot)
  | unused (key : String) (slot : Nat) (given : index.slot? key = some slot) (unlisted : key ∉ names)
  | time (slot : Nat) (included : includesTime = true) (given : index.slot? timeName = some slot)
  | outOfRange (key : String) (slot : Nat) (given : index.slot? key = some slot) (beyond : index.size ≤ slot)

variable {index : SlotIndex} {raw : List (String × String)} {seen : List String}

theorem parse_eq_ok_iff {typeName : String} {type : DataType} :
    DataType.parse typeName = .ok type ↔ DataType.ofName? typeName = some type := by
  unfold DataType.parse
  cases DataType.ofName? typeName <;> simp

theorem lookup_cons_of_ne {α : Type} {name other : String} {value : α} {entries : List (String × α)}
    (apart : other ≠ name) : ((name, value) :: entries).lookup other = entries.lookup other := by
  simp [List.lookup_cons, beq_eq_false_iff_ne.mpr apart]

def Provides (index : SlotIndex) (slots : Nat) (name typeName : String) : Prop :=
  ∃ slot type, index.slot? name = some slot ∧ slot < slots ∧ DataType.parse typeName = .ok type

theorem provides_of_place {before after : List (Option Column)} (placed : place index raw seen before = .ok after)
    {name typeName : String} (new : name ∉ seen) (first : raw.lookup name = some typeName) :
    Provides index before.length name typeName := by
  induction raw generalizing seen before with
  | nil => cases first
  | cons entry rest ih =>
    obtain ⟨here, hereType⟩ := entry
    rw [place] at placed
    split at placed
    · rename_i known
      have apart : name ≠ here := fun same => new (same ▸ known)
      exact ih placed new (lookup_cons_of_ne apart ▸ first)
    · split at placed
      · cases placed
      · rename_i slot given
        split at placed
        · cases placed
        · rename_i inside
          obtain ⟨type, parsed, placed⟩ := ok_of_bind placed
          by_cases same : name = here
          · subst same
            rw [List.lookup_cons_self] at first
            cases first
            exact ⟨slot, type, given, Nat.lt_of_not_le inside, parsed⟩
          · obtain ⟨other, otherType, provided⟩ :=
              ih placed (List.not_mem_cons_of_ne_of_not_mem same new) (lookup_cons_of_ne same ▸ first)
            rw [List.length_set] at provided
            exact ⟨other, otherType, provided⟩

theorem origin_of_place {before after : List (Option Column)} (placed : place index raw seen before = .ok after)
    {slot : Nat} {column : Column} (held : after[slot]? = some (some column)) :
    before[slot]? = some (some column) ∨ index.slot? column.name = some slot ∧ column.name ∉ seen ∧
      ∃ typeName, raw.lookup column.name = some typeName ∧ DataType.parse typeName = .ok column.type := by
  induction raw generalizing seen before with
  | nil =>
    cases placed
    exact .inl held
  | cons entry rest ih =>
    obtain ⟨here, hereType⟩ := entry
    rw [place] at placed
    split at placed
    · rename_i known
      rcases ih placed with earlier | ⟨given, new, first⟩
      · exact .inl earlier
      · have apart : column.name ≠ here := fun same => new (same ▸ known)
        exact .inr ⟨given, new, by rwa [lookup_cons_of_ne apart]⟩
    · rename_i new
      split at placed
      · cases placed
      · rename_i given
        split at placed
        · cases placed
        · obtain ⟨type, parsed, placed⟩ := ok_of_bind placed
          rcases ih placed with earlier | ⟨given, later, first⟩
          -- either this entry has put the column there, or the slot held it before
          · rw [List.getElem?_set] at earlier
            split at earlier
            · rename_i same
              split at earlier
              · cases earlier
                exact .inr ⟨same ▸ given, new, hereType, List.lookup_cons_self, parsed⟩
              · cases earlier
            · exact .inl earlier
          · obtain ⟨apart, unseen⟩ := List.ne_and_not_mem_of_not_mem_cons later
            exact .inr ⟨given, unseen, by rwa [lookup_cons_of_ne apart]⟩

theorem place_of_provides {before : List (Option Column)}
    (provided : ∀ name typeName, name ∉ seen → raw.lookup name = some typeName →
      Provides index before.length name typeName) :
    ∃ after, place index raw seen before = .ok after ∧
      ∀ slot, ((∃ column, before[slot]? = some (some column)) ∨
          ∃ name typeName, name ∉ seen ∧ raw.lookup name = some typeName ∧ index.slot? name = some slot) →
        ∃ column, after[slot]? = some (some column) := by
  induction raw generalizing seen before with
  | nil =>
    refine ⟨before, rfl, fun slot filled => ?_⟩
    rcases filled with earlier | ⟨name, typeName, _, ⟨⟩, _⟩
    exact earlier
  | cons entry rest ih =>
    obtain ⟨here, hereType⟩ := entry
    rw [place]
    by_cases known : here ∈ seen
    · have unlike : ∀ name, name ∉ seen → name ≠ here := fun name new same => new (same ▸ known)
      obtain ⟨after, placed, filled⟩ := @ih seen before fun name typeName new first =>
        provided name typeName new (by rwa [lookup_cons_of_ne (unlike name new)])
      refine ⟨after, by rw [if_pos known, placed], fun slot held => filled slot ?_⟩
      rcases held with earlier | ⟨name, typeName, new, first, given⟩
      · exact .inl earlier
      · exact .inr ⟨name, typeName, new, lookup_cons_of_ne (unlike name new) ▸ first, given⟩
    · obtain ⟨slot, type, given, inside, parsed⟩ := provided here hereType known List.lookup_cons_self
      obtain ⟨after, placed, filled⟩ := @ih (here :: seen) (before.set slot (some ⟨here, type⟩)) (by
        intro name typeName new first
        obtain ⟨apart, unseen⟩ := List.ne_and_not_mem_of_not_mem_cons new
        rw [List.length_set]
        exact provided name typeName unseen (by rwa [lookup_cons_of_ne apart]))
      refine ⟨after, ?_, fun other held => filled other ?_⟩
      · rw [if_neg known, given]
        dsimp only
        rw [if_neg (Nat.not_le.mpr inside), parsed]
        exact placed
      -- this entry fills its own slot, and leaves every other one as it was
      · by_cases same : slot = other
        · subst same
          exact .inl ⟨⟨here, type⟩, by simp [inside]⟩
        · rcases held with ⟨column, earlier⟩ | ⟨name, typeName, new, first, sent⟩
          · exact .inl ⟨column, by rwa [List.getElem?_set_ne same]⟩
          · have apart : name ≠ here := by
              rintro rfl
              exact same (Option.some.inj (given.symm.trans sent))
            have unseen := List.not_mem_cons_of_ne_of_not_mem apart new
            exact .inr ⟨name, typeName, unseen, lookup_cons_of_ne apart ▸ first, sent⟩

variable {names types : List String} {includesTime : Bool} {schema : Schema}

theorem mem_dataNames {name : String} :
    name ∈ dataNames names includesTime ↔ name ∈ names ∧ name ∉ seenAtStart includesTime := by
  simp [dataNames]

theorem mem_dataNames_iff_lookup (sameLengths : names.length = types.length) {name : String} :
    name ∈ dataNames names includesTime ↔
      name ∉ seenAtStart includesTime ∧ ∃ typeName, (names.zip types).lookup name = some typeName := by
  have shown : (names.zip types).map Prod.fst = names := List.map_fst_zip (Nat.le_of_eq sameLengths)
  rw [mem_dataNames, and_comm, ← Option.isSome_iff_exists, Option.isSome_iff_ne_none, ne_eq,
    lookup_eq_none_iff_unlisted, shown, not_not]

theorem firstType?_eq_some_iff {name : String} {type : DataType} :
    firstType? names types name = some type ↔
      ∃ typeName, (names.zip types).lookup name = some typeName ∧ DataType.parse typeName = .ok type := by
  simp only [firstType?, Option.bind_eq_some_iff, parse_eq_ok_iff]

/-- Slots and names answer each other in a schema: every column is in the slot of its name, and every slot that
the index gives holds the column of that name. -/
structure Answers (index : SlotIndex) (names types : List String) (includesTime : Bool) (schema : Schema) :
    Prop where
  column : ∀ (slot : Nat) (column : Column), schema.columns[slot]? = some column →
    index.slot? column.name = some slot ∧ column.name ∈ dataNames names includesTime ∧
      firstType? names types column.name = some column.type
  given : ∀ name ∈ dataNames names includesTime, ∃ slot, index.slot? name = some slot
  used : ∀ name slot, index.slot? name = some slot → ∃ type, schema.columns[slot]? = some ⟨name, type⟩
  slots : schema.slotCount = index.size

theorem nodup_of_slots {columns : List Column}
    (sent : ∀ (slot : Nat) (column : Column), columns[slot]? = some column → index.slot? column.name = some slot) :
    (columns.map Column.name).Nodup := by
  apply List.Nodup.of_map index.slot?
  have inOrder : (columns.map Column.name).map index.slot? = (List.range columns.length).map some := by
    apply List.ext_getElem
    · simp
    · intro slot inside _
      have known := List.getElem?_eq_getElem (show slot < columns.length by simpa using inside)
      simpa using sent slot _ known
  rw [inOrder]
  exact List.nodup_range.map fun _ _ => Option.some.inj

theorem answers_of_resolve (resolved : resolve names types (some index) includesTime = .ok schema) :
    Answers index names types includesTime schema := by
  obtain ⟨sameLengths, _, placed⟩ := resolve_eq_ok_iff.mp resolved
  have column : ∀ (slot : Nat) (column : Column), schema.columns[slot]? = some column →
      index.slot? column.name = some slot ∧ column.name ∈ dataNames names includesTime ∧
        firstType? names types column.name = some column.type := by
    intro slot column held
    have placedHere : (schema.columns.map some)[slot]? = some (some column) := by simp [held]
    rcases origin_of_place placed placedHere with empty | ⟨given, new, first⟩
    · simp [List.getElem?_replicate] at empty
    · obtain ⟨typeName, first, parsed⟩ := first
      exact ⟨given, (mem_dataNames_iff_lookup sameLengths).mpr ⟨new, typeName, first⟩,
        firstType?_eq_some_iff.mpr ⟨typeName, first, parsed⟩⟩
  have slots : schema.slotCount = index.size := (distinct_of_resolve resolved).2
  have distinct := nodup_of_slots fun slot held known => (column slot held known).1
  -- as many names as keys, each of them a key and no two alike: the names are all the keys
  have all : (schema.columns.map Column.name).Perm (index.entries.map Prod.fst) := by
    refine (distinct.subperm fun name member => ?_).perm_of_length_le ?_
    · obtain ⟨held, stored, rfl⟩ := List.mem_map.mp member
      obtain ⟨slot, known⟩ := List.mem_iff_getElem?.mp stored
      exact List.mem_map_of_mem (SlotIndex.slot?_eq_some_iff.mp (column slot held known).1)
    · rw [List.length_map, List.length_map]
      exact slots.ge
  refine ⟨column, ?_, ?_, slots⟩
  · intro name member
    obtain ⟨new, typeName, first⟩ := (mem_dataNames_iff_lookup sameLengths).mp member
    obtain ⟨slot, _, given, _⟩ := provides_of_place placed new first
    exact ⟨slot, given⟩
  · intro name slot given
    have key : name ∈ index.entries.map Prod.fst :=
      List.mem_map_of_mem (SlotIndex.slot?_eq_some_iff.mp given)
    obtain ⟨held, stored, named⟩ := List.mem_map.mp (all.mem_iff.mpr key)
    obtain ⟨other, known⟩ := List.mem_iff_getElem?.mp stored
    have same := (column other held known).1
    rw [named, given, Option.some.injEq] at same
    exact ⟨held.type, by rw [same, known, ← named]⟩

theorem Answers.card (answers : Answers index names types includesTime schema) :
    (dataNames names includesTime).card = schema.slotCount := by
  have distinct := nodup_of_slots fun slot column held => (answers.column slot column held).1
  have same : (schema.columns.map Column.name).toFinset = dataNames names includesTime := by
    ext name
    rw [List.mem_toFinset, List.mem_map]
    constructor
    · rintro ⟨column, member, rfl⟩
      obtain ⟨slot, held⟩ := List.mem_iff_getElem?.mp member
      exact (answers.column slot column held).2.1
    · intro member
      obtain ⟨slot, given⟩ := answers.given name member
      obtain ⟨type, held⟩ := answers.used name slot given
      exact ⟨_, List.mem_of_getElem? held, rfl⟩
  rw [← same, List.toFinset_card_of_nodup distinct, List.length_map]

theorem Answers.suits (answers : Answers index names types includesTime schema)
    (sameLengths : names.length = types.length) : Suits index names types includesTime where
  sameLengths := sameLengths
  keys := by
    intro name
    constructor
    · intro key
      obtain ⟨slot, given⟩ := Option.isSome_iff_exists.mp key
      obtain ⟨type, held⟩ := answers.used name slot given
      exact (answers.column slot _ held).2.1
    · intro member
      obtain ⟨slot, given⟩ := answers.given name member
      rw [given, Option.isSome_some]
  bijective := by
    refine ⟨?_, ?_, ?_⟩
    · intro name member
      obtain ⟨slot, given⟩ := answers.given name member
      obtain ⟨type, held⟩ := answers.used name slot given
      refine ⟨slot, ?_, given.symm⟩
      rw [answers.card]
      exact (List.getElem?_eq_some_iff.mp held).1
    · intro name member other _ same
      obtain ⟨slot, given⟩ := answers.given name member
      obtain ⟨type, held⟩ := answers.used name slot given
      obtain ⟨otherType, alsoHeld⟩ := answers.used other slot (same ▸ given)
      rw [held, Option.some.injEq, Column.mk.injEq] at alsoHeld
      exact alsoHeld.1
    · rintro _ ⟨slot, inside, rfl⟩
      rw [Set.mem_Iio, answers.card] at inside
      have held := List.getElem?_eq_getElem inside
      exact ⟨_, (answers.column slot _ held).2.1, (answers.column slot _ held).1⟩
  typed := by
    intro name member
    obtain ⟨slot, given⟩ := answers.given name member
    obtain ⟨type, held⟩ := answers.used name slot given
    rw [(answers.column slot _ held).2.2, Option.isSome_some]

theorem Suits.size (suits : Suits index names types includesTime) :
    index.size = (dataNames names includesTime).card := by
  have same : (index.entries.map Prod.fst).toFinset = dataNames names includesTime := by
    ext name
    rw [← suits.keys, List.mem_toFinset, Option.isSome_iff_ne_none, ne_eq, SlotIndex.slot?,
      lookup_eq_none_iff_unlisted, not_not]
  rw [← same, List.toFinset_card_of_nodup index.distinct, List.length_map, SlotIndex.size]

theorem Suits.provides (suits : Suits index names types includesTime) {name typeName : String}
    (new : name ∉ seenAtStart includesTime) (first : (names.zip types).lookup name = some typeName) :
    Provides index index.size name typeName := by
  have member := (mem_dataNames_iff_lookup suits.sameLengths).mpr ⟨new, typeName, first⟩
  obtain ⟨slot, inside, given⟩ := suits.bijective.mapsTo member
  obtain ⟨type, typed⟩ := Option.isSome_iff_exists.mp (suits.typed name member)
  obtain ⟨otherName, again, parsed⟩ := firstType?_eq_some_iff.mp typed
  rw [first, Option.some.injEq] at again
  refine ⟨slot, type, given.symm, ?_, again ▸ parsed⟩
  rw [suits.size]
  exact inside

theorem exists_eq_map_some {slots : List (Option Column)} (full : ∀ held ∈ slots, held.isSome) :
    ∃ columns : List Column, slots = columns.map some := by
  induction slots with
  | nil => exact ⟨[], rfl⟩
  | cons held rest ih =>
    obtain ⟨first, others⟩ := List.forall_mem_cons.mp full
    obtain ⟨column, rfl⟩ := Option.isSome_iff_exists.mp first
    obtain ⟨columns, rfl⟩ := ih others
    exact ⟨column :: columns, rfl⟩

theorem resolve_of_suits (suits : Suits index names types includesTime) :
    ∃ schema, resolve names types (some index) includesTime = .ok schema := by
  have provided : ∀ name typeName, name ∉ seenAtStart includesTime →
      (names.zip types).lookup name = some typeName →
        Provides index (List.replicate index.size (none : Option Column)).length name typeName :=
    fun name typeName new first => by simpa using suits.provides new first
  obtain ⟨after, placed, filled⟩ := place_of_provides provided
  have whole : ∀ held ∈ after, held.isSome := by
    intro held member
    obtain ⟨slot, inside, rfl⟩ := List.mem_iff_getElem.mp member
    have small : slot < (dataNames names includesTime).card := by
      rwa [length_place placed, List.length_replicate, suits.size] at inside
    obtain ⟨name, member, given⟩ := suits.bijective.surjOn ⟨slot, small, rfl⟩
    obtain ⟨new, typeName, first⟩ := (mem_dataNames_iff_lookup suits.sameLengths).mp member
    obtain ⟨column, held⟩ := filled slot (.inr ⟨name, typeName, new, first, given⟩)
    rw [List.getElem?_eq_getElem inside, Option.some.injEq] at held
    rw [held, Option.isSome_some]
  obtain ⟨columns, rfl⟩ := exists_eq_map_some whole
  exact ⟨⟨_, columns, includesTime⟩, resolve_eq_ok_iff.mpr ⟨suits.sameLengths, rfl, placed⟩⟩

theorem slot?_of_held (distinct : (schema.columns.map Column.name).Nodup) {slot : Nat} {column : Column}
    (held : schema.columns[slot]? = some column) :
    ∃ inside : slot < schema.slotCount, schema.slot? column.name = some ⟨slot, inside⟩ := by
  obtain ⟨inside, rfl⟩ := List.getElem?_eq_some_iff.mp held
  refine ⟨inside, List.findFinIdx?_eq_some_iff.mpr ⟨by simp, fun other earlier => ?_⟩⟩
  have apart := List.pairwise_iff_getElem.mp distinct other slot (by simp) (by simpa using inside) earlier
  simpa using apart

/-- A list of columns is resolved with an index exactly if the index suits the list. Each name then has the
ordinal and the column of the slot that the index gives it, with the type at its first occurrence; and an
index that gives a slot twice, or to a name that gets none, or that gives a slot that is not there, is
refused. -/
theorem resolve_iff_suits (names types : List String) (index : SlotIndex) (includesTime : Bool) :
    ((∃ schema, resolve names types (some index) includesTime = .ok schema) ↔
      Suits index names types includesTime) ∧
    (∀ schema, resolve names types (some index) includesTime = .ok schema →
      schema.slotCount = (dataNames names includesTime).card ∧
      ∀ name ∈ dataNames names includesTime, ∃ slot type, index.slot? name = some slot ∧
        firstType? names types name = some type ∧ schema.ordinal? name = some (slot + 2) ∧
        schema.columns[slot]? = some ⟨name, type⟩) ∧
    (Misgives index names includesTime →
      ∃ e, resolve names types (some index) includesTime = .error e) := by
  have accepted : ∀ schema, resolve names types (some index) includesTime = .ok schema →
      Suits index names types includesTime := fun schema resolved =>
    (answers_of_resolve resolved).suits (resolve_eq_ok_iff.mp resolved).1
  refine ⟨⟨fun ⟨schema, resolved⟩ => accepted schema resolved, resolve_of_suits⟩, ?_, ?_⟩
  · intro schema resolved
    have answers := answers_of_resolve resolved
    refine ⟨answers.card.symm, fun name member => ?_⟩
    obtain ⟨slot, given⟩ := answers.given name member
    obtain ⟨type, held⟩ := answers.used name slot given
    have distinct := nodup_of_slots fun slot column held => (answers.column slot column held).1
    obtain ⟨inside, found⟩ := slot?_of_held distinct held
    have data : schema.isTime name = false := by
      have new := (mem_dataNames.mp member).2
      rw [(resolve_eq_ok_iff.mp resolved).2.1]
      cases includesTime with
      | false => rfl
      | true => simpa [isTime, seenAtStart] using new
    refine ⟨slot, type, given, (answers.column slot _ held).2.2, ?_, held⟩
    rw [ordinal?, if_neg (by simp [data]), found, Option.map_some]
  · intro misgives
    cases resolved : resolve names types (some index) includesTime with
    | error e => exact ⟨e, rfl⟩
    | ok schema =>
      exfalso
      have suits := accepted schema resolved
      have member : ∀ {key slot}, index.slot? key = some slot → key ∈ dataNames names includesTime :=
        fun given => (suits.keys _).mp (by rw [given, Option.isSome_some])
      cases misgives with
      | shared name other slot apart given also =>
        exact apart (suits.bijective.injOn (member given) (member also) (given.trans also.symm))
      | unused key slot given unlisted => exact unlisted (mem_dataNames.mp (member given)).1
      | time slot included given =>
        have new := (mem_dataNames.mp (member given)).2
        simp [seenAtStart, included] at new
      | outOfRange key slot given beyond =>
        obtain ⟨inside, small, same⟩ := suits.bijective.mapsTo (member given)
        rw [given, Option.some.injEq] at same
        rw [Set.mem_Iio, ← suits.size, same] at small
        exact absurd small (Nat.not_lt.mpr beyond)

theorem resolve_iff_suits_of_repeated_name :
    (∃ schema, resolve ["s1", "Time", "s2", "s1"] ["INT32", "?", " text ", "?"]
        (some ⟨[("s1", 1), ("s2", 0)], by decide⟩) true = .ok schema ∧
      ∃ slot type, SlotIndex.slot? ⟨[("s1", 1), ("s2", 0)], by decide⟩ "s1" = some slot ∧
        firstType? ["s1", "Time", "s2", "s1"] ["INT32", "?", " text ", "?"] "s1" = some type ∧
        schema.ordinal? "s1" = some (slot + 2) ∧ schema.columns[slot]? = some ⟨"s1", type⟩) ∧
    Misgives ⟨[("s1", 0), ("s2", 0)], by decide⟩ ["s1", "s2"] true ∧
    ∃ e, resolve ["s1", "s2"] ["INT32", "TEXT"] (some ⟨[("s1", 0), ("s2", 0)], by decide⟩) true = .error e := by
  have misgives : Misgives ⟨[("s1", 0), ("s2", 0)], by decide⟩ ["s1", "s2"] true :=
    .shared "s1" "s2" 0 (by decide) rfl rfl
  refine ⟨⟨_, rfl, ?_⟩, misgives, (resolve_iff_suits _ _ _ _).2.2 misgives⟩
  exact ((resolve_iff_suits _ _ _ true).2.1 _ rfl).2 "s1" (by decide)

end Schema

end SeriesCursor
