import SeriesCursor.Proofs.SlotPermutation

/-!
Slots in the order of first appearance. They are given out in that order when no index is there; the index
that gives every name its rank in that order leads to the same columns, and to the same error where there
is one.

Without an index the columns are appended to a list that grows; with one they are put into slots that are
there from the start. At every point the slots are the columns found so far, with empty slots behind them
for the names that are still to come.
-/

namespace SeriesCursor

theorem lookup_eq_none_iff_unlisted {α : Type} {entries : List (String × α)} {name : String} :
    entries.lookup name = none ↔ name ∉ entries.map Prod.fst := by
  rw [List.lookup_eq_none_iff, List.mem_map]
  constructor
  · rintro absent ⟨entry, member, rfl⟩
    simpa using absent entry member
  · intro absent entry member
    simpa using fun same => absent ⟨entry, member, Eq.symm same⟩

namespace SlotIndex

variable {index : SlotIndex} {name : String} {slot : Nat}

theorem slot?_eq_some_iff : index.slot? name = some slot ↔ (name, slot) ∈ index.entries := by
  rw [slot?, List.lookup_eq_some_iff]
  constructor
  · rintro ⟨before, after, split, _⟩
    simp [split]
  · intro member
    obtain ⟨before, after, split⟩ := List.append_of_mem member
    refine ⟨before, after, split, fun entry earlier => ?_⟩
    have distinct := index.distinct
    rw [split, List.map_append, List.map_cons, List.nodup_append] at distinct
    have apart := distinct.2.2 entry.1 (List.mem_map_of_mem earlier) name List.mem_cons_self
    simpa using fun same => apart same.symm

theorem entries_insert (new : index.slot? name = none) (slot : Nat) :
    (index.insert name slot).entries = (name, slot) :: index.entries := by
  have kept : (index.entries.filter fun entry => entry.1 != name) = index.entries := by
    refine List.filter_eq_self.mpr fun entry member => bne_iff_ne.mpr fun same => ?_
    exact lookup_eq_none_iff_unlisted.mp new (same ▸ List.mem_map_of_mem member)
  simp only [insert, kept]

theorem entries_ofList {entries : List (String × Nat)} (distinct : (entries.map Prod.fst).Nodup) :
    (ofList entries).entries = entries.reverse := by
  suffices onto : ∀ index : SlotIndex, (∀ name ∈ entries.map Prod.fst, index.slot? name = none) →
      (entries.foldl (fun index entry => index.insert entry.1 entry.2) index).entries =
        entries.reverse ++ index.entries by
    have whole := onto empty fun _ _ => rfl
    rwa [show empty.entries = [] from rfl, List.append_nil] at whole
  induction entries with
  | nil => simp
  | cons entry rest ih =>
    intro index new
    obtain ⟨unlike, distinct⟩ := List.nodup_cons.mp distinct
    obtain ⟨newFirst, newRest⟩ := List.forall_mem_cons.mp new
    rw [List.foldl_cons, ih distinct, entries_insert newFirst, List.reverse_cons, List.append_assoc]
    · rfl
    · intro name member
      have apart : name ≠ entry.1 := fun same => unlike (same ▸ member)
      rw [slot?_insert, if_neg apart, newRest name member]

theorem slot?_ofList_zipIdx {names : List String} (distinct : names.Nodup) :
    (ofList names.zipIdx).slot? name = some slot ↔ names[slot]? = some name := by
  rw [slot?_eq_some_iff, entries_ofList (by simpa using distinct), List.mem_reverse,
    List.mem_zipIdx_iff_getElem?]

theorem size_ofList_zipIdx {names : List String} (distinct : names.Nodup) :
    (ofList names.zipIdx).size = names.length := by
  rw [size, entries_ofList (by simpa using distinct), List.length_reverse, List.length_zipIdx]

end SlotIndex

namespace Schema

theorem distinctNames_eq_eraseDups (names seen : List String) :
    distinctNames names seen = (names.filter fun name => name ∉ seen).eraseDups := by
  induction names generalizing seen with
  | nil => rfl
  | cons name rest ih =>
    by_cases known : name ∈ seen
    · simp [distinctNames, known, ih]
    · have others : (rest.filter fun other => other ∉ name :: seen) =
          (rest.filter fun other => other ∉ seen).filter fun other => !other == name := by
        rw [List.filter_filter]
        exact List.filter_congr fun other _ => by simp [Bool.beq_eq_decide_eq]
      rw [distinctNames, if_neg known, ih, others, List.filter_cons_of_pos (by simpa using known),
        List.eraseDups_cons]

theorem mem_distinctNames {names seen : List String} {name : String} :
    name ∈ distinctNames names seen ↔ name ∈ names ∧ name ∉ seen := by
  simp [distinctNames_eq_eraseDups]

theorem nodup_distinctNames (names seen : List String) : (distinctNames names seen).Nodup := by
  induction names generalizing seen with
  | nil => exact List.nodup_nil
  | cons name rest ih =>
    by_cases known : name ∈ seen
    · simpa [distinctNames, known] using ih seen
    · simpa [distinctNames, known, mem_distinctNames] using ih (name :: seen)

theorem names_inOrder {raw : List (String × String)} {seen : List String} {columns : List Column}
    (ordered : inOrder raw seen = .ok columns) :
    columns.map Column.name = distinctNames (raw.map Prod.fst) seen := by
  induction raw generalizing seen columns with
  | nil =>
    cases ordered
    rfl
  | cons entry rest ih =>
    rw [inOrder] at ordered
    rw [List.map_cons, distinctNames]
    split at ordered
    · rename_i known
      rw [if_pos known, ih ordered]
    · rename_i new
      obtain ⟨type, _, ordered⟩ := ok_of_bind ordered
      obtain ⟨later, others, ⟨⟩⟩ := ok_of_bind ordered
      rw [if_neg new, List.map_cons, ih others]

/-- An index that gives the names to come the slots behind those that are filled fills these in turn, as if
the columns were appended; and it stops at a type where appending them stops. -/
theorem place_eq_inOrder {index : SlotIndex} {raw : List (String × String)} {seen : List String}
    (filled : List Column)
    (ranked : ∀ rank name, (distinctNames (raw.map Prod.fst) seen)[rank]? = some name →
      index.slot? name = some (filled.length + rank)) :
    place index raw seen
        (filled.map some ++ List.replicate (distinctNames (raw.map Prod.fst) seen).length none) =
      (inOrder raw seen).map fun later => (filled ++ later).map some := by
  induction raw generalizing seen filled with
  | nil => simp [place, inOrder, distinctNames, Except.map]
  | cons entry rest ih =>
    obtain ⟨name, typeName⟩ := entry
    rw [List.map_cons, distinctNames] at ranked ⊢
    rw [place, inOrder]
    by_cases known : name ∈ seen
    · rw [if_pos known] at ranked ⊢
      rw [if_pos known, if_pos known, ih filled ranked]
    · rw [if_neg known] at ranked ⊢
      have given : index.slot? name = some filled.length := ranked 0 name rfl
      rw [if_neg known, if_neg known, given]
      dsimp only
      rw [if_neg (by simp)]
      cases DataType.parse typeName with
      | error e => rfl
      | ok type =>
        -- the name goes behind the filled slots, and so every later rank is one less
        have next := @ih (name :: seen) (filled ++ [⟨name, type⟩]) (by
          intro rank later held
          rw [List.length_append, List.length_singleton, Nat.add_assoc, Nat.add_comm 1]
          exact ranked (rank + 1) later held)
        have put (later : Nat) : (filled.map some ++ List.replicate (later + 1) none).set filled.length
              (some (Column.mk name type)) =
            (filled ++ [Column.mk name type]).map some ++ List.replicate later none := by
          simp [List.replicate_succ]
        change place index rest (name :: seen) _ = (inOrder rest (name :: seen) >>= _).map _
        rw [List.length_cons, put, next]
        cases inOrder rest (name :: seen) with
        | error e => rfl
        | ok later => simp [bind, Except.bind, Except.map]

/-- The index that gives every distinct name its rank in the order of first appearance, the name of the time
column left out where times are included, resolves a list of columns as no index does: to the same schema, or
to the same error. -/
theorem resolve_firstSeenIndex (names types : List String) (includesTime : Bool) :
    (∀ name rank, (firstSeenIndex names includesTime).slot? name = some rank ↔
      (names.filter fun name => name ∉ seenAtStart includesTime).eraseDups[rank]? = some name) ∧
    resolve names types (some (firstSeenIndex names includesTime)) includesTime =
      resolve names types none includesTime := by
  have distinct := nodup_distinctNames names (seenAtStart includesTime)
  have ranks : ∀ name rank, (firstSeenIndex names includesTime).slot? name = some rank ↔
      (distinctNames names (seenAtStart includesTime))[rank]? = some name :=
    fun name rank => SlotIndex.slot?_ofList_zipIdx distinct
  refine ⟨by rwa [distinctNames_eq_eraseDups] at ranks, ?_⟩
  rw [resolve, resolve]
  split
  · rfl
  · rename_i sameLengths
    have shown : (names.zip types).map Prod.fst = names :=
      List.map_fst_zip (Nat.le_of_eq (Decidable.not_not.mp sameLengths))
    have placed := @place_eq_inOrder (firstSeenIndex names includesTime) (names.zip types)
      (seenAtStart includesTime) [] (by
        intro rank name held
        rw [List.length_nil, Nat.zero_add, ranks]
        rwa [shown] at held)
    have size : (firstSeenIndex names includesTime).size = _ := SlotIndex.size_ofList_zipIdx distinct
    rw [shown, List.map_nil, List.nil_append, ← size] at placed
    simp only [placed]
    cases inOrder (names.zip types) (seenAtStart includesTime) with
    | error e => rfl
    | ok columns =>
      have whole : filled 0 (columns.map some) = .ok columns := filled_eq_ok_iff.mpr rfl
      simp [Except.map, whole, bind, Except.bind]

end Schema

end SeriesCursor
