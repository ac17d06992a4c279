/-!
An explicit choice of slots: each name has at most one, and a later choice for a name replaces the
earlier one.
-/

namespace SeriesCursor

structure SlotIndex where
  entries : List (String × Nat)
  distinct : (entries.map Prod.fst).Nodup
  deriving DecidableEq, Repr

namespace SlotIndex

def empty : SlotIndex :=
  ⟨[], List.nodup_nil⟩

def size (index : SlotIndex) : Nat :=
  index.entries.length

def slot? (index : SlotIndex) (name : String) : Option Nat :=
  index.entries.lookup name

def insert (index : SlotIndex) (name : String) (slot : Nat) : SlotIndex where
  entries := (name, slot) :: index.entries.filter fun entry => entry.1 != name
  distinct := by
    rw [List.map_cons, List.nodup_cons]
    constructor
    · intro member
      obtain ⟨entry, kept, same⟩ := List.mem_map.mp member
      simp [same] at kept
    · exact List.Nodup.sublist (List.filter_sublist.map Prod.fst) index.distinct

def ofList (entries : List (String × Nat)) : SlotIndex :=
  entries.foldl (fun index entry => index.insert entry.1 entry.2) empty

theorem lookup_filter_ne {name other : String} (apart : other ≠ name) (entries : List (String × Nat)) :
    (entries.filter fun entry => entry.1 != name).lookup other = entries.lookup other := by
  induction entries with
  | nil => rfl
  | cons entry rest ih =>
    obtain ⟨key, slot⟩ := entry
    by_cases named : key = name
    · have differs : (other == key) = false := by simp [named, apart]
      rw [List.filter_cons_of_neg (by simp [named]), ih, List.lookup_cons, differs]
    · rw [List.filter_cons_of_pos (by simp [named]), List.lookup_cons, List.lookup_cons, ih]

theorem slot?_insert (index : SlotIndex) (name other : String) (slot : Nat) :
    (index.insert name slot).slot? other = if other = name then some slot else index.slot? other := by
  by_cases same : other = name
  · simp [slot?, insert, same]
  · have differs : (other == name) = false := by simp [same]
    simp [slot?, insert, List.lookup_cons, same, differs, lookup_filter_ne same]

end SlotIndex

end SeriesCursor
