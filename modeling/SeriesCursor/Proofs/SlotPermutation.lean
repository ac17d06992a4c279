import Mathlib.Data.List.FinRange
import SeriesCursor.Proofs.InBounds

/-!
Slots in another order. A permutation of the slots moves the entries of a list that has one for each slot;
by it the slots that an index gives are moved, and the buffers of a page. With its slots moved, an index
resolves the same names to the same columns in moved slots, and a page that fits still fits.
-/

namespace SeriesCursor

section

variable {α β : Type} {n : Nat} (p : Equiv.Perm (Fin n))

/-- The list in which the entry of each slot has moved to the slot that the permutation gives. A list that
does not have an entry for each slot is left alone. -/
def permute (entries : List α) : List α :=
  if fits : entries.length = n then List.ofFn fun slot => entries.get ((p.symm slot).cast fits.symm)
  else entries

variable {p}

theorem permute_of_misfit {entries : List α} (misfit : entries.length ≠ n) : permute p entries = entries :=
  dif_neg misfit

@[simp] theorem length_permute (entries : List α) : (permute p entries).length = entries.length := by
  unfold permute
  split
  · rename_i fits
    rw [List.length_ofFn, fits]
  · rfl

theorem getElem?_permute {entries : List α} (fits : entries.length = n) (slot : Fin n) :
    (permute p entries)[(p slot).val]? = entries[slot.val]? := by
  rw [permute, dif_pos fits, List.getElem?_ofFn, dif_pos (p slot).isLt]
  simp [fits]

theorem permute_eq {entries moved : List α} (fits : entries.length = n) (alsoFits : moved.length = n)
    (same : ∀ slot : Fin n, moved[(p slot).val]? = entries[slot.val]?) : permute p entries = moved := by
  apply List.ext_getElem?
  intro slot
  by_cases inside : slot < n
  · have back := same (p.symm ⟨slot, inside⟩)
    have here := getElem?_permute (p := p) fits (p.symm ⟨slot, inside⟩)
    rw [Equiv.apply_symm_apply] at back here
    rw [here, back]
  · rw [List.getElem?_eq_none (by simp [fits]; omega), List.getElem?_eq_none (by omega)]

@[simp] theorem permute_symm (entries : List α) : permute p.symm (permute p entries) = entries := by
  by_cases fits : entries.length = n
  · apply permute_eq (by simp [fits]) fits
    intro slot
    have there := getElem?_permute (p := p) fits (p.symm slot)
    rw [Equiv.apply_symm_apply] at there
    exact there.symm
  · rw [permute_of_misfit (by simpa using fits), permute_of_misfit fits]

@[simp] theorem permute_permute_symm (entries : List α) : permute p (permute p.symm entries) = entries :=
  permute_symm (p := p.symm) entries

theorem permute_perm (entries : List α) : (permute p entries).Perm entries := by
  by_cases fits : entries.length = n
  · subst fits
    rw [permute, dif_pos rfl]
    have moved := Equiv.Perm.ofFn_comp_perm p.symm entries.get
    rwa [List.ofFn_get] at moved
  · rw [permute_of_misfit fits]

theorem mem_permute {entry : α} {entries : List α} : entry ∈ permute p entries ↔ entry ∈ entries :=
  (permute_perm entries).mem_iff

theorem map_permute (f : α → β) (entries : List α) : (permute p entries).map f = permute p (entries.map f) := by
  by_cases fits : entries.length = n
  · refine (permute_eq (by simpa using fits) (by simpa using fits) fun slot => ?_).symm
    rw [List.getElem?_map, List.getElem?_map, getElem?_permute fits]
  · rw [permute_of_misfit fits, permute_of_misfit (by simpa using fits)]

theorem zipWith_permute {γ : Type} (f : α → β → γ) {entries : List α} {others : List β}
    (fits : entries.length = n) (alsoFits : others.length = n) :
    (permute p entries).zipWith f (permute p others) = permute p (entries.zipWith f others) := by
  refine (permute_eq (by simp [fits, alsoFits]) (by simp [fits, alsoFits]) fun slot => ?_).symm
  rw [List.getElem?_zipWith, List.getElem?_zipWith, getElem?_permute fits, getElem?_permute alsoFits]

theorem zip_permute {entries : List α} {others : List β} (fits : entries.length = n)
    (alsoFits : others.length = n) : (permute p entries).zip (permute p others) = permute p (entries.zip others) :=
  zipWith_permute Prod.mk fits alsoFits

theorem permute_replicate (entry : α) (count : Nat) :
    permute p (List.replicate count entry) = List.replicate count entry :=
  List.eq_replicate_iff.mpr ⟨by simp, fun other known => List.eq_of_mem_replicate (mem_permute.mp known)⟩

theorem set_permute {entries : List α} (fits : entries.length = n) (slot : Fin n) (entry : α) :
    (permute p entries).set (p slot) entry = permute p (entries.set slot entry) := by
  refine (permute_eq (by simpa using fits) (by simpa using fits) fun other => ?_).symm
  simp only [List.getElem?_set, length_permute, getElem?_permute fits, Fin.val_inj, Equiv.apply_eq_iff_eq]
  simp [fits]

end

def moveSlot {n : Nat} (p : Equiv.Perm (Fin n)) (slot : Nat) : Nat :=
  if inside : slot < n then p ⟨slot, inside⟩ else slot

theorem moveSlot_val {n : Nat} (p : Equiv.Perm (Fin n)) (slot : Fin n) : moveSlot p slot = p slot :=
  dif_pos slot.isLt

namespace SlotIndex

def permute {n : Nat} (p : Equiv.Perm (Fin n)) (index : SlotIndex) : SlotIndex where
  entries := index.entries.map fun entry => (entry.1, moveSlot p entry.2)
  distinct := by
    rw [List.map_map]
    exact index.distinct

variable {n : Nat} (p : Equiv.Perm (Fin n)) (index : SlotIndex)

@[simp] theorem size_permute : (index.permute p).size = index.size :=
  List.length_map _

theorem slot?_permute (name : String) : (index.permute p).slot? name = (index.slot? name).map (moveSlot p) := by
  simp only [slot?, permute]
  induction index.entries with
  | nil => rfl
  | cons entry rest ih =>
    rw [List.map_cons, List.lookup_cons, List.lookup_cons, ih]
    cases name == entry.1 <;> rfl

end SlotIndex

namespace Schema

variable {n : Nat} {p : Equiv.Perm (Fin n)}

def permute (p : Equiv.Perm (Fin n)) (schema : Schema) : Schema :=
  { schema with columns := SeriesCursor.permute p schema.columns }

@[simp] theorem slotCount_permute (schema : Schema) : (schema.permute p).slotCount = schema.slotCount :=
  length_permute schema.columns

theorem place_permute {index : SlotIndex} {raw : List (String × String)} {seen : List String}
    {slots placed : List (Option Column)} (fits : slots.length = n)
    (places : place index raw seen slots = .ok placed) :
    place (index.permute p) raw seen (SeriesCursor.permute p slots) = .ok (SeriesCursor.permute p placed) := by
  induction raw generalizing seen slots with
  | nil =>
    cases places
    rfl
  | cons column rest ih =>
    rw [place] at places ⊢
    split at places
    · rename_i known
      rw [if_pos known]
      exact ih fits places
    · rename_i unknown
      rw [if_neg unknown, SlotIndex.slot?_permute]
      split at places
      · cases places
      · rename_i slot given
        split at places
        · cases places
        · rename_i inside
          obtain ⟨type, parsed, places⟩ := ok_of_bind places
          have moved := moveSlot_val p ⟨slot, by omega⟩
          have stays := (p ⟨slot, by omega⟩).isLt
          rw [given, Option.map_some]
          simp only at moved ⊢
          rw [moved, length_permute, if_neg (by omega), parsed]
          change place _ rest _ ((SeriesCursor.permute p slots).set _ _) = _
          rw [set_permute fits]
          exact ih (by simpa using fits) places

theorem filled_eq_ok_iff {slot : Nat} {slots : List (Option Column)} {columns : List Column} :
    filled slot slots = .ok columns ↔ slots = columns.map some := by
  constructor
  · intro whole
    induction slots generalizing slot columns with
    | nil =>
      cases whole
      rfl
    | cons held rest ih =>
      cases held with
      | none => cases whole
      | some column =>
        obtain ⟨later, others, ⟨⟩⟩ := ok_of_bind whole
        exact congrArg (some column :: ·) (ih others)
  · rintro rfl
    induction columns generalizing slot with
    | nil => rfl
    | cons column rest ih =>
      rw [List.map_cons, filled, ih]
      rfl

theorem resolve_eq_ok_iff {names types : List String} {index : SlotIndex} {includesTime : Bool} {schema : Schema} :
    resolve names types (some index) includesTime = .ok schema ↔
      names.length = types.length ∧
        schema = ⟨if includesTime then timeName :: names else names, schema.columns, includesTime⟩ ∧
          place index (names.zip types) (seenAtStart includesTime) (List.replicate index.size none) =
            .ok (schema.columns.map some) := by
  constructor
  · intro resolved
    unfold resolve at resolved
    split at resolved
    · cases resolved
    · rename_i sameLengths
      obtain ⟨slots, places, resolved⟩ := ok_of_bind resolved
      obtain ⟨columns, whole, ⟨⟩⟩ := ok_of_bind resolved
      exact ⟨Decidable.not_not.mp sameLengths, rfl, filled_eq_ok_iff.mp whole ▸ places⟩
  · rintro ⟨sameLengths, shown, places⟩
    have whole : filled 0 (schema.columns.map some) = .ok schema.columns := filled_eq_ok_iff.mpr rfl
    rw [resolve, if_neg (not_not.mpr sameLengths)]
    simp only [places]
    change filled 0 (schema.columns.map some) >>= _ = _
    rw [whole, shown]
    rfl

theorem resolve_permute {names types : List String} {index : SlotIndex} {includesTime : Bool} {schema : Schema}
    (resolved : resolve names types (some index) includesTime = .ok schema) (p : Equiv.Perm (Fin index.size)) :
    resolve names types (some (index.permute p)) includesTime = .ok (schema.permute p) := by
  obtain ⟨sameLengths, shown, places⟩ := resolve_eq_ok_iff.mp resolved
  have moved := place_permute (p := p) List.length_replicate places
  rw [permute_replicate, ← map_permute] at moved
  refine resolve_eq_ok_iff.mpr ⟨sameLengths, ?_, by rw [SlotIndex.size_permute]; exact moved⟩
  rw [shown]
  rfl

structure Placed (slots : List (Option Column)) (seen : List String) : Prop where
  seen : ∀ (slot : Nat) (column : Column), slots[slot]? = some (some column) → column.name ∈ seen
  distinct : ∀ (slot other : Nat) (column later : Column), slots[slot]? = some (some column) →
    slots[other]? = some (some later) → column.name = later.name → slot = other

theorem Placed.set {slots : List (Option Column)} {seen : List String} (placed : Placed slots seen)
    {column : Column} (new : column.name ∉ seen) (slot : Nat) :
    Placed (slots.set slot (some column)) (column.name :: seen) := by
  have cases_of : ∀ {held known}, (slots.set slot (some column))[held]? = some (some known) →
      held = slot ∧ known = column ∨ held ≠ slot ∧ slots[held]? = some (some known) := by
    intro held known found
    rw [List.getElem?_set] at found
    split at found
    · rename_i same
      split at found
      · cases found
        exact .inl ⟨same.symm, rfl⟩
      · cases found
    · rename_i apart
      exact .inr ⟨fun same => apart same.symm, found⟩
  constructor
  · intro held known found
    rcases cases_of found with ⟨_, rfl⟩ | ⟨_, before⟩
    · exact List.mem_cons_self
    · exact List.mem_cons_of_mem _ (placed.seen held known before)
  · intro held other known later found alsoFound named
    rcases cases_of found with ⟨rfl, rfl⟩ | ⟨_, before⟩
    · rcases cases_of alsoFound with ⟨rfl, _⟩ | ⟨_, alsoBefore⟩
      · rfl
      · exact absurd (named ▸ placed.seen other later alsoBefore) new
    · rcases cases_of alsoFound with ⟨_, rfl⟩ | ⟨_, alsoBefore⟩
      · exact absurd (named ▸ placed.seen held known before) new
      · exact placed.distinct held other known later before alsoBefore named

theorem placed_place {index : SlotIndex} {raw : List (String × String)} {seen : List String}
    {slots after : List (Option Column)} (placed : Placed slots seen)
    (places : place index raw seen slots = .ok after) : ∃ known, Placed after known := by
  induction raw generalizing seen slots with
  | nil =>
    cases places
    exact ⟨seen, placed⟩
  | cons column rest ih =>
    rw [place] at places
    split at places
    · exact ih placed places
    · rename_i new
      split at places
      · cases places
      · split at places
        · cases places
        · obtain ⟨type, _, places⟩ := ok_of_bind places
          have next := @Placed.set slots seen placed ⟨column.1, type⟩ new
          exact ih (next _) places

def Distinct (schema : Schema) : Prop :=
  ∀ (slot other : Nat) (column later : Column), schema.columns[slot]? = some column →
    schema.columns[other]? = some later → column.name = later.name → slot = other

theorem distinct_of_resolve {names types : List String} {index : SlotIndex} {includesTime : Bool}
    {schema : Schema} (resolved : resolve names types (some index) includesTime = .ok schema) :
    schema.Distinct ∧ schema.slotCount = index.size := by
  obtain ⟨_, _, places⟩ := resolve_eq_ok_iff.mp resolved
  have none : Placed (List.replicate index.size none) (seenAtStart includesTime) := by
    constructor
    · intro slot column held
      simp [List.getElem?_replicate] at held
    · intro slot other column later held
      simp [List.getElem?_replicate] at held
  obtain ⟨known, placed⟩ := placed_place none places
  constructor
  · intro slot other column later held alsoHeld
    apply placed.distinct slot other column later
    · simp [held]
    · simp [alsoHeld]
  · have length := length_place places
    rwa [List.length_map, List.length_replicate] at length

end Schema

def Page.permute {n : Nat} (p : Equiv.Perm (Fin n)) (page : Page) : Page :=
  { page with
    bitmaps := SeriesCursor.permute p page.bitmaps
    values := SeriesCursor.permute p page.values }

namespace PageReader

def permute {n : Nat} (p : Equiv.Perm (Fin n)) (reader : PageReader) : PageReader :=
  { reader with lanes := SeriesCursor.permute p reader.lanes }

/-- Two pages with the same times, and as long as a row is left with the same lanes in moved slots. Without
a row the lanes are never read, and there may be any number of them. -/
structure Twin {n : Nat} (p : Equiv.Perm (Fin n)) (reader other : PageReader) : Prop where
  time : other.time = reader.time
  moved : reader.hasRow = true → other = reader.permute p

theorem Twin.hasRow {n : Nat} {p : Equiv.Perm (Fin n)} {reader other : PageReader} (twin : Twin p reader other) :
    other.hasRow = reader.hasRow := by
  rw [PageReader.hasRow, PageReader.hasRow, twin.time]

theorem start_permute {n : Nat} (p : Equiv.Perm (Fin n)) (page : Page) :
    (∃ reader other, start page n = .ok reader ∧ start (page.permute p) n = .ok other ∧ Twin p reader other) ∨
      ∃ e, start page n = .error e ∧ start (page.permute p) n = .error e := by
  unfold start Page.permute
  simp only [length_permute]
  split
  · exact .inr ⟨_, rfl, rfl⟩
  · split
    · exact .inr ⟨_, rfl, rfl⟩
    · rename_i fits
      refine .inl ⟨_, _, rfl, rfl, rfl, ?_⟩
      intro row
      have some : page.time ≠ [] := (hasRow_eq_true_iff _).mp row
      simp only [not_and_or, not_or, not_not, some, false_or] at fits
      rw [PageReader.permute, ← zipWith_permute Lane.mk fits.1 fits.2]

end PageReader

end SeriesCursor
