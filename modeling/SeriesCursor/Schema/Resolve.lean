import SeriesCursor.Schema.Basic
import SeriesCursor.Schema.SlotIndex

/-!
From the server's column list to a schema. Repeats of a name share the slot and the type of its first
occurrence. Without an explicit index, slots are given out in the order of first appearance; with one,
every name takes its slot from there, and every slot needs a name.

Where times are included, the name of the time column counts as seen from the start, so that a column
of that name gets no slot.
-/

namespace SeriesCursor

namespace Schema

def seenAtStart (includesTime : Bool) : List String :=
  if includesTime then [timeName] else []

/-- The columns of a list of names and type names, in the order of first appearance. -/
def inOrder : (raw : List (String × String)) → (seen : List String) → Except Error (List Column)
  | [], _ => .ok []
  | (name, typeName) :: rest, seen =>
    if name ∈ seen then inOrder rest seen
    else do
      let type ← DataType.parse typeName
      let later ← inOrder rest (name :: seen)
      .ok (⟨name, type⟩ :: later)

/-- Puts the columns of a list into the slots that an index gives them. -/
def place (index : SlotIndex) : (raw : List (String × String)) → (seen : List String) →
    (slots : List (Option Column)) → Except Error (List (Option Column))
  | [], _, slots => .ok slots
  | (name, typeName) :: rest, seen, slots =>
    if name ∈ seen then place index rest seen slots
    else match index.slot? name with
      | none => .error (.invalidSchema (.unassigned name))
      | some slot =>
        if slots.length ≤ slot then
          .error (.invalidSchema (.slotOutOfRange name slot slots.length))
        else do
          let type ← DataType.parse typeName
          place index rest (name :: seen) (slots.set slot (some ⟨name, type⟩))

def filled : (slot : Nat) → List (Option Column) → Except Error (List Column)
  | _, [] => .ok []
  | slot, none :: _ => .error (.invalidSchema (.emptySlot slot))
  | slot, some column :: rest => do
    let later ← filled (slot + 1) rest
    .ok (column :: later)

def resolve (names types : List String) (index : Option SlotIndex) (includesTime : Bool) :
    Except Error Schema :=
  if names.length ≠ types.length then
    .error (.invalidSchema (.unequalLists names.length types.length))
  else do
    let raw := names.zip types
    let seen := seenAtStart includesTime
    let columns ← match index with
      | none => inOrder raw seen
      | some index => do
        let slots ← place index raw seen (List.replicate index.size none)
        filled 0 slots
    .ok ⟨if includesTime then timeName :: names else names, columns, includesTime⟩

def distinctNames : (names seen : List String) → List String
  | [], _ => []
  | name :: rest, seen =>
    if name ∈ seen then distinctNames rest seen else name :: distinctNames rest (name :: seen)

def firstSeenIndex (names : List String) (includesTime : Bool) : SlotIndex :=
  SlotIndex.ofList (distinctNames names (seenAtStart includesTime)).zipIdx

end Schema

end SeriesCursor
