import SeriesCursor.Error

/-!
The columns of one result set. What is shown is the server's list of names, repeats kept, with the time
column put in front where times are included; what is stored is one slot for each distinct name.

A column is found by name, or by its position on the list that is shown, counted from one. The ordinal
of a name is one for the time column and two more than the slot for any other.
-/

namespace SeriesCursor

def DataType.parse (name : String) : Except Error DataType :=
  match DataType.ofName? name with
  | some type => .ok type
  | none => .error (.unsupportedType name)

structure Column where
  name : String
  type : DataType
  deriving DecidableEq, Repr

structure Schema where
  displayNames : List String
  columns : List Column
  includesTime : Bool
  deriving DecidableEq, Repr

inductive ColumnRef (slots : Nat) where
  | time
  | slot (index : Fin slots)
  deriving DecidableEq, Repr

namespace Schema

def timeName : String := "Time"

abbrev slotCount (schema : Schema) : Nat :=
  schema.columns.length

def displayCount (schema : Schema) : Nat :=
  schema.displayNames.length

def isTime (schema : Schema) (name : String) : Bool :=
  schema.includesTime && name == timeName

def slot? (schema : Schema) (name : String) : Option (Fin schema.slotCount) :=
  schema.columns.findFinIdx? fun column => column.name == name

def ordinal? (schema : Schema) (name : String) : Option Nat :=
  if schema.isTime name then some 1 else (schema.slot? name).map fun slot => slot.val + 2

def resolveName (schema : Schema) (name : String) : Except Error (ColumnRef schema.slotCount) :=
  if schema.isTime name then .ok .time
  else match schema.slot? name with
    | some slot => .ok (.slot slot)
    | none => .error (.unknownColumn name)

def findColumn (schema : Schema) (name : String) : Except Error Nat :=
  match schema.ordinal? name with
  | some ordinal => .ok ordinal
  | none => .error (.unknownColumn name)

/-- The name shown at a position counted from one. -/
def nameAt (schema : Schema) (index : Nat) : Except Error String :=
  match index with
  | 0 => .error (.indexOutOfRange 0 schema.displayCount)
  | position + 1 =>
    match schema.displayNames[position]? with
    | some name => .ok name
    | none => .error (.indexOutOfRange index schema.displayCount)

section

variable {schema : Schema}

theorem nameAt_eq_ok_iff {position : Nat} {name : String} :
    schema.nameAt position = .ok name ↔ 0 < position ∧ schema.displayNames[position - 1]? = some name := by
  cases position with
  | zero => simp [nameAt]
  | succ before =>
    rw [nameAt, Nat.add_sub_cancel]
    cases schema.displayNames[before]? <;> simp

theorem nameAt_eq_error_iff {position : Nat} {e : Error} :
    schema.nameAt position = .error e ↔
      (position = 0 ∨ schema.displayCount < position) ∧ e = .indexOutOfRange position schema.displayCount := by
  cases position with
  | zero => simp [nameAt, eq_comm]
  | succ before =>
    rw [nameAt, displayCount]
    cases shown : schema.displayNames[before]? with
    | none =>
      have outside := List.getElem?_eq_none_iff.mp shown
      simp [Nat.lt_succ_of_le outside, eq_comm]
    | some name =>
      have inside := (List.getElem?_eq_some_iff.mp shown).1
      simp [Nat.not_lt.mpr (Nat.succ_le_of_lt inside)]

theorem exists_nameAt_iff {position : Nat} :
    (∃ name, schema.nameAt position = .ok name) ↔ 1 ≤ position ∧ position ≤ schema.displayCount := by
  cases outcome : schema.nameAt position with
  | error e =>
    obtain ⟨outside, _⟩ := nameAt_eq_error_iff.mp outcome
    constructor
    · rintro ⟨_, ⟨⟩⟩
    · omega
  | ok name =>
    obtain ⟨counted, shown⟩ := nameAt_eq_ok_iff.mp outcome
    have inside := (List.getElem?_eq_some_iff.mp shown).1
    refine ⟨fun _ => ?_, fun _ => ⟨name, rfl⟩⟩
    rw [displayCount]
    omega

theorem isTime_iff {name : String} : schema.isTime name = true ↔ schema.includesTime = true ∧ name = timeName := by
  simp [isTime]

theorem resolveName_eq_time_iff {name : String} :
    schema.resolveName name = .ok .time ↔ schema.includesTime = true ∧ name = timeName := by
  rw [← isTime_iff, resolveName]
  cases schema.isTime name with
  | true => simp
  | false => cases schema.slot? name <;> simp

theorem resolveName_time (included : schema.includesTime = true) :
    schema.resolveName timeName = .ok .time :=
  resolveName_eq_time_iff.mpr ⟨included, rfl⟩

theorem ordinal?_eq_resolveName {name : String} :
    schema.ordinal? name = match schema.resolveName name with
      | .ok .time => some 1
      | .ok (.slot slot) => some (slot.val + 2)
      | .error _ => none := by
  rw [ordinal?, resolveName]
  cases schema.isTime name with
  | true => rfl
  | false => cases schema.slot? name <;> rfl

end

end Schema

end SeriesCursor
