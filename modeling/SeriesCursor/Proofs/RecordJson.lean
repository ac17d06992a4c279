import Mathlib.Algebra.Group.Nat.Defs
import Mathlib.Data.List.Forall2
import SeriesCursor.Proofs.JsonRoundTrip

/-!
The JSON text of a record is read as one object: its time, if there is one, and then each field under its own name,
whatever the names and the texts are. Without floating-point values the text keeps the whole record, once it is known
which fields are of which kind and whether there is a time.
-/

namespace SeriesCursor

/-- Whether the bits of a format stand for a finite number: the greatest exponent is that of infinities and NaNs. -/
def BinaryFormat.isFinite (format : BinaryFormat) (bits : Nat) : Bool :=
  bits / 2 ^ format.fractionBits % 2 ^ format.exponentBits + 1 != 2 ^ format.exponentBits

namespace Value

def integer? : Value → Option Int
  | .int32 n => some n.toInt
  | .int64 n => some n.toInt
  | .timestamp millis => some millis.toInt
  | .bool _ | .float _ | .double _ | .text _ => none

def finite? : Value → Option Bool
  | .float bits => some (BinaryFormat.single.isFinite bits.toNat)
  | .double bits => some (BinaryFormat.double.isFinite bits.toNat)
  | .bool _ | .int32 _ | .int64 _ | .text _ | .timestamp _ => none

end Value

namespace Record

inductive Shown : Option Value → Json → Prop where
  | missing : Shown none .null
  | bool (b : Bool) : Shown (some (.bool b)) (.bool b)
  | integer {value : Value} {n : Int} {text : List Char} (whole : value.integer? = some n)
      (spells : Json.Spells text n) : Shown (some value) (.number text)
  | text (s : String) : Shown (some (.text s)) (.string s)
  | finite {value : Value} {text : List Char} (finite : value.finite? = some true) (isNumber : Json.IsNumber text) :
      Shown (some value) (.number text)
  | notFinite {value : Value} (special : value.finite? = some false) : Shown (some value) .null

inductive TimeShown : Option Int64 → List (String × Json) → Prop where
  | absent : TimeShown none []
  | present {millis : Int64} {text : List Char} (spells : Json.Spells text millis.toInt) :
      TimeShown (some millis) [(Schema.timeName, .number text)]

def FieldShown (field : String × Option Value) (member : String × Json) : Prop :=
  member.1 = field.1 ∧ Shown field.2 member.2

def OfOneKind (field other : Option Value) : Prop :=
  ∀ value ∈ field, ∀ otherValue ∈ other, value.type? = otherValue.type?

def FloatFree (field : Option Value) : Prop :=
  ∀ value ∈ field, value.finite? = none

section Fields

variable {field other : Option Value} {json : Json}

theorem shown_floatJson {value : Value} {format : BinaryFormat} {bits : Nat}
    (float : value.finite? = some (format.isFinite bits)) (layout : DecimalLayout) :
    Shown (some value) (Value.floatJson layout (.ofBits format bits)) := by
  by_cases full : bits / 2 ^ format.fractionBits % 2 ^ format.exponentBits + 1 = 2 ^ format.exponentBits
  · have written : Value.floatJson layout (.ofBits format bits) = .null := by
      simp only [BinaryNumber.ofBits, Nat.pow_eq, full, if_true]
      split <;> rfl
    have special : format.isFinite bits = false := by simp [BinaryFormat.isFinite, full]
    rw [written]
    exact .notFinite (float.trans (congrArg some special))
  · have written : ∃ negative size,
        Value.floatJson layout (.ofBits format bits) = .number (layout.write negative size) := by
      simp only [BinaryNumber.ofBits, Nat.pow_eq, full, if_false]
      split <;> exact ⟨_, _, rfl⟩
    obtain ⟨negative, size, written⟩ := written
    have finite : format.isFinite bits = true := bne_iff_ne.mpr full
    rw [written]
    exact .finite (float.trans (congrArg some finite)) (layout.isNumber_write negative size)

theorem shown_ofInt {value : Value} {n : Int} (whole : value.integer? = some n) : Shown (some value) (.ofInt n) := by
  obtain ⟨text, written, spells⟩ := Json.exists_ofInt n
  rw [written]
  exact .integer whole spells

theorem shown_fieldJson (field : Option Value) : Shown field (fieldJson field) := by
  cases field with
  | none => exact .missing
  | some value =>
    cases value with
    | bool b => exact .bool b
    | int32 n => exact shown_ofInt rfl
    | int64 n => exact shown_ofInt rfl
    | float bits => exact shown_floatJson rfl _
    | double bits => exact shown_floatJson rfl _
    | text s => exact .text s
    | timestamp millis => exact shown_ofInt rfl

theorem Shown.wellFormed (shown : Shown field json) : json.WellFormed := by
  cases shown with
  | missing | notFinite => exact .null
  | bool b => exact .bool b
  | text s => exact .string s
  | integer _ spells => exact .number spells.isNumber
  | finite _ isNumber => exact .number isNumber

theorem eq_of_integer? {value otherValue : Value} {n : Int} (whole : value.integer? = some n)
    (also : otherValue.integer? = some n) (kinds : value.type? = otherValue.type?) : value = otherValue := by
  cases value <;> cases whole <;> cases otherValue <;> cases kinds <;>
    simp only [Value.integer?, Option.some.injEq, Int32.toInt_inj, Int64.toInt_inj] at also <;> rw [also]

theorem Shown.unique (shown : Shown field json) (also : Shown other json) (floatFree : FloatFree field)
    (otherFloatFree : FloatFree other) (kinds : OfOneKind field other) : field = other := by
  cases shown with
  | missing =>
    cases also with
    | missing => rfl
    | notFinite special => cases special.symm.trans (otherFloatFree _ rfl)
  | bool b =>
    cases also
    rfl
  | text s =>
    cases also
    rfl
  | notFinite special => cases special.symm.trans (floatFree _ rfl)
  | finite finite => cases finite.symm.trans (floatFree _ rfl)
  | integer whole spells =>
    cases also with
    | integer alsoWhole alsoSpells =>
      rw [alsoSpells.injective spells] at alsoWhole
      rw [eq_of_integer? whole alsoWhole (kinds _ rfl _ rfl)]
    | finite finite => cases finite.symm.trans (otherFloatFree _ rfl)

end Fields

theorem TimeShown.wellFormed {timestamp : Option Int64} {members : List (String × Json)}
    (shown : TimeShown timestamp members) : ∀ member ∈ members, member.2.WellFormed := by
  intro member among
  cases shown with
  | absent => cases among
  | present spells =>
    rw [List.mem_singleton.mp among]
    exact .number spells.isNumber

theorem TimeShown.unique {timestamp otherTimestamp : Option Int64}
    {members otherMembers fields otherFields : List (String × Json)} (shown : TimeShown timestamp members)
    (also : TimeShown otherTimestamp otherMembers) (presence : timestamp.isSome = otherTimestamp.isSome)
    (same : members ++ fields = otherMembers ++ otherFields) : timestamp = otherTimestamp ∧ fields = otherFields := by
  cases shown with
  | absent =>
    cases also with
    | absent => exact ⟨rfl, same⟩
    | present => cases presence
  | @present millis text spells =>
    cases also with
    | absent => cases presence
    | present alsoSpells =>
      obtain ⟨first, rest⟩ := List.cons.inj same
      cases first
      exact ⟨congrArg some (Int64.toInt_inj.mp (spells.injective alsoSpells)), rest⟩

theorem wellFormed_of_fields_shown {fields : List (String × Option Value)} {members : List (String × Json)}
    (shown : List.Forall₂ FieldShown fields members) : ∀ member ∈ members, member.2.WellFormed := by
  induction shown with
  | nil => simp
  | cons first _ ih => exact List.forall_mem_cons.mpr ⟨first.2.wellFormed, ih⟩

theorem fields_shown (fields : List (String × Option Value)) :
    List.Forall₂ FieldShown fields (fields.map fun field => (field.1, fieldJson field.2)) := by
  induction fields with
  | nil => exact .nil
  | cons field fields ih => exact .cons ⟨rfl, shown_fieldJson field.2⟩ ih

theorem fields_unique {fields others : List (String × Option Value)} {members : List (String × Json)}
    (shown : List.Forall₂ FieldShown fields members) (also : List.Forall₂ FieldShown others members)
    (floatFree : ∀ field ∈ fields, FloatFree field.2) (otherFloatFree : ∀ field ∈ others, FloatFree field.2)
    (kinds : ∀ pair ∈ fields.zip others, OfOneKind pair.1.2 pair.2.2) : fields = others := by
  induction shown generalizing others with
  | nil =>
    cases also
    rfl
  | cons first _ ih =>
    cases also with
    | cons alsoFirst alsoRest =>
      rw [List.zip_cons_cons] at kinds
      obtain ⟨free, othersFree⟩ := List.forall_mem_cons.mp floatFree
      obtain ⟨otherFree, restFree⟩ := List.forall_mem_cons.mp otherFloatFree
      obtain ⟨kind, restKinds⟩ := List.forall_mem_cons.mp kinds
      have name := first.1.symm.trans alsoFirst.1
      have value := first.2.unique alsoFirst.2 free otherFree kind
      rw [Prod.ext name value, ih alsoRest othersFree restFree restKinds]

/-- What the JSON text of a record tells a reader, and when it tells the record from every other one. -/
structure KeptByJson (record : Record) : Prop where
  read : ∃ time fields, Json.read? record.jsonText.toList = some (.object (time ++ fields)) ∧
    TimeShown record.timestamp time ∧ List.Forall₂ FieldShown record.fields fields
  unique : ∀ other : Record, record.timestamp.isSome = other.timestamp.isSome →
    (∀ field ∈ record.fields, FloatFree field.2) → (∀ field ∈ other.fields, FloatFree field.2) →
    (∀ pair ∈ record.fields.zip other.fields, OfOneKind pair.1.2 pair.2.2) →
    record.jsonText = other.jsonText → record = other

theorem time_shown (timestamp : Option Int64) :
    TimeShown timestamp (timestamp.toList.map fun millis => (Schema.timeName, Json.ofInt millis.toInt)) := by
  cases timestamp with
  | none => exact .absent
  | some millis =>
    obtain ⟨text, written, spells⟩ := Json.exists_ofInt millis.toInt
    rw [Option.toList_some, List.map_singleton, written]
    exact .present spells

theorem exists_read (record : Record) :
    ∃ time fields, Json.read? record.jsonText.toList = some (.object (time ++ fields)) ∧
      TimeShown record.timestamp time ∧ List.Forall₂ FieldShown record.fields fields := by
  have time := time_shown record.timestamp
  have fields := fields_shown record.fields
  have wellFormed : record.toJson.WellFormed :=
    .object (List.forall_mem_append.mpr ⟨time.wellFormed, wellFormed_of_fields_shown fields⟩)
  refine ⟨_, _, ?_, time, fields⟩
  rw [jsonText, String.toList_ofList]
  exact Json.read?_write wellFormed

/-- Whatever the names and the values of a record are, its text is one object, and keeps all that JSON has a form
for. -/
theorem jsonText_keeps (record : Record) : KeptByJson record where
  read := exists_read record
  unique := by
    intro other presence floatFree otherFloatFree kinds same
    obtain ⟨time, fields, read, timeShown, shown⟩ := exists_read record
    obtain ⟨otherTime, otherFields, otherRead, otherTimeShown, otherShown⟩ := exists_read other
    rw [same, otherRead] at read
    obtain ⟨sameTime, rfl⟩ := otherTimeShown.unique timeShown presence.symm (Json.object.inj (Option.some.inj read))
    have sameFields := fields_unique shown otherShown floatFree otherFloatFree kinds
    cases record
    cases other
    cases sameTime
    cases sameFields
    rfl

/-- The least time, and a text under the name of the time that would close its own string and hide a field. -/
theorem jsonText_keeps_of_quotes :
    KeptByJson ⟨some Int64.minValue, [("Time", some (.text "a\",\"\":\"b")), ("\x01", none)]⟩ ∧
      jsonText ⟨some Int64.minValue, [("Time", some (.text "a\",\"\":\"b")), ("\x01", none)]⟩ =
        "\x7b\"Time\":-9223372036854775808,\"Time\":\"a\\\",\\\"\\\":\\\"b\",\"\\u0001\":null\x7d" ∧
      jsonText ⟨some Int64.minValue, [("Time", some (.text "a\",\"\":\"b")), ("\x01", none)]⟩ ≠
        jsonText ⟨some Int64.minValue, [("Time", some (.text "a")), ("", some (.text "b")), ("\x01", none)]⟩ := by
  constructor
  · exact jsonText_keeps _
  constructor
  · decide +kernel
  · intro same
    have differ : (⟨some Int64.minValue, [("Time", some (.text "a\",\"\":\"b")), ("\x01", none)]⟩ : Record) ≠
        ⟨some Int64.minValue, [("Time", some (.text "a")), ("", some (.text "b")), ("\x01", none)]⟩ := by
      simp
    refine differ ((jsonText_keeps _).unique _ rfl ?_ ?_ ?_ same)
    · simp [FloatFree, Value.finite?]
    · simp [FloatFree, Value.finite?]
    · simp [OfOneKind, Value.type?]

end Record

end SeriesCursor
