import Mathlib.Data.List.Nodup
import SeriesCursor.Proofs.Lookup
import SeriesCursor.Proofs.PermutedRow
import SeriesCursor.Proofs.WholeCells

/-!
All routes to a value agree. A cell can be read by the getter of its type, as a value, as text, as bytes, by
name or by position, or out of a copy of the row; each of these finds the column, tests for null and decodes
by itself. On a row that may be read they give one value, or one error where a text is not valid.
-/

namespace SeriesCursor

namespace ResultSet

variable {set : ResultSet}

theorem Coherent.current_of_present (coherent : Coherent set) (present : set.row.present = true) :
    set.current = .ok set.row := by
  have openSet : set.state ≠ .closed := by
    rw [coherent.row.mp present]
    rintro ⟨⟩
  exact current_of_opened openSet present

def getTyped (set : ResultSet) (type : DataType) (selector : Selector) : Except Error Value :=
  match type with
  | .boolean => (set.getBoolean selector).map .bool
  | .int32 => (set.getInt selector).map .int32
  | .int64 => (set.getLong selector).map .int64
  | .float => (set.getFloat selector).map .float
  | .double => (set.getDouble selector).map .double
  | .text => (set.getText selector).map .text

/-- A column of data holds one value, or none, or a text that is not valid; and every way of reading the
column by its name shows which. -/
structure OneValue (set : ResultSet) (name : String) (type : DataType) : Prop where
  answered : ∃ null, set.isNull (.name name) = .ok null
  nullValue : set.isNull (.name name) = .ok true ↔ set.getValue (.name name) = .error (.nullValue name)
  nullBytes : set.isNull (.name name) = .ok true ↔ set.getBytes (.name name) = .error (.nullValue name)
  nullTyped : set.isNull (.name name) = .ok true ↔ set.getTyped type (.name name) = .error (.nullValue name)
  value : set.isNull (.name name) = .ok false →
    (∃ value, value.type? = some type ∧ set.getValue (.name name) = .ok value ∧
        set.getTyped type (.name name) = .ok value ∧ set.getPlain (.name name) = .ok value.toText) ∨
      type = .text ∧ set.getValue (.name name) = .error (.invalidText name) ∧
        set.getTyped type (.name name) = .error (.invalidText name) ∧
        set.getPlain (.name name) = .error (.invalidText name)
  bytes : set.isNull (.name name) = .ok false →
    ∃ raw, set.getBytes (.name name) = .ok raw ∧ Value.decode type raw name = set.getValue (.name name)

section

variable {row : Row} (readable : set.current = .ok row) {slot : Fin set.schema.slotCount} {name : String}
  (found : set.schema.resolveName name = .ok (.slot slot))

include readable found

theorem getValue_of_slot : set.getValue (.name name) =
    cellBytes row slot name >>= fun raw => Value.decode set.schema.columns[slot].type raw name := by
  simp only [getValue, columnFor, readable, found, bind, Except.bind]

theorem typedBytes_of_slot : set.typedBytes name set.schema.columns[slot].type = cellBytes row slot name := by
  simp only [typedBytes, readable, found, if_true, bind, Except.bind]

theorem getTyped_of_slot : set.getTyped set.schema.columns[slot].type (.name name) = set.getValue (.name name) := by
  rw [getValue_of_slot readable found]
  have bytes := typedBytes_of_slot readable found
  generalize set.schema.columns[slot].type = type at bytes ⊢
  cases type with
  | int64 =>
    simp only [getTyped, getLong, columnFor, readable, found, bytes, bind, Except.bind]
    cases cellBytes row slot name <;> rfl
  | _ =>
    simp only [getTyped, getBoolean, getInt, getFloat, getDouble, getText, columnFor, bytes, bind, Except.bind]
    cases cellBytes row slot name <;> rfl

theorem getBytes_of_slot : set.getBytes (.name name) = cellBytes row slot name := by
  simp only [getBytes, columnFor, readable, found, bind, Except.bind]

theorem isNull_of_slot : set.isNull (.name name) = .ok (row.isNull slot) := by
  simp only [isNull, columnFor, readable, found, bind, Except.bind]

theorem oneValue_of_slot (fits : ∀ raw, row.value? slot = some raw → Frame.Fits set.schema.columns[slot].type raw) :
    OneValue set name set.schema.columns[slot].type := by
  have null := isNull_of_slot readable found
  have value := getValue_of_slot readable found
  have typed := getTyped_of_slot readable found
  have bytes := getBytes_of_slot readable found
  generalize set.schema.columns[slot].type = type at fits value typed ⊢
  rw [Row.isNull] at null
  cases held : row.value? slot with
  | none =>
    have noBytes : cellBytes row slot name = .error (.nullValue name) := by rw [cellBytes, held]
    rw [held] at null
    rw [noBytes] at value bytes
    exact
      { answered := ⟨true, null⟩
        nullValue := ⟨fun _ => value, fun _ => null⟩
        nullBytes := ⟨fun _ => bytes, fun _ => null⟩
        nullTyped := ⟨fun _ => typed.trans value, fun _ => null⟩
        value := by rw [null]; rintro ⟨⟩
        bytes := by rw [null]; rintro ⟨⟩ }
  | some raw =>
    have someBytes : cellBytes row slot name = .ok raw := by rw [cellBytes, held]
    rw [held] at null
    rw [someBytes] at value bytes
    -- bytes of the right width fail to decode only where they are to be a text
    have outcomes := Value.decode_of_fits (fits raw held) name
    have plain : set.getPlain (.name name) = (set.getValue (.name name)).map Value.toText := by
      rw [getPlain]
      cases set.getValue (.name name) <;> rfl
    have decoded : set.getValue (.name name) = Value.decode type raw name := value
    have noNull : set.getValue (.name name) ≠ .error (.nullValue name) := by
      rw [decoded]
      rcases outcomes with ⟨value, _, read⟩ | ⟨_, _, read⟩ <;> rw [read] <;> rintro ⟨⟩
    have isValue : set.isNull (.name name) ≠ .ok true := by
      rw [null]
      rintro ⟨⟩
    refine ⟨⟨false, null⟩, ⟨?_, ?_⟩, ⟨?_, ?_⟩, ⟨?_, ?_⟩, fun _ => ?_, fun _ => ⟨raw, bytes, decoded.symm⟩⟩
    · exact fun impossible => absurd impossible isValue
    · exact fun impossible => absurd impossible noNull
    · exact fun impossible => absurd impossible isValue
    · rw [bytes]
      rintro ⟨⟩
    · exact fun impossible => absurd impossible isValue
    · rw [typed]
      exact fun impossible => absurd impossible noNull
    · rw [plain, typed, decoded]
      rcases outcomes with ⟨value, kind, read⟩ | ⟨isText, _, read⟩
      · exact .inl ⟨value, kind, read, read, by rw [read]; rfl⟩
      · exact .inr ⟨isText, read, read, by rw [read]; rfl⟩

end

theorem read_of_nameAt {row : Row} (readable : set.current = .ok row) {index : Nat} {name : String}
    (shown : set.schema.nameAt index = .ok name) (reading : Reading) :
    set.read reading (.position index) = set.read reading (.name name) := by
  have same : set.columnFor (.position index) = set.columnFor (.name name) := by
    simp only [columnFor, readable, shown, bind, Except.bind]
  cases reading with
  | boolean => simp only [read, getBoolean, same]
  | int => simp only [read, getInt, same]
  | long => simp only [read, getLong, same]
  | float => simp only [read, getFloat, same]
  | double => simp only [read, getDouble, same]
  | text => simp only [read, getText, same]
  | plain => simp only [read, getPlain, getValue, same]
  | value => simp only [read, getValue, same]
  | instant => simp only [read, getInstant, getLong, same]
  | bytes => simp only [read, getBytes, same]
  | isNull => simp only [read, isNull, same]

theorem time_of_readable {row : Row} (readable : set.current = .ok row) (included : set.schema.includesTime = true) :
    set.getLong (.name Schema.timeName) = .ok row.time ∧
      set.getValue (.name Schema.timeName) = .ok (.timestamp row.time) ∧
      set.isNull (.name Schema.timeName) = .ok false := by
  have found := Schema.resolveName_time included
  refine ⟨?_, ?_, ?_⟩
  · simp only [getLong, columnFor, readable, found, bind, Except.bind]
  · simp only [getValue, columnFor, readable, found, bind, Except.bind]
  · simp only [isNull, columnFor, readable, found, bind, Except.bind]

end ResultSet

def Garbled (column : Column) (value : Option Bytes) : Prop :=
  column.type = .text ∧ ∃ raw, value = some raw ∧ raw.toText? = none

/-- The first slot, from a given one on, whose cell is garbled. -/
structure FirstGarbled (columns : List Column) (row : Row) (start slot : Nat) (column : Column) : Prop where
  reached : start ≤ slot
  held : columns[slot]? = some column
  garbled : Garbled column (row.value? slot)
  earlier : ∀ before other, start ≤ before → before < slot → columns[before]? = some other →
    ¬Garbled other (row.value? before)

namespace FirstGarbled

variable {columns : List Column} {row : Row} {start slot : Nat} {column other : Column}

theorem skip (here : columns[start]? = some column) (sound : ¬Garbled column (row.value? start)) :
    FirstGarbled columns row (start + 1) slot other ↔ FirstGarbled columns row start slot other := by
  constructor
  · intro first
    refine ⟨Nat.le_of_succ_le first.reached, first.held, first.garbled, ?_⟩
    intro before between reached below known
    rcases Nat.eq_or_lt_of_le reached with rfl | past
    · rw [here, Option.some.injEq] at known
      exact known ▸ sound
    · exact first.earlier before between past below known
  · intro first
    refine ⟨Nat.lt_of_le_of_ne first.reached ?_, first.held, first.garbled, ?_⟩
    · rintro rfl
      have known := first.held
      rw [here, Option.some.injEq] at known
      exact sound (known ▸ first.garbled)
    · exact fun before between reached => first.earlier before between (Nat.le_of_succ_le reached)

theorem at_start (here : columns[start]? = some column) (garbled : Garbled column (row.value? start)) :
    FirstGarbled columns row start start column :=
  ⟨Nat.le_refl _, here, garbled, fun _ _ reached below => absurd reached (Nat.not_le.mpr below)⟩

theorem eq_of_start (first : FirstGarbled columns row start slot other) (here : columns[start]? = some column)
    (garbled : Garbled column (row.value? start)) : other = column := by
  rcases Nat.eq_or_lt_of_le first.reached with rfl | past
  · exact Option.some.inj (first.held.symm.trans here)
  · exact absurd garbled (first.earlier start column (Nat.le_refl _) past here)

end FirstGarbled

theorem Record.get?_of_mem {record : Record} (distinct : (record.fields.map Prod.fst).Nodup)
    {made : String × Option Value} (member : made ∈ record.fields) : record.get? made.1 = made.2 := by
  rw [get?]
  cases found : record.fields.find? fun field => field.1 == made.1 with
  | none => simpa using List.find?_eq_none.mp found made member
  | some field =>
    have named : field.1 = made.1 := by simpa using List.find?_some found
    have same := List.inj_on_of_nodup_map distinct (List.mem_of_find?_eq_some found) member named
    rw [same, Option.bind_some]

namespace ResultSet

section

variable {column : Column} {cell : Cell} {raw : Bytes} {made : String × Option Value}

theorem field_of_null (held : cell.value = none) : field column cell = .ok (column.name, none) := by
  rw [field, held]

theorem field_of_value (held : cell.value = some raw) :
    field column cell = (Value.decode column.type raw column.name).map fun value => (column.name, some value) := by
  rw [field, held]

theorem field_of_fits (fits : cell.FitsIn column) :
    (∃ made, field column cell = .ok made) ∧ ¬Garbled column cell.value ∨
      Garbled column cell.value ∧ field column cell = .error (.invalidText column.name) := by
  cases held : cell.value with
  | none => exact .inl ⟨⟨_, field_of_null held⟩, by rintro ⟨_, _, ⟨⟩, _⟩⟩
  | some raw =>
    rw [field_of_value held]
    rcases Value.decode_of_fits (fits raw held) column.name with ⟨value, kind, decoded⟩ | ⟨text, unspelled, decoded⟩
    · rw [decoded]
      refine .inl ⟨⟨_, rfl⟩, ?_⟩
      rintro ⟨text, _, ⟨⟩, unspelled⟩
      rw [text, Value.decode, Value.readText, unspelled] at decoded
      cases decoded
    · rw [decoded]
      exact .inr ⟨⟨text, raw, rfl, unspelled⟩, rfl⟩

theorem field_eq_ok (told : field column cell = .ok made) :
    cell.value = none ∧ made = (column.name, none) ∨
      ∃ raw value, cell.value = some raw ∧ Value.decode column.type raw column.name = .ok value ∧
        made = (column.name, some value) := by
  cases held : cell.value with
  | none =>
    rw [field_of_null held, Except.ok.injEq] at told
    exact .inl ⟨rfl, told.symm⟩
  | some raw =>
    rw [field_of_value held] at told
    cases decoded : Value.decode column.type raw column.name with
    | error e =>
      rw [decoded] at told
      cases told
    | ok value =>
      rw [decoded] at told
      cases told
      exact .inr ⟨raw, value, rfl, decoded, rfl⟩

theorem name_of_field (told : field column cell = .ok made) : made.1 = column.name := by
  rcases field_eq_ok told with ⟨_, rfl⟩ | ⟨_, _, _, _, rfl⟩ <;> rfl

end

def ofField (name : String) : Option Value → Except Error Value
  | some value => .ok value
  | none => .error (.nullValue name)

section

variable {row : Row} {columns : List Column} {fields : List (String × Option Value)}

theorem value_of_field {slot : Nat} {column : Column} {made : String × Option Value}
    (inside : slot < row.cells.length) (told : field column row.cells[slot] = .ok made) :
    (cellBytes row slot column.name >>= fun raw => Value.decode column.type raw column.name) =
      ofField column.name made.2 := by
  rw [cellBytes, Row.value?_of_inside inside]
  rcases field_eq_ok told with ⟨null, rfl⟩ | ⟨raw, value, held, decoded, rfl⟩
  · rw [null]
    rfl
  · rw [held]
    exact decoded

theorem field_of_column (fits : row.cells.length = columns.length)
    (copied : recordFields row 0 columns = .ok fields) {slot : Nat} {column : Column}
    (held : columns[slot]? = some column) (inside : slot < row.cells.length) :
    ∃ made, fields[slot]? = some made ∧ field column row.cells[slot] = .ok made := by
  have told := (recordFields_eq_ok_iff (by rw [fits, Nat.zero_add])).mp copied
  have cell : row.cells[slot]? = some row.cells[slot] := List.getElem?_eq_getElem inside
  have pair : (columns.zip row.cells)[slot]? = some (column, row.cells[slot]) :=
    List.getElem?_zip_eq_some.mpr ⟨held, cell⟩
  have here := congrArg (·[slot]?) told
  simp only [List.drop_zero, List.getElem?_map, pair, Option.map_some] at here
  obtain ⟨made, member, same⟩ := Option.map_eq_some_iff.mp here.symm
  exact ⟨made, member, same.symm⟩

theorem names_of_recordFields (fits : row.cells.length = columns.length)
    (copied : recordFields row 0 columns = .ok fields) : fields.map Prod.fst = columns.map Column.name := by
  have told := (recordFields_eq_ok_iff (by rw [fits, Nat.zero_add])).mp copied
  have lengths : fields.length = columns.length := by simpa [fits] using (congrArg List.length told).symm
  refine List.ext_getElem (by simp [lengths]) fun slot _ inside => ?_
  have known : slot < columns.length := by simpa using inside
  obtain ⟨made, member, made_of⟩ :=
    field_of_column fits copied (List.getElem?_eq_getElem known) (by rw [fits]; exact known)
  obtain ⟨_, rfl⟩ := List.getElem?_eq_some_iff.mp member
  simpa using name_of_field made_of

theorem recordFields_eq_error_iff (fits : row.cells.length = columns.length)
    (whole : Cell.AllFit columns row.cells) {start : Nat} {rest : List Column} (left : columns.drop start = rest)
    (e : Error) :
    recordFields row start rest = .error e ↔
      ∃ slot column, FirstGarbled columns row start slot column ∧ e = .invalidText column.name := by
  induction rest generalizing start with
  | nil =>
    have past : columns.length ≤ start := List.drop_eq_nil_iff.mp left
    constructor
    · rintro ⟨⟩
    · rintro ⟨slot, column, first, _⟩
      have inside := (List.getElem?_eq_some_iff.mp first.held).1
      exact absurd (Nat.lt_of_lt_of_le inside past) (Nat.not_lt.mpr first.reached)
  | cons column rest ih =>
    have here : columns[start]? = some column := by
      rw [← Nat.add_zero start, ← List.getElem?_drop, left]
      rfl
    have left : columns.drop (start + 1) = rest := by rw [← List.tail_drop, left, List.tail_cons]
    have inside : start < row.cells.length := by
      rw [fits]
      exact (List.getElem?_eq_some_iff.mp here).1
    have fitting := whole start column _ here (List.getElem?_eq_getElem inside)
    have value := Row.value?_of_inside inside
    rw [recordFields_cons inside]
    -- the first field cannot be copied, or the first garbled cell lies behind it
    rcases field_of_fits fitting with ⟨⟨made, told⟩, sound⟩ | ⟨garbled, told⟩ <;> rw [told]
    · rw [← value] at sound
      simp only [← FirstGarbled.skip here sound, ← ih left]
      cases recordFields row (start + 1) rest <;> simp [bind, Except.bind]
    · rw [← value] at garbled
      constructor
      · rintro ⟨⟩
        exact ⟨start, column, .at_start here garbled, rfl⟩
      · rintro ⟨slot, other, first, rfl⟩
        rw [first.eq_of_start here garbled]
        rfl

end

/-- A copy of the row: the time where times are included, and every value under its name. -/
structure CopyOf (set : ResultSet) (record : Record) : Prop where
  timed : record.timestamp.isSome = set.schema.includesTime
  time : ∀ millis, record.timestamp = some millis → set.getLong (.name Schema.timeName) = .ok millis
  distinct : (record.fields.map Prod.fst).Nodup
  names : ∀ name, name ∈ set.schema.displayNames ↔
    set.schema.includesTime = true ∧ name = Schema.timeName ∨ name ∈ record.fields.map Prod.fst
  keys : ∃ members, record.toJson = .object members ∧ (members.map Prod.fst).Nodup ∧
    ∀ name, name ∈ members.map Prod.fst ↔ name ∈ set.schema.displayNames
  value : ∀ name ∈ set.schema.displayNames, set.schema.isTime name = false →
    set.getValue (.name name) = ofField name (record.get? name)

section

variable {set : ResultSet} {row : Row} {fields : List (String × Option Value)} (sound : set.schema.Sound)

include sound

theorem keys_of_names (named : fields.map Prod.fst = set.schema.columns.map Column.name) (time : Int64) :
    ∃ members, Record.toJson ⟨if set.schema.includesTime then some time else none, fields⟩ = .object members ∧
      (members.map Prod.fst).Nodup ∧ ∀ name, name ∈ members.map Prod.fst ↔ name ∈ set.schema.displayNames := by
  have jsonNames : (fields.map fun field => (field.1, Record.fieldJson field.2)).map Prod.fst =
      set.schema.columns.map Column.name := by
    rw [← named, List.map_map]
    rfl
  refine ⟨_, rfl, ?_⟩
  simp only [List.map_append, jsonNames]
  cases included : set.schema.includesTime with
  | false =>
    refine ⟨sound.distinct, fun name => ?_⟩
    simp [sound.shown, included]
  | true =>
    refine ⟨List.nodup_cons.mpr ⟨sound.noTime included, sound.distinct⟩, fun name => ?_⟩
    simp [sound.shown, included]

theorem copyOf_of_fields (readable : set.current = .ok row) (fits : row.cells.length = set.schema.columns.length)
    (copied : recordFields row 0 set.schema.columns = .ok fields) :
    CopyOf set ⟨if set.schema.includesTime then some row.time else none, fields⟩ := by
  have named := names_of_recordFields fits copied
  have distinct : (fields.map Prod.fst).Nodup := named ▸ sound.distinct
  refine
    { timed := by cases set.schema.includesTime <;> rfl
      time := ?time
      distinct := distinct
      names := by simpa [named] using sound.shown
      keys := keys_of_names sound named row.time
      value := ?value }
  case time =>
    intro millis present
    cases included : set.schema.includesTime with
    | false => simp [included] at present
    | true =>
      simp only [included, if_true, Option.some.injEq] at present
      rw [← present]
      exact (time_of_readable readable included).1
  case value =>
    intro name shown data
    obtain ⟨slot, column, held, rfl⟩ := sound.held_of_shown shown data
    obtain ⟨inside, found⟩ := sound.resolveName_of_held held
    obtain ⟨_, rfl⟩ := List.getElem?_eq_some_iff.mp held
    have slotInside : slot < row.cells.length := by
      rw [fits]
      exact inside
    obtain ⟨made, member, told⟩ := field_of_column fits copied held slotInside
    rw [getValue_of_slot readable found]
    refine (value_of_field slotInside told).trans ?_
    rw [← name_of_field told]
    exact congrArg (ofField made.1) (Record.get?_of_mem distinct (List.mem_of_getElem? member)).symm

end

/-- All the ways of reading a row agree. -/
structure RoutesAgree (set : ResultSet) : Prop where
  column : ∀ name ∈ set.schema.displayNames, set.schema.isTime name = false →
    ∃ column ∈ set.schema.columns, column.name = name ∧ OneValue set name column.type
  time : set.schema.includesTime = true → ∃ millis, set.getLong (.name Schema.timeName) = .ok millis ∧
    set.getValue (.name Schema.timeName) = .ok (.timestamp millis) ∧
    set.isNull (.name Schema.timeName) = .ok false
  position : ∀ index name, set.schema.nameAt index = .ok name →
    ∀ reading, set.read reading (.position index) = set.read reading (.name name)
  copyFails : ∀ e, set.currentRow = .error e ↔
    ∃ slot column, FirstGarbled set.schema.columns set.row 0 slot column ∧ e = .invalidText column.name
  copy : ∀ record, set.currentRow = .ok record → CopyOf set record

theorem routesAgree_of_present {set : ResultSet} (sound : set.schema.Sound) (coherent : Coherent set)
    (whole : Whole set) (present : set.row.present = true) : RoutesAgree set := by
  have readable := coherent.current_of_present present
  have fits : set.row.cells.length = set.schema.columns.length := coherent.cells
  have copies := currentRow_of_readable readable
  refine
    { column := ?column
      time := fun included => ⟨set.row.time, time_of_readable readable included⟩
      position := fun index name shown => read_of_nameAt readable shown
      copyFails := ?copyFails
      copy := ?copy }
  case column =>
    intro name shown data
    obtain ⟨slot, column, held, rfl⟩ := sound.held_of_shown shown data
    obtain ⟨inside, found⟩ := sound.resolveName_of_held held
    obtain ⟨_, rfl⟩ := List.getElem?_eq_some_iff.mp held
    refine ⟨_, List.getElem_mem inside, rfl, oneValue_of_slot readable found fun raw value => ?_⟩
    exact fits_of_value? whole held value
  case copyFails =>
    intro e
    rw [copies, ← recordFields_eq_error_iff fits whole List.drop_zero]
    cases recordFields set.row 0 set.schema.columns <;> simp [Except.map]
  case copy =>
    intro record copied
    rw [copies] at copied
    cases made : recordFields set.row 0 set.schema.columns with
    | error e =>
      rw [made] at copied
      cases copied
    | ok fields =>
      rw [made] at copied
      cases copied
      exact copyOf_of_fields sound readable fits made

theorem sound_run {options : Options} {names types : List String} {index : Option SlotIndex} {server : Server}
    {initial : Option Page} {set : ResultSet} (built : ofRaw options names types index server initial = .ok set)
    (calls : List Call) : (set.run calls).schema.Sound := by
  obtain ⟨schema, resolved, created⟩ := create_of_ofRaw built
  rw [schema_run]
  cases create_created created <;> exact Schema.sound_of_resolve resolved

/-- In every state that a set over a server's columns can reach, with a row that may be read, all the ways of
reading that row agree. -/
theorem routes_agree_run {options : Options} {names types : List String} {index : Option SlotIndex}
    {server : Server} {initial : Option Page} {set : ResultSet}
    (built : ofRaw options names types index server initial = .ok set) (calls : List Call)
    (present : (set.run calls).row.present = true) : RoutesAgree (set.run calls) := by
  obtain ⟨schema, _, created⟩ := create_of_ofRaw built
  have coherent := coherent_run (coherent_create created).1 calls
  exact routesAgree_of_present (sound_run built calls) coherent (whole_run (whole_create created) calls) present

theorem routes_agree_run_of_garbled_text :
    ∃ set, ofRaw oneColumn ["s1", "Time", "s2", "s1"] ["INT32", "?", "TEXT", "?"]
        (some ⟨[("s1", 1), ("s2", 0)], by decide⟩) ⟨[], []⟩
        (some ⟨[0, 0, 0, 0, 0, 0, 0, 9], [[0x80], [0x00]], [[0, 0, 0, 1, 0xFF], []]⟩) = .ok set ∧
      (set.run [.advance]).row.present = true ∧
      (set.run [.advance]).isNull (.position 2) = .ok true ∧
      (set.run [.advance]).currentRow = .error (.invalidText "s2") ∧
      RoutesAgree (set.run [.advance]) :=
  ⟨_, rfl, rfl, rfl, rfl, @routes_agree_run oneColumn ["s1", "Time", "s2", "s1"] ["INT32", "?", "TEXT", "?"]
    (some ⟨[("s1", 1), ("s2", 0)], by decide⟩) ⟨[], []⟩
    (some ⟨[0, 0, 0, 0, 0, 0, 0, 9], [[0x80], [0x00]], [[0, 0, 0, 1, 0xFF], []]⟩) _ rfl [.advance] rfl⟩

end ResultSet

end SeriesCursor
