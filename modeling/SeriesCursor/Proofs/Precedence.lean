import SeriesCursor.Proofs.Routes

/-!
What a reading gives, as a table. A set that is closed comes before a row that is missing, that before the
position, that before the name, that before the type, that before a null; only then are the bytes looked at.
A reading of a reachable set has the outcome that the table has for it, and the table has no other errors.
-/

namespace SeriesCursor

def Reading.wants? : Reading → Option DataType
  | .boolean => some .boolean
  | .int => some .int32
  | .long | .instant => some .int64
  | .float => some .float
  | .double => some .double
  | .text => some .text
  | .plain | .value | .bytes | .isNull => none

theorem Reading.spells_of_text (reading : Reading) (typed : ∀ wanted, reading.wants? = some wanted → .text = wanted)
    (notBytes : reading ≠ .bytes) (notNull : reading ≠ .isNull) :
    reading = .text ∨ reading = .plain ∨ reading = .value := by
  cases reading <;> simp_all [wants?]

inductive InstantTold (millis : Int64) : Except Error Answer → Prop where
  | within (late : Instant.earliest.toMillis ≤ millis.toInt) (early : millis.toInt ≤ Instant.latest.toMillis) :
      InstantTold millis (.ok (.instant (.ofMillis millis.toInt)))
  | beyond (beyond : millis.toInt < Instant.earliest.toMillis ∨ Instant.latest.toMillis < millis.toInt) :
      InstantTold millis (.error (.timestampOutOfRange millis))

inductive ValueTold : Value → Reading → Except Error Answer → Prop where
  | boolean (b : Bool) : ValueTold (.bool b) .boolean (.ok (.bool b))
  | int (n : Int32) : ValueTold (.int32 n) .int (.ok (.int n))
  | long (n : Int64) : ValueTold (.int64 n) .long (.ok (.long n))
  | float (bits : UInt32) : ValueTold (.float bits) .float (.ok (.float bits))
  | double (bits : UInt64) : ValueTold (.double bits) .double (.ok (.double bits))
  | text (s : String) : ValueTold (.text s) .text (.ok (.text s))
  | plain (value : Value) : ValueTold value .plain (.ok (.text value.toText))
  | value (value : Value) : ValueTold value .value (.ok (.value value))
  | instant {n : Int64} {outcome : Except Error Answer} (told : InstantTold n outcome) :
      ValueTold (.int64 n) .instant outcome

inductive TimeTold (time : Int64) : Reading → Except Error Answer → Prop where
  | long : TimeTold time .long (.ok (.long time))
  | instant {outcome : Except Error Answer} (told : InstantTold time outcome) : TimeTold time .instant outcome
  | plain : TimeTold time .plain (.ok (.text (Value.timestamp time).toText))
  | value : TimeTold time .value (.ok (.value (.timestamp time)))
  | isNull : TimeTold time .isNull (.ok (.bool false))
  | mistyped {reading : Reading} {type : DataType} (wants : reading.wants? = some type)
      (notLong : reading ≠ .long) (notInstant : reading ≠ .instant) :
      TimeTold time reading (.error (.typeMismatch Schema.timeName (.typed type) .int64))
  | bytes : TimeTold time .bytes (.error (.typeMismatch Schema.timeName .raw .int64))

inductive CellTold (column : Column) : Option Bytes → Reading → Except Error Answer → Prop where
  | mistyped {cell : Option Bytes} {reading : Reading} {type : DataType} (wants : reading.wants? = some type)
      (other : column.type ≠ type) :
      CellTold column cell reading (.error (.typeMismatch column.name (.typed type) column.type))
  | isNull (cell : Option Bytes) : CellTold column cell .isNull (.ok (.bool cell.isNone))
  | null {reading : Reading} (typed : ∀ type, reading.wants? = some type → column.type = type)
      (asks : reading ≠ .isNull) : CellTold column none reading (.error (.nullValue column.name))
  | bytes (raw : Bytes) : CellTold column (some raw) .bytes (.ok (.bytes raw))
  | garbled {raw : Bytes} {reading : Reading} (text : column.type = .text) (unspelled : raw.toText? = none)
      (spells : reading = .text ∨ reading = .plain ∨ reading = .value) :
      CellTold column (some raw) reading (.error (.invalidText column.name))
  | value {raw : Bytes} {value : Value} {reading : Reading} {outcome : Except Error Answer}
      (decoded : Value.decode column.type raw column.name = .ok value) (told : ValueTold value reading outcome) :
      CellTold column (some raw) reading outcome

namespace ResultSet

inductive Chooses (schema : Schema) : Selector → String → Prop where
  | name (name : String) : Chooses schema (.name name) name
  | position {index : Nat} {name : String} (counted : 0 < index)
      (shown : schema.displayNames[index - 1]? = some name) : Chooses schema (.position index) name

/-- What a reading gives, in the order in which errors come. -/
inductive Told (set : ResultSet) (reading : Reading) : Selector → Except Error Answer → Prop where
  | closed {selector : Selector} (closed : set.state = .closed) : Told set reading selector (.error .closed)
  | noRow {selector : Selector} (opened : set.state ≠ .closed) (noRow : set.row.present = false) :
      Told set reading selector (.error .noCurrentRow)
  | outside {index : Nat} (opened : set.state ≠ .closed) (present : set.row.present = true)
      (outside : index = 0 ∨ set.schema.displayCount < index) :
      Told set reading (.position index) (.error (.indexOutOfRange index set.schema.displayCount))
  | unknown {name : String} (opened : set.state ≠ .closed) (present : set.row.present = true)
      (unlisted : name ∉ set.schema.displayNames) : Told set reading (.name name) (.error (.unknownColumn name))
  | time {selector : Selector} {outcome : Except Error Answer} (opened : set.state ≠ .closed)
      (present : set.row.present = true) (included : set.schema.includesTime = true)
      (chosen : Chooses set.schema selector Schema.timeName) (told : TimeTold set.row.time reading outcome) :
      Told set reading selector outcome
  | cell {selector : Selector} {slot : Fin set.schema.slotCount} {outcome : Except Error Answer}
      (opened : set.state ≠ .closed) (present : set.row.present = true)
      (chosen : Chooses set.schema selector (set.schema.slotName slot))
      (told : CellTold set.schema.columns[slot] (set.row.value? slot) reading outcome) :
      Told set reading selector outcome

section

variable {set : ResultSet} {reading : Reading} {outcome : Except Error Answer}

theorem getInstant_of_getLong {selector : Selector} {millis : Int64} (read : set.getLong selector = .ok millis)
    (told : InstantTold millis outcome) : (set.getInstant selector).map Answer.instant = outcome := by
  rw [getInstant, read]
  cases told with
  | within late early =>
    have counted : Instant.ofMillis? millis.toInt = some (.ofMillis millis.toInt) := if_pos ⟨late, early⟩
    simp [counted, bind, Except.bind, Except.map]
  | beyond beyond =>
    have counted : Instant.ofMillis? millis.toInt = none := if_neg (by omega)
    simp [counted, bind, Except.bind, Except.map]

theorem exists_instantTold (millis : Int64) : ∃ outcome, InstantTold millis outcome := by
  by_cases early : millis.toInt < Instant.earliest.toMillis
  · exact ⟨_, .beyond (.inl early)⟩
  · by_cases late : Instant.latest.toMillis < millis.toInt
    · exact ⟨_, .beyond (.inr late)⟩
    · exact ⟨_, .within (Int.not_lt.mp early) (Int.not_lt.mp late)⟩

theorem exists_valueTold {value : Value} {type : DataType} (kind : value.type? = some type)
    (typed : ∀ wanted, reading.wants? = some wanted → type = wanted) (notBytes : reading ≠ .bytes)
    (notNull : reading ≠ .isNull) : ∃ outcome, ValueTold value reading outcome := by
  cases reading with
  | bytes => exact absurd rfl notBytes
  | isNull => exact absurd rfl notNull
  | plain => exact ⟨_, .plain value⟩
  | value => exact ⟨_, .value value⟩
  | instant =>
    cases typed _ rfl
    cases value <;> cases kind
    obtain ⟨outcome, told⟩ := exists_instantTold ‹Int64›
    exact ⟨outcome, .instant told⟩
  | _ =>
    cases typed _ rfl
    cases value <;> cases kind
    exact ⟨_, by constructor⟩

theorem exists_timeTold (time : Int64) (reading : Reading) : ∃ outcome, TimeTold time reading outcome := by
  cases reading with
  | long => exact ⟨_, .long⟩
  | instant =>
    obtain ⟨outcome, told⟩ := exists_instantTold time
    exact ⟨outcome, .instant told⟩
  | plain => exact ⟨_, .plain⟩
  | value => exact ⟨_, .value⟩
  | isNull => exact ⟨_, .isNull⟩
  | bytes => exact ⟨_, .bytes⟩
  | boolean => exact ⟨_, .mistyped rfl (by decide) (by decide)⟩
  | int => exact ⟨_, .mistyped rfl (by decide) (by decide)⟩
  | float => exact ⟨_, .mistyped rfl (by decide) (by decide)⟩
  | double => exact ⟨_, .mistyped rfl (by decide) (by decide)⟩
  | text => exact ⟨_, .mistyped rfl (by decide) (by decide)⟩

theorem exists_cellTold {column : Column} {cell : Option Bytes}
    (fits : ∀ raw, cell = some raw → Frame.Fits column.type raw) (reading : Reading) :
    ∃ outcome, CellTold column cell reading outcome := by
  -- in the order of the readers: the type, then the null, then the bytes
  by_cases mistyped : ∃ type, reading.wants? = some type ∧ column.type ≠ type
  · obtain ⟨type, wants, other⟩ := mistyped
    exact ⟨_, .mistyped wants other⟩
  · have typed : ∀ type, reading.wants? = some type → column.type = type := fun type wants =>
      Decidable.byContradiction fun other => mistyped ⟨type, wants, other⟩
    by_cases asks : reading = .isNull
    · exact asks ▸ ⟨_, .isNull cell⟩
    · cases cell with
      | none => exact ⟨_, .null typed asks⟩
      | some raw =>
        by_cases bytes : reading = .bytes
        · exact bytes ▸ ⟨_, .bytes raw⟩
        · rcases Value.decode_of_fits (fits raw rfl) column.name with
            ⟨value, kind, decoded⟩ | ⟨text, unspelled, _⟩
          · obtain ⟨outcome, told⟩ := exists_valueTold kind typed bytes asks
            exact ⟨outcome, .value decoded told⟩
          · rw [text] at typed
            exact ⟨_, .garbled text unspelled (reading.spells_of_text typed bytes asks)⟩

theorem read_of_typedBytes {name : String} {slot : Fin set.schema.slotCount} {type : DataType} {e : Error}
    (readable : set.current = .ok set.row) (found : set.schema.resolveName name = .ok (.slot slot))
    (wants : reading.wants? = some type) (failed : set.typedBytes name type = .error e) :
    set.read reading (.name name) = .error e := by
  -- a long and an instant look the name up by themselves, and once more for the bytes
  cases reading <;> cases wants <;>
    simp only [read, getBoolean, getInt, getLong, getFloat, getDouble, getText, getInstant, columnFor, readable, found,
      failed, bind, Except.bind, Except.map]

theorem read_of_timeTold (readable : set.current = .ok set.row) (included : set.schema.includesTime = true)
    (told : TimeTold set.row.time reading outcome) : set.read reading (.name Schema.timeName) = outcome := by
  have found := Schema.resolveName_time included
  obtain ⟨long, value, notNull⟩ := time_of_readable readable included
  have typed (type : DataType) : set.typedBytes Schema.timeName type =
      .error (.typeMismatch Schema.timeName (.typed type) .int64) := by
    simp only [typedBytes, readable, found, bind, Except.bind]
  cases told with
  | long => rw [read, long]; rfl
  | instant told => exact getInstant_of_getLong long told
  | plain => rw [read, getPlain, value]; rfl
  | value => rw [read, value]; rfl
  | isNull => rw [read, notNull]; rfl
  | bytes => simp only [read, getBytes, columnFor, readable, found, bind, Except.bind, Except.map]
  | mistyped wants notLong notInstant =>
    cases reading with
    | long => exact absurd rfl notLong
    | instant => exact absurd rfl notInstant
    | _ =>
      cases wants <;>
        simp only [read, getBoolean, getInt, getFloat, getDouble, getText, columnFor, typed, bind, Except.bind,
          Except.map]

theorem read_of_valueTold {name : String} {type : DataType} {value : Value} (kind : value.type? = some type)
    (typed : set.getTyped type (.name name) = .ok value) (plain : set.getValue (.name name) = .ok value)
    (told : ValueTold value reading outcome) : set.read reading (.name name) = outcome := by
  cases told with
  | plain => rw [read, getPlain, plain]; rfl
  | value => rw [read, plain]; rfl
  | instant told =>
    cases kind
    obtain ⟨millis, long, ⟨⟩⟩ := ok_of_map typed
    exact getInstant_of_getLong long told
  | _ =>
    cases kind
    obtain ⟨_, got, ⟨⟩⟩ := ok_of_map typed
    rw [read, got]
    rfl

theorem read_of_cellTold {slot : Fin set.schema.slotCount} {column : Column} (readable : set.current = .ok set.row)
    (held : set.schema.columns[slot] = column) (found : set.schema.resolveName column.name = .ok (.slot slot))
    (told : CellTold column (set.row.value? slot) reading outcome) :
    set.read reading (.name column.name) = outcome := by
  have bytes := typedBytes_of_slot readable found
  have value := getValue_of_slot readable found
  have typed := getTyped_of_slot readable found
  rw [held] at bytes value typed
  generalize stored : set.row.value? slot = cell at told
  cases told with
  | mistyped wants other =>
    refine read_of_typedBytes readable found wants ?_
    simp only [typedBytes, readable, found, held, if_neg other, bind, Except.bind]
  | isNull => rw [read, isNull_of_slot readable found, Row.isNull, stored]; rfl
  | null typed asks =>
    have none : cellBytes set.row slot column.name = .error (.nullValue column.name) := by rw [cellBytes, stored]
    rw [none] at bytes value
    -- a reading of one type meets the null among the typed bytes, the other three in the cell itself
    cases wants : reading.wants? with
    | some type =>
      cases typed type wants
      exact read_of_typedBytes readable found wants bytes
    | none =>
      cases reading with
      | plain => rw [read, getPlain, value]; rfl
      | value => rw [read, value]; rfl
      | bytes => rw [read, getBytes_of_slot readable found, none]; rfl
      | isNull => exact absurd rfl asks
      | _ => cases wants
  | bytes => rw [read, getBytes_of_slot readable found, cellBytes, stored]; rfl
  | @garbled raw _ text unspelled spells =>
    have fails : set.getValue (.name column.name) = .error (.invalidText column.name) := by
      rw [value, cellBytes, stored, text]
      simp only [Value.decode, Value.readText, unspelled, bind, Except.bind, Except.map]
    rcases spells with rfl | rfl | rfl
    · rw [text, fails] at typed
      rw [read, error_of_map typed]
      rfl
    · rw [read, getPlain, fails]; rfl
    · rw [read, fails]; rfl
  | @value raw content _ _ decoded told =>
    have plain : set.getValue (.name column.name) = .ok content := by
      rw [value, cellBytes, stored]
      exact decoded
    exact read_of_valueTold (Value.type?_of_decode decoded) (typed.trans plain) plain told

theorem read_of_chooses {selector : Selector} {name : String} (readable : set.current = .ok set.row)
    (chosen : Chooses set.schema selector name) : set.read reading selector = set.read reading (.name name) := by
  cases chosen with
  | name => rfl
  | position counted shown => exact read_of_nameAt readable (Schema.nameAt_eq_ok_iff.mpr ⟨counted, shown⟩) reading

theorem read_of_outside {index : Nat} (readable : set.current = .ok set.row)
    (outside : index = 0 ∨ set.schema.displayCount < index) :
    set.read reading (.position index) = .error (.indexOutOfRange index set.schema.displayCount) := by
  have nowhere : set.columnFor (.position index) = .error (.indexOutOfRange index set.schema.displayCount) := by
    simp only [columnFor, readable, Schema.nameAt_eq_error_iff.mpr ⟨outside, rfl⟩, bind, Except.bind]
  cases reading <;>
    simp only [read, getBoolean, getInt, getLong, getFloat, getDouble, getText, getValue, getPlain, getInstant,
      getBytes, isNull, nowhere, bind, Except.bind, Except.map]

theorem read_of_unknown {name : String} {e : Error} (readable : set.current = .ok set.row)
    (unknown : set.schema.resolveName name = .error e) : set.read reading (.name name) = .error e := by
  have typed (type : DataType) : set.typedBytes name type = .error e := by
    simp only [typedBytes, readable, unknown, bind, Except.bind]
  cases reading <;>
    simp only [read, getBoolean, getInt, getLong, getFloat, getDouble, getText, getValue, getPlain, getInstant,
      getBytes, isNull, columnFor, readable, unknown, typed, bind, Except.bind, Except.map]

theorem read_of_told {selector : Selector} (sound : set.schema.Sound) (told : Told set reading selector outcome) :
    set.read reading selector = outcome := by
  cases told with
  | closed closed => exact read_of_unreadable (current_of_closed closed) reading selector
  | noRow opened noRow => exact read_of_unreadable (current_of_no_row opened noRow) reading selector
  | outside opened present outside => exact read_of_outside (current_of_opened opened present) outside
  | unknown opened present unlisted =>
    exact read_of_unknown (current_of_opened opened present) (sound.resolveName_eq_error_iff.mpr ⟨unlisted, rfl⟩)
  | time opened present included chosen told =>
    have readable := current_of_opened opened present
    rw [read_of_chooses readable chosen]
    exact read_of_timeTold readable included told
  | @cell _ slot _ opened present chosen told =>
    have readable := current_of_opened opened present
    rw [read_of_chooses readable chosen]
    exact read_of_cellTold readable rfl (sound.resolveName_eq_slot_iff.mpr rfl) told

theorem exists_told_of_chooses {selector : Selector} {name : String} (sound : set.schema.Sound) (whole : Whole set)
    (opened : set.state ≠ .closed) (present : set.row.present = true) (chosen : Chooses set.schema selector name)
    (listed : name ∈ set.schema.displayNames) (reading : Reading) : ∃ outcome, Told set reading selector outcome := by
  rcases (sound.shown name).mp listed with ⟨included, rfl⟩ | stored
  · obtain ⟨outcome, told⟩ := exists_timeTold set.row.time reading
    exact ⟨outcome, .time opened present included chosen told⟩
  · obtain ⟨slot, rfl⟩ := Schema.slotName_mem_iff.mp stored
    have fits (raw : Bytes) (held : set.row.value? slot = some raw) : Frame.Fits set.schema.columns[slot].type raw :=
      fits_of_value? whole (List.getElem?_eq_getElem slot.isLt) held
    obtain ⟨outcome, told⟩ := exists_cellTold fits reading
    exact ⟨outcome, .cell opened present chosen told⟩

theorem exists_told (sound : set.schema.Sound) (whole : Whole set) (reading : Reading) (selector : Selector) :
    ∃ outcome, Told set reading selector outcome := by
  by_cases closed : set.state = .closed
  · exact ⟨_, .closed closed⟩
  · cases present : set.row.present with
    | false => exact ⟨_, .noRow closed present⟩
    | true =>
      cases selector with
      | name name =>
        by_cases listed : name ∈ set.schema.displayNames
        · exact exists_told_of_chooses sound whole closed present (.name name) listed reading
        · exact ⟨_, .unknown closed present listed⟩
      | position index =>
        by_cases inside : 1 ≤ index ∧ index ≤ set.schema.displayCount
        · obtain ⟨name, placed⟩ := Schema.exists_nameAt_iff.mpr inside
          obtain ⟨counted, shown⟩ := Schema.nameAt_eq_ok_iff.mp placed
          have listed := List.mem_of_getElem? shown
          exact exists_told_of_chooses sound whole closed present (.position counted shown) listed reading
        · exact ⟨_, .outside closed present (by omega)⟩

end

/-- A copy of the row is refused for the same reasons, but that no column is chosen and that of the cells only
those of garbled text refuse. -/
inductive CopyRefused (set : ResultSet) : Error → Prop where
  | closed (closed : set.state = .closed) : CopyRefused set .closed
  | noRow (opened : set.state ≠ .closed) (noRow : set.row.present = false) : CopyRefused set .noCurrentRow
  | garbled {slot : Nat} {column : Column} (opened : set.state ≠ .closed) (present : set.row.present = true)
      (first : FirstGarbled set.schema.columns set.row 0 slot column) : CopyRefused set (.invalidText column.name)

theorem currentRow_eq_error_iff {set : ResultSet} (coherent : Coherent set) (whole : Whole set) {e : Error} :
    set.currentRow = .error e ↔ CopyRefused set e := by
  have fits : set.row.cells.length = set.schema.columns.length := coherent.cells
  have garbled := recordFields_eq_error_iff fits whole List.drop_zero e
  constructor
  · intro refused
    by_cases closed : set.state = .closed
    · rw [currentRow, current_of_closed closed] at refused
      cases refused
      exact .closed closed
    · cases present : set.row.present with
      | false =>
        rw [currentRow, current_of_no_row closed present] at refused
        cases refused
        exact .noRow closed present
      | true =>
        rw [currentRow_of_readable (current_of_opened closed present)] at refused
        obtain ⟨slot, column, first, rfl⟩ := garbled.mp (error_of_map refused)
        exact .garbled closed present first
  · intro refused
    cases refused with
    | closed closed => rw [currentRow, current_of_closed closed]; rfl
    | noRow opened noRow => rw [currentRow, current_of_no_row opened noRow]; rfl
    | garbled opened present first =>
      rw [currentRow_of_readable (current_of_opened opened present), garbled.mpr ⟨_, _, first, rfl⟩]
      rfl

/-- What stops a reading, in one order for all readings and all choices of column. -/
structure Precedence (set : ResultSet) : Prop where
  row : set.row.present = true ↔ set.state = .hasCachedRow
  read : ∀ reading selector outcome, set.read reading selector = outcome ↔ Told set reading selector outcome
  copy : ∀ e, set.currentRow = .error e ↔ CopyRefused set e

/-- In every state that a set over a server's columns can reach, each reading gives what the table has for it. -/
theorem precedence_run {options : Options} {names types : List String} {index : Option SlotIndex} {server : Server}
    {initial : Option Page} {set : ResultSet} (built : ofRaw options names types index server initial = .ok set)
    (calls : List Call) : Precedence (set.run calls) := by
  obtain ⟨schema, _, created⟩ := create_of_ofRaw built
  have sound := sound_run built calls
  have coherent := coherent_run (coherent_create created).1 calls
  have whole := whole_run (whole_create created) calls
  refine ⟨coherent.row, fun reading selector outcome => ⟨?_, read_of_told sound⟩, fun e =>
    currentRow_eq_error_iff coherent whole⟩
  -- the table has an outcome, and what it has is what is read
  rintro rfl
  obtain ⟨outcome, told⟩ := exists_told sound whole reading selector
  rw [read_of_told sound told]
  exact told

/-- A garbled text, a count of milliseconds that no instant has, and a null of another type than is asked for. -/
theorem precedence_run_of_garbled_text :
    ∃ set, ofRaw oneColumn ["s1", "Time", "s2", "s3"] ["INT64", "?", "TEXT", "INT32"]
        (some ⟨[("s1", 1), ("s2", 0), ("s3", 2)], by decide⟩) ⟨[], []⟩
        (some ⟨[0, 0, 0, 0, 0, 0, 0, 9], [[0x80], [0x80], [0x00]],
          [[0, 0, 0, 1, 0xFF], [0x7F, 0, 0, 0, 0, 0, 0, 0], []]⟩) = .ok set ∧
      (set.run [.advance]).read .plain (.position 4) = .error (.invalidText "s2") ∧
      (set.run [.advance]).read .instant (.name "s1") = .error (.timestampOutOfRange 0x7F00000000000000) ∧
      (set.run [.advance]).read .double (.name "s3") = .error (.typeMismatch "s3" (.typed .double) .int32) ∧
      (set.run [.advance]).read .bytes (.position 3) = .error (.typeMismatch "Time" .raw .int64) ∧
      Precedence (set.run [.advance]) :=
  ⟨_, rfl, rfl, rfl, rfl, rfl, @precedence_run oneColumn ["s1", "Time", "s2", "s3"] ["INT64", "?", "TEXT", "INT32"]
    (some ⟨[("s1", 1), ("s2", 0), ("s3", 2)], by decide⟩) ⟨[], []⟩
    (some ⟨[0, 0, 0, 0, 0, 0, 0, 9], [[0x80], [0x80], [0x00]],
      [[0, 0, 0, 1, 0xFF], [0x7F, 0, 0, 0, 0, 0, 0, 0], []]⟩) _ rfl [.advance]⟩

end ResultSet

end SeriesCursor
