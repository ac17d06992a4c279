import SeriesCursor.Proofs.SlotPermutation

/-!
A row in moved slots. A row is decoded slot by slot up to the first failure, so that in another order of
the slots another column may be the one that fails, and others are left half read. Whether one fails is the
same in every order; a row that is decoded holds the same cells, in moved slots, and every reading that
chooses its column by name or by position gives the same.
-/

namespace SeriesCursor

variable {n : Nat} {p : Equiv.Perm (Fin n)}

namespace Cell

def outcomes (row : Nat) (columns : List Column) (lanes : List Lane) (cells : List Cell) :
    List (Except Error Unit × Lane × Cell) :=
  (columns.zip (lanes.zip cells)).map fun slot => decode slot.1 row slot.2.1 slot.2.2

theorem decodeAll_of_outcomes {row : Nat} {columns : List Column} {lanes : List Lane} {cells : List Cell}
    (aligned : lanes.length = columns.length) (fits : cells.length = columns.length)
    (whole : ∀ outcome ∈ outcomes row columns lanes cells, outcome.1 = .ok ()) :
    decodeAll row columns lanes cells =
      (.ok (), (outcomes row columns lanes cells).map (·.2.1), (outcomes row columns lanes cells).map (·.2.2)) := by
  induction columns generalizing lanes cells with
  | nil =>
    rw [List.length_eq_zero_iff.mp aligned, List.length_eq_zero_iff.mp fits]
    rfl
  | cons column columns ih =>
    obtain ⟨lane, lanes, rfl⟩ := List.exists_cons_of_length_eq_add_one aligned
    obtain ⟨cell, cells, rfl⟩ := List.exists_cons_of_length_eq_add_one fits
    obtain ⟨first, rest⟩ := List.forall_mem_cons.mp whole
    have later := ih (Nat.succ.inj aligned) (Nat.succ.inj fits) rest
    have now : decode column row lane cell =
        (.ok (), (decode column row lane cell).2.1, (decode column row lane cell).2.2) := by
      rw [← first]
    rw [decodeAll, now]
    simp only [later]
    rfl

theorem outcomes_of_decodeAll {row : Nat} {columns : List Column} {lanes : List Lane} {cells : List Cell}
    (decoded : (decodeAll row columns lanes cells).1 = .ok ()) :
    ∀ outcome ∈ outcomes row columns lanes cells, outcome.1 = .ok () := by
  induction columns generalizing lanes cells with
  | nil => rintro _ ⟨⟩
  | cons column columns ih =>
    cases lanes with
    | nil => cases decoded
    | cons lane lanes =>
      cases cells with
      | nil => cases decoded
      | cons cell cells =>
        rw [decodeAll] at decoded
        cases now : decode column row lane cell with
        | mk result held =>
          rw [now] at decoded
          cases result with
          | error e => cases decoded
          | ok _ =>
            exact List.forall_mem_cons.mpr ⟨congrArg Prod.fst now, ih decoded⟩

theorem outcomes_permute (row : Nat) {columns : List Column} {lanes : List Lane} {cells : List Cell}
    (slots : columns.length = n) (aligned : lanes.length = n) (fits : cells.length = n) :
    outcomes row (permute p columns) (permute p lanes) (permute p cells) =
      permute p (outcomes row columns lanes cells) := by
  have zipped : (lanes.zip cells).length = n := by simp [aligned, fits]
  rw [outcomes, zip_permute aligned fits, zip_permute slots zipped, map_permute]
  rfl

/-- Moving the slots of a row moves its lanes and cells, or it moves the failure to another column. -/
theorem decodeAll_permute (row : Nat) {columns : List Column} {lanes : List Lane} {cells : List Cell}
    (slots : columns.length = n) (aligned : lanes.length = n) (fits : cells.length = n) :
    (∃ lanes' cells', decodeAll row columns lanes cells = (.ok (), lanes', cells') ∧
        decodeAll row (permute p columns) (permute p lanes) (permute p cells) =
          (.ok (), permute p lanes', permute p cells')) ∨
      ∃ e e', DecodeFault e ∧ DecodeFault e' ∧ (decodeAll row columns lanes cells).1 = .error e ∧
        (decodeAll row (permute p columns) (permute p lanes) (permute p cells)).1 = .error e' := by
  have moved := @outcomes_permute n p row _ _ _ slots aligned fits
  have laneEach : lanes.length = columns.length := aligned.trans slots.symm
  have cellEach : cells.length = columns.length := fits.trans slots.symm
  have alsoAligned : (permute p lanes).length = (permute p columns).length := by simp [aligned, slots]
  have alsoFits : (permute p cells).length = (permute p columns).length := by simp [fits, slots]
  have same : (∀ outcome ∈ permute p (outcomes row columns lanes cells), outcome.1 = .ok ()) ↔
      ∀ outcome ∈ outcomes row columns lanes cells, outcome.1 = .ok () := by
    simp only [mem_permute]
  cases result : (decodeAll row columns lanes cells).1 with
  | ok _ =>
    have whole := outcomes_of_decodeAll result
    refine .inl ⟨_, _, decodeAll_of_outcomes laneEach cellEach whole, ?_⟩
    rw [← same, ← moved] at whole
    rw [decodeAll_of_outcomes alsoAligned alsoFits whole, moved, map_permute, map_permute]
  | error e =>
    -- the failures need not be of one column, but were there none in the other order, there were none here
    cases again : (decodeAll row (permute p columns) (permute p lanes) (permute p cells)).1 with
    | ok _ =>
      have whole := outcomes_of_decodeAll again
      rw [moved, same] at whole
      rw [decodeAll_of_outcomes laneEach cellEach whole] at result
      cases result
    | error e' =>
      have fault := fault_of_decodeAll laneEach cellEach result
      have alsoFault := fault_of_decodeAll alsoAligned alsoFits again
      exact .inr ⟨e, e', fault, alsoFault, rfl, rfl⟩

end Cell

namespace Row

def permute (p : Equiv.Perm (Fin n)) (row : Row) : Row :=
  { row with cells := SeriesCursor.permute p row.cells }

theorem value?_of_inside {row : Row} {slot : Nat} (inside : slot < row.cells.length) :
    row.value? slot = row.cells[slot].value := by
  rw [value?, List.getElem?_eq_getElem inside]
  rfl

theorem value?_permute {row : Row} (fits : row.cells.length = n) (slot : Fin n) :
    (row.permute p).value? (p slot) = row.value? slot := by
  rw [value?, value?, permute, getElem?_permute fits]

section

variable {columns : List Column} {reader : PageReader} {row : Row}

theorem materialize_of_decodeAll {lanes : List Lane} {cells : List Cell}
    (enough : Page.timeWidth ≤ reader.time.length)
    (decoded : Cell.decodeAll reader.rowOffset columns reader.lanes row.cells = (.ok (), lanes, cells)) :
    row.materialize columns reader =
      (.ok (), ⟨reader.time.drop Page.timeWidth, lanes, reader.rowOffset + 1⟩,
        ⟨Bytes.toInt64 (reader.time.take Page.timeWidth), cells, true⟩) := by
  rw [materialize, if_neg (Nat.not_lt.mpr enough), decoded]

theorem materialize_of_failure {e : Error} (enough : Page.timeWidth ≤ reader.time.length)
    (failed : (Cell.decodeAll reader.rowOffset columns reader.lanes row.cells).1 = .error e) :
    (row.materialize columns reader).1 = .error e := by
  rw [materialize, if_neg (Nat.not_lt.mpr enough)]
  generalize Cell.decodeAll reader.rowOffset columns reader.lanes row.cells = decoded at failed ⊢
  obtain ⟨result, lanes, cells⟩ := decoded
  cases failed
  rfl

theorem materialize_permute (enough : Page.timeWidth ≤ reader.time.length) (slots : columns.length = n)
    (aligned : reader.lanes.length = n) (fits : row.cells.length = n) :
    (∃ next decoded, row.materialize columns reader = (.ok (), next, decoded) ∧
        (row.permute p).materialize (SeriesCursor.permute p columns) (reader.permute p) =
          (.ok (), next.permute p, decoded.permute p)) ∨
      ∃ e e', DecodeFault e ∧ DecodeFault e' ∧ (row.materialize columns reader).1 = .error e ∧
        ((row.permute p).materialize (SeriesCursor.permute p columns) (reader.permute p)).1 = .error e' := by
  have alsoEnough : Page.timeWidth ≤ (reader.permute p).time.length := enough
  rcases Cell.decodeAll_permute (p := p) reader.rowOffset slots aligned fits with
    ⟨lanes, cells, decoded, again⟩ | ⟨e, e', fault, alsoFault, failed, again⟩
  · refine .inl ⟨_, _, materialize_of_decodeAll enough decoded, ?_⟩
    exact materialize_of_decodeAll alsoEnough again
  · refine .inr ⟨e, e', fault, alsoFault, materialize_of_failure enough failed, ?_⟩
    exact materialize_of_failure alsoEnough again

end

end Row

inductive Held where
  | time
  | cell (type : DataType) (value : Option Bytes)

namespace Schema

/-- What a name stands for in a row, wherever its column is stored. -/
def held (schema : Schema) (row : Row) (name : String) : Except Error Held :=
  (schema.resolveName name).map fun found => match found with
    | .time => .time
    | .slot slot => .cell schema.columns[slot].type (row.value? slot)

section

variable {schema : Schema} {name : String} (data : schema.isTime name = false) (row : Row)

include data

theorem held_of_column (distinct : schema.Distinct) {slot : Nat} {column : Column}
    (known : schema.columns[slot]? = some column) (named : column.name = name) :
    schema.held row name = .ok (.cell column.type (row.value? slot)) := by
  cases found : schema.slot? name with
  | none =>
    have unlisted := List.findFinIdx?_eq_none_iff.mp found column (List.mem_of_getElem? known)
    simp [named] at unlisted
  | some other =>
    have sameName : schema.columns[other].name = name := by
      simpa using (List.findFinIdx?_eq_some_iff.mp found).1
    have here : schema.columns[other.val]? = some schema.columns[other] := List.getElem?_eq_getElem other.isLt
    have same := distinct other slot _ column here known (sameName.trans named.symm)
    rw [same, known] at here
    rw [held, resolveName, data, found, Option.some.inj here, ← same]
    rfl

theorem held_of_unlisted (unlisted : ∀ column ∈ schema.columns, column.name ≠ name) :
    schema.held row name = .error (.unknownColumn name) := by
  have missing : schema.slot? name = none := by
    refine List.findFinIdx?_eq_none_iff.mpr fun column known => ?_
    simpa using unlisted column known
  rw [held, resolveName, data, missing]
  rfl

end

theorem distinct_permute {schema : Schema} (slots : schema.slotCount = n) (distinct : schema.Distinct) :
    (schema.permute p).Distinct := by
  have origin : ∀ {slot : Nat} {column : Column}, (schema.permute p).columns[slot]? = some column →
      ∃ source : Fin n, slot = p source ∧ schema.columns[source.val]? = some column := by
    intro slot column found
    have inside : slot < n := by
      have bound := (List.getElem?_eq_some_iff.mp found).1
      rwa [permute, length_permute, show schema.columns.length = n from slots] at bound
    refine ⟨p.symm ⟨slot, inside⟩, by rw [Equiv.apply_symm_apply], ?_⟩
    rw [← found, permute, ← getElem?_permute (p := p) slots, Equiv.apply_symm_apply]
  intro slot other column later found alsoFound named
  obtain ⟨source, rfl, held⟩ := origin found
  obtain ⟨otherSource, rfl, alsoHeld⟩ := origin alsoFound
  rw [Fin.ext (distinct source otherSource column later held alsoHeld named)]

theorem held_permute {schema : Schema} {row : Row} (distinct : schema.Distinct) (slots : schema.slotCount = n)
    (fits : row.cells.length = n) (name : String) :
    (schema.permute p).held (row.permute p) name = schema.held row name := by
  cases data : schema.isTime name with
  | true =>
    have alsoData : (schema.permute p).isTime name = true := data
    simp only [held, resolveName, data, alsoData, if_true]
    rfl
  | false =>
    by_cases listed : ∃ column ∈ schema.columns, column.name = name
    · obtain ⟨column, known, named⟩ := listed
      obtain ⟨slot, inside, here⟩ := List.getElem_of_mem known
      have held : schema.columns[slot]? = some column := by rw [List.getElem?_eq_getElem inside, here]
      have moved := getElem?_permute (p := p) slots ⟨slot, slots ▸ inside⟩
      rw [held_of_column data row distinct held named,
        @held_of_column (schema.permute p) name data _ (distinct_permute slots distinct) _ _ (moved.trans held) named,
        Row.value?_permute fits]
    · have unlisted : ∀ column ∈ schema.columns, column.name ≠ name :=
        fun column known named => listed ⟨column, known, named⟩
      rw [held_of_unlisted data row unlisted]
      exact @held_of_unlisted (schema.permute p) name data _
        fun column known => unlisted column (mem_permute.mp known)

theorem resolveName_bind {α : Type} {schema other : Schema} {row otherRow : Row} {name : String}
    {rest : ColumnRef schema.slotCount → Except Error α} {otherRest : ColumnRef other.slotCount → Except Error α}
    (same : other.held otherRow name = schema.held row name) (time : otherRest .time = rest .time)
    (cell : ∀ slot otherSlot, other.columns[otherSlot].type = schema.columns[slot].type →
      otherRow.value? otherSlot.val = row.value? slot.val → otherRest (.slot otherSlot) = rest (.slot slot)) :
    other.resolveName name >>= otherRest = schema.resolveName name >>= rest := by
  rw [held, held] at same
  generalize schema.resolveName name = found at same ⊢
  generalize other.resolveName name = otherFound at same ⊢
  rcases found with e | found <;> rcases otherFound with e' | otherFound
  · cases same
    rfl
  · cases same
  · cases same
  · rcases found with _ | slot <;> rcases otherFound with _ | otherSlot
    · exact time
    · cases same
    · cases same
    · have cells := Held.cell.inj (Except.ok.inj same)
      exact cell slot otherSlot cells.1 cells.2

end Schema

namespace ResultSet

/-- Two sets with rows that may be read, in which every name stands for the same. -/
structure SameRow (set other : ResultSet) (row otherRow : Row) : Prop where
  readable : set.current = .ok row
  alsoReadable : other.current = .ok otherRow
  time : otherRow.time = row.time
  shown : other.schema.displayNames = set.schema.displayNames
  held : ∀ name, other.schema.held otherRow name = set.schema.held row name

namespace SameRow

variable {set other : ResultSet} {row otherRow : Row} (same : SameRow set other row otherRow)

include same

theorem columnFor (selector : Selector) : other.columnFor selector = set.columnFor selector := by
  cases selector with
  | name name => rfl
  | position index =>
    simp only [ResultSet.columnFor, same.readable, same.alsoReadable, Schema.nameAt, Schema.displayCount, same.shown]
    rfl

theorem typedBytes (column : String) (expected : DataType) :
    other.typedBytes column expected = set.typedBytes column expected := by
  rw [ResultSet.typedBytes, ResultSet.typedBytes, same.readable, same.alsoReadable]
  refine Schema.resolveName_bind (same.held column) rfl fun slot otherSlot type value => ?_
  simp only [type, cellBytes, value]

theorem getLong (selector : Selector) : other.getLong selector = set.getLong selector := by
  rw [ResultSet.getLong, ResultSet.getLong, same.columnFor, same.readable, same.alsoReadable]
  refine bind_congr fun column => Schema.resolveName_bind (same.held column) ?_ fun _ _ _ _ => ?_
  · rw [same.time]
  · rw [same.typedBytes]

theorem getValue (selector : Selector) : other.getValue selector = set.getValue selector := by
  rw [ResultSet.getValue, ResultSet.getValue, same.columnFor, same.readable, same.alsoReadable]
  refine bind_congr fun column => Schema.resolveName_bind (same.held column) ?_ fun slot otherSlot type value => ?_
  · rw [same.time]
  · simp only [type, cellBytes, value]

theorem getBytes (selector : Selector) : other.getBytes selector = set.getBytes selector := by
  rw [ResultSet.getBytes, ResultSet.getBytes, same.columnFor, same.readable, same.alsoReadable]
  refine bind_congr fun column => Schema.resolveName_bind (same.held column) rfl fun slot otherSlot type value => ?_
  simp only [cellBytes, value]

theorem isNull (selector : Selector) : other.isNull selector = set.isNull selector := by
  rw [ResultSet.isNull, ResultSet.isNull, same.columnFor, same.readable, same.alsoReadable]
  refine bind_congr fun column => Schema.resolveName_bind (same.held column) rfl fun slot otherSlot type value => ?_
  simp only [Row.isNull, value]

theorem read (reading : Reading) (selector : Selector) : other.read reading selector = set.read reading selector := by
  cases reading with
  | boolean => simp only [ResultSet.read, getBoolean, same.columnFor, same.typedBytes]
  | int => simp only [ResultSet.read, getInt, same.columnFor, same.typedBytes]
  | long => simp only [ResultSet.read, same.getLong]
  | float => simp only [ResultSet.read, getFloat, same.columnFor, same.typedBytes]
  | double => simp only [ResultSet.read, getDouble, same.columnFor, same.typedBytes]
  | text => simp only [ResultSet.read, getText, same.columnFor, same.typedBytes]
  | plain => simp only [ResultSet.read, getPlain, same.getValue]
  | value => simp only [ResultSet.read, same.getValue]
  | instant => simp only [ResultSet.read, getInstant, same.getLong]
  | bytes => simp only [ResultSet.read, same.getBytes]
  | isNull => simp only [ResultSet.read, same.isNull]

end SameRow

def field (column : Column) (cell : Cell) : Except Error (String × Option Value) :=
  match cell.value with
  | some raw => (Value.decode column.type raw column.name).map fun value => (column.name, some value)
  | none => .ok (column.name, none)

theorem recordFields_cons {row : Row} {slot : Nat} (inside : slot < row.cells.length) (column : Column)
    (columns : List Column) :
    recordFields row slot (column :: columns) = (do
      let first ← field column row.cells[slot]
      let later ← recordFields row (slot + 1) columns
      .ok (first :: later)) := by
  rw [recordFields, field, Row.value?_of_inside inside]
  cases row.cells[slot].value with
  | none => rfl
  | some raw =>
    dsimp only
    cases Value.decode column.type raw column.name <;> rfl

theorem currentRow_of_readable {set : ResultSet} {row : Row} (readable : set.current = .ok row) :
    set.currentRow = (recordFields row 0 set.schema.columns).map fun fields =>
      ⟨if set.schema.includesTime then some row.time else none, fields⟩ := by
  rw [currentRow, readable]
  change recordFields row 0 set.schema.columns >>= _ = _
  cases recordFields row 0 set.schema.columns <;> rfl

theorem recordFields_eq_ok_iff {row : Row} {slot : Nat} {columns : List Column}
    {fields : List (String × Option Value)} (fits : row.cells.length = slot + columns.length) :
    recordFields row slot columns = .ok fields ↔
      (columns.zip (row.cells.drop slot)).map (fun held => field held.1 held.2) = fields.map .ok := by
  induction columns generalizing slot fields with
  | nil =>
    rw [recordFields, List.zip_nil_left, List.map_nil, Except.ok.injEq, eq_comm, eq_comm (a := []),
      List.map_eq_nil_iff]
  | cons column columns ih =>
    have inside : slot < row.cells.length := by
      rw [fits, List.length_cons]
      omega
    have rest : row.cells.length = slot + 1 + columns.length := by
      rw [fits, List.length_cons]
      omega
    rw [recordFields_cons inside, List.drop_eq_getElem_cons inside, List.zip_cons_cons, List.map_cons]
    constructor
    · intro whole
      obtain ⟨first, now, whole⟩ := ok_of_bind whole
      obtain ⟨later, others, ⟨⟩⟩ := ok_of_bind whole
      rw [List.map_cons, (ih rest).mp others, now]
    · intro told
      cases fields with
      | nil => cases told
      | cons first later =>
        obtain ⟨now, others⟩ := List.cons.inj told
        rw [now, (ih rest).mpr others]
        rfl

theorem recordFields_permute {row : Row} {columns : List Column} (slots : columns.length = n)
    (fits : row.cells.length = n) :
    (∃ fields, recordFields row 0 columns = .ok fields ∧
        recordFields (row.permute p) 0 (permute p columns) = .ok (permute p fields)) ∨
      ∃ e e', recordFields row 0 columns = .error e ∧
        recordFields (row.permute p) 0 (permute p columns) = .error e' := by
  have told : ∀ fields, recordFields row 0 columns = .ok fields ↔
      recordFields (row.permute p) 0 (permute p columns) = .ok (permute p fields) := by
    intro fields
    rw [recordFields_eq_ok_iff (by simp [slots, fits]), recordFields_eq_ok_iff (by simp [Row.permute, slots, fits]),
      List.drop_zero, List.drop_zero, Row.permute, zip_permute slots fits, map_permute, map_permute]
    constructor
    · intro same
      rw [same]
    · intro same
      rw [← permute_symm (p := p) (List.map _ _), same, permute_symm]
  cases whole : recordFields row 0 columns with
  | ok fields => exact .inl ⟨fields, rfl, (told fields).mp whole⟩
  | error e =>
    cases again : recordFields (row.permute p) 0 (permute p columns) with
    | error e' => exact .inr ⟨e, e', rfl, rfl⟩
    | ok fields =>
      have back := (told (permute p.symm fields)).mpr (by rw [again, permute_permute_symm])
      rw [back] at whole
      cases whole

end ResultSet

end SeriesCursor
