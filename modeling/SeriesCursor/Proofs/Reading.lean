import SeriesCursor.ResultSet.Call

/-!
What a call that reads can see: the schema, and the row in hand if that may be read. Two sets that agree
in these give the same answers, however they came about; without a row that may be read, every call that
reads fails in the same way, before it looks at the column that is asked for.
-/

namespace SeriesCursor

def Call.readsRow : Call → Bool
  | .read _ _ | .currentRow => true
  | .advance | .setPage _ | .close => false

namespace ResultSet

variable {set : ResultSet}

theorem current_eq_ok {row : Row} (readable : set.current = .ok row) :
    row = set.row ∧ set.row.present = true := by
  unfold current at readable
  split at readable
  · cases readable
  · split at readable
    · rename_i present
      cases readable
      exact ⟨rfl, present⟩
    · cases readable

theorem current_of_opened (opened : set.state ≠ .closed) (present : set.row.present = true) :
    set.current = .ok set.row := by
  rw [current, if_neg opened, if_pos present]

theorem current_of_closed (closed : set.state = .closed) : set.current = .error .closed := by
  rw [current, if_pos closed]

theorem current_of_no_row (openSet : set.state ≠ .closed) (noRow : set.row.present = false) :
    set.current = .error .noCurrentRow := by
  rw [current, if_neg openSet, noRow]
  rfl

section

variable {other : ResultSet} (schema : set.schema = other.schema) (current : set.current = other.current)

include schema current

theorem columnFor_of_current (selector : Selector) : set.columnFor selector = other.columnFor selector := by
  cases selector with
  | name name => rfl
  | position index => rw [columnFor, columnFor, current, schema]

theorem typedBytes_of_current (column : String) (expected : DataType) :
    set.typedBytes column expected = other.typedBytes column expected := by
  cases set
  cases other
  cases schema
  rw [typedBytes, typedBytes, current]
  refine bind_congr fun row => bind_congr fun found => ?_
  cases found <;> rfl

theorem getLong_of_current (selector : Selector) : set.getLong selector = other.getLong selector := by
  have named := columnFor_of_current schema current selector
  have typed := typedBytes_of_current schema current
  cases set
  cases other
  cases schema
  simp only [getLong, named, current, typed]
  refine bind_congr fun column => bind_congr fun row => bind_congr fun found => ?_
  cases found <;> rfl

theorem getValue_of_current (selector : Selector) : set.getValue selector = other.getValue selector := by
  have named := columnFor_of_current schema current selector
  cases set
  cases other
  cases schema
  simp only [getValue, named, current]
  refine bind_congr fun column => bind_congr fun row => bind_congr fun found => ?_
  cases found <;> rfl

theorem getBytes_of_current (selector : Selector) : set.getBytes selector = other.getBytes selector := by
  have named := columnFor_of_current schema current selector
  cases set
  cases other
  cases schema
  simp only [getBytes, named, current]
  refine bind_congr fun column => bind_congr fun row => bind_congr fun found => ?_
  cases found <;> rfl

theorem isNull_of_current (selector : Selector) : set.isNull selector = other.isNull selector := by
  have named := columnFor_of_current schema current selector
  cases set
  cases other
  cases schema
  simp only [isNull, named, current]
  refine bind_congr fun column => bind_congr fun row => bind_congr fun found => ?_
  cases found <;> rfl

/-- Readers see the schema and the row in hand, and nothing else of a set. -/
theorem perform_of_readsRow {call : Call} (reads : call.readsRow = true) :
    (set.perform call).1 = (other.perform call).1 := by
  have named := columnFor_of_current schema current
  have typed := typedBytes_of_current schema current
  have long := getLong_of_current schema current
  cases call with
  | read reading selector =>
    cases reading with
    | boolean => simp only [perform, read, getBoolean, named, typed]
    | int => simp only [perform, read, getInt, named, typed]
    | long => simp only [perform, read, long]
    | float => simp only [perform, read, getFloat, named, typed]
    | double => simp only [perform, read, getDouble, named, typed]
    | text => simp only [perform, read, getText, named, typed]
    | plain => simp only [perform, read, getPlain, getValue_of_current schema current]
    | value => simp only [perform, read, getValue_of_current schema current]
    | instant => simp only [perform, read, getInstant, long]
    | bytes => simp only [perform, read, getBytes_of_current schema current]
    | isNull => simp only [perform, read, isNull_of_current schema current]
  | currentRow => simp only [perform, currentRow, current, schema]
  | advance => cases reads
  | setPage => cases reads
  | close => cases reads

end

section

variable {e : Error} (unreadable : set.current = .error e)

include unreadable

theorem columnFor_bind_of_unreadable {α : Type} (selector : Selector) (rest : String → Except Error α)
    (fails : ∀ column, rest column = .error e) : set.columnFor selector >>= rest = .error e := by
  cases selector with
  | name name => exact fails name
  | position index =>
    rw [columnFor, unreadable]
    rfl

theorem typedBytes_bind_of_unreadable {α : Type} (selector : Selector) (expected : DataType)
    (decode : Bytes → String → Except Error α) :
    (do let column ← set.columnFor selector; decode (← set.typedBytes column expected) column) = .error e := by
  refine columnFor_bind_of_unreadable unreadable selector _ fun column => ?_
  rw [typedBytes, unreadable]
  rfl

theorem getLong_of_unreadable (selector : Selector) : set.getLong selector = .error e :=
  columnFor_bind_of_unreadable unreadable selector _ fun column => by rw [unreadable]; rfl

theorem getValue_of_unreadable (selector : Selector) : set.getValue selector = .error e :=
  columnFor_bind_of_unreadable unreadable selector _ fun column => by rw [unreadable]; rfl

theorem read_of_unreadable (reading : Reading) (selector : Selector) : set.read reading selector = .error e := by
  have typed := @typedBytes_bind_of_unreadable set e unreadable
  cases reading with
  | boolean => exact congrArg (Except.map Answer.bool) (typed selector .boolean Value.readBool)
  | int => exact congrArg (Except.map Answer.int) (typed selector .int32 Value.readInt32)
  | long => exact congrArg (Except.map Answer.long) (getLong_of_unreadable unreadable selector)
  | float => exact congrArg (Except.map Answer.float) (typed selector .float Value.readFloat)
  | double => exact congrArg (Except.map Answer.double) (typed selector .double Value.readDouble)
  | text => exact congrArg (Except.map Answer.text) (typed selector .text Value.readText)
  | plain =>
    rw [read, getPlain, getValue_of_unreadable unreadable]
    rfl
  | value => exact congrArg (Except.map Answer.value) (getValue_of_unreadable unreadable selector)
  | instant =>
    rw [read, getInstant, getLong_of_unreadable unreadable]
    rfl
  | bytes =>
    exact congrArg (Except.map Answer.bytes)
      (columnFor_bind_of_unreadable unreadable selector _ fun column => by rw [unreadable]; rfl)
  | isNull =>
    exact congrArg (Except.map Answer.bool)
      (columnFor_bind_of_unreadable unreadable selector _ fun column => by rw [unreadable]; rfl)

theorem perform_of_unreadable {call : Call} (reads : call.readsRow = true) :
    (set.perform call).1 = .error e := by
  cases call with
  | read reading selector => exact read_of_unreadable unreadable reading selector
  | currentRow =>
    rw [perform, currentRow, unreadable]
    rfl
  | advance => cases reads
  | setPage => cases reads
  | close => cases reads

end

end ResultSet

end SeriesCursor
