import Mathlib.Data.Nat.Basic
import SeriesCursor.Proofs.Framing
import SeriesCursor.Proofs.Reading
import SeriesCursor.Proofs.Transitions

/-!
A cell holds as many bytes as its type takes, whatever the server sends: what is taken off a buffer for a
value is a frame of the column's type, and a failure leaves the cell as it was. The widths that are taken
and the widths that are read stand in two places; because they agree, no reader ever runs out of bytes.
-/

namespace SeriesCursor

namespace Cell

def FitsIn (column : Column) (cell : Cell) : Prop :=
  ∀ raw, cell.value = some raw → Frame.Fits column.type raw

def AllFit (columns : List Column) (cells : List Cell) : Prop :=
  ∀ (slot : Nat) (column : Column) (cell : Cell),
    columns[slot]? = some column → cells[slot]? = some cell → cell.FitsIn column

theorem allFit_cons {column : Column} {columns : List Column} {cell : Cell} {cells : List Cell} :
    AllFit (column :: columns) (cell :: cells) ↔ cell.FitsIn column ∧ AllFit columns cells := by
  constructor
  · intro fits
    exact ⟨fits 0 column cell rfl rfl, fun slot => fits (slot + 1)⟩
  · rintro ⟨first, rest⟩ slot
    cases slot with
    | zero =>
      rintro _ _ ⟨⟩ ⟨⟩
      exact first
    | succ slot => exact rest slot

theorem allFit_empty (columns : List Column) (slots : Nat) : AllFit columns (List.replicate slots Cell.empty) := by
  intro slot column cell _ held raw value
  rw [List.getElem?_replicate] at held
  split at held
  · cases held
    cases value
  · cases held

theorem value_refresh (column : Column) (row : Nat) (lane : Lane) (cell : Cell) :
    (refresh column row lane cell).2.2.value = cell.value := by
  unfold refresh
  split
  · cases lane.bitmap <;> rfl
  · rfl

theorem fitsIn_fill {column : Column} (row : Nat) (lane : Lane) {cell : Cell} (fits : cell.FitsIn column) :
    (fill column row lane cell).2.2.FitsIn column := by
  unfold fill
  split
  · rintro _ ⟨⟩
  · split
    · rename_i raw rest taken
      rintro _ ⟨⟩
      exact (Frame.eq_write_of_take taken).2
    · exact fits

theorem fitsIn_decode {column : Column} (row : Nat) (lane : Lane) {cell : Cell} (fits : cell.FitsIn column) :
    (decode column row lane cell).2.2.FitsIn column := by
  have refreshed : (refresh column row lane cell).2.2.FitsIn column := by
    rw [FitsIn, value_refresh]
    exact fits
  unfold decode
  split
  · rename_i held
    rw [held] at refreshed
    exact fitsIn_fill row _ refreshed
  · exact refreshed

theorem allFit_decodeAll (row : Nat) {columns : List Column} (lanes : List Lane) {cells : List Cell}
    (fits : AllFit columns cells) : AllFit columns (decodeAll row columns lanes cells).2.2 := by
  induction columns generalizing lanes cells with
  | nil => exact fits
  | cons column columns ih =>
    cases lanes with
    | nil => exact fits
    | cons lane lanes =>
      cases cells with
      | nil => exact fits
      | cons cell cells =>
        obtain ⟨first, rest⟩ := allFit_cons.mp fits
        have decoded := fitsIn_decode row lane first
        rw [decodeAll]
        generalize decode column row lane cell = outcome at decoded ⊢
        obtain ⟨result, lane', cell'⟩ := outcome
        cases result with
        | error e => exact allFit_cons.mpr ⟨decoded, rest⟩
        | ok _ => exact allFit_cons.mpr ⟨decoded, ih lanes rest⟩

end Cell

theorem Row.allFit_materialize {columns : List Column} {row : Row} (reader : PageReader)
    (fits : Cell.AllFit columns row.cells) : Cell.AllFit columns (row.materialize columns reader).2.2.cells := by
  unfold materialize
  split
  · exact fits
  · have decoded := Cell.allFit_decodeAll reader.rowOffset reader.lanes fits
    dsimp only
    split <;> rename_i result <;> rw [result] at decoded <;> exact decoded

def Untruncated {α : Type} (result : Except Error α) : Prop :=
  ∀ part needed remaining, result ≠ .error (.truncated part needed remaining)

section

variable {α β : Type}

theorem ok_of_bind {first : Except Error α} {rest : α → Except Error β} {b : β}
    (done : first >>= rest = .ok b) : ∃ a, first = .ok a ∧ rest a = .ok b := by
  cases first with
  | error e => cases done
  | ok a => exact ⟨a, rfl, done⟩

theorem ok_of_map {f : α → β} {first : Except Error α} {b : β} (done : first.map f = .ok b) :
    ∃ a, first = .ok a ∧ f a = b := by
  cases first with
  | error e => cases done
  | ok a => exact ⟨a, rfl, Except.ok.inj done⟩

theorem error_of_map {f : α → β} {first : Except Error α} {e : Error} (failed : first.map f = .error e) :
    first = .error e := by
  cases first with
  | error e => exact congrArg Except.error (Except.error.inj failed)
  | ok a => cases failed

theorem untruncated_ok (a : α) : Untruncated (.ok a : Except Error α) := by
  rintro _ _ _ ⟨⟩

theorem untruncated_bind {result : Except Error α} {rest : α → Except Error β} (first : Untruncated result)
    (next : ∀ a, result = .ok a → Untruncated (rest a)) : Untruncated (result >>= rest) := by
  cases result with
  | error e =>
    intro part needed remaining stopped
    cases stopped
    exact first part needed remaining rfl
  | ok a => exact next a rfl

theorem untruncated_map {result : Except Error α} (f : α → β) (whole : Untruncated result) :
    Untruncated (result.map f) := by
  cases result with
  | error e =>
    intro part needed remaining stopped
    cases stopped
    exact whole part needed remaining rfl
  | ok a => exact untruncated_ok (f a)

end

namespace Value

theorem ofWidth_of_length {width : Nat} {raw : Bytes} (fits : raw.length = width) (column : String) :
    ofWidth width raw column = .ok raw :=
  if_pos fits

theorem untruncated_readText (raw : Bytes) (column : String) : Untruncated (readText raw column) := by
  unfold readText
  split
  · exact untruncated_ok _
  · rintro _ _ _ ⟨⟩

section

variable (raw : Bytes) (column : String)

theorem untruncated_readBool (fits : Frame.Fits .boolean raw) : Untruncated (readBool raw column) := by
  rw [readBool, ofWidth_of_length fits]
  exact untruncated_ok _

theorem untruncated_readInt32 (fits : Frame.Fits .int32 raw) : Untruncated (readInt32 raw column) := by
  rw [readInt32, ofWidth_of_length fits]
  exact untruncated_ok _

theorem untruncated_readInt64 (fits : Frame.Fits .int64 raw) : Untruncated (readInt64 raw column) := by
  rw [readInt64, ofWidth_of_length fits]
  exact untruncated_ok _

theorem untruncated_readFloat (fits : Frame.Fits .float raw) : Untruncated (readFloat raw column) := by
  rw [readFloat, ofWidth_of_length fits]
  exact untruncated_ok _

theorem untruncated_readDouble (fits : Frame.Fits .double raw) : Untruncated (readDouble raw column) := by
  rw [readDouble, ofWidth_of_length fits]
  exact untruncated_ok _

theorem untruncated_decode {type : DataType} (fits : Frame.Fits type raw) :
    Untruncated (decode type raw column) := by
  cases type with
  | boolean => exact untruncated_map _ (untruncated_readBool raw column fits)
  | int32 => exact untruncated_map _ (untruncated_readInt32 raw column fits)
  | int64 => exact untruncated_map _ (untruncated_readInt64 raw column fits)
  | float => exact untruncated_map _ (untruncated_readFloat raw column fits)
  | double => exact untruncated_map _ (untruncated_readDouble raw column fits)
  | text => exact untruncated_map _ (untruncated_readText raw column)

end

theorem type?_of_decode {type : DataType} {raw : Bytes} {column : String} {value : Value}
    (decoded : decode type raw column = .ok value) : value.type? = some type := by
  cases type <;> obtain ⟨_, _, rfl⟩ := ok_of_map decoded <;> rfl

theorem decode_of_fits {type : DataType} {raw : Bytes} (fits : Frame.Fits type raw) (column : String) :
    (∃ value, value.type? = some type ∧ decode type raw column = .ok value) ∨
      type = .text ∧ raw.toText? = none ∧ decode type raw column = .error (.invalidText column) := by
  cases type with
  | boolean => exact .inl ⟨.bool _, rfl, by rw [decode, readBool, ofWidth_of_length fits]; rfl⟩
  | int32 => exact .inl ⟨.int32 _, rfl, by rw [decode, readInt32, ofWidth_of_length fits]; rfl⟩
  | int64 => exact .inl ⟨.int64 _, rfl, by rw [decode, readInt64, ofWidth_of_length fits]; rfl⟩
  | float => exact .inl ⟨.float _, rfl, by rw [decode, readFloat, ofWidth_of_length fits]; rfl⟩
  | double => exact .inl ⟨.double _, rfl, by rw [decode, readDouble, ofWidth_of_length fits]; rfl⟩
  | text =>
    cases spelled : raw.toText? with
    | some s => exact .inl ⟨.text s, rfl, by rw [decode, readText, spelled]; rfl⟩
    | none => exact .inr ⟨rfl, rfl, by rw [decode, readText, spelled]; rfl⟩

end Value

namespace ResultSet

variable {set : ResultSet}

/-- The cells of the row in hand hold values of the types of their columns. -/
def Whole (set : ResultSet) : Prop :=
  Cell.AllFit set.schema.columns set.row.cells

theorem whole_readRow (whole : Whole set) : Whole set.readRow.2 := by
  have fits := Row.allFit_materialize set.page whole
  rw [readRow]
  generalize set.row.materialize set.schema.columns set.page = outcome at fits ⊢
  obtain ⟨result, reader, row⟩ := outcome
  cases result <;> exact fits

theorem whole_perform (whole : Whole set) (call : Call) : Whole (set.perform call).2 := by
  cases call with
  | advance =>
    have advanced := advance_advanced set
    change Whole set.advance.2
    generalize set.advance = outcome at advanced ⊢
    cases advanced with
    | unusable => exact whole
    | read => exact whole_readRow whole
    | ended => exact whole
    | unserved => exact whole
    | sought server =>
      have waiting : Whole set.waiting := whole
      refine seek_induction (fun outcome => Whole outcome.2) ?_ ?_ ?_ ?_ ?_ waiting server.fetchReplies
      · exact fun _ _ whole => whole
      · exact fun _ _ _ whole _ => whole
      · exact fun _ whole => whole
      · exact fun _ _ _ whole _ _ => whole
      · intro set page reader whole _ _
        exact @whole_readRow (set.install page reader) whole
  | setPage page =>
    have pageSet := setPage_pageSet set page
    change Whole (set.setPage page).2
    generalize set.setPage page = outcome at pageSet ⊢
    cases pageSet <;> exact whole
  | close =>
    change Whole set.close.2
    by_cases closed : set.state = .closed
    · rw [close_of_closed closed]
      exact whole
    · obtain ⟨entries, next⟩ := close_eq_released closed
      rw [next]
      exact whole
  | read => exact whole
  | currentRow => exact whole

theorem whole_run (whole : Whole set) (calls : List Call) : Whole (set.run calls) :=
  run_keeps (P := Whole) (fun _ call whole => whole_perform whole call) whole calls

theorem whole_create {options : Options} {schema : Schema} {server : Server} {initial : Option Page}
    (created : create options schema server initial = .ok set) : Whole set := by
  cases create_created created <;> exact Cell.allFit_empty _ _

theorem untruncated_current (set : ResultSet) : Untruncated set.current := by
  unfold current
  split
  · rintro _ _ _ ⟨⟩
  · split
    · exact untruncated_ok _
    · rintro _ _ _ ⟨⟩

theorem untruncated_resolveName (schema : Schema) (name : String) : Untruncated (schema.resolveName name) := by
  unfold Schema.resolveName
  split
  · exact untruncated_ok _
  · split
    · exact untruncated_ok _
    · rintro _ _ _ ⟨⟩

theorem untruncated_columnFor (set : ResultSet) (selector : Selector) : Untruncated (set.columnFor selector) := by
  cases selector with
  | name name => exact untruncated_ok name
  | position index =>
    refine untruncated_bind (untruncated_current set) fun _ _ => ?_
    unfold Schema.nameAt
    split
    · rintro _ _ _ ⟨⟩
    · split
      · exact untruncated_ok _
      · rintro _ _ _ ⟨⟩

theorem untruncated_cellBytes (row : Row) (slot : Nat) (column : String) :
    Untruncated (cellBytes row slot column) := by
  unfold cellBytes
  split
  · exact untruncated_ok _
  · rintro _ _ _ ⟨⟩

theorem value?_of_cellBytes {row : Row} {slot : Nat} {column : String} {raw : Bytes}
    (read : cellBytes row slot column = .ok raw) : row.value? slot = some raw := by
  unfold cellBytes at read
  split at read
  · rename_i held
    cases read
    exact held
  · cases read

theorem slot_of_typedBytes {set : ResultSet} {column : String} {expected : DataType} {raw : Bytes}
    (read : set.typedBytes column expected = .ok raw) :
    ∃ slot, set.schema.resolveName column = .ok (.slot slot) ∧ set.schema.columns[slot].type = expected ∧
      set.row.value? slot = some raw := by
  obtain ⟨row, readable, read⟩ := ok_of_bind read
  obtain ⟨found, resolved, read⟩ := ok_of_bind read
  obtain ⟨rfl, _⟩ := current_eq_ok readable
  cases found with
  | time => cases read
  | slot slot =>
    dsimp only at read
    split at read
    · rename_i same
      exact ⟨slot, resolved, same, value?_of_cellBytes read⟩
    · cases read

theorem untruncated_typedBytes (set : ResultSet) (column : String) (expected : DataType) :
    Untruncated (set.typedBytes column expected) := by
  refine untruncated_bind (untruncated_current set) fun row _ =>
    untruncated_bind (untruncated_resolveName set.schema column) fun found _ => ?_
  cases found with
  | time => rintro _ _ _ ⟨⟩
  | slot slot =>
    dsimp only
    split
    · exact untruncated_cellBytes _ _ _
    · rintro _ _ _ ⟨⟩

section

variable (fits : Cell.AllFit set.schema.columns set.row.cells)

include fits

theorem fits_of_value? {slot : Nat} {column : Column} {raw : Bytes} (known : set.schema.columns[slot]? = some column)
    (held : set.row.value? slot = some raw) : Frame.Fits column.type raw := by
  obtain ⟨cell, inSlot, value⟩ := Option.bind_eq_some_iff.mp held
  exact fits slot column cell known inSlot raw value

theorem fits_of_typedBytes {column : String} {expected : DataType} {raw : Bytes}
    (read : set.typedBytes column expected = .ok raw) : Frame.Fits expected raw := by
  obtain ⟨slot, _, same, held⟩ := slot_of_typedBytes read
  rw [← same]
  exact fits_of_value? fits (List.getElem?_eq_getElem slot.isLt) held

theorem untruncated_typed {α : Type} (selector : Selector) (expected : DataType)
    (decode : Bytes → String → Except Error α)
    (whole : ∀ raw column, Frame.Fits expected raw → Untruncated (decode raw column)) :
    Untruncated (do let column ← set.columnFor selector; decode (← set.typedBytes column expected) column) :=
  untruncated_bind (untruncated_columnFor set selector) fun column _ =>
    untruncated_bind (untruncated_typedBytes set column expected) fun raw read =>
      whole raw column (fits_of_typedBytes fits read)

theorem untruncated_getLong (selector : Selector) : Untruncated (set.getLong selector) := by
  refine untruncated_bind (untruncated_columnFor set selector) fun column _ =>
    untruncated_bind (untruncated_current set) fun row _ =>
      untruncated_bind (untruncated_resolveName set.schema column) fun found _ => ?_
  cases found with
  | time => exact untruncated_ok _
  | slot slot =>
    exact untruncated_bind (untruncated_typedBytes set column .int64) fun raw read =>
      Value.untruncated_readInt64 raw column (fits_of_typedBytes fits read)

theorem untruncated_getValue (selector : Selector) : Untruncated (set.getValue selector) := by
  refine untruncated_bind (untruncated_columnFor set selector) fun column _ =>
    untruncated_bind (untruncated_current set) fun row readable =>
      untruncated_bind (untruncated_resolveName set.schema column) fun found _ => ?_
  obtain ⟨rfl, _⟩ := current_eq_ok readable
  cases found with
  | time => exact untruncated_ok _
  | slot slot =>
    refine untruncated_bind (untruncated_cellBytes _ _ _) fun raw read => Value.untruncated_decode raw column ?_
    exact fits_of_value? fits (List.getElem?_eq_getElem slot.isLt) (value?_of_cellBytes read)

theorem untruncated_read (reading : Reading) (selector : Selector) : Untruncated (set.read reading selector) := by
  have typed := @untruncated_typed set fits
  cases reading with
  | boolean => exact untruncated_map _ (typed selector .boolean Value.readBool Value.untruncated_readBool)
  | int => exact untruncated_map _ (typed selector .int32 Value.readInt32 Value.untruncated_readInt32)
  | long => exact untruncated_map _ (untruncated_getLong fits selector)
  | float => exact untruncated_map _ (typed selector .float Value.readFloat Value.untruncated_readFloat)
  | double => exact untruncated_map _ (typed selector .double Value.readDouble Value.untruncated_readDouble)
  | text =>
    have whole := fun raw column (_ : Frame.Fits .text raw) => Value.untruncated_readText raw column
    exact untruncated_map _ (typed selector .text Value.readText whole)
  | plain =>
    exact untruncated_map _ (untruncated_bind (untruncated_getValue fits selector) fun value _ => untruncated_ok _)
  | value => exact untruncated_map _ (untruncated_getValue fits selector)
  | instant =>
    refine untruncated_map _ (untruncated_bind (untruncated_getLong fits selector) fun millis _ => ?_)
    split
    · exact untruncated_ok _
    · rintro _ _ _ ⟨⟩
  | bytes =>
    refine untruncated_map _ (untruncated_bind (untruncated_columnFor set selector) fun column _ =>
      untruncated_bind (untruncated_current set) fun row _ =>
        untruncated_bind (untruncated_resolveName set.schema column) fun found _ => ?_)
    cases found with
    | time => rintro _ _ _ ⟨⟩
    | slot slot => exact untruncated_cellBytes _ _ _
  | isNull =>
    refine untruncated_map _ (untruncated_bind (untruncated_columnFor set selector) fun column _ =>
      untruncated_bind (untruncated_current set) fun row _ =>
        untruncated_bind (untruncated_resolveName set.schema column) fun found _ => ?_)
    cases found <;> exact untruncated_ok _

end

theorem untruncated_recordFields {row : Row} {slot : Nat} {columns : List Column}
    (fits : ∀ (later : Nat) (column : Column) (raw : Bytes), columns[later]? = some column →
      row.value? (slot + later) = some raw → Frame.Fits column.type raw) :
    Untruncated (recordFields row slot columns) := by
  induction columns generalizing slot with
  | nil => exact untruncated_ok _
  | cons column columns ih =>
    have rest : Untruncated (recordFields row (slot + 1) columns) := by
      refine ih fun later column raw known held => ?_
      rw [Nat.add_assoc, Nat.add_comm 1 later] at held
      exact fits (later + 1) column raw known held
    rw [recordFields]
    split
    · rename_i raw held
      have whole := untruncated_map some (Value.untruncated_decode raw column.name (fits 0 column raw rfl held))
      exact untruncated_bind whole fun value _ => untruncated_bind rest fun later _ => untruncated_ok _
    · exact untruncated_bind (untruncated_ok none) fun value _ =>
        untruncated_bind rest fun later _ => untruncated_ok _

theorem untruncated_perform (fits : Cell.AllFit set.schema.columns set.row.cells) {call : Call}
    (reads : call.readsRow = true) : Untruncated (set.perform call).1 := by
  cases call with
  | read reading selector => exact untruncated_read fits reading selector
  | currentRow =>
    refine untruncated_map _ (untruncated_bind (untruncated_current set) fun row readable =>
      untruncated_bind ?_ fun fields _ => untruncated_ok _)
    obtain ⟨rfl, _⟩ := current_eq_ok readable
    refine untruncated_recordFields fun later column raw known held => ?_
    rw [Nat.zero_add] at held
    exact fits_of_value? fits known held
  | advance => cases reads
  | setPage => cases reads
  | close => cases reads

end ResultSet

end SeriesCursor
