import SeriesCursor.Proofs.PageRoundTrip
import SeriesCursor.Proofs.Transitions

/-!
Pages are not seen from outside. However a list of rows is cut into pages, and wherever requests fail
between them, calls for the next row give every row once and in order, every failure once and where it
happened, and nothing else before the end of the data.
-/

namespace SeriesCursor

structure ValueRow where
  time : Int64
  values : List (Option Value)
  deriving DecidableEq, Repr

namespace ValueRow

structure Fits (columns : List Column) (row : ValueRow) : Prop where
  slots : row.values.length = columns.length
  types : ∀ (slot : Nat) (column : Column) (value : Value), columns[slot]? = some column →
    row.values[slot]? = some (some value) → value.type? = some column.type
  texts : ∀ s, some (.text s) ∈ row.values → (Bytes.ofText s).length < Nat.pow 2 31

def encoded (row : ValueRow) : PageRow :=
  .ofValues row.time row.values

def record (schema : Schema) (row : ValueRow) : Record :=
  ⟨if schema.includesTime then some row.time else none,
    schema.columns.zipWith (fun column value => (column.name, value)) row.values⟩

end ValueRow

/-- What the server delivers for one request: a page, or one of the failures that can be repeated. -/
inductive Delivery where
  | page (message : Option String) (rows : List ValueRow)
  | lost (fault : TransportFault)
  | refused (response : Response) (refusal : response.status.code ≠ 200)

namespace Delivery

def rows : Delivery → List ValueRow
  | page _ rows => rows
  | lost _ | refused _ _ => []

def pageOf (columns : List Column) (rows : List ValueRow) : Page :=
  .ofRows (columns.map Column.type) (rows.map ValueRow.encoded)

def reply (columns : List Column) : Delivery → FetchReply
  | page message rows => .answered ⟨⟨200, message⟩, true, some (pageOf columns rows)⟩
  | lost fault => .lost fault
  | refused response _ => .answered response

def failure? : Delivery → Option Error
  | page _ _ => none
  | lost fault => some (.connection .fetch fault)
  | refused response _ => some (.refusedByServer response.status.code (response.status.message.getD ""))

def yields : Delivery → List (Except Error ValueRow)
  | page _ rows => rows.map .ok
  | lost fault => [.error (.connection .fetch fault)]
  | refused response _ => [.error (.refusedByServer response.status.code (response.status.message.getD ""))]

def stream (columns : List Column) (deliveries : List Delivery) (ending : Response)
    (unused : List FetchReply) : List FetchReply :=
  deliveries.map (reply columns) ++ .answered ending :: unused

def results (initial : Option (List ValueRow)) (deliveries : List Delivery) :
    List (Except Error ValueRow) :=
  (initial.getD []).map .ok ++ deliveries.flatMap yields

def errorOf? : Except Error ValueRow → Option Error
  | .ok _ => none
  | .error e => some e

theorem rows_yields (delivery : Delivery) : delivery.yields.filterMap Except.toOption = delivery.rows := by
  cases delivery with
  | page message rows =>
    rw [yields, List.filterMap_map]
    exact List.filterMap_some
  | lost fault => rfl
  | refused response refusal => rfl

theorem rows_results (initial : Option (List ValueRow)) (deliveries : List Delivery) :
    (results initial deliveries).filterMap Except.toOption = initial.getD [] ++ deliveries.flatMap rows := by
  have first := rows_yields (.page none (initial.getD []))
  rw [results, List.filterMap_append, List.filterMap_flatMap]
  simp only [rows_yields]
  rw [← yields, first, rows]

theorem failures_yields (delivery : Delivery) :
    delivery.yields.filterMap errorOf? = delivery.failure?.toList := by
  cases delivery with
  | page message rows =>
    rw [yields, List.filterMap_map]
    exact List.filterMap_eq_nil_iff.mpr fun _ _ => rfl
  | lost fault => rfl
  | refused response refusal => rfl

theorem failures_results (initial : Option (List ValueRow)) (deliveries : List Delivery) :
    (results initial deliveries).filterMap errorOf? = deliveries.filterMap failure? := by
  have first : ((initial.getD []).map .ok).filterMap errorOf? = [] := failures_yields (.page none (initial.getD []))
  rw [results, List.filterMap_append, first, List.nil_append]
  induction deliveries with
  | nil => rfl
  | cons delivery deliveries ih =>
    rw [List.flatMap_cons, List.filterMap_append, failures_yields, ih]
    cases delivery <;> rfl

theorem stream_cons (columns : List Column) (delivery : Delivery) (deliveries : List Delivery)
    (ending : Response) (unused : List FetchReply) :
    stream columns (delivery :: deliveries) ending unused =
      delivery.reply columns :: stream columns deliveries ending unused := rfl

end Delivery

theorem ValueRow.fits_encoded {columns : List Column} {row : ValueRow} (fits : row.Fits columns) :
    row.encoded.Fits columns where
  slots := by simp [encoded, PageRow.ofValues, fits.slots]
  cells := by
    intro slot column raw known cell
    simp only [encoded, PageRow.ofValues, PageRow.cell, List.getElem?_map] at cell
    cases held : row.values[slot]? with
    | none => simp [held] at cell
    | some value =>
      cases value with
      | none => simp [held] at cell
      | some value =>
        simp only [held, Option.map_some, Option.join_some, Option.some.injEq] at cell
        subst cell
        apply Value.fits_encode (fits.types slot column value known held)
        rintro s rfl
        exact fits.texts s (List.mem_of_getElem? held)

namespace ResultSet

theorem recordFields_of_values {columns : List Column} {values : List (Option Value)} {row : Row} {slot : Nat}
    (slots : values.length = columns.length)
    (types : ∀ (n : Nat) (column : Column) (value : Value), columns[n]? = some column →
      values[n]? = some (some value) → value.type? = some column.type)
    (cells : ∀ n, row.value? (slot + n) = (values[n]?.join).map Value.encode) :
    recordFields row slot columns = .ok (columns.zipWith (fun column value => (column.name, value)) values) := by
  induction columns generalizing values slot with
  | nil => rfl
  | cons column columns ih =>
    cases values with
    | nil => cases slots
    | cons value values =>
      have here : row.value? slot = value.map Value.encode := cells 0
      have rest := @ih values (slot + 1) (Nat.succ.inj slots) (fun n => types (n + 1)) fun n => by
        rw [Nat.add_assoc, Nat.add_comm 1 n]
        exact cells (n + 1)
      rw [recordFields, here, rest]
      cases value with
      | none => rfl
      | some value =>
        have decoded := Value.decode_encode (types 0 column value rfl rfl) column.name
        simp only [Option.map_some, decoded]
        rfl

/-- The set has a row in hand that is the given one, bit for bit and value for value. -/
structure Shows (set : ResultSet) (row : ValueRow) : Prop where
  state : set.state = .hasCachedRow
  present : set.row.present = true
  time : set.row.time = row.time
  nulls : ∀ slot, set.row.isNull slot = (row.values[slot]?.join).isNone
  values : ∀ slot, set.row.value? slot = (row.values[slot]?.join).map Value.encode
  record : set.currentRow = .ok (row.record set.schema)

/-- What a call for the next row has to give when the given row or failure is next, or nothing is; and
after how many requests the data ends. -/
def Answers (requests : Nat) : Option (Except Error ValueRow) → Except Error Bool × ResultSet → Prop
  | some (.ok row), outcome => outcome.1 = .ok true ∧ Shows outcome.2 row
  | some (.error e), outcome => outcome.1 = .error e ∧ outcome.2.state = .needsFetch
  | none, outcome =>
    outcome.1 = .ok false ∧ outcome.2.state = .empty ∧ outcome.2.journal.fetchRequests.length = requests

section

variable {ending : Response} {unused : List FetchReply} {requests : Nat} {set : ResultSet}

/-- A set with these rows left on its page and these deliveries to come. -/
structure Pending (ending : Response) (unused : List FetchReply) (requests : Nat) (set : ResultSet)
    (rows : List ValueRow) (deliveries : List Delivery) : Prop where
  usable : set.usable = .ok ()
  more : set.exhausted = false
  server : ∃ closeReplies,
    set.server = some ⟨Delivery.stream set.schema.columns deliveries ending unused, closeReplies⟩
  slots : set.row.cells.length = set.schema.slotCount
  serves : Serves set.schema.columns set.page set.row (rows.map ValueRow.encoded)
  fits : ∀ row ∈ rows, row.Fits set.schema.columns
  later : ∀ delivery ∈ deliveries, ∀ row ∈ delivery.rows, row.Fits set.schema.columns
  asked : set.journal.fetchRequests.length + deliveries.length + 1 = requests

structure Ended (requests : Nat) (set : ResultSet) : Prop where
  usable : set.usable = .ok ()
  last : set.exhausted = true
  noRow : set.page.hasRow = false
  asked : set.journal.fetchRequests.length = requests

inductive Owes (ending : Response) (unused : List FetchReply) (requests : Nat) :
    ResultSet → List (Except Error ValueRow) → Prop where
  | pending {set : ResultSet} {rows : List ValueRow} {deliveries : List Delivery}
      (pending : Pending ending unused requests set rows deliveries) :
      Owes ending unused requests set (rows.map .ok ++ deliveries.flatMap Delivery.yields)
  | ended {set : ResultSet} (ended : Ended requests set) : Owes ending unused requests set []

theorem value?_of_cells {inHand : Row} {row : ValueRow} (cells : inHand.cells.map Cell.value = row.encoded.cells)
    (slot : Nat) : inHand.value? slot = (row.values[slot]?.join).map Value.encode := by
  calc inHand.value? slot = ((inHand.cells.map Cell.value)[slot]?).join := by
        rw [Row.value?, List.getElem?_map]
        cases inHand.cells[slot]? <;> rfl
    _ = (row.values[slot]?.join).map Value.encode := by
        rw [cells, ValueRow.encoded, PageRow.ofValues, List.getElem?_map]
        rcases row.values[slot]? with _ | _ | value <;> rfl

theorem currentRow_of_values {row : ValueRow} (openSet : set.state ≠ .closed) (present : set.row.present = true)
    (time : set.row.time = row.time) (fits : row.Fits set.schema.columns)
    (values : ∀ slot, set.row.value? slot = (row.values[slot]?.join).map Value.encode) :
    set.currentRow = .ok (row.record set.schema) := by
  have fields := @recordFields_of_values set.schema.columns row.values set.row 0 fits.slots fits.types fun n => by
    rw [Nat.zero_add]
    exact values n
  have current : set.current = .ok set.row := by
    rw [current, if_neg openSet, if_pos present]
  rw [currentRow, current, ValueRow.record, ← time]
  change (recordFields set.row 0 set.schema.columns >>= fun fields =>
    .ok (Record.mk (if set.schema.includesTime then some set.row.time else none) fields)) = _
  rw [fields]
  rfl

theorem Pending.readRow {row : ValueRow} {rows : List ValueRow} {deliveries : List Delivery}
    (pending : Pending ending unused requests set (row :: rows) deliveries) :
    Answers requests (some (.ok row)) set.readRow ∧
      Pending ending unused requests set.readRow.2 rows deliveries := by
  obtain ⟨_, reader, inHand, read, present, time, cells, serves⟩ := pending.serves
  have fits := pending.fits row List.mem_cons_self
  have values := value?_of_cells cells
  have slots : inHand.cells.length = set.schema.slotCount := by
    have same := congrArg List.length cells
    simpa [ValueRow.encoded, PageRow.ofValues, fits.slots] using same
  have outcome : set.readRow = (.ok true, { set with page := reader, row := inHand, state := .hasCachedRow }) := by
    rw [ResultSet.readRow, read]
  rw [outcome]
  refine ⟨⟨rfl, ?_⟩, ?_⟩
  · exact
      { state := rfl
        present := present
        time := time
        nulls := fun slot => by rw [Row.isNull, values slot, Option.isNone_map]
        values := values
        record := currentRow_of_values (by rintro ⟨⟩) present time fits values }
  · exact
      { usable := usable_of_same pending.usable (by rintro ⟨⟩) rfl
        more := pending.more
        server := pending.server
        slots := slots
        serves := serves
        fits := fun other member => pending.fits other (List.mem_cons_of_mem row member)
        later := pending.later
        asked := pending.asked }

theorem Pending.ask {delivery : Delivery} {deliveries : List Delivery}
    (pending : Pending ending unused requests set [] (delivery :: deliveries)) :
    Pending ending unused requests (set.ask (Delivery.stream set.schema.columns deliveries ending unused)) []
      deliveries where
  usable := pending.usable
  more := pending.more
  server := by
    obtain ⟨closeReplies, held⟩ := pending.server
    exact ⟨closeReplies, by simp only [ResultSet.ask, note, held, Option.map_some]⟩
  slots := pending.slots
  serves := pending.serves
  fits := pending.fits
  later := fun other member => pending.later other (List.mem_cons_of_mem delivery member)
  asked := by
    have before := pending.asked
    rw [List.length_cons] at before
    rw [fetchRequests_ask, List.length_append, List.length_singleton]
    omega

theorem Pending.install {rows : List ValueRow} {deliveries : List Delivery}
    (pending : Pending ending unused requests set [] deliveries) (page : Page)
    (fits : ∀ row ∈ rows, row.Fits set.schema.columns) :
    Pending ending unused requests
      (set.install page (.ofRows set.schema.columns (rows.map ValueRow.encoded))) rows deliveries where
  usable := pending.usable
  more := pending.more
  server := pending.server
  slots := pending.slots
  serves := by
    apply serves_ofRows _ pending.slots
    intro row member
    obtain ⟨source, inside, rfl⟩ := List.mem_map.mp member
    exact ValueRow.fits_encoded (fits source inside)
  fits := fits
  later := pending.later
  asked := by
    rw [fetchRequests_install]
    exact pending.asked

theorem Pending.waiting {deliveries : List Delivery} (pending : Pending ending unused requests set [] deliveries) :
    Pending ending unused requests set.waiting [] deliveries where
  usable := usable_of_same pending.usable (by rintro ⟨⟩) rfl
  more := pending.more
  server := pending.server
  slots := pending.slots
  serves := pending.serves
  fits := pending.fits
  later := pending.later
  asked := pending.asked

theorem Pending.seek {deliveries : List Delivery} (pending : Pending ending unused requests set [] deliveries)
    (waits : set.state = .needsFetch) (success : ending.status.code = 200) (last : ending.hasResultSet = false) :
    Answers requests (deliveries.flatMap Delivery.yields).head?
        (set.seek (Delivery.stream set.schema.columns deliveries ending unused)) ∧
      Owes ending unused requests (set.seek (Delivery.stream set.schema.columns deliveries ending unused)).2
        (deliveries.flatMap Delivery.yields).tail := by
  have verified := (Status.verify_eq_ok_iff ending.status).mpr success
  -- only a page without rows sends the search on to the next delivery
  induction deliveries generalizing set with
  | nil =>
    rw [Delivery.stream, List.map_nil, List.nil_append, seek_of_noMore (receive_of_last verified last)]
    have asked : (set.ask unused).exhaust.journal.fetchRequests.length = requests := by
      rw [fetchRequests_exhaust, fetchRequests_ask, List.length_append]
      exact pending.asked
    exact ⟨⟨rfl, rfl, asked⟩, .ended ⟨usable_of_same pending.usable (by rintro ⟨⟩) rfl, rfl, pending.serves, asked⟩⟩
  | cons delivery deliveries ih =>
    have asked := pending.ask
    cases delivery with
    | lost fault =>
      rw [Delivery.stream_cons, Delivery.reply, seek_of_error rfl]
      exact ⟨⟨rfl, waits⟩, .pending asked⟩
    | refused response refusal =>
      rw [Delivery.stream_cons, Delivery.reply, seek_of_error (receive_of_refusal (Status.verify_of_ne refusal))]
      exact ⟨⟨rfl, waits⟩, .pending asked⟩
    | page message rows =>
      have fits := pending.later _ List.mem_cons_self
      have installed := asked.install (Delivery.pageOf set.schema.columns rows) fits
      have received : (set.ask (Delivery.stream set.schema.columns deliveries ending unused)).receive
          (Delivery.reply set.schema.columns (.page message rows)) = _ :=
        receive_of_accepted ((Status.verify_eq_ok_iff _).mpr rfl) rfl rfl (PageReader.start_ofRows _ _)
      rw [Delivery.stream_cons, seek_of_page received]
      cases rows with
      | nil =>
        have noRow : (PageReader.ofRows set.schema.columns (List.map ValueRow.encoded [])).hasRow = false :=
          installed.serves
        rw [noRow]
        exact ih installed waits
      | cons row rows =>
        have hasRow : (PageReader.ofRows set.schema.columns ((row :: rows).map ValueRow.encoded)).hasRow = true :=
          installed.serves.1
        rw [if_pos hasRow]
        exact ⟨installed.readRow.1, .pending installed.readRow.2⟩

theorem Owes.advance {owed : List (Except Error ValueRow)} (owes : Owes ending unused requests set owed)
    (success : ending.status.code = 200) (last : ending.hasResultSet = false) :
    Answers requests owed.head? set.advance ∧ Owes ending unused requests set.advance.2 owed.tail := by
  cases owes with
  | ended ended =>
    have outcome : set.advance = (.ok false, set.drained) := by
      rw [ResultSet.advance, ended.usable]
      simp only [ended.noRow, ended.last]
      rfl
    rw [outcome]
    exact ⟨⟨rfl, rfl, ended.asked⟩,
      .ended ⟨usable_of_same ended.usable (by rintro ⟨⟩) rfl, ended.last, ended.noRow, ended.asked⟩⟩
  | @pending rows deliveries pending =>
    cases rows with
    | nil =>
      obtain ⟨closeReplies, held⟩ := pending.server
      have noRow : set.page.hasRow = false := pending.serves
      have outcome : set.advance =
          set.waiting.seek (Delivery.stream set.waiting.schema.columns deliveries ending unused) := by
        rw [ResultSet.advance, pending.usable]
        simp only [noRow, pending.more, held]
        rfl
      rw [outcome]
      exact pending.waiting.seek rfl success last
    | cons row rows =>
      have outcome : set.advance = set.readRow := by
        rw [ResultSet.advance, pending.usable]
        exact if_pos pending.serves.1
      rw [outcome]
      exact ⟨pending.readRow.1, .pending pending.readRow.2⟩

theorem Owes.run {owed : List (Except Error ValueRow)} (owes : Owes ending unused requests set owed)
    (success : ending.status.code = 200) (last : ending.hasResultSet = false) (n : Nat) :
    Owes ending unused requests (set.run (List.replicate n .advance)) (owed.drop n) := by
  induction n generalizing set owed with
  | zero => exact owes
  | succ n ih =>
    have next := ih (owes.advance success last).2
    rw [List.drop_tail] at next
    exact next

end

theorem owes_create {options : Options} {schema : Schema} {closeReplies : List CloseReply} {ending : Response}
    {unused : List FetchReply} {initial : Option (List ValueRow)} {deliveries : List Delivery}
    (fits : ∀ row ∈ initial.getD [], row.Fits schema.columns)
    (later : ∀ delivery ∈ deliveries, ∀ row ∈ delivery.rows, row.Fits schema.columns) :
    ∃ set, create options schema ⟨Delivery.stream schema.columns deliveries ending unused, closeReplies⟩
        (initial.map (Delivery.pageOf schema.columns)) = .ok set ∧
      Owes ending unused (deliveries.length + 1) set (Delivery.results initial deliveries) := by
  have fresh : Pending ending unused (deliveries.length + 1)
      (opened options schema ⟨Delivery.stream schema.columns deliveries ending unused, closeReplies⟩) [] deliveries :=
    { usable := rfl
      more := rfl
      server := ⟨closeReplies, rfl⟩
      slots := List.length_replicate
      serves := rfl
      fits := fun row none => by cases none
      later := later
      asked := by simp [opened, Journal.fetchRequests] }
  cases initial with
  | none => exact ⟨_, rfl, .pending fresh⟩
  | some rows =>
    refine ⟨_, ?_, .pending (fresh.install (Delivery.pageOf schema.columns rows) fits)⟩
    simp only [create, Option.map_some, adopt_eq]
    exact congrArg (Except.map _) (PageReader.start_ofRows _ _)

/-- The pages are transparent. Rows are cut into pages, of which the first may be there from the start,
and the others are delivered between requests that fail. Then the call for the next row that is number `n`,
counted from zero, gives the row or the failure that is number `n` among them all; and from their end on
every call says that there is no more, after one request for each delivery and one for the end. -/
theorem pages_transparent {options : Options} {names types : List String} {index : Option SlotIndex}
    {schema : Schema} (resolved : Schema.resolve names types index options.includesTime = .ok schema)
    {rows : List ValueRow} {initial : Option (List ValueRow)} {deliveries : List Delivery}
    (cut : initial.getD [] ++ deliveries.flatMap Delivery.rows = rows)
    (fits : ∀ row ∈ rows, row.Fits schema.columns) {ending : Response} (success : ending.status.code = 200)
    (last : ending.hasResultSet = false) (unused : List FetchReply) (closeReplies : List CloseReply) :
    (Delivery.results initial deliveries).filterMap Except.toOption = rows ∧
      (Delivery.results initial deliveries).filterMap Delivery.errorOf? = deliveries.filterMap Delivery.failure? ∧
      ∃ set, ofRaw options names types index
          ⟨Delivery.stream schema.columns deliveries ending unused, closeReplies⟩
          (initial.map (Delivery.pageOf schema.columns)) = .ok set ∧
        ∀ n, Answers (deliveries.length + 1) (Delivery.results initial deliveries)[n]?
          (set.run (List.replicate n .advance)).advance := by
  subst cut
  refine ⟨Delivery.rows_results initial deliveries, Delivery.failures_results initial deliveries, ?_⟩
  have first : ∀ row ∈ initial.getD [], row.Fits schema.columns := by
    intro row member
    exact fits row (List.mem_append_left _ member)
  have later : ∀ delivery ∈ deliveries, ∀ row ∈ delivery.rows, row.Fits schema.columns := by
    intro delivery inside row member
    exact fits row (List.mem_append_right _ (List.mem_flatMap.mpr ⟨delivery, inside, member⟩))
  obtain ⟨set, created, owes⟩ :=
    @owes_create options schema closeReplies ending unused initial deliveries first later
  refine ⟨set, ?_, ?_⟩
  · rw [ofRaw, resolved]
    exact created
  · intro n
    have answers := ((owes.run success last n).advance success last).1
    rwa [List.head?_drop] at answers

def oneStatement : Options := ⟨"select s1, s2 from root.d", 1, 2, 100, true⟩

def twoColumns : List Column := [⟨"s1", .int32⟩, ⟨"s2", .text⟩]

def secondRow : List Delivery :=
  [.page none [], .lost (.timeout 5), .page (some "fine") [⟨2, [none, some (.text "x")]⟩]]

theorem pages_transparent_of_two_rows :
    ∃ set, ofRaw oneStatement ["s1", "s2"] ["INT32", "TEXT"] none
        ⟨Delivery.stream twoColumns secondRow .exhausted [], []⟩
        (some (Delivery.pageOf twoColumns [⟨1, [some (.int32 7), none]⟩])) = .ok set ∧
      ∀ n, Answers 4 (Delivery.results (some [⟨1, [some (.int32 7), none]⟩]) secondRow)[n]?
        (set.run (List.replicate n .advance)).advance := by
  have fits : ∀ row ∈ [ValueRow.mk 1 [some (.int32 7), none], ⟨2, [none, some (.text "x")]⟩],
      row.Fits twoColumns := by
    simp only [List.forall_mem_cons, List.not_mem_nil, false_implies, implies_true, and_true]
    constructor
    · refine ⟨rfl, ?_, by simp⟩
      intro slot column value known held
      rcases slot with _ | _ | slot
      · cases known
        cases held
        rfl
      · cases held
      · cases held
    · refine ⟨rfl, ?_, ?_⟩
      · intro slot column value known held
        rcases slot with _ | _ | slot
        · cases held
        · cases known
          cases held
          rfl
        · cases held
      · intro s member
        simp only [List.mem_cons, reduceCtorEq, Option.some.injEq, Value.text.injEq, List.not_mem_nil, or_false,
          false_or] at member
        subst member
        decide
  have resolved : Schema.resolve ["s1", "s2"] ["INT32", "TEXT"] none true =
      .ok ⟨["Time", "s1", "s2"], twoColumns, true⟩ := rfl
  exact (@pages_transparent oneStatement ["s1", "s2"] ["INT32", "TEXT"] none _ resolved _
    (some [⟨1, [some (.int32 7), none]⟩]) secondRow rfl fits .exhausted rfl rfl [] []).2.2

end ResultSet

end SeriesCursor
