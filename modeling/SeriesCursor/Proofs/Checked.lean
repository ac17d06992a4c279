import SeriesCursor.Proofs.Coherence

/-!
The moves of a result set with every access checked. A list is read at an index, a buffer is split at a
length and a sum is made in 64 bits only where that can be done; anywhere else there is no result. The
tests that the moves make for themselves are kept as they are.

Where the parts of a set fit each other the checked moves are the moves, so that nothing is ever out of
range. Slots are counted here, and not taken off the fronts of the lists, because it is the counting that
could go wrong.
-/

namespace SeriesCursor

def word? (n : Nat) : Option Nat :=
  if n < Nat.pow 2 64 then some n else none

theorem word?_eq_some {n : Nat} (small : n < Nat.pow 2 64) : word? n = some n :=
  if_pos small

namespace Frame

def takeWidth? (width : Nat) (buffer : Bytes) (column : String) : Option (Except Error Bytes × Bytes) :=
  if buffer.length < width then
    some (.error (.truncated (.values column) width buffer.length), buffer)
  else do
    let (raw, rest) ← buffer.take? width
    some (.ok raw, rest)

def takeText? (buffer : Bytes) (column : String) : Option (Except Error Bytes × Bytes) := do
  match ← takeWidth? 4 buffer column with
  | (.error e, buffer) => some (.error e, buffer)
  | (.ok header, buffer) =>
    let length := header.toInt32
    if length < 0 then
      some (.error (.malformedPage (.negativeLength length column)), buffer)
    else
      takeWidth? length.toInt.toNat buffer column

def take? (type : DataType) (buffer : Bytes) (column : String) : Option (Except Error Bytes × Bytes) :=
  match layout type with
  | .fixed width => takeWidth? width buffer column
  | .lengthFirst => takeText? buffer column

theorem takeWidth?_eq (width : Nat) (buffer : Bytes) (column : String) :
    takeWidth? width buffer column = some (takeWidth width buffer column) := by
  unfold takeWidth? takeWidth
  split
  · rfl
  · rename_i enough
    rw [Bytes.take?, if_pos (Nat.le_of_not_lt enough)]
    rfl

theorem takeText?_eq (buffer : Bytes) (column : String) :
    takeText? buffer column = some (takeText buffer column) := by
  rw [takeText?, takeText, takeWidth?_eq]
  rcases takeWidth 4 buffer column with ⟨e | header, rest⟩
  · rfl
  · dsimp only [bind, Option.bind_some]
    split
    · rfl
    · exact takeWidth?_eq _ _ _

theorem take?_eq (type : DataType) (buffer : Bytes) (column : String) :
    take? type buffer column = some (take type buffer column) := by
  unfold take? take
  cases layout type with
  | fixed width => exact takeWidth?_eq _ _ _
  | lengthFirst => exact takeText?_eq _ _

end Frame

namespace Cell

def refresh? (column : Column) (row : Nat) (lane : Lane) (cell : Cell) :
    Option (Except Error Unit × Lane × Cell) :=
  if Bitmap.startsBlock row then
    if lane.bitmap = [] then some (.error (.truncated (.bitmap column.name) 1 0), lane, cell)
    else do
      let byte ← lane.bitmap[0]?
      some (.ok (), { lane with bitmap := lane.bitmap.tail }, { cell with presence := byte })
  else some (.ok (), lane, cell)

def fill? (column : Column) (row : Nat) (lane : Lane) (cell : Cell) :
    Option (Except Error Unit × Lane × Cell) :=
  if Bitmap.isNull cell.presence row then some (.ok (), lane, { cell with value := none })
  else do
    match ← Frame.take? column.type lane.values column.name with
    | (.ok raw, rest) => some (.ok (), { lane with values := rest }, { cell with value := some raw })
    | (.error e, rest) => some (.error e, { lane with values := rest }, cell)

def decode? (column : Column) (row : Nat) (lane : Lane) (cell : Cell) :
    Option (Except Error Unit × Lane × Cell) := do
  match ← refresh? column row lane cell with
  | (.ok (), lane, cell) => fill? column row lane cell
  | failed => some failed

def decodeSlots? (columns : List Column) (row : Nat) : (count slot : Nat) → List Lane → List Cell →
    Option (Except Error Unit × List Lane × List Cell)
  | 0, _, lanes, cells => some (.ok (), lanes, cells)
  | count + 1, slot, lanes, cells => do
    let column ← columns[slot]?
    let lane ← lanes[slot]?
    let cell ← cells[slot]?
    match ← decode? column row lane cell with
    | (.ok (), lane, cell) => decodeSlots? columns row count (slot + 1) (lanes.set slot lane) (cells.set slot cell)
    | (.error e, lane, cell) => some (.error e, lanes.set slot lane, cells.set slot cell)

theorem refresh?_eq (column : Column) (row : Nat) (lane : Lane) (cell : Cell) :
    refresh? column row lane cell = some (refresh column row lane cell) := by
  unfold refresh? refresh
  cases Bitmap.startsBlock row with
  | false => rfl
  | true => cases lane.bitmap <;> rfl

theorem fill?_eq (column : Column) (row : Nat) (lane : Lane) (cell : Cell) :
    fill? column row lane cell = some (fill column row lane cell) := by
  rw [fill?, fill, Frame.take?_eq]
  cases Bitmap.isNull cell.presence row with
  | true => rfl
  | false => rcases Frame.take column.type lane.values column.name with ⟨e | raw, rest⟩ <;> rfl

theorem decode?_eq (column : Column) (row : Nat) (lane : Lane) (cell : Cell) :
    decode? column row lane cell = some (decode column row lane cell) := by
  rw [decode?, decode, refresh?_eq]
  rcases refresh column row lane cell with ⟨e | _, lane', cell'⟩
  · rfl
  · exact fill?_eq column row lane' cell'

/-- With a lane and a cell for every column, counting the slots comes to the same as walking the lists. -/
theorem decodeSlots?_eq (before columns : List Column) (row : Nat) {decodedLanes lanes : List Lane}
    {decodedCells cells : List Cell} (sameLanes : decodedLanes.length = before.length)
    (sameCells : decodedCells.length = before.length) (aligned : lanes.length = columns.length)
    (fits : cells.length = columns.length) :
    decodeSlots? (before ++ columns) row columns.length before.length (decodedLanes ++ lanes)
        (decodedCells ++ cells) =
      some ((decodeAll row columns lanes cells).1, decodedLanes ++ (decodeAll row columns lanes cells).2.1,
        decodedCells ++ (decodeAll row columns lanes cells).2.2) := by
  -- induction on the columns to come; what has been decoded stands before them in both lists
  induction columns generalizing before decodedLanes lanes decodedCells cells with
  | nil => rfl
  | cons column columns ih =>
    obtain ⟨lane, lanes, rfl⟩ := List.exists_cons_of_length_eq_add_one aligned
    obtain ⟨cell, cells, rfl⟩ := List.exists_cons_of_length_eq_add_one fits
    have columnHere : (before ++ column :: columns)[before.length]? = some column := by simp
    have laneHere : (decodedLanes ++ lane :: lanes)[before.length]? = some lane := by simp [← sameLanes]
    have cellHere : (decodedCells ++ cell :: cells)[before.length]? = some cell := by simp [← sameCells]
    have laneSet : ∀ next, (decodedLanes ++ lane :: lanes).set before.length next =
        decodedLanes ++ next :: lanes := by
      simp [← sameLanes]
    have cellSet : ∀ next, (decodedCells ++ cell :: cells).set before.length next =
        decodedCells ++ next :: cells := by
      simp [← sameCells]
    rw [List.length_cons, decodeSlots?, columnHere, laneHere, cellHere, decodeAll]
    simp only [Option.bind_eq_bind, Option.bind_some, decode?_eq, laneSet, cellSet]
    rcases decode column row lane cell with ⟨e | _, lane', cell'⟩
    · rfl
    · have lanesNext : (decodedLanes ++ [lane']).length = (before ++ [column]).length := by simp [sameLanes]
      have cellsNext : (decodedCells ++ [cell']).length = (before ++ [column]).length := by simp [sameCells]
      have rest := ih (before ++ [column]) lanesNext cellsNext (Nat.succ.inj aligned) (Nat.succ.inj fits)
      simpa using rest

end Cell

namespace Row

def materialize? (columns : List Column) (reader : PageReader) (row : Row) :
    Option (Except Error Unit × PageReader × Row) :=
  if reader.time.length < Page.timeWidth then
    some (.error (.truncated .time Page.timeWidth reader.time.length), reader, row.invalidate)
  else do
    let (time, unread) ← Bytes.take? Page.timeWidth reader.time
    match ← Cell.decodeSlots? columns reader.rowOffset columns.length 0 reader.lanes row.cells with
    | (.ok (), lanes, cells) =>
      let next ← word? (reader.rowOffset + 1)
      some (.ok (), ⟨unread, lanes, next⟩, ⟨time.toInt64, cells, true⟩)
    | (.error e, lanes, cells) =>
      some (.error e, ⟨unread, lanes, reader.rowOffset⟩, ⟨time.toInt64, cells, false⟩)

theorem materialize?_eq {columns : List Column} {reader : PageReader} {row : Row}
    (aligned : reader.lanes.length = columns.length) (fits : row.cells.length = columns.length)
    (small : reader.rowOffset + 1 < Nat.pow 2 64) :
    materialize? columns reader row = some (row.materialize columns reader) := by
  have slots := @Cell.decodeSlots?_eq [] columns reader.rowOffset [] reader.lanes [] row.cells rfl rfl aligned fits
  unfold materialize? materialize
  split
  · rfl
  · rename_i enough
    rw [Bytes.take?, if_pos (Nat.le_of_not_lt enough)]
    simp only [List.nil_append, List.length_nil] at slots
    simp only [Option.bind_eq_bind, Option.bind_some, slots]
    rcases Cell.decodeAll reader.rowOffset columns reader.lanes row.cells with ⟨e | _, lanes, cells⟩
    · rfl
    · simp only [word?_eq_some small, Option.bind_some]

end Row

namespace Schema

def inOrder? (stored : Nat) : (raw : List (String × String)) → (seen : List String) →
    Option (Except Error (List Column))
  | [], _ => some (.ok [])
  | (name, typeName) :: rest, seen =>
    if name ∈ seen then inOrder? stored rest seen
    else do
      let _ ← word? (stored + 2)
      match DataType.parse typeName with
      | .error e => some (.error e)
      | .ok type =>
        let later ← inOrder? (stored + 1) rest (name :: seen)
        some (later.map (⟨name, type⟩ :: ·))

def place? (index : SlotIndex) : (raw : List (String × String)) → (seen : List String) →
    (slots : List (Option Column)) → Option (Except Error (List (Option Column)))
  | [], _, slots => some (.ok slots)
  | (name, typeName) :: rest, seen, slots =>
    if name ∈ seen then place? index rest seen slots
    else match index.slot? name with
      | none => some (.error (.invalidSchema (.unassigned name)))
      | some slot =>
        if slots.length ≤ slot then
          some (.error (.invalidSchema (.slotOutOfRange name slot slots.length)))
        else do
          let _ ← word? (slot + 2)
          match DataType.parse typeName with
          | .error e => some (.error e)
          | .ok type =>
            let _ ← slots[slot]?
            place? index rest (name :: seen) (slots.set slot (some ⟨name, type⟩))

def resolve? (names types : List String) (index : Option SlotIndex) (includesTime : Bool) :
    Option (Except Error Schema) :=
  if names.length ≠ types.length then
    some (.error (.invalidSchema (.unequalLists names.length types.length)))
  else do
    let columns ← match index with
      | none => inOrder? 0 (names.zip types) (seenAtStart includesTime)
      | some index => do
        let slots ← place? index (names.zip types) (seenAtStart includesTime) (List.replicate index.size none)
        some (slots.bind (filled 0))
    some (columns.map fun columns => ⟨if includesTime then timeName :: names else names, columns, includesTime⟩)

theorem inOrder?_eq {stored : Nat} (raw : List (String × String)) (seen : List String)
    (small : stored + raw.length + 2 < Nat.pow 2 64) : inOrder? stored raw seen = some (inOrder raw seen) := by
  induction raw generalizing stored seen with
  | nil => rfl
  | cons column rest ih =>
    obtain ⟨name, typeName⟩ := column
    rw [List.length_cons] at small
    rw [inOrder?, inOrder]
    split
    · exact ih seen (by omega)
    · rw [word?_eq_some (by omega)]
      simp only [Option.bind_eq_bind, Option.bind_some]
      cases DataType.parse typeName with
      | error e => rfl
      | ok type =>
        dsimp only
        rw [ih (name :: seen) (by omega)]
        cases inOrder rest (name :: seen) <;> rfl

theorem place?_eq (index : SlotIndex) (raw : List (String × String)) (seen : List String)
    {slots : List (Option Column)} (small : slots.length < Nat.pow 2 63) :
    place? index raw seen slots = some (place index raw seen slots) := by
  induction raw generalizing seen slots with
  | nil => rfl
  | cons column rest ih =>
    obtain ⟨name, typeName⟩ := column
    rw [place?, place]
    split
    · exact ih seen small
    · cases index.slot? name with
      | none => rfl
      | some slot =>
        dsimp only
        split
        · rfl
        · rename_i inside
          rw [word?_eq_some (Nat.lt_trans (by omega : slot + 2 < Nat.pow 2 63 + 2) (by decide)),
            List.getElem?_eq_getElem (Nat.lt_of_not_le inside)]
          simp only [Option.bind_eq_bind, Option.bind_some]
          cases DataType.parse typeName with
          | error e => rfl
          | ok type => exact ih (name :: seen) (by rwa [List.length_set])

theorem resolve?_eq {names types : List String} {index : Option SlotIndex} (includesTime : Bool)
    (shortList : names.length < Nat.pow 2 63)
    (shortIndex : ∀ given, index = some given → given.size < Nat.pow 2 63) :
    resolve? names types index includesTime = some (resolve names types index includesTime) := by
  unfold resolve? resolve
  split
  · rfl
  · cases index with
    | none =>
      have short : 0 + (names.zip types).length + 2 < Nat.pow 2 64 := by
        have sum : Nat.pow 2 64 = Nat.pow 2 63 + Nat.pow 2 63 := by decide
        have two : 2 ≤ Nat.pow 2 63 := by decide
        rw [List.length_zip]
        omega
      simp only [inOrder?_eq _ _ short, Option.bind_eq_bind, Option.bind_some]
      cases inOrder (names.zip types) (seenAtStart includesTime) <;> rfl
    | some given =>
      have short : (List.replicate given.size (none : Option Column)).length < Nat.pow 2 63 := by
        rw [List.length_replicate]
        exact shortIndex given rfl
      simp only [place?_eq given _ _ short, Option.bind_eq_bind, Option.bind_some]
      cases place given (names.zip types) (seenAtStart includesTime) (List.replicate given.size none) with
      | error e => rfl
      | ok slots => cases filled 0 slots <;> rfl

end Schema

namespace ResultSet

def readRow? (set : ResultSet) : Option (Except Error Bool × ResultSet) := do
  match ← set.row.materialize? set.schema.columns set.page with
  | (.ok (), page, row) => some (.ok true, { set with page := page, row := row, state := .hasCachedRow })
  | (.error e, page, row) => some (.error e, fail { set with page := page, row := row } e)

def seek? (set : ResultSet) : List FetchReply → Option (Except Error Bool × ResultSet)
  | [] => some ((set.ask []).receive (.answered .exhausted))
  | reply :: later =>
    match (set.ask later).receive reply with
    | (.ok true, set) => if set.page.hasRow then set.readRow? else set.seek? later
    | outcome => some outcome

def advance? (set : ResultSet) : Option (Except Error Bool × ResultSet) :=
  match set.usable with
  | .error e => some (.error e, set)
  | .ok () =>
    if set.page.hasRow then set.readRow?
    else if set.exhausted then some (.ok false, set.drained)
    else
      match set.server with
      | some server => set.waiting.seek? server.fetchReplies
      | none => some (.error .closed, set.waiting)

end ResultSet

end SeriesCursor
