import SeriesCursor.Proofs.Checked
import SeriesCursor.Proofs.FailedRow
import SeriesCursor.Proofs.Searching
import SeriesCursor.Proofs.Stopping
import SeriesCursor.Proofs.WholeCells

/-!
Nothing that the server sends takes a set out of bounds. On every set that can be reached the checked
move is the move, for whatever bytes the pages hold and however many columns they have; and the errors
that a call for the next row can come to are known, so that those which stand for a broken set are not
among them.

The only thing taken for granted is that no list or buffer fills half of the address space.
-/

namespace SeriesCursor

def lengthLimit : Nat :=
  Nat.pow 2 63

def Page.Short (page : Page) : Prop :=
  page.time.length < lengthLimit

instance (page : Page) : Decidable page.Short :=
  inferInstanceAs (Decidable (_ < _))

def FetchReply.Short (reply : FetchReply) : Prop :=
  ∀ response page, reply = .answered response → response.page = some page → page.Short

def Call.Short (call : Call) : Prop :=
  ∀ page, call = .setPage page → page.Short

/-- The errors of a row that cannot be decoded: bytes run out, or a length is below zero. -/
inductive DecodeFault : Error → Prop where
  | bitmap (column : String) (needed remaining : Nat) : DecodeFault (.truncated (.bitmap column) needed remaining)
  | values (column : String) (needed remaining : Nat) : DecodeFault (.truncated (.values column) needed remaining)
  | negative (length : Int32) (column : String) : DecodeFault (.malformedPage (.negativeLength length column))

inductive MovingFault : Error → Prop where
  | undecodable {e : Error} (fault : DecodeFault e) : MovingFault e
  | malformed (fault : PageFault) : MovingFault (.malformedPage fault)
  | lost (fault : TransportFault) : MovingFault (.connection .fetch fault)
  | refused (code : Int32) (message : String) : MovingFault (.refusedByServer code message)

variable {e : Error}

theorem Frame.Broken.fault {type : DataType} {column : String} {buffer rest : Bytes}
    (broken : Broken type column buffer e rest) : DecodeFault e := by
  cases broken with
  | negative => exact .negative _ _
  | _ => exact .values _ _ _

namespace Cell

theorem Stuck.fault {row : Nat} {column : Column} {lane lane' : Lane} {cell cell' : Cell}
    (stuck : Stuck e row column lane cell lane' cell') : DecodeFault e := by
  cases stuck with
  | bitmap due none error => exact error ▸ .bitmap _ _ _
  | values supplied notNull broken => exact broken.fault

theorem fault_of_decodeAll {row : Nat} {columns : List Column} {lanes : List Lane} {cells : List Cell}
    (aligned : lanes.length = columns.length) (fits : cells.length = columns.length)
    (failed : (decodeAll row columns lanes cells).1 = .error e) : DecodeFault e := by
  obtain ⟨slot, breaks⟩ := breaksAt_of_decodeAll aligned fits (Prod.ext failed rfl)
  obtain ⟨column, lane, cell, lane', cell', _, _, _, _, _, stuck⟩ := breaks.here
  exact stuck.fault

end Cell

theorem PageReader.fault_of_start {page : Page} {slots : Nat} (unfit : start page slots = .error e) :
    MovingFault e := by
  obtain ⟨fault, rfl⟩ := start_eq_error unfit
  exact .malformed fault

theorem Status.fault_of_verify {status : Status} (refusal : status.verify = .error e) : MovingFault e := by
  unfold verify at refusal
  split at refusal
  · cases refusal
  · cases refusal
    exact .refused _ _

namespace Schema

theorem length_inOrder {raw : List (String × String)} {seen : List String} {columns : List Column}
    (ordered : inOrder raw seen = .ok columns) : columns.length ≤ raw.length := by
  induction raw generalizing seen columns with
  | nil =>
    cases ordered
    exact Nat.le_refl 0
  | cons column rest ih =>
    rw [inOrder] at ordered
    split at ordered
    · exact Nat.le_succ_of_le (ih ordered)
    · obtain ⟨type, _, ordered⟩ := ok_of_bind ordered
      obtain ⟨later, others, ⟨⟩⟩ := ok_of_bind ordered
      exact Nat.succ_le_succ (ih others)

theorem length_place {index : SlotIndex} {raw : List (String × String)} {seen : List String}
    {slots placed : List (Option Column)} (places : place index raw seen slots = .ok placed) :
    placed.length = slots.length := by
  induction raw generalizing seen slots with
  | nil =>
    cases places
    rfl
  | cons column rest ih =>
    rw [place] at places
    split at places
    · exact ih places
    · split at places
      · cases places
      · split at places
        · cases places
        · obtain ⟨type, _, places⟩ := ok_of_bind places
          exact (ih places).trans List.length_set

theorem length_filled {slot : Nat} {slots : List (Option Column)} {columns : List Column}
    (whole : filled slot slots = .ok columns) : columns.length = slots.length := by
  induction slots generalizing slot columns with
  | nil =>
    cases whole
    rfl
  | cons column rest ih =>
    cases column with
    | none => cases whole
    | some column =>
      obtain ⟨later, others, ⟨⟩⟩ := ok_of_bind whole
      exact congrArg Nat.succ (ih others)

theorem slotCount_of_resolve {names types : List String} {index : Option SlotIndex} {includesTime : Bool}
    {schema : Schema} (resolved : resolve names types index includesTime = .ok schema)
    (shortList : names.length < lengthLimit) (shortIndex : ∀ given, index = some given → given.size < lengthLimit) :
    schema.slotCount < lengthLimit := by
  unfold resolve at resolved
  split at resolved
  · cases resolved
  · cases index with
    | none =>
      obtain ⟨columns, ordered, ⟨⟩⟩ := ok_of_bind resolved
      have zipped := length_inOrder ordered
      rw [List.length_zip] at zipped
      exact Nat.lt_of_le_of_lt (Nat.le_trans zipped (Nat.min_le_left _ _)) shortList
    | some given =>
      obtain ⟨slots, places, resolved⟩ := ok_of_bind resolved
      obtain ⟨columns, whole, ⟨⟩⟩ := ok_of_bind resolved
      change columns.length < lengthLimit
      rw [length_filled whole, length_place places, List.length_replicate]
      exact shortIndex given rfl

theorem ordinal_lt {schema : Schema} (short : schema.slotCount < lengthLimit) {name : String} {ordinal : Nat}
    (known : schema.ordinal? name = some ordinal) : ordinal < Nat.pow 2 64 := by
  have limit : lengthLimit + 2 < Nat.pow 2 64 := by decide
  unfold ordinal? at known
  split at known
  · cases known
    decide
  · obtain ⟨slot, _, rfl⟩ := Option.map_eq_some_iff.mp known
    have inside := slot.isLt
    omega

end Schema

namespace ResultSet

structure Bounded (set : ResultSet) : Prop where
  rows : set.page.rowOffset + set.page.remainingRows < lengthLimit
  replies : ∀ server, set.server = some server → ∀ reply ∈ server.fetchReplies, reply.Short
  cells : Cell.AllFit set.schema.columns set.row.cells

/-- A move that is made with every access checked, and what it can come to. -/
structure Moved (checked : Option (Except Error Bool × ResultSet)) (outcome : Except Error Bool × ResultSet) :
    Prop where
  same : checked = some outcome
  bounded : Bounded outcome.2
  fault : ∀ e, outcome.1 = .error e → MovingFault e

variable {set : ResultSet}

theorem rows_empty : PageReader.empty.rowOffset + PageReader.empty.remainingRows < lengthLimit := by
  decide

theorem bounded_install (bounded : Bounded set) {page : Page} {reader : PageReader} {slots : Nat}
    (accepted : PageReader.start page slots = .ok reader) (short : page.Short) : Bounded (set.install page reader) where
  rows := by
    obtain ⟨rfl, _, _⟩ := PageReader.start_eq_ok accepted
    have bytes : page.time.length < lengthLimit := short
    simp only [install, report, note, PageReader.remainingRows, Page.timeWidth]
    omega
  replies := bounded.replies
  cells := bounded.cells

theorem moved_readRow (reads : Reads set) (bounded : Bounded set) (row : set.page.hasRow = true) :
    Moved set.readRow? set.readRow := by
  have aligned := reads.lanes row
  -- a row is left, so the times hold eight bytes more and the offset stays below the number of rows
  have rows := bounded.rows
  have limit : lengthLimit < Nat.pow 2 64 := by decide
  have enough := Nat.not_lt.mpr (reads.enough row)
  have small : set.page.rowOffset + 1 < Nat.pow 2 64 := by omega
  have unread : (set.page.time.drop Page.timeWidth).length / Page.timeWidth + 1 = set.page.remainingRows := by
    rw [List.length_drop, PageReader.remainingRows, ← Nat.div_eq_sub_div (by decide) (Nat.le_of_not_lt enough)]
  have fits := Cell.allFit_decodeAll set.page.rowOffset set.page.lanes bounded.cells
  have faults := fun e => @Cell.fault_of_decodeAll e set.page.rowOffset _ _ _ aligned reads.cells
  have checked : set.readRow? = some set.readRow := by
    rw [readRow?, readRow, Row.materialize?_eq aligned reads.cells small]
    rcases set.row.materialize set.schema.columns set.page with ⟨e | _, reader, next⟩ <;> rfl
  rw [readRow, Row.materialize, if_neg enough] at checked ⊢
  generalize Cell.decodeAll set.page.rowOffset set.schema.columns set.page.lanes set.row.cells = decoded
    at fits faults checked ⊢
  obtain ⟨outcome, lanes, cells⟩ := decoded
  cases outcome with
  | error e =>
    refine ⟨checked, ⟨rows_empty, bounded.replies, fits⟩, ?_⟩
    rintro _ ⟨⟩
    exact .undecodable (faults e rfl)
  | ok _ =>
    refine ⟨checked, ⟨?_, bounded.replies, fits⟩, by rintro _ ⟨⟩⟩
    simp only [PageReader.remainingRows]
    omega

theorem bounded_ask (bounded : Bounded set) {later : List FetchReply} (short : ∀ reply ∈ later, reply.Short) :
    Bounded (set.ask later) where
  rows := bounded.rows
  replies := by
    intro server held
    obtain ⟨before, _, rfl⟩ := Option.map_eq_some_iff.mp held
    exact short
  cells := bounded.cells

theorem moved_seek {replies : List FetchReply} (waits : Waits set) (bounded : Bounded set)
    (short : ∀ reply ∈ replies, reply.Short) : Moved (set.seek? replies) (set.seek replies) := by
  induction replies generalizing set with
  | nil =>
    have asked : Bounded (set.ask []) := bounded_ask bounded (by rintro _ ⟨⟩)
    exact ⟨rfl, ⟨asked.rows, asked.replies, asked.cells⟩, by rintro e ⟨⟩⟩
  | cons reply later ih =>
    obtain ⟨first, rest⟩ := List.forall_mem_cons.mp short
    have asked := bounded_ask bounded rest
    have waits := waits.ask later
    have received := receive_received (set.ask later) reply
    rw [seek?, seek]
    generalize (set.ask later).receive reply = outcome at received ⊢
    cases received with
    | lost fault => exact ⟨rfl, asked, by rintro e ⟨⟩; exact .lost fault⟩
    | refused response e refusal => exact ⟨rfl, asked, by rintro e ⟨⟩; exact Status.fault_of_verify refusal⟩
    | noMore response success last => exact ⟨rfl, ⟨asked.rows, asked.replies, asked.cells⟩, by rintro e ⟨⟩⟩
    | missing response success more none => exact ⟨rfl, asked, by rintro e ⟨⟩; exact .malformed _⟩
    | unfit response page e success more sent unfit =>
      exact ⟨rfl, asked, by rintro e ⟨⟩; exact PageReader.fault_of_start unfit⟩
    | installed response page reader success more sent accepted =>
      have next := bounded_install asked accepted (first response page rfl sent)
      have waits := waits.install accepted
      dsimp only
      split
      · rename_i row
        exact moved_readRow waits.reads next row
      · exact ih waits next rest

theorem moved_advance (coherent : Coherent set) (bounded : Bounded set) :
    (∃ e, set.usable = .error e ∧ set.advance? = some (.error e, set) ∧ set.advance = (.error e, set)) ∨
      Moved set.advance? set.advance := by
  unfold advance? advance
  cases usable : set.usable with
  | error e => exact .inl ⟨e, rfl, rfl, rfl⟩
  | ok _ =>
    right
    have going := coherent.going usable
    dsimp only
    split
    · rename_i row
      exact moved_readRow (coherent.reads going) bounded row
    · split
      · exact ⟨rfl, ⟨bounded.rows, bounded.replies, bounded.cells⟩, by rintro e ⟨⟩⟩
      · cases held : set.server with
        | none => exact absurd held going.served
        | some server =>
          exact moved_seek (waits_waiting coherent going) ⟨bounded.rows, bounded.replies, bounded.cells⟩
            (bounded.replies server held)

theorem bounded_perform (coherent : Coherent set) (bounded : Bounded set) {call : Call} (short : call.Short) :
    Bounded (set.perform call).2 := by
  cases call with
  | advance =>
    rcases moved_advance coherent bounded with ⟨e, _, _, unmoved⟩ | moved
    · rw [perform, unmoved]
      exact bounded
    · exact moved.bounded
  | setPage page =>
    have pageSet := setPage_pageSet set page
    change Bounded (set.setPage page).2
    generalize set.setPage page = outcome at pageSet ⊢
    cases pageSet with
    | unusable e stop => exact bounded
    | unfit e usable unfit => exact bounded
    | installed reader usable accepted =>
      have next := bounded_install bounded accepted (short page rfl)
      exact ⟨next.rows, next.replies, next.cells⟩
  | close =>
    change Bounded set.close.2
    by_cases closed : set.state = .closed
    · rw [close_of_closed closed]
      exact bounded
    · obtain ⟨entries, next⟩ := close_eq_released closed
      rw [next]
      exact ⟨rows_empty, by rintro _ ⟨⟩, bounded.cells⟩
  | read reading selector => exact bounded
  | currentRow => exact bounded

theorem bounded_run (coherent : Coherent set) (bounded : Bounded set) {calls : List Call}
    (short : ∀ call ∈ calls, call.Short) : Bounded (set.run calls) := by
  induction calls generalizing set with
  | nil => exact bounded
  | cons call rest ih =>
    obtain ⟨first, later⟩ := List.forall_mem_cons.mp short
    exact ih (coherent_perform coherent call) (bounded_perform coherent bounded first) later

theorem bounded_create {options : Options} {schema : Schema} {server : Server} {initial : Option Page}
    (created : create options schema server initial = .ok set) (shortPage : ∀ page, initial = some page → page.Short)
    (shortReplies : ∀ reply ∈ server.fetchReplies, reply.Short) : Bounded set := by
  have fresh : Bounded (opened options schema server) :=
    ⟨rows_empty, by rintro _ ⟨⟩; exact shortReplies, Cell.allFit_empty _ _⟩
  cases create_created created with
  | withoutPage => exact fresh
  | onPage page reader accepted => exact bounded_install fresh accepted (shortPage page rfl)

/-- Every list is read inside its length and every buffer split inside what is left of it, no sum exceeds a
word, and no error comes up that stands for the opposite. -/
structure InBounds (set : ResultSet) : Prop where
  advance : set.advance? = some set.advance
  cells : set.row.cells.length = set.schema.columns.length
  slots : ∀ name slot, set.schema.resolveName name = .ok (.slot slot) →
    set.schema.ordinal? name = some (slot.val + 2) ∧ slot.val < set.schema.columns.length ∧
      slot.val < set.row.cells.length
  ordinals : ∀ name ordinal, set.schema.ordinal? name = some ordinal → ordinal < Nat.pow 2 64
  positions : ∀ index name, set.schema.nameAt index = .ok name → 0 < index ∧ index ≤ set.schema.displayNames.length
  wholeTimes : ∀ needed remaining, set.advance.1 ≠ .error (.truncated .time needed remaining)
  lanes : ∀ column, set.advance.1 ≠ .error (.misaligned column)
  served : set.state ≠ .closed → set.advance.1 ≠ .error .closed
  wholeCells : ∀ call, call.readsRow = true → Untruncated (set.perform call).1

theorem unusable_cases {e : Error} (stop : set.usable = .error e) :
    (e = .closed ∧ set.state = .closed) ∨ ∃ reason, e = .stopped reason := by
  unfold usable at stop
  split at stop
  · rename_i closed
    cases stop
    exact .inl ⟨rfl, closed⟩
  · split at stop
    · cases stop
      exact .inr ⟨_, rfl⟩
    · cases stop

theorem error_of_advance {e : Error} (coherent : Coherent set) (bounded : Bounded set)
    (failed : set.advance.1 = .error e) :
    (e = .closed ∧ set.state = .closed) ∨ (∃ reason, e = .stopped reason) ∨ MovingFault e := by
  rcases moved_advance coherent bounded with ⟨stop, unusable, _, unmoved⟩ | moved
  · rw [unmoved] at failed
    cases failed
    rcases unusable_cases unusable with closed | stopped
    · exact .inl closed
    · exact .inr (.inl stopped)
  · exact .inr (.inr (moved.fault e failed))

theorem inBounds_of_bounded (coherent : Coherent set) (bounded : Bounded set)
    (short : set.schema.slotCount < lengthLimit) : InBounds set where
  advance := by
    rcases moved_advance coherent bounded with ⟨e, _, checked, unmoved⟩ | moved
    · rw [checked, unmoved]
    · exact moved.same
  cells := coherent.cells
  slots := by
    intro name slot resolved
    rw [coherent.cells]
    exact ⟨by rw [Schema.ordinal?_eq_resolveName, resolved], slot.isLt, slot.isLt⟩
  ordinals := fun _ _ => Schema.ordinal_lt short
  positions := fun _ _ shown => Schema.exists_nameAt_iff.mp ⟨_, shown⟩
  wholeTimes := by
    intro needed remaining failed
    rcases error_of_advance coherent bounded failed with ⟨⟨⟩, _⟩ | ⟨_, ⟨⟩⟩ | fault
    cases fault with
    | undecodable fault => cases fault
  lanes := by
    intro column failed
    rcases error_of_advance coherent bounded failed with ⟨⟨⟩, _⟩ | ⟨_, ⟨⟩⟩ | fault
    cases fault with
    | undecodable fault => cases fault
  served := by
    intro openSet failed
    rcases error_of_advance coherent bounded failed with ⟨_, closed⟩ | ⟨_, ⟨⟩⟩ | fault
    · exact openSet closed
    · cases fault with
      | undecodable fault => cases fault
  wholeCells := fun _ reads => untruncated_perform bounded.cells reads

/-- Whatever columns the server lists and whatever pages it sends, resolving the columns and moving and reading
the set keeps within bounds, at every point of every run of calls. -/
theorem inBounds_run_of_ofRaw {options : Options} {names types : List String} {index : Option SlotIndex}
    {server : Server} {initial : Option Page} (shortList : names.length < lengthLimit)
    (shortIndex : ∀ given, index = some given → given.size < lengthLimit)
    (shortPage : ∀ page, initial = some page → page.Short)
    (shortReplies : ∀ reply ∈ server.fetchReplies, reply.Short)
    (built : ofRaw options names types index server initial = .ok set) {calls : List Call}
    (shortCalls : ∀ call ∈ calls, call.Short) :
    Schema.resolve? names types index options.includesTime =
        some (Schema.resolve names types index options.includesTime) ∧ InBounds (set.run calls) := by
  refine ⟨Schema.resolve?_eq options.includesTime shortList shortIndex, ?_⟩
  obtain ⟨schema, resolved, created⟩ := create_of_ofRaw built
  have coherent := (coherent_create created).1
  have bounded := bounded_run coherent (bounded_create created shortPage shortReplies) shortCalls
  have slots := Schema.slotCount_of_resolve resolved shortList shortIndex
  refine inBounds_of_bounded (coherent_run coherent calls) bounded ?_
  rw [schema_run]
  cases create_created created <;> exact slots

theorem inBounds_run_of_ofRaw_of_false_length :
    ∃ set, ofRaw oneColumn ["s1", "s1"] ["TEXT", "INT32"] (some ⟨[("s1", 0)], by decide⟩)
        ⟨[.answered (.ofPage ⟨[0, 0, 0, 0, 0, 0, 0, 1], [], [[]]⟩)], []⟩
        (some ⟨[0, 0, 0, 0, 0, 0, 0, 1, 0, 0, 0, 0, 0, 0, 0, 2], [[0xC0]], [[0, 0, 0, 1, 65, 0, 0, 0, 9]]⟩) =
          .ok set ∧
      Schema.resolve? ["s1", "s1"] ["TEXT", "INT32"] (some ⟨[("s1", 0)], by decide⟩) oneColumn.includesTime =
        some (Schema.resolve ["s1", "s1"] ["TEXT", "INT32"] (some ⟨[("s1", 0)], by decide⟩)
          oneColumn.includesTime) ∧
      InBounds (set.run [.advance, .advance, .setPage ⟨[], [], []⟩, .close]) := by
  refine ⟨_, rfl, @inBounds_run_of_ofRaw _ oneColumn ["s1", "s1"] ["TEXT", "INT32"] (some ⟨[("s1", 0)], by decide⟩)
    ⟨[.answered (.ofPage ⟨[0, 0, 0, 0, 0, 0, 0, 1], [], [[]]⟩)], []⟩
    (some ⟨[0, 0, 0, 0, 0, 0, 0, 1, 0, 0, 0, 0, 0, 0, 0, 2], [[0xC0]], [[0, 0, 0, 1, 65, 0, 0, 0, 9]]⟩)
    (by decide) ?_ ?_ ?_ rfl _ ?_⟩
  · rintro _ ⟨⟩
    decide
  · rintro _ ⟨⟩
    decide
  · refine List.forall_mem_singleton.mpr ?_
    rintro _ _ ⟨⟩ ⟨⟩
    decide
  · rintro _ member page rfl
    simp only [List.mem_cons, reduceCtorEq, List.not_mem_nil, false_or, or_false, Call.setPage.injEq] at member
    subst member
    decide

end ResultSet

end SeriesCursor
