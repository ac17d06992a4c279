import SeriesCursor.Proofs.Absorbing
import SeriesCursor.Proofs.PermutedRow

/-!
Which slot the server gives a column cannot be seen by name. The same result set is run twice, once as the
server sends it and once with the index and the buffers of every page in other slots. Whatever is called,
the two are in the same state, send the same requests and read the same, and where a row cannot be decoded
in one, it cannot be in the other; only the column that is blamed for it may be another one.
-/

namespace SeriesCursor

variable {n : Nat} {p : Equiv.Perm (Fin n)}

def Response.permute (p : Equiv.Perm (Fin n)) (response : Response) : Response :=
  { response with page := response.page.map (Page.permute p) }

def FetchReply.permute (p : Equiv.Perm (Fin n)) : FetchReply → FetchReply
  | .lost fault => .lost fault
  | .answered response => .answered (response.permute p)

def Server.permute (p : Equiv.Perm (Fin n)) (server : Server) : Server :=
  { server with fetchReplies := server.fetchReplies.map (FetchReply.permute p) }

def Call.permute (p : Equiv.Perm (Fin n)) : Call → Call
  | .setPage page => .setPage (page.permute p)
  | call => call

/-- Two results that are the same, up to the words about a row that could not be decoded. -/
inductive Matches {α : Type} : Except Error α → Except Error α → Prop where
  | same (result : Except Error α) : Matches result result
  | undecodable {e e' : Error} (fault : DecodeFault e) (alsoFault : DecodeFault e') :
      Matches (.error e) (.error e')
  | stopped {e e' : Error} (fault : DecodeFault e) (alsoFault : DecodeFault e') :
      Matches (.error (.stopped e.message)) (.error (.stopped e'.message))

inductive BothStopped : Option Error → Option Error → Prop where
  | neither : BothStopped none none
  | both {e e' : Error} (fault : DecodeFault e) (alsoFault : DecodeFault e') : BothStopped (some e) (some e')

namespace ResultSet

/-- Two sets that differ in the order of the slots, and in the words about a row that stopped them. -/
structure Twin (p : Equiv.Perm (Fin n)) (set other : ResultSet) : Prop where
  options : other.options = set.options
  schema : other.schema = set.schema.permute p
  slots : set.schema.slotCount = n
  distinct : set.schema.Distinct
  server : other.server = set.server.map (Server.permute p)
  page : set.page.Twin p other.page
  /-- A row that could not be decoded has left other cells half read in each. -/
  row : set.failure = none → other.row = set.row.permute p
  present : other.row.present = set.row.present
  state : other.state = set.state
  exhausted : other.exhausted = set.exhausted
  failure : BothStopped set.failure other.failure
  requests : other.journal.requests = set.journal.requests

structure TwinMove {α : Type} (p : Equiv.Perm (Fin n)) (outcome other : Except Error α × ResultSet) : Prop where
  result : Matches outcome.1 other.1
  next : Twin p outcome.2 other.2

theorem waits_of_receive {set next : ResultSet} {reply : FetchReply} (waits : Waits set)
    (received : set.receive reply = (.ok true, next)) : Waits next := by
  have outcome := receive_received set reply
  rw [received] at outcome
  cases outcome with
  | installed response page reader success more sent accepted => exact waits.install accepted

namespace Twin

variable {set other : ResultSet} (twin : Twin p set other)

include twin

theorem slotCount_other : other.schema.slotCount = n := by
  rw [twin.schema, Schema.slotCount_permute, twin.slots]

theorem columns : other.schema.columns = permute p set.schema.columns := by
  rw [twin.schema]
  rfl

theorem note {entries otherEntries : List JournalEntry}
    (same : Journal.requests otherEntries = Journal.requests entries) :
    Twin p (set.note entries) (other.note otherEntries) :=
  { twin with
    requests := by
      simp only [ResultSet.note, Journal.requests_append]
      rw [twin.requests, same] }

theorem report (events otherEvents : List Event) :
    Twin p (ResultSet.report set events) (ResultSet.report other otherEvents) := by
  apply twin.note
  rw [Journal.requests_events, Journal.requests_events]

theorem ask (later : List FetchReply) : Twin p (set.ask later) (other.ask (later.map (FetchReply.permute p))) := by
  have sent := twin.requests
  refine { twin with server := ?_, requests := ?_ }
  · simp only [ResultSet.ask, ResultSet.note, twin.server, Option.map_map]
    rfl
  · rw [requests_ask, requests_ask, sent, twin.options]

theorem install (page otherPage : Page) {reader otherReader : PageReader} (same : reader.Twin p otherReader) :
    Twin p (set.install page reader) (other.install otherPage otherReader) := by
  apply Twin.report
  exact { twin with page := same }

theorem exhaust : Twin p set.exhaust other.exhaust := by
  apply Twin.report
  exact { twin with state := rfl, exhausted := rfl }

theorem withoutRow : Twin p set.withoutRow other.withoutRow :=
  { twin with
    row := by
      intro going
      simp only [ResultSet.withoutRow, twin.row going]
      rfl
    present := rfl }

theorem fail {row otherRow : Row} {e e' : Error} (fault : DecodeFault e) (alsoFault : DecodeFault e') :
    Twin p (ResultSet.fail { set with row := row } e) (ResultSet.fail { other with row := otherRow } e') := by
  apply Twin.report
  exact
    { twin with
      page := ⟨rfl, by rintro ⟨⟩⟩
      row := by rintro ⟨⟩
      present := rfl
      state := rfl
      failure := .both fault alsoFault }

theorem readRow (going : set.failure = none) (reads : Reads set) (row : set.page.hasRow = true) :
    TwinMove p set.readRow other.readRow := by
  have aligned := (reads.lanes row).trans twin.slots
  have fits := reads.cells.trans twin.slots
  have materialized := Row.materialize_permute (p := p) (reads.enough row) twin.slots aligned fits
  rw [← twin.row going, ← twin.page.moved row, ← twin.columns] at materialized
  rcases materialized with ⟨next, decoded, held, again⟩ | ⟨e, e', fault, alsoFault, failed, again⟩
  · rw [ResultSet.readRow, ResultSet.readRow, held, again]
    exact ⟨.same _,
      { twin with
        page := ⟨rfl, fun _ => rfl⟩
        row := fun _ => rfl
        present := rfl
        state := rfl }⟩
  · obtain ⟨row, stopped⟩ := readRow_of_undecodable failed
    obtain ⟨otherRow, alsoStopped⟩ := readRow_of_undecodable again
    rw [stopped, alsoStopped]
    exact ⟨.undecodable fault alsoFault, twin.fail fault alsoFault⟩

theorem start (page : Page) :
    (∃ reader otherReader, PageReader.start page set.schema.slotCount = .ok reader ∧
        PageReader.start (page.permute p) other.schema.slotCount = .ok otherReader ∧ reader.Twin p otherReader) ∨
      ∃ e, PageReader.start page set.schema.slotCount = .error e ∧
        PageReader.start (page.permute p) other.schema.slotCount = .error e := by
  rw [twin.slots, twin.slotCount_other]
  exact PageReader.start_permute p page

theorem receive (reply : FetchReply) :
    (other.receive (reply.permute p)).1 = (set.receive reply).1 ∧
      Twin p (set.receive reply).2 (other.receive (reply.permute p)).2 := by
  cases reply with
  | lost fault => exact ⟨rfl, twin⟩
  | answered response =>
    rw [FetchReply.permute]
    cases verified : response.status.verify with
    | error e =>
      rw [receive_of_refusal verified, @receive_of_refusal other (response.permute p) e verified]
      exact ⟨rfl, twin⟩
    | ok _ =>
      cases more : response.hasResultSet with
      | false =>
        rw [receive_of_last verified more, @receive_of_last other (response.permute p) verified more]
        exact ⟨rfl, twin.exhaust⟩
      | true =>
        cases sent : response.page with
        | none =>
          have alsoNone : (response.permute p).page = none := by rw [Response.permute, sent, Option.map_none]
          rw [receive_of_missing verified more sent,
            @receive_of_missing other (response.permute p) verified more alsoNone]
          exact ⟨rfl, twin⟩
        | some page =>
          have alsoSent : (response.permute p).page = some (page.permute p) := by
            rw [Response.permute, sent, Option.map_some]
          rcases twin.start page with
            ⟨reader, otherReader, accepted, alsoAccepted, same⟩ | ⟨e, unfit, alsoUnfit⟩
          · rw [receive_of_accepted verified more sent accepted,
              @receive_of_accepted other (response.permute p) _ _ verified more alsoSent alsoAccepted]
            exact ⟨rfl, twin.install _ _ same⟩
          · rw [receive_of_unfit verified more sent unfit,
              @receive_of_unfit other (response.permute p) _ _ verified more alsoSent alsoUnfit]
            exact ⟨rfl, twin⟩

theorem seek (waits : Waits set) (replies : List FetchReply) :
    TwinMove p (set.seek replies) (other.seek (replies.map (FetchReply.permute p))) := by
  induction replies generalizing set other with
  | nil =>
    obtain ⟨same, next⟩ := (twin.ask []).receive (.answered .exhausted)
    exact ⟨same ▸ .same _, next⟩
  | cons reply later ih =>
    obtain ⟨same, next⟩ := (twin.ask later).receive reply
    have waiting : ∀ {found}, (set.ask later).receive reply = (.ok true, found) → Waits found :=
      waits_of_receive (waits.ask later)
    rw [List.map_cons, ResultSet.seek, ResultSet.seek]
    generalize (set.ask later).receive reply = outcome at same next waiting ⊢
    generalize (other.ask (later.map (FetchReply.permute p))).receive (reply.permute p) = again at same next ⊢
    obtain ⟨result, found⟩ := outcome
    obtain ⟨_, otherFound⟩ := again
    cases same
    cases result with
    | error e => exact ⟨.same _, next⟩
    | ok more =>
      cases more with
      | false => exact ⟨.same _, next⟩
      | true =>
        have waits := waiting rfl
        simp only [next.page.hasRow]
        cases row : found.page.hasRow with
        | true => exact next.readRow waits.going.intact waits.reads row
        | false => exact ih next waits

theorem usable : (set.usable = .ok () ∧ other.usable = .ok ()) ∨
    ∃ e e', set.usable = .error e ∧ other.usable = .error e' ∧
      ∀ {α : Type}, Matches (.error e : Except Error α) (.error e') := by
  simp only [ResultSet.usable, twin.state]
  by_cases closed : set.state = .closed
  · simp only [if_pos closed]
    exact .inr ⟨_, _, rfl, rfl, .same _⟩
  · simp only [if_neg closed]
    have failure := twin.failure
    generalize set.failure = stopped at failure ⊢
    generalize other.failure = otherStopped at failure ⊢
    cases failure with
    | neither => exact .inl ⟨rfl, rfl⟩
    | both fault alsoFault => exact .inr ⟨_, _, rfl, rfl, .stopped fault alsoFault⟩

theorem waiting : Twin p set.waiting other.waiting :=
  { twin.withoutRow with state := rfl }

theorem drained : Twin p set.drained other.drained :=
  { twin.withoutRow with state := rfl }

theorem advance (coherent : Coherent set) : TwinMove p set.advance other.advance := by
  rcases twin.usable with ⟨usable, alsoUsable⟩ | ⟨e, e', stop, alsoStop, same⟩
  · have going := coherent.going usable
    have waits := waits_waiting coherent going
    simp only [ResultSet.advance, usable, alsoUsable, twin.page.hasRow, twin.exhausted]
    cases row : set.page.hasRow with
    | true => exact twin.readRow going.intact (coherent.reads going) row
    | false =>
      cases ended : set.exhausted with
      | true => exact ⟨.same _, twin.drained⟩
      | false =>
        rw [twin.server]
        cases held : set.server with
        | none => exact absurd held going.served
        | some server => exact twin.waiting.seek waits server.fetchReplies
  · rw [advance_of_unusable stop, advance_of_unusable alsoStop]
    exact ⟨same, twin⟩

theorem setPage (page : Page) : TwinMove p (set.setPage page) (other.setPage (page.permute p)) := by
  rcases twin.usable with ⟨usable, alsoUsable⟩ | ⟨e, e', stop, alsoStop, same⟩
  · simp only [ResultSet.setPage, usable, alsoUsable]
    rcases twin.start page with ⟨reader, otherReader, accepted, alsoAccepted, same⟩ | ⟨e, unfit, alsoUnfit⟩
    · rw [accepted, alsoAccepted]
      have installed := twin.install page (page.permute p) same
      have state := congrArg (fun state => if state = .hasCachedRow then CursorState.needsFetch else state) twin.state
      exact ⟨.same _, { installed.withoutRow with state := state }⟩
    · rw [unfit, alsoUnfit]
      exact ⟨.same _, twin⟩
  · rw [setPage_of_unusable stop, setPage_of_unusable alsoStop]
    exact ⟨same, twin⟩

theorem released : Twin p set.released other.released :=
  { twin.withoutRow with
    server := rfl
    page := ⟨rfl, by rintro ⟨⟩⟩
    state := rfl }

theorem close : other.close.1 = set.close.1 ∧ Twin p set.close.2 other.close.2 := by
  have released := twin.released
  unfold ResultSet.close
  rw [twin.state, twin.server, twin.options]
  split
  · exact ⟨rfl, twin⟩
  · cases set.server with
    | none => exact ⟨rfl, released⟩
    | some server =>
      have sent : Twin p (set.released.note [.close ⟨set.options.sessionId, set.options.queryId⟩])
          (other.released.note [.close ⟨set.options.sessionId, set.options.queryId⟩]) := released.note rfl
      have reply : (server.permute p).closeReply = server.closeReply := rfl
      rw [Option.map_some]
      dsimp only
      rw [reply]
      cases server.closeReply with
      | lost fault => exact ⟨rfl, sent⟩
      | answered status =>
        dsimp only
        cases status.verify with
        | error e => exact ⟨rfl, sent⟩
        | ok _ => exact ⟨rfl, sent.report _ _⟩

theorem perform (coherent : Coherent set) (call : Call) :
    Twin p (set.perform call).2 (other.perform (call.permute p)).2 := by
  cases call with
  | advance => exact (twin.advance coherent).next
  | setPage page => exact (twin.setPage page).next
  | close => exact twin.close.2
  | read reading selector => exact twin
  | currentRow => exact twin

theorem run (coherent : Coherent set) (calls : List Call) :
    Twin p (set.run calls) (other.run (calls.map (Call.permute p))) := by
  induction calls generalizing set other with
  | nil => exact twin
  | cons call rest ih => exact ih (twin.perform coherent call) (coherent_perform coherent call)

theorem drop : Twin p set.drop other.drop := by
  obtain ⟨same, next⟩ := twin.close
  unfold ResultSet.drop
  rw [twin.state]
  split
  · exact twin
  · generalize set.close = outcome at same next ⊢
    generalize other.close = again at same next ⊢
    obtain ⟨result, closed⟩ := outcome
    obtain ⟨_, otherClosed⟩ := again
    cases same
    cases result with
    | error e => exact next.report _ _
    | ok _ => exact next

theorem current (coherent : Coherent set) :
    (∃ e, set.current = .error e ∧ other.current = .error e) ∨ SameRow set other set.row (set.row.permute p) := by
  by_cases closed : set.state = .closed
  · exact .inl ⟨.closed, if_pos closed, if_pos (twin.state.trans closed)⟩
  · have alsoOpen : other.state ≠ .closed := by rwa [twin.state]
    cases present : set.row.present with
    | false =>
      exact .inl ⟨_, current_of_no_row closed present, current_of_no_row alsoOpen (twin.present.trans present)⟩
    | true =>
      have cached := coherent.row.mp present
      have going := coherent.going (coherent.usable_of_state closed (by rw [cached]; rintro ⟨⟩))
      right
      constructor
      · rw [ResultSet.current, if_neg closed, present, if_pos rfl]
      · rw [ResultSet.current, if_neg alsoOpen, twin.present, present, if_pos rfl, twin.row going.intact]
      · rfl
      · rw [twin.schema]
        rfl
      · intro name
        rw [twin.schema]
        exact Schema.held_permute twin.distinct twin.slots (coherent.cells.trans twin.slots) name

theorem read (coherent : Coherent set) (reading : Reading) (selector : Selector) :
    other.read reading selector = set.read reading selector := by
  rcases twin.current coherent with ⟨e, unreadable, alsoUnreadable⟩ | same
  · rw [read_of_unreadable unreadable, read_of_unreadable alsoUnreadable]
  · exact same.read reading selector

theorem currentRow (coherent : Coherent set) :
    (∃ record fields, set.currentRow = .ok record ∧ other.currentRow = .ok { record with fields := fields } ∧
        fields.Perm record.fields) ∨
      ∃ e e', set.currentRow = .error e ∧ other.currentRow = .error e' := by
  rcases twin.current coherent with ⟨e, unreadable, alsoUnreadable⟩ | same
  · refine .inr ⟨e, e, ?_, ?_⟩
    · rw [ResultSet.currentRow, unreadable]
      rfl
    · rw [ResultSet.currentRow, alsoUnreadable]
      rfl
  · have includesTime : other.schema.includesTime = set.schema.includesTime := by
      rw [twin.schema]
      rfl
    rw [currentRow_of_readable same.readable, currentRow_of_readable same.alsoReadable, twin.columns,
      includesTime]
    rcases @recordFields_permute n p set.row _ twin.slots (coherent.cells.trans twin.slots) with
      ⟨fields, copied, again⟩ | ⟨e, e', failed, again⟩
    · rw [copied, again]
      exact .inl ⟨_, permute p fields, rfl, rfl, permute_perm fields⟩
    · rw [failed, again]
      exact .inr ⟨e, e', rfl, rfl⟩

end Twin

/-- Two sets that cannot be told apart but by the words about a row that could not be decoded, and by the
order of the fields in a copy of the row. -/
structure Indistinct (p : Equiv.Perm (Fin n)) (set other : ResultSet) : Prop where
  state : other.state = set.state
  requests : other.journal.requests = set.journal.requests
  advance : Matches set.advance.1 other.advance.1
  setPage : ∀ page, Matches (set.setPage page).1 (other.setPage (page.permute p)).1
  close : other.close.1 = set.close.1
  dropped : other.drop.journal.requests = set.drop.journal.requests
  read : ∀ reading selector, other.read reading selector = set.read reading selector
  record : (∃ record fields, set.currentRow = .ok record ∧
      other.currentRow = .ok { record with fields := fields } ∧ fields.Perm record.fields) ∨
    ∃ e e', set.currentRow = .error e ∧ other.currentRow = .error e'

theorem Twin.indistinct {set other : ResultSet} (twin : Twin p set other) (coherent : Coherent set) :
    Indistinct p set other where
  state := twin.state
  requests := twin.requests
  advance := (twin.advance coherent).result
  setPage := fun page => (twin.setPage page).result
  close := twin.close.1
  dropped := twin.drop.requests
  read := twin.read coherent
  record := twin.currentRow coherent

theorem twin_opened {schema : Schema} (slots : schema.slotCount = n) (distinct : schema.Distinct)
    (options : Options) (server : Server) :
    Twin p (opened options schema server) (opened options (schema.permute p) (server.permute p)) where
  options := rfl
  schema := rfl
  slots := slots
  distinct := distinct
  server := rfl
  page := ⟨rfl, by rintro ⟨⟩⟩
  row := by
    intro _
    simp [opened, Row.empty, Row.permute, permute_replicate]
  present := rfl
  state := rfl
  exhausted := rfl
  failure := .neither
  requests := rfl

theorem create_permute {schema : Schema} (slots : schema.slotCount = n) (distinct : schema.Distinct)
    (options : Options) (server : Server) (initial : Option Page) :
    (∃ set other, create options schema server initial = .ok set ∧
        create options (schema.permute p) (server.permute p) (initial.map (Page.permute p)) = .ok other ∧
          Twin p set other) ∨
      ∃ e, create options schema server initial = .error e ∧
        create options (schema.permute p) (server.permute p) (initial.map (Page.permute p)) = .error e := by
  have fresh := @twin_opened n p schema slots distinct options server
  cases initial with
  | none => exact .inl ⟨_, _, rfl, rfl, fresh⟩
  | some page =>
    have adopted : create options schema server (some page) = (opened options schema server).adopt page := rfl
    have alsoAdopted : create options (schema.permute p) (server.permute p) (some (page.permute p)) =
        (opened options (schema.permute p) (server.permute p)).adopt (page.permute p) := rfl
    rw [Option.map_some, adopted, alsoAdopted, adopt_eq, adopt_eq]
    rcases fresh.start page with ⟨reader, otherReader, accepted, alsoAccepted, same⟩ | ⟨e, unfit, alsoUnfit⟩
    · rw [accepted, alsoAccepted]
      exact .inl ⟨_, _, rfl, rfl, fresh.install page (page.permute p) same⟩
    · rw [unfit, alsoUnfit]
      exact .inr ⟨e, rfl, rfl⟩

/-- Whatever slots the server gives the columns, and whatever it replies and is called, a set can be made on
the columns in any other slots, and no reading by name or position, no state and no request tells the two
apart. -/
theorem slot_choice_unseen {options : Options} {names types : List String} {index : SlotIndex} {schema : Schema}
    (resolved : Schema.resolve names types (some index) options.includesTime = .ok schema)
    (p : Equiv.Perm (Fin index.size)) (server : Server) (initial : Option Page) :
    (∃ set other, ofRaw options names types (some index) server initial = .ok set ∧
        ofRaw options names types (some (index.permute p)) (server.permute p) (initial.map (Page.permute p)) =
          .ok other ∧
        ∀ calls, Indistinct p (set.run calls) (other.run (calls.map (Call.permute p)))) ∨
      ∃ e, ofRaw options names types (some index) server initial = .error e ∧
        ofRaw options names types (some (index.permute p)) (server.permute p) (initial.map (Page.permute p)) =
          .error e := by
  obtain ⟨distinct, slots⟩ := Schema.distinct_of_resolve resolved
  have built : ofRaw options names types (some index) server initial =
      create options schema server initial := by
    rw [ofRaw, resolved]
    rfl
  have alsoBuilt : ofRaw options names types (some (index.permute p)) (server.permute p)
      (initial.map (Page.permute p)) =
        create options (schema.permute p) (server.permute p) (initial.map (Page.permute p)) := by
    rw [ofRaw, Schema.resolve_permute resolved p]
    rfl
  rw [built, alsoBuilt]
  rcases create_permute (p := p) slots distinct options server initial with
    ⟨set, other, created, alsoCreated, twin⟩ | failed
  · refine .inl ⟨set, other, created, alsoCreated, fun calls => ?_⟩
    have coherent := (coherent_create created).1
    exact (twin.run coherent calls).indistinct (coherent_run coherent calls)
  · exact .inr failed

def swapped : Equiv.Perm (Fin 2) :=
  Equiv.swap 0 1

def bothBroken : Page :=
  ⟨[0, 0, 0, 0, 0, 0, 0, 1], [[0x80], [0xC0]], [[0, 0], [0, 0, 0, 9, 65]]⟩

/-- A row in which both columns are broken: each order of the slots blames the column that comes first. -/
theorem slot_choice_unseen_of_broken_columns :
    ∃ set other, ofRaw oneColumn ["s1", "s2", "s1"] ["INT32", "TEXT", "INT32"]
        (some ⟨[("s1", 0), ("s2", 1)], by decide⟩) ⟨[.answered (.ofPage bothBroken)], []⟩
        (some ⟨[], [], [[]]⟩) = .ok set ∧
      ofRaw oneColumn ["s1", "s2", "s1"] ["INT32", "TEXT", "INT32"] (some ⟨[("s1", 1), ("s2", 0)], by decide⟩)
        ⟨[.answered (.ofPage ⟨[0, 0, 0, 0, 0, 0, 0, 1], [[0xC0], [0x80]], [[0, 0, 0, 9, 65], [0, 0]]⟩)], []⟩
        (some ⟨[], [], [[]]⟩) = .ok other ∧
      set.advance.1 = .error (.truncated (.values "s1") 4 2) ∧
      other.advance.1 = .error (.truncated (.values "s2") 9 1) ∧
      ∀ calls, Indistinct swapped (set.run calls) (other.run (calls.map (Call.permute swapped))) := by
  refine ⟨_, _, rfl, rfl, rfl, rfl, ?_⟩
  rcases @slot_choice_unseen oneColumn ["s1", "s2", "s1"] ["INT32", "TEXT", "INT32"]
      ⟨[("s1", 0), ("s2", 1)], by decide⟩ _ rfl swapped ⟨[.answered (.ofPage bothBroken)], []⟩
      (some ⟨[], [], [[]]⟩) with
    ⟨set, other, built, alsoBuilt, unseen⟩ | ⟨e, failed, _⟩
  · cases built
    cases alsoBuilt
    exact unseen
  · cases failed

end ResultSet

end SeriesCursor
