import SeriesCursor.Proofs.Reading
import SeriesCursor.Proofs.Requests

/-!
Failed and closed sets stay so. What stopped a set is kept in one field and its state in another, and
every call looks at both in its own order; from outside, a stopped set gives one answer to whatever moves
it and another to whatever reads it, whatever was called in between, and so does a closed one.
-/

namespace SeriesCursor

def CloseReply.result : CloseReply → Except Error Unit
  | .lost fault => .error (.connection .close fault)
  | .answered status => status.verify

namespace ResultSet

/-- The replies bring pages without rows and then one with a row; the set as it stands before that row. -/
inductive Brings : ResultSet → List FetchReply → ResultSet → Prop where
  | page (set : ResultSet) (response : Response) (later : List FetchReply) (page : Page) (reader : PageReader)
      (success : response.status.verify = .ok ()) (more : response.hasResultSet = true)
      (sent : response.page = some page) (accepted : PageReader.start page set.schema.slotCount = .ok reader)
      (row : reader.hasRow = true) :
      Brings set (.answered response :: later) ((set.ask later).install page reader)
  | skipped (set found : ResultSet) (response : Response) (later : List FetchReply) (page : Page)
      (reader : PageReader) (success : response.status.verify = .ok ()) (more : response.hasResultSet = true)
      (sent : response.page = some page) (accepted : PageReader.start page set.schema.slotCount = .ok reader)
      (noRow : reader.hasRow = false) (rest : Brings ((set.ask later).install page reader) later found) :
      Brings set (.answered response :: later) found

/-- The set as it stands before the row that a call for the next row comes to. -/
inductive ComesTo (set : ResultSet) : ResultSet → Prop where
  | inHand (usable : set.usable = .ok ()) (row : set.page.hasRow = true) : ComesTo set set
  | fetched (server : Server) (found : ResultSet) (usable : set.usable = .ok ())
      (noRow : set.page.hasRow = false) (more : set.exhausted = false) (held : set.server = some server)
      (brings : Brings set.waiting server.fetchReplies found) : ComesTo set found

def Undecodable (set : ResultSet) (e : Error) : Prop :=
  ∃ reader, ComesTo set reader ∧ (reader.row.materialize reader.schema.columns reader.page).1 = .error e

structure Refuses (set : ResultSet) (moving reading : Error) : Prop where
  advance : set.advance.1 = .error moving
  setPage : ∀ page, (set.setPage page).1 = .error moving
  reads : ∀ call, call.readsRow = true → (set.perform call).1 = .error reading

structure StaysFailed (e : Error) (sent : Journal) (set : ResultSet) : Prop where
  refuses : Refuses set (.stopped e.message) .noCurrentRow
  state : set.state = .failed
  sent : set.journal.requests = sent

structure StaysClosed (sent : Journal) (set : ResultSet) : Prop where
  refuses : Refuses set .closed .closed
  state : set.state = .closed
  again : set.close.1 = .ok ()
  sent : set.journal.requests = sent
  dropped : set.drop = set

variable {set : ResultSet} {e : Error}

theorem seek_of_brings {replies : List FetchReply} {found : ResultSet} (brings : Brings set replies found) :
    set.seek replies = found.readRow := by
  induction brings with
  | page set response later page reader success more sent accepted row =>
    rw [seek_of_page (receive_of_accepted success more sent accepted), row]
    rfl
  | skipped set found response later page reader success more sent accepted noRow rest ih =>
    rw [seek_of_page (receive_of_accepted success more sent accepted), noRow]
    exact ih

theorem advance_of_comesTo {reader : ResultSet} (comes : ComesTo set reader) :
    set.advance = reader.readRow := by
  cases comes with
  | inHand usable row =>
    rw [advance, usable]
    exact if_pos row
  | fetched server found usable noRow more held brings =>
    rw [← seek_of_brings brings, advance, usable]
    simp only [noRow, more, held]
    rfl

theorem refuses_of_unusable {reading : Error} (stop : set.usable = .error e)
    (unreadable : set.current = .error reading) : Refuses set e reading where
  advance := by rw [advance_of_unusable stop]
  setPage := by
    intro page
    rw [setPage_of_unusable stop]
  reads := by
    intro call reads
    exact perform_of_unreadable unreadable reads

theorem readRow_of_undecodable
    (undecodable : (set.row.materialize set.schema.columns set.page).1 = .error e) :
    ∃ row, set.readRow = (.error e, fail { set with row := row } e) := by
  have read := readRow_rowRead set
  have outcome : set.readRow.1 = .error e := by
    rw [readRow]
    cases result : set.row.materialize set.schema.columns set.page with
    | mk outcome inHand =>
      rw [result] at undecodable
      cases undecodable
      rfl
  generalize set.readRow = next at read outcome ⊢
  cases read with
  | decoded => cases outcome
  | stopped e row =>
    cases outcome
    exact ⟨row, rfl⟩

theorem staysFailed_fail (set : ResultSet) (e : Error) :
    StaysFailed e (fail set e).journal.requests (fail set e) where
  refuses := refuses_of_unusable rfl (current_of_no_row (by rintro ⟨⟩) rfl)
  state := rfl
  sent := rfl

theorem advance_of_undecodable (undecodable : Undecodable set e) :
    set.advance.1 = .error e ∧ set.advance.2.usable = .error (.stopped e.message) ∧
      StaysFailed e set.advance.2.journal.requests set.advance.2 := by
  obtain ⟨reader, comes, undecodable⟩ := undecodable
  obtain ⟨row, failed⟩ := readRow_of_undecodable undecodable
  rw [advance_of_comesTo comes, failed]
  exact ⟨rfl, rfl, staysFailed_fail _ e⟩

theorem staysClosed_of_closed (closed : set.state = .closed) : StaysClosed set.journal.requests set where
  refuses := by
    apply refuses_of_unusable (unusable_of_closed closed)
    rw [current, if_pos closed]
  state := closed
  again := by rw [close_of_closed closed]
  sent := rfl
  dropped := by rw [drop, if_pos closed]

theorem close_result {held : Server} (openSet : set.state ≠ .closed) (isServer : set.server = some held) :
    set.close.1 = held.closeReply.result := by
  rw [close, if_neg openSet, isServer]
  dsimp only
  cases held.closeReply with
  | lost fault => rfl
  | answered status =>
    dsimp only [CloseReply.result]
    cases status.verify <;> rfl

variable {options : Options} {schema : Schema} {server : Server} {initial : Option Page}

/-- After a row that cannot be decoded, every call until the set is closed is refused on account of that
row; and whatever the server replies to closing, every call after it is refused on account of that. -/
theorem failed_and_closed_absorb (created : create options schema server initial = .ok set)
    (before : List Call) :
    (∀ e, Undecodable (set.run before) e → (set.run before).advance.1 = .error e ∧
      ∀ after, .close ∉ after →
        StaysFailed e (set.run before).advance.2.journal.requests (set.run (before ++ .advance :: after))) ∧
    ((set.run before).state ≠ .closed → (set.run before).close.1 = server.closeReply.result ∧
      ∀ after, StaysClosed ((set.run before).journal.requests ++ [.close ⟨options.sessionId, options.queryId⟩])
        (set.run (before ++ .close :: after))) := by
  constructor
  · intro e undecodable
    obtain ⟨result, stop, stays⟩ := advance_of_undecodable undecodable
    refine ⟨result, ?_⟩
    intro after kept
    have same : set.run (before ++ .advance :: after) = (set.run before).advance.2 := by
      rw [run_append]
      exact run_of_unusable stop after kept
    rw [same]
    exact stays
  · intro openSet
    obtain ⟨sent, accounted⟩ := accounted_run (accounted_create created) before
    have held := accounted.held openSet
    have requests := requests_close_of_held openSet held
    refine ⟨(close_result openSet held).trans rfl, ?_⟩
    intro after
    have same : set.run (before ++ .close :: after) = (set.run before).close.2 := by
      rw [run_append]
      exact run_of_closed (close_closed (set.run before)) after
    rw [same, ← accounted.sameOptions, ← requests]
    exact staysClosed_of_closed (close_closed (set.run before))

def brokenPage : Server :=
  ⟨[.answered (.ofPage ⟨[0, 0, 0, 0, 0, 0, 0, 2], [[0x80]], [[0, 0]]⟩)], [.lost (.timeout 5)]⟩

def beforeBrokenPage : ResultSet :=
  (opened oneColumn ⟨["Time", "s1"], [⟨"s1", .int32⟩], true⟩ brokenPage).install
    ⟨[0, 0, 0, 0, 0, 0, 0, 1], [[0x80]], [[0, 0, 0, 7]]⟩
    ⟨[0, 0, 0, 0, 0, 0, 0, 1], [⟨[0x80], [0, 0, 0, 7]⟩], 0⟩

theorem failed_and_closed_absorb_of_broken_page :
    create oneColumn ⟨["Time", "s1"], [⟨"s1", .int32⟩], true⟩ brokenPage
        (some ⟨[0, 0, 0, 0, 0, 0, 0, 1], [[0x80]], [[0, 0, 0, 7]]⟩) = .ok beforeBrokenPage ∧
      Undecodable (beforeBrokenPage.run [.advance]) (.truncated (.values "s1") 4 2) ∧
      StaysFailed (.truncated (.values "s1") 4 2) (beforeBrokenPage.run [.advance]).advance.2.journal.requests
        (beforeBrokenPage.run [.advance, .advance, .currentRow]) ∧
      (beforeBrokenPage.run [.advance, .advance]).state ≠ .closed ∧
      (beforeBrokenPage.run [.advance, .advance]).close.1 = .error (.connection .close (.timeout 5)) ∧
      StaysClosed ((beforeBrokenPage.run [.advance, .advance]).journal.requests ++ [.close ⟨1, 2⟩])
        (beforeBrokenPage.run [.advance, .advance, .close, .advance, .close]) := by
  have absorb := @failed_and_closed_absorb beforeBrokenPage oneColumn
    ⟨["Time", "s1"], [⟨"s1", .int32⟩], true⟩ brokenPage
    (some ⟨[0, 0, 0, 0, 0, 0, 0, 1], [[0x80]], [[0, 0, 0, 7]]⟩) rfl
  have undecodable : Undecodable (beforeBrokenPage.run [.advance]) (.truncated (.values "s1") 4 2) :=
    ⟨_, .fetched brokenPage _ rfl rfl rfl rfl (.page _ _ _ _ _ rfl rfl rfl rfl rfl), rfl⟩
  have openSet : (beforeBrokenPage.run [.advance, .advance]).state ≠ .closed := by rintro ⟨⟩
  obtain ⟨_, failed⟩ := (absorb [.advance]).1 _ undecodable
  obtain ⟨result, closed⟩ := (absorb [.advance, .advance]).2 openSet
  exact ⟨rfl, undecodable, failed [.currentRow] (by decide), openSet, result, closed [.advance, .close]⟩

end ResultSet

end SeriesCursor
