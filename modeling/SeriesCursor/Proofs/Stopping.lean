import SeriesCursor.Proofs.Transitions

/-!
Which fatal errors stop a result set. A row that cannot be decoded stops it until it is closed. A page
that is lost on the way, because the reply announces one and has none or because its buffers do not fit
the schema, is a fatal error as well, but it leaves no trace: the next call asks for the page after it.
-/

namespace SeriesCursor

inductive LosesPage (slots : Nat) : (replies : List FetchReply) → Error → (later : List FetchReply) → Prop
  | missing (response : Response) (later : List FetchReply) (success : response.status.verify = .ok ())
      (more : response.hasResultSet = true) (none : response.page = none) :
      LosesPage slots (.answered response :: later) (.malformedPage .missingPage) later
  | unfit (response : Response) (page : Page) (e : Error) (later : List FetchReply)
      (success : response.status.verify = .ok ()) (more : response.hasResultSet = true)
      (sent : response.page = some page) (unfit : PageReader.start page slots = .error e) :
      LosesPage slots (.answered response :: later) e later
  | skipped (response : Response) (page : Page) (reader : PageReader) (replies : List FetchReply) (e : Error)
      (later : List FetchReply) (success : response.status.verify = .ok ())
      (more : response.hasResultSet = true) (sent : response.page = some page)
      (accepted : PageReader.start page slots = .ok reader) (noRow : reader.hasRow = false)
      (rest : LosesPage slots replies e later) : LosesPage slots (.answered response :: replies) e later

namespace ResultSet

variable {set after : ResultSet} {e : Error}

/-- Every move of the set reports the failure with the given reason until the set is closed, and none
gives a row, closed or not. -/
structure StopsFor (set : ResultSet) (reason : String) : Prop where
  advance : ∀ calls, Call.close ∉ calls → (set.run calls).advance.1 = .error (.stopped reason)
  setPage : ∀ calls, Call.close ∉ calls → ∀ page, ((set.run calls).setPage page).1 = .error (.stopped reason)
  noRow : ∀ calls, (set.run calls).advance.1 ≠ .ok true

structure PageLost (set : ResultSet) (e : Error) (later : List FetchReply) : Prop where
  usable : set.usable = .ok ()
  noRow : set.page.hasRow = false
  more : set.exhausted = false
  loses : ∃ server, set.server = some server ∧ LosesPage set.schema.slotCount server.fetchReplies e later

/-- The set is not stopped, and the next row comes from the replies that are left. -/
structure GoesOn (set : ResultSet) (later : List FetchReply) : Prop where
  usable : set.usable = .ok ()
  state : set.state = .needsFetch
  resumes : set.advance = set.waiting.seek later

theorem advance_of_unusable (stop : set.usable = .error e) : set.advance = (.error e, set) := by
  rw [advance, stop]

theorem setPage_of_unusable (stop : set.usable = .error e) (page : Page) :
    set.setPage page = (.error e, set) := by
  rw [setPage, stop]

theorem run_of_unusable (stop : set.usable = .error e) (calls : List Call) (kept : Call.close ∉ calls) :
    set.run calls = set := by
  induction calls with
  | nil => rfl
  | cons call rest ih =>
    have same : (set.perform call).2 = set := by
      cases call with
      | advance => exact congrArg Prod.snd (advance_of_unusable stop)
      | setPage page => exact congrArg Prod.snd (setPage_of_unusable stop page)
      | close => exact absurd List.mem_cons_self kept
      | read reading selector => rfl
      | currentRow => rfl
    rw [run, same]
    exact ih fun later => kept (List.mem_cons_of_mem call later)

theorem unusable_of_closed (closed : set.state = .closed) : set.usable = .error .closed :=
  if_pos closed

theorem close_closed (set : ResultSet) : set.close.2.state = .closed := by
  by_cases closed : set.state = .closed
  · rw [close_of_closed closed]
    exact closed
  · obtain ⟨entries, next⟩ := close_eq_released closed
    rw [next]
    rfl

theorem unusable_perform (stop : ∃ e, set.usable = .error e) (call : Call) :
    ∃ e, (set.perform call).2.usable = .error e := by
  obtain ⟨e, stop⟩ := stop
  cases call with
  | advance => exact ⟨e, by rw [perform, advance_of_unusable stop]; exact stop⟩
  | setPage page => exact ⟨e, by rw [perform, setPage_of_unusable stop]; exact stop⟩
  | close => exact ⟨.closed, unusable_of_closed (close_closed set)⟩
  | read reading selector => exact ⟨e, stop⟩
  | currentRow => exact ⟨e, stop⟩

theorem stopsFor_of_usable {reason : String} (stop : set.usable = .error (.stopped reason)) :
    StopsFor set reason where
  advance := by
    intro calls kept
    rw [run_of_unusable stop calls kept, advance_of_unusable stop]
  setPage := by
    intro calls kept page
    rw [run_of_unusable stop calls kept, setPage_of_unusable stop page]
  noRow := by
    intro calls
    obtain ⟨e, still⟩ := run_keeps (P := fun set => ∃ e, set.usable = .error e)
      (fun _ call stop => unusable_perform stop call) ⟨_, stop⟩ calls
    rw [advance_of_unusable still]
    rintro ⟨⟩

theorem isFatal_of_verify {status : Status} (refusal : status.verify = .error e) : e.isFatal = false := by
  unfold Status.verify at refusal
  split at refusal
  · cases refusal
  · cases refusal
    rfl

theorem not_stopsFor_of_usable (usable : set.usable = .ok ()) (reason : String) : ¬ StopsFor set reason := by
  intro stops
  have refused := stops.setPage [] List.not_mem_nil ⟨[], [], []⟩
  rw [run, setPage, usable] at refused
  cases refused

theorem usable_of_rowRead {outcome : Except Error Bool × ResultSet} (read : RowRead set outcome)
    (failed : outcome = (.error e, after)) : after.usable = .error (.stopped e.message) := by
  cases read with
  | decoded => cases failed
  | stopped e row =>
    cases failed
    rfl

theorem usable_of_seek {replies : List FetchReply} (failed : set.seek replies = (.error e, after))
    (fatal : e.isFatal = true) (kept : ∀ later, ¬ LosesPage set.schema.slotCount replies e later) :
    after.usable = .error (.stopped e.message) := by
  induction replies generalizing set with
  | nil => cases failed
  | cons reply later ih =>
    have sought := seek_sought set reply later
    rw [failed] at sought
    generalize outcome : ((.error e, after) : Except Error Bool × ResultSet) = result at sought
    -- a fatal error comes of a lost page, which is ruled out, or of a row that cannot be decoded
    cases sought with
    | stopped e' received =>
      cases outcome
      cases received with
      | lost fault => cases fatal
      | refused response e refusal =>
        rw [isFatal_of_verify refusal] at fatal
        cases fatal
      | missing response success more none => exact absurd (.missing response later success more none) (kept later)
      | unfit response page e success more sent unfit =>
        exact absurd (.unfit response page e later success more sent unfit) (kept later)
    | noMore => cases outcome
    | read response page reader isReply success more sent accepted row =>
      exact usable_of_rowRead (readRow_rowRead _) outcome.symm
    | skipped response page reader isReply success more sent accepted noRow =>
      apply ih outcome.symm
      intro rest loses
      cases isReply
      exact kept rest (.skipped response page reader later e rest success more sent accepted noRow loses)

structure Passed (set after : ResultSet) (later : List FetchReply) : Prop where
  state : after.state = set.state
  failure : after.failure = set.failure
  exhausted : after.exhausted = set.exhausted
  noRow : after.page.hasRow = false
  server : after.server = set.server.map fun server => { server with fetchReplies := later }

theorem passed_ask (noRow : set.page.hasRow = false) (later : List FetchReply) :
    Passed set (set.ask later) later :=
  ⟨rfl, rfl, rfl, noRow, rfl⟩

theorem seek_of_losesPage {slots : Nat} {replies later : List FetchReply} (loses : LosesPage slots replies e later)
    (fits : set.schema.slotCount = slots) (noRow : set.page.hasRow = false) :
    ∃ after, set.seek replies = (.error e, after) ∧ Passed set after later := by
  induction loses generalizing set with
  | missing response later success more none =>
    exact ⟨_, seek_of_error (receive_of_missing success more none), passed_ask noRow later⟩
  | unfit response page e later success more sent unfit =>
    rw [← fits] at unfit
    exact ⟨_, seek_of_error (receive_of_unfit success more sent unfit), passed_ask noRow later⟩
  | skipped response page reader replies e later success more sent accepted noRows rest ih =>
    rw [← fits] at accepted
    obtain ⟨after, failed, passed⟩ := @ih ((set.ask replies).install page reader) fits noRows
    refine ⟨after, ?_, passed.state, passed.failure, passed.exhausted, passed.noRow, ?_⟩
    · rw [seek_of_page (receive_of_accepted success more sent accepted), noRows]
      exact failed
    · rw [passed.server]
      exact Option.map_map _ _ set.server

theorem advance_of_pageLost {later : List FetchReply} (lost : PageLost set e later) :
    ∃ after, set.advance = (.error e, after) ∧ GoesOn after later := by
  obtain ⟨server, held, loses⟩ := lost.loses
  obtain ⟨after, failed, passed⟩ := @seek_of_losesPage set.waiting _ _ _ _ loses rfl lost.noRow
  have usable : after.usable = .ok () := by
    apply usable_of_same lost.usable _ passed.failure
    rw [passed.state]
    rintro ⟨⟩
  have left : after.server = some { server with fetchReplies := later } := by
    rw [passed.server]
    exact congrArg (Option.map _) held
  refine ⟨after, ?_, usable, passed.state, ?_⟩
  · rw [advance, lost.usable]
    simp only [lost.noRow, lost.more, held]
    exact failed
  · rw [advance, usable]
    simp only [passed.noRow, passed.exhausted.trans lost.more, left]
    rfl

theorem usable_of_fatal (failed : set.advance = (.error e, after)) (fatal : e.isFatal = true)
    (kept : ∀ later, ¬ PageLost set e later) : ∃ reason, after.usable = .error (.stopped reason) := by
  have advanced := advance_advanced set
  rw [failed] at advanced
  generalize outcome : ((.error e, after) : Except Error Bool × ResultSet) = result at advanced
  cases advanced with
  | unusable e' stop =>
    cases outcome
    unfold usable at stop
    split at stop
    · cases stop
      cases fatal
    · rename_i openSet
      split at stop
      · rename_i recorded noted
        cases stop
        exact ⟨recorded.message, by rw [usable, if_neg openSet, noted]⟩
      · cases stop
  | read usable row => exact ⟨_, usable_of_rowRead (readRow_rowRead set) outcome.symm⟩
  | ended => cases outcome
  | unserved =>
    cases outcome
    cases fatal
  | sought server usable noRow more held =>
    refine ⟨_, usable_of_seek outcome.symm fatal ?_⟩
    intro later loses
    exact kept later ⟨usable, noRow, more, server, held, loses⟩

/-- When a call for the next row gives a fatal error, the set stops exactly if no page was lost; else it
is left with nothing on record, and the next call goes on behind the page that was lost. -/
theorem stops_iff_no_page_lost (failed : set.advance = (.error e, after)) (fatal : e.isFatal = true) :
    ((∃ reason, StopsFor after reason) ↔ ¬ ∃ later, PageLost set e later) ∧
      ∀ later, PageLost set e later → GoesOn after later := by
  have goesOn : ∀ later, PageLost set e later → GoesOn after later := by
    intro later lost
    obtain ⟨next, outcome, goesOn⟩ := advance_of_pageLost lost
    rw [failed] at outcome
    cases outcome
    exact goesOn
  refine ⟨⟨?_, ?_⟩, goesOn⟩
  · rintro ⟨reason, stops⟩ ⟨later, lost⟩
    exact not_stopsFor_of_usable (goesOn later lost).usable reason stops
  · intro kept
    obtain ⟨reason, stop⟩ := usable_of_fatal failed fatal fun later lost => kept ⟨later, lost⟩
    exact ⟨reason, stopsFor_of_usable stop⟩

def oneColumn : Options := ⟨"select s1 from root.d", 1, 2, 100, true⟩

def missingSecond : Server :=
  ⟨[.answered (.ofPage ⟨[], [[]], [[]]⟩), .answered ⟨.success, true, none⟩,
    .answered (.ofPage ⟨[0, 0, 0, 0, 0, 0, 0, 1], [[0x80]], [[0, 0, 0, 7]]⟩)], []⟩

theorem stops_iff_no_page_lost_of_missing_page :
    ∃ set after, ofRaw oneColumn ["s1"] ["INT32"] none missingSecond none = .ok set ∧
      set.advance = (.error (.malformedPage .missingPage), after) ∧
      (((∃ reason, StopsFor after reason) ↔ ¬ ∃ later, PageLost set (.malformedPage .missingPage) later) ∧
        ∀ later, PageLost set (.malformedPage .missingPage) later → GoesOn after later) :=
  ⟨_, _, rfl, rfl, stops_iff_no_page_lost rfl rfl⟩

/-- A fatal error need not stop the set: the row of the page after the missing one is served. -/
theorem fatal_error_need_not_stop :
    ¬ ∀ options names types index server initial set,
      ofRaw options names types index server initial = .ok set → ∀ calls e,
        (set.run calls).advance.1 = .error e → e.isFatal = true →
          ∃ reason, StopsFor (set.run calls).advance.2 reason := by
  intro stops
  obtain ⟨reason, stopped⟩ := stops oneColumn ["s1"] ["INT32"] none missingSecond none _ rfl [] _ rfl rfl
  exact stopped.noRow [] rfl

end ResultSet

end SeriesCursor
