import Mathlib.Data.List.Induction
import SeriesCursor.Proofs.Coherence
import SeriesCursor.Proofs.Requests

/-!
Whether a set that says that it needs a page will ask for one. It does as long as the server has not said
that no more data follows. Afterwards the state should be empty and not needy, but setting a page turns a
row in hand into a need without a look at the end of the data; the runs in which that happens are told
here by their calls.
-/

namespace SeriesCursor

namespace ResultSet

/-- The set says that it needs a page, although the server has said that none follows. -/
def NeedyAtEnd (set : ResultSet) : Prop :=
  set.state = .needsFetch ∧ set.exhausted = true

/-- After the end of the data a page was set while a row was in hand, and no call since then has asked for
a row or closed the set. -/
structure PageSetAtEnd (set : ResultSet) (calls before : List Call) (page : Page) (after : List Call) :
    Prop where
  split : calls = before ++ .setPage page :: after
  ended : (set.run before).exhausted = true
  inHand : (set.run before).state = .hasCachedRow
  accepted : ((set.run before).setPage page).1 = .ok ()
  since : ∀ call ∈ after, call ≠ .advance ∧ call ≠ .close

variable {set : ResultSet}

theorem Coherent.usable_of_needs (coherent : Coherent set) (needs : set.state = .needsFetch) :
    set.usable = .ok () := by
  apply coherent.usable_of_state
  · simp [needs]
  · simp [needs]

theorem exhausted_seek (more : set.exhausted = false) (replies : List FetchReply) :
    (set.seek replies).2.exhausted = true → (set.seek replies).2.state ≠ .needsFetch := by
  refine @seek_induction (fun set => set.exhausted = false)
    (fun outcome => outcome.2.exhausted = true → outcome.2.state ≠ .needsFetch) ?_ ?_ ?_ ?_ ?_ set more replies
  · intro set later more
    exact more
  · intro set reply e more _ ended
    rw [more] at ended
    cases ended
  · intro set _ _
    rintro ⟨⟩
  · intro set page reader more _ _
    exact more
  · intro set page reader more _ _ ended
    have kept := (kept_of_rowRead (readRow_rowRead (set.install page reader))).exhausted
    rw [kept.trans more] at ended
    cases ended

theorem not_needyAtEnd_advance (coherent : Coherent set) : ¬ NeedyAtEnd set.advance.2 := by
  rintro ⟨needs, ended⟩
  have advanced := advance_advanced set
  generalize set.advance = outcome at advanced needs ended
  cases advanced with
  | unusable e stop =>
    change set.state = .needsFetch at needs
    rw [coherent.usable_of_needs needs] at stop
    cases stop
  | read usable row =>
    have read := readRow_rowRead set
    generalize set.readRow = outcome at read needs
    cases read <;> cases needs
  | ended => cases needs
  | unserved usable row more released => exact (coherent.going usable).served released
  | sought server usable row more held =>
    exact @exhausted_seek set.waiting more server.fetchReplies ended needs

theorem needyAtEnd_setPage_iff (page : Page) :
    NeedyAtEnd (set.setPage page).2 ↔ NeedyAtEnd set ∨
      set.exhausted = true ∧ set.state = .hasCachedRow ∧ (set.setPage page).1 = .ok () := by
  have pageSet := setPage_pageSet set page
  generalize set.setPage page = outcome at pageSet ⊢
  cases pageSet with
  | unusable e stop => simp
  | unfit e usable unfit => simp
  | installed reader usable accepted =>
    simp only [NeedyAtEnd, replaced, withoutRow, install, report, note, and_true]
    cases set.state <;> simp

theorem needyAtEnd_iff_of_quiet {call : Call} (coherent : Coherent set)
    (quiet : ∀ page, call ≠ .setPage page) :
    NeedyAtEnd (set.perform call).2 ↔ NeedyAtEnd set ∧ call ≠ .advance ∧ call ≠ .close := by
  cases call with
  | advance => simpa [perform] using not_needyAtEnd_advance coherent
  | setPage page => exact absurd rfl (quiet page)
  | close =>
    have closed : (set.perform .close).2.state = .closed := close_closed set
    simp [NeedyAtEnd, closed]
  | read reading selector => simp [perform]
  | currentRow => simp [perform]

theorem pageSetAtEnd_append {calls before after : List Call} {page : Page} {call : Call}
    (atEnd : PageSetAtEnd set calls before page after) (quiet : call ≠ .advance ∧ call ≠ .close) :
    PageSetAtEnd set (calls ++ [call]) before page (after ++ [call]) where
  split := by rw [atEnd.split, List.append_assoc, List.cons_append]
  ended := atEnd.ended
  inHand := atEnd.inHand
  accepted := atEnd.accepted
  since := by
    intro other member
    rcases List.mem_append.mp member with earlier | last
    · exact atEnd.since other earlier
    · rw [List.mem_singleton.mp last]
      exact quiet

theorem pageSetAtEnd_append_iff {calls : List Call} {call : Call} :
    (∃ before page after, PageSetAtEnd set (calls ++ [call]) before page after) ↔
      (∃ before page after, PageSetAtEnd set calls before page after) ∧ call ≠ .advance ∧ call ≠ .close ∨
        ∃ page, call = .setPage page ∧ (set.run calls).exhausted = true ∧
          (set.run calls).state = .hasCachedRow ∧ ((set.run calls).setPage page).1 = .ok () := by
  constructor
  · rintro ⟨before, page, after, atEnd⟩
    rcases List.eq_nil_or_concat after with rfl | ⟨earlier, last, rfl⟩
    · obtain ⟨rfl, same⟩ := List.append_inj' atEnd.split rfl
      cases same
      exact .inr ⟨page, rfl, atEnd.ended, atEnd.inHand, atEnd.accepted⟩
    · left
      rw [List.concat_eq_append] at atEnd
      have split := atEnd.split
      rw [← List.cons_append, ← List.append_assoc] at split
      obtain ⟨rfl, same⟩ := List.append_inj' split rfl
      cases same
      have since : ∀ call ∈ earlier, call ≠ .advance ∧ call ≠ .close := fun call member =>
        atEnd.since call (List.mem_append_left _ member)
      exact ⟨⟨before, page, earlier, rfl, atEnd.ended, atEnd.inHand, atEnd.accepted, since⟩,
        atEnd.since call (by simp)⟩
  · rintro (⟨⟨before, page, after, atEnd⟩, quiet⟩ | ⟨page, rfl, ended, inHand, accepted⟩)
    · exact ⟨before, page, after ++ [call], pageSetAtEnd_append atEnd quiet⟩
    · exact ⟨calls, page, [], rfl, ended, inHand, accepted, by simp⟩

theorem needyAtEnd_run_iff (coherent : Coherent set) (fresh : set.exhausted = false) (calls : List Call) :
    NeedyAtEnd (set.run calls) ↔ ∃ before page after, PageSetAtEnd set calls before page after := by
  induction calls using List.reverseRecOn with
  | nil =>
    constructor
    · intro needy
      rw [run, NeedyAtEnd, fresh] at needy
      cases needy.2
    · rintro ⟨before, page, after, atEnd⟩
      simpa using atEnd.split
  | append_singleton calls call ih =>
    have reached := coherent_run coherent calls
    have last : set.run (calls ++ [call]) = ((set.run calls).perform call).2 := run_append set calls [call]
    rw [last, pageSetAtEnd_append_iff, ← ih]
    cases call with
    | setPage page =>
      rw [perform, needyAtEnd_setPage_iff]
      simp
    | advance => simp [needyAtEnd_iff_of_quiet reached]
    | close => simp [needyAtEnd_iff_of_quiet reached]
    | read reading selector => simp [needyAtEnd_iff_of_quiet reached]
    | currentRow => simp [needyAtEnd_iff_of_quiet reached]

theorem advance_of_needs (coherent : Coherent set) (needs : set.state = .needsFetch)
    (drained : set.page.hasRow = false) :
    (set.exhausted = false → set.fetchesSent < set.advance.2.fetchesSent) ∧
      (set.exhausted = true → set.advance = (.ok false, set.drained)) := by
  have usable := coherent.usable_of_needs needs
  have advanced := advance_advanced set
  generalize set.advance = outcome at advanced ⊢
  cases advanced with
  | unusable e stop =>
    rw [usable] at stop
    cases stop
  | read _ row =>
    rw [drained] at row
    cases row
  | ended _ _ last => simp [last]
  | unserved _ _ more released => exact absurd released (coherent.going usable).served
  | sought server _ _ more held =>
    obtain ⟨asked, search⟩ := seek_search set.waiting server.fetchReplies
    have sends := search.fetchesSent
    have asks := search.asked_pos
    have before : set.waiting.fetchesSent = set.fetchesSent := rfl
    constructor
    · intro _
      omega
    · simp [more]

variable {options : Options} {schema : Schema} {server : Server} {initial : Option Page}

/-- A set that says that it needs a page, and has no row left, asks for one exactly as long as the server
has not said that none follows. When it has, the call for the next row says so too and sends nothing; and
it has exactly in the runs that set a page onto a row in hand after that and have not moved on since. -/
theorem needsFetch_asks_iff_not_ended (created : create options schema server initial = .ok set)
    (calls : List Call) (needs : (set.run calls).state = .needsFetch)
    (drained : (set.run calls).page.hasRow = false) :
    ((set.run calls).fetchesSent < (set.run calls).advance.2.fetchesSent ↔
        (set.run calls).exhausted = false) ∧
      ((set.run calls).exhausted = true →
        (set.run calls).advance.1 = .ok false ∧ (set.run calls).advance.2.state = .empty) ∧
      ((set.run calls).exhausted = true ↔
        ∃ before page after, PageSetAtEnd set calls before page after) := by
  have coherent := (coherent_create created).1
  have fresh : set.exhausted = false := by cases create_created created <;> rfl
  obtain ⟨asks, ends⟩ := advance_of_needs (coherent_run coherent calls) needs drained
  refine ⟨⟨?_, asks⟩, ?_, ?_⟩
  · intro sends
    apply eq_false_of_ne_true
    intro ended
    rw [ends ended] at sends
    exact Nat.lt_irrefl _ sends
  · intro ended
    rw [ends ended]
    exact ⟨rfl, rfl⟩
  · rw [← needyAtEnd_run_iff coherent fresh calls, NeedyAtEnd]
    simp [needs]

def emptyPage : Page := ⟨[], [[]], [[]]⟩

def oneRow : Page := ⟨[0, 0, 0, 0, 0, 0, 0, 1], [[0x80]], [[0, 0, 0, 7]]⟩

def needyRun : List Call := [.advance, .setPage oneRow, .advance, .setPage emptyPage]

theorem needsFetch_asks_iff_not_ended_of_empty_page :
    ∃ set, create oneColumn ⟨["Time", "s1"], [⟨"s1", .int32⟩], true⟩ ⟨[.answered .exhausted], []⟩ none =
        .ok set ∧
      (set.run needyRun).state = .needsFetch ∧ (set.run needyRun).page.hasRow = false ∧
      ((set.run needyRun).fetchesSent < (set.run needyRun).advance.2.fetchesSent ↔
          (set.run needyRun).exhausted = false) ∧
        ((set.run needyRun).exhausted = true →
          (set.run needyRun).advance.1 = .ok false ∧ (set.run needyRun).advance.2.state = .empty) ∧
        ((set.run needyRun).exhausted = true ↔
          ∃ before page after, PageSetAtEnd set needyRun before page after) :=
  ⟨_, rfl, rfl, rfl, @needsFetch_asks_iff_not_ended _ oneColumn ⟨["Time", "s1"], [⟨"s1", .int32⟩], true⟩
    ⟨[.answered .exhausted], []⟩ none rfl needyRun rfl rfl⟩

/-- A set may need a page and yet ask for none: the page that was set last has no row, and the data has ended. -/
theorem needsFetch_need_not_ask :
    ¬ ∀ options names types index server initial set,
      ofRaw options names types index server initial = .ok set → ∀ calls,
        (set.run calls).state = .needsFetch → (set.run calls).page.hasRow = false →
          (set.run calls).fetchesSent < (set.run calls).advance.2.fetchesSent := by
  intro asks
  have sends := asks oneColumn ["s1"] ["INT32"] none ⟨[.answered .exhausted], []⟩ none _ rfl needyRun rfl rfl
  exact absurd sends (by decide)

end ResultSet

end SeriesCursor
