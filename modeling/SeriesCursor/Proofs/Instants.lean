import Mathlib.Data.List.Lex
import SeriesCursor.Proofs.DayCount
import SeriesCursor.Proofs.ValueRoundTrip

/-!
Counts of milliseconds and instants. A count between the earliest and the latest instant becomes the one instant whose
fields count back to it, every other count is refused; and a later instant has a larger count, so that no two counts
become one instant and their order is that of the instants. A reading of a row for an instant gives this for the time
of the row, and for a cell of 64 bits.
-/

namespace SeriesCursor

namespace Instant

def fields (instant : Instant) : List Int :=
  [instant.year, instant.month, instant.day, instant.hour, instant.minute, instant.second, instant.millisecond]

def Before (instant other : Instant) : Prop :=
  instant.fields < other.fields

def ofDay (instant : Instant) : Int :=
  instant.hour * 3600000 + instant.minute * 60000 + instant.second * 1000 + instant.millisecond

section

variable {instant other : Instant} {millis : Int}

theorem IsValid.isDate (valid : instant.IsValid) : Calendar.IsDate instant.year instant.month instant.day :=
  ⟨valid.1, valid.2.1, valid.2.2.1, valid.2.2.2.1⟩

theorem toMillis_eq (instant : Instant) :
    instant.toMillis = Calendar.daysFromEpoch instant.year instant.month instant.day * 86400000 + instant.ofDay := by
  simp only [toMillis, millisPerDay, ofDay]
  omega

theorem IsValid.ofDay_bounds (valid : instant.IsValid) : 0 ≤ instant.ofDay ∧ instant.ofDay < 86400000 := by
  obtain ⟨_, _, _, _, hour, minute, second, millisecond⟩ := valid
  unfold ofDay
  omega

theorem isValid_ofMillis (millis : Int) : (ofMillis millis).IsValid := by
  obtain ⟨counted, inYear, first, inMonth⟩ := Calendar.isDate_dateOfDays (millis / millisPerDay)
  refine ⟨counted, inYear, first, inMonth, ?_, ?_, ?_, ?_⟩ <;> simp only [ofMillis, millisPerDay] <;> omega

theorem toMillis_ofMillis (millis : Int) : (ofMillis millis).toMillis = millis := by
  have days : Calendar.daysFromEpoch (ofMillis millis).year (ofMillis millis).month (ofMillis millis).day =
      millis / 86400000 := Calendar.daysFromEpoch_dateOfDays _
  have clock : (ofMillis millis).ofDay = millis % 86400000 := by
    simp only [ofDay, ofMillis, millisPerDay]
    omega
  rw [toMillis_eq, days, clock]
  omega

theorem before_iff : instant.Before other ↔
    instant.year < other.year ∨ instant.year = other.year ∧ (instant.month < other.month ∨
      instant.month = other.month ∧ (instant.day < other.day ∨ instant.day = other.day ∧ (instant.hour < other.hour ∨
        instant.hour = other.hour ∧ (instant.minute < other.minute ∨ instant.minute = other.minute ∧
          (instant.second < other.second ∨ instant.second = other.second ∧
            instant.millisecond < other.millisecond))))) := by
  simp only [Before, fields, List.cons_lt_cons_iff]
  simp

theorem before_trichotomy (instant other : Instant) :
    instant.Before other ∨ instant = other ∨ other.Before instant := by
  rcases lt_trichotomy instant.fields other.fields with before | same | after
  · exact .inl before
  · refine .inr (.inl ?_)
    cases instant
    cases other
    simpa [fields] using same
  · exact .inr (.inr after)

theorem toMillis_lt_of_before (valid : instant.IsValid) (validOther : other.IsValid) (before : instant.Before other) :
    instant.toMillis < other.toMillis := by
  have clock := valid.ofDay_bounds
  have clockOther := validOther.ofDay_bounds
  have days := Calendar.daysFromEpoch_lt valid.isDate validOther.isDate
  obtain ⟨_, _, _, _, hour, minute, second, millisecond⟩ := valid
  obtain ⟨_, _, _, _, hourOther, minuteOther, secondOther, millisecondOther⟩ := validOther
  rw [toMillis_eq, toMillis_eq]
  -- an earlier date is earlier by a day at least, and the time of day is less than a day
  rcases before_iff.mp before with years | ⟨sameYear, months | ⟨sameMonth, inDays | ⟨sameDay, later⟩⟩⟩
  · have earlier := days (.inl years)
    omega
  · have earlier := days (.inr ⟨sameYear, .inl months⟩)
    omega
  · have earlier := days (.inr ⟨sameYear, .inr ⟨sameMonth, inDays⟩⟩)
    omega
  · rw [sameYear, sameMonth, sameDay]
    unfold ofDay
    omega

theorem toMillis_lt_iff (valid : instant.IsValid) (validOther : other.IsValid) :
    instant.toMillis < other.toMillis ↔ instant.Before other := by
  refine ⟨fun less => ?_, toMillis_lt_of_before valid validOther⟩
  rcases before_trichotomy instant other with before | rfl | after
  · exact before
  · exact absurd less (Int.lt_irrefl _)
  · exact absurd (toMillis_lt_of_before validOther valid after) (Int.lt_asymm less)

theorem toMillis_injective (valid : instant.IsValid) (validOther : other.IsValid)
    (same : instant.toMillis = other.toMillis) : instant = other := by
  rcases before_trichotomy instant other with before | equal | after
  · exact absurd same (Int.ne_of_lt (toMillis_lt_of_before valid validOther before))
  · exact equal
  · exact absurd same.symm (Int.ne_of_lt (toMillis_lt_of_before validOther valid after))

theorem in_range_iff (valid : instant.IsValid) :
    earliest.toMillis ≤ instant.toMillis ∧ instant.toMillis ≤ latest.toMillis ↔
      -262143 ≤ instant.year ∧ instant.year ≤ 262142 := by
  have first : earliest.toMillis = Calendar.daysFromEpoch (-262143) 1 1 * 86400000 := by decide
  have last : latest.toMillis = Calendar.daysFromEpoch 262143 1 1 * 86400000 - 1 := by decide
  have clock := valid.ofDay_bounds
  have late := @Calendar.start_le_daysFromEpoch_iff _ (-262143) _ _ valid.isDate
  have early := @Calendar.start_le_daysFromEpoch_iff _ 262143 _ _ valid.isDate
  rw [first, last, toMillis_eq]
  omega

theorem ofMillis?_eq_none_iff :
    ofMillis? millis = none ↔ millis < earliest.toMillis ∨ latest.toMillis < millis := by
  rw [ofMillis?]
  split <;> simp <;> omega

theorem ofMillis?_eq_some_iff : ofMillis? millis = some instant ↔
    instant.IsValid ∧ -262143 ≤ instant.year ∧ instant.year ≤ 262142 ∧ instant.toMillis = millis := by
  constructor
  · intro found
    rw [ofMillis?, Option.ite_none_right_eq_some] at found
    obtain ⟨range, ⟨⟩⟩ := found
    have valid := isValid_ofMillis millis
    rw [← toMillis_ofMillis millis, in_range_iff valid] at range
    exact ⟨valid, range.1, range.2, toMillis_ofMillis millis⟩
  · rintro ⟨valid, late, early, rfl⟩
    have same := toMillis_injective (isValid_ofMillis instant.toMillis) valid (toMillis_ofMillis _)
    rw [ofMillis?, if_pos ((in_range_iff valid).mpr ⟨late, early⟩), same]

end

/-- What a count of milliseconds becomes, and how it compares to what other counts become. -/
structure Exact (millis : Int) : Prop where
  refused : ofMillis? millis = none ↔ millis < earliest.toMillis ∨ latest.toMillis < millis
  found : ∀ instant, ofMillis? millis = some instant ↔
    instant.IsValid ∧ -262143 ≤ instant.year ∧ instant.year ≤ 262142 ∧ instant.toMillis = millis
  injective : ∀ other instant, ofMillis? millis = some instant → ofMillis? other = some instant → millis = other
  ordered : ∀ other instant instant', ofMillis? millis = some instant → ofMillis? other = some instant' →
    (millis < other ↔ instant.Before instant')

theorem exact_ofMillis? (millis : Int) : Exact millis where
  refused := ofMillis?_eq_none_iff
  found _ := ofMillis?_eq_some_iff
  injective other instant first second := by
    obtain ⟨_, _, _, counted⟩ := ofMillis?_eq_some_iff.mp first
    obtain ⟨_, _, _, counted'⟩ := ofMillis?_eq_some_iff.mp second
    exact counted.symm.trans counted'
  ordered other instant instant' first second := by
    obtain ⟨valid, _, _, rfl⟩ := ofMillis?_eq_some_iff.mp first
    obtain ⟨valid', _, _, rfl⟩ := ofMillis?_eq_some_iff.mp second
    exact toMillis_lt_iff valid valid'

end Instant

namespace ResultSet

/-- The count of milliseconds that a choice of column stands for: the time of the row, or what the eight bytes of a
cell of 64 bits spell. -/
inductive Counts (set : ResultSet) (selector : Selector) : Int64 → Prop where
  | time {column : String} (readable : set.current = .ok set.row) (chosen : set.columnFor selector = .ok column)
      (found : set.schema.resolveName column = .ok .time) : Counts set selector set.row.time
  | cell {column : String} {slot : Fin set.schema.slotCount} {millis : Int64} (readable : set.current = .ok set.row)
      (chosen : set.columnFor selector = .ok column) (found : set.schema.resolveName column = .ok (.slot slot))
      (typed : set.schema.columns[slot].type = .int64)
      (held : set.row.value? slot = some (Bytes.ofInt64 millis)) : Counts set selector millis

section

variable {set : ResultSet} {selector : Selector} {millis : Int64}

theorem getLong_eq_ok_iff : set.getLong selector = .ok millis ↔ Counts set selector millis := by
  constructor
  · intro read
    obtain ⟨column, chosen, read⟩ := ok_of_bind read
    obtain ⟨row, readable, read⟩ := ok_of_bind read
    obtain ⟨found, resolved, read⟩ := ok_of_bind read
    obtain ⟨rfl, _⟩ := current_eq_ok readable
    cases found with
    | time =>
      cases read
      exact .time readable chosen resolved
    | slot slot =>
      obtain ⟨raw, bytes, read⟩ := ok_of_bind read
      obtain ⟨slot, resolved, typed, held⟩ := slot_of_typedBytes bytes
      have spelled : Bytes.ofInt64 millis = raw := Value.encode_of_readInt64 read
      exact .cell readable chosen resolved typed (spelled ▸ held)
  · intro counts
    cases counts with
    | time readable chosen found => simp only [getLong, readable, chosen, found, bind, Except.bind]
    | @cell column slot _ readable chosen found typed held =>
      have bytes : set.typedBytes column .int64 = .ok (Bytes.ofInt64 millis) := by
        simp only [typedBytes, readable, found, typed, cellBytes, held, if_true, bind, Except.bind]
      simp [getLong, readable, chosen, found, bytes, Value.readInt64, Value.ofWidth, Bytes.toInt64_ofInt64, bind,
        Except.bind, Except.map]

theorem getInstant_of_counts (counts : Counts set selector millis) :
    set.getInstant selector = match Instant.ofMillis? millis.toInt with
      | some instant => .ok instant
      | none => .error (.timestampOutOfRange millis) := by
  rw [getInstant, getLong_eq_ok_iff.mpr counts]
  rfl

end

/-- What a reading for an instant makes of the count that its column stands for. -/
structure ReadsExactly (set : ResultSet) (selector : Selector) (millis : Int64) : Prop where
  days : Calendar.CountsDays Calendar.daysFromEpoch
  converted : Instant.Exact millis.toInt
  refused : set.getInstant selector = .error (.timestampOutOfRange millis) ↔
    millis.toInt < Instant.earliest.toMillis ∨ Instant.latest.toMillis < millis.toInt
  answered : (∃ instant, set.getInstant selector = .ok instant) ↔
    Instant.earliest.toMillis ≤ millis.toInt ∧ millis.toInt ≤ Instant.latest.toMillis
  read : ∀ instant, set.getInstant selector = .ok instant ↔
    instant.IsValid ∧ -262143 ≤ instant.year ∧ instant.year ≤ 262142 ∧ instant.toMillis = millis.toInt

/-- Every count of milliseconds is read as the one instant that has this count, or refused if there is none. -/
theorem reads_exactly {set : ResultSet} {selector : Selector} {millis : Int64}
    (counts : Counts set selector millis) : ReadsExactly set selector millis := by
  have outcome := getInstant_of_counts counts
  have converted := Instant.exact_ofMillis? millis.toInt
  refine ⟨Calendar.countsDays_daysFromEpoch, converted, ?_, ?_, ?_⟩
  · rw [← converted.refused, outcome]
    cases Instant.ofMillis? millis.toInt <;> simp
  · have found : (∃ instant, set.getInstant selector = .ok instant) ↔ Instant.ofMillis? millis.toInt ≠ none := by
      rw [outcome]
      cases Instant.ofMillis? millis.toInt <;> simp
    rw [found, ne_eq, converted.refused]
    omega
  · intro instant
    rw [← converted.found, outcome]
    cases Instant.ofMillis? millis.toInt <;> simp

/-- The last millisecond of the leap day of year zero, read as the time of a row, and one millisecond too many, read off
a cell by its position. -/
theorem reads_exactly_of_leap_day :
    ∃ set, ofRaw (.default "select s1 from root.d" 1 2) ["s1"] ["INT64"] none ⟨[], []⟩
        (some ⟨[0xFF, 0xFF, 0xC7, 0x76, 0xC5, 0xF9, 0x2F, 0xFF], [[0x80]],
          [[0x00, 0x1D, 0x2B, 0x31, 0xB8, 0xB3, 0xEC, 0x00]]⟩) = .ok set ∧
      Counts (set.run [.advance]) (.name "Time") (-62162035200001) ∧
      ReadsExactly (set.run [.advance]) (.name "Time") (-62162035200001) ∧
      (set.run [.advance]).getInstant (.name "Time") = .ok ⟨0, 2, 29, 23, 59, 59, 999⟩ ∧
      Counts (set.run [.advance]) (.position 2) 8210266876800000 ∧
      ReadsExactly (set.run [.advance]) (.position 2) 8210266876800000 ∧
      (set.run [.advance]).getInstant (.position 2) = .error (.timestampOutOfRange 8210266876800000) := by
  refine ⟨_, rfl, getLong_eq_ok_iff.mp rfl, reads_exactly (getLong_eq_ok_iff.mp rfl), ?_,
    getLong_eq_ok_iff.mp rfl, reads_exactly (getLong_eq_ok_iff.mp rfl), ?_⟩
  · refine ((@reads_exactly _ _ (-62162035200001) ?_).read _).mpr (by decide)
    exact getLong_eq_ok_iff.mp rfl
  · refine (@reads_exactly _ _ 8210266876800000 ?_).refused.mpr (.inr (by decide))
    exact getLong_eq_ok_iff.mp rfl

end ResultSet

end SeriesCursor
