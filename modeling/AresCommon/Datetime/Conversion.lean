import AresCommon.Datetime.DateTime

/-!
# The two conversions of a DateTime

The fields and the time point agree when the fields are a time of the calendar and the
instant of this time is the time point, to the microsecond. A time point is split into
seconds and microseconds first; fields that are no time of the calendar are normalised on
the way to the time point, but stay as they are.
-/

namespace AresCommon.Datetime

open AresCommon.Foundation.Calendar

set_option autoImplicit false

/-! ## Signed words -/

theorem int64_eq {value : Int} (fits : FitsInt64 value) : int64 value = value := by
  unfold FitsInt64 at fits
  unfold int64
  rw [Int.bmod_def]
  split <;> omega

theorem int32_eq {value : Int} (fits : FitsInt value) : int32 value = value := by
  unfold FitsInt at fits
  unfold int32
  rw [Int.bmod_def]
  split <;> omega

theorem int64_fits (value : Int) : FitsInt64 (int64 value) := by
  unfold FitsInt64 int64
  rw [Int.bmod_def]
  split <;> omega

theorem int64_wraps (value : Int) :
    ∃ wraps, int64 value = value + 18446744073709551616 * wraps := by
  unfold int64
  rw [Int.bmod_def]
  split
  · exact ⟨-(value / 18446744073709551616), by omega⟩
  · exact ⟨-(value / 18446744073709551616) - 1, by omega⟩

theorem int64_add_wraps (value wraps : Int) :
    int64 (value + 18446744073709551616 * wraps) = int64 value := by
  unfold int64
  exact Int.add_mul_bmod_self_left value 18446744073709551616 wraps

theorem int64_eq_of_near {value : Int} (lower : -1000 < int64 value - value)
    (upper : int64 value - value < 1000) : int64 value = value := by
  obtain ⟨wraps, same⟩ := int64_wraps value
  omega

theorem int64_add_int64 (left right : Int) : int64 (int64 left + right) = int64 (left + right) := by
  unfold int64
  rw [Int.bmod_add_bmod]

/-! ## Rounding toward zero -/

theorem tdiv_of_neg {value : Int} (negative : value < 0) (divisor : Int) :
    value.tdiv divisor = -(-value / divisor) := by
  have positive : 0 ≤ -value := by omega
  rw [← Int.tdiv_eq_ediv_of_nonneg positive, Int.neg_tdiv, Int.neg_neg]

namespace DateTime

theorem tmod_tdiv (timepoint : Int) :
    (timepoint.tmod 1000000000).tdiv 1000 =
      if 0 ≤ timepoint then timepoint % 1000000000 / 1000
      else -(-timepoint % 1000000000 / 1000) := by
  split
  · rename_i nonneg
    rw [Int.tmod_eq_emod_of_nonneg nonneg, Int.tdiv_eq_ediv_of_nonneg (by omega)]
  · rename_i negative
    have positive : 0 ≤ -timepoint := by omega
    have rest : timepoint.tmod 1000000000 = -(-timepoint % 1000000000) := by
      rw [← Int.tmod_eq_emod_of_nonneg positive, Int.neg_tmod, Int.neg_neg]
    rw [rest, Int.neg_tdiv, Int.tdiv_eq_ediv_of_nonneg (by omega)]

theorem microsecondsOf_eq (timepoint : Int) :
    microsecondsOf timepoint =
      if 0 ≤ timepoint then timepoint % 1000000000 / 1000
      else if -timepoint % 1000000000 / 1000 = 0 then 0
      else 1000000 - -timepoint % 1000000000 / 1000 := by
  have within := tmod_tdiv timepoint
  have fits : FitsInt ((timepoint.tmod 1000000000).tdiv 1000) := by
    unfold FitsInt
    split at within <;> omega
  unfold microsecondsOf
  simp only [int32_eq fits]
  split
  · rename_i negative
    have sum : FitsInt ((timepoint.tmod 1000000000).tdiv 1000 + 1000000) := by
      unfold FitsInt at *
      omega
    rw [int32_eq sum]
    split at within <;> omega
  · split at within <;> omega

theorem microsecondsOf_bounds (timepoint : Int) :
    0 ≤ microsecondsOf timepoint ∧ microsecondsOf timepoint < 1000000 := by
  rw [microsecondsOf_eq]
  split
  · omega
  · split <;> omega

/-- The time point below which its difference with its microseconds wraps. -/
def NoUnderflow (timepoint : Int) : Prop := -9223372036000001000 < timepoint

instance (timepoint : Int) : Decidable (NoUnderflow timepoint) :=
  inferInstanceAs (Decidable (_ < _))

def splitInstant (timepoint : Int) : Int :=
  secondsOf timepoint (microsecondsOf timepoint) * 1000000000 + microsecondsOf timepoint * 1000

theorem splitInstant_eq (timepoint : Int) :
    splitInstant timepoint =
      (int64 (timepoint - microsecondsOf timepoint * 1000)).tdiv 1000000000 * 1000000000 +
        microsecondsOf timepoint * 1000 := by
  have bounds := microsecondsOf_bounds timepoint
  have fits : FitsInt64 (microsecondsOf timepoint * 1000) := by
    unfold FitsInt64
    omega
  unfold splitInstant secondsOf toTimeT
  rw [int64_eq fits]

theorem split_instant_of_nonneg {timepoint : Int} (fits : FitsInt64 timepoint)
    (nonneg : 0 ≤ timepoint) : splitInstant timepoint = 1000 * timepoint.tdiv 1000 := by
  have us := microsecondsOf_eq timepoint
  rw [if_pos nonneg] at us
  have whole : 0 ≤ timepoint - microsecondsOf timepoint * 1000 := by omega
  have inside : FitsInt64 (timepoint - microsecondsOf timepoint * 1000) := by
    unfold FitsInt64 at *
    omega
  rw [splitInstant_eq, int64_eq inside, Int.tdiv_eq_ediv_of_nonneg whole,
    Int.tdiv_eq_ediv_of_nonneg nonneg]
  omega

theorem split_instant_of_neg {timepoint : Int} (fits : FitsInt64 timepoint)
    (negative : timepoint < 0) (plain : NoUnderflow timepoint) :
    splitInstant timepoint = 1000 * timepoint.tdiv 1000 := by
  have us := microsecondsOf_eq timepoint
  rw [if_neg (Int.not_le.mpr negative)] at us
  unfold NoUnderflow at plain
  have below : timepoint - microsecondsOf timepoint * 1000 < 0 := by
    split at us <;> omega
  have inside : FitsInt64 (timepoint - microsecondsOf timepoint * 1000) := by
    unfold FitsInt64 at *
    split at us <;> omega
  rw [splitInstant_eq, int64_eq inside, tdiv_of_neg below, tdiv_of_neg negative]
  split at us <;> omega

theorem split_instant_of_underflow {timepoint : Int} (fits : FitsInt64 timepoint)
    (under : ¬NoUnderflow timepoint) :
    splitInstant timepoint = 1000 * timepoint.tdiv 1000 + 18446744073000000000 := by
  have us := microsecondsOf_eq timepoint
  unfold NoUnderflow at under
  unfold FitsInt64 at fits
  have negative : timepoint < 0 := by omega
  rw [if_neg (Int.not_le.mpr negative)] at us
  obtain ⟨wraps, wrapped⟩ := int64_wraps (timepoint - microsecondsOf timepoint * 1000)
  have range := int64_fits (timepoint - microsecondsOf timepoint * 1000)
  unfold FitsInt64 at range
  have nonneg : 0 ≤ int64 (timepoint - microsecondsOf timepoint * 1000) := by
    split at us <;> omega
  rw [splitInstant_eq, Int.tdiv_eq_ediv_of_nonneg nonneg, tdiv_of_neg negative]
  split at us <;> omega

/-- The split rounds to microseconds, toward zero; at the low end of the clock it wraps. -/
theorem split_instant {timepoint : Int} (fits : FitsInt64 timepoint) :
    splitInstant timepoint = 1000 * timepoint.tdiv 1000 +
      if NoUnderflow timepoint then 0 else 18446744073000000000 := by
  split
  · rename_i plain
    rw [Int.add_zero]
    rcases Int.lt_or_le timepoint 0 with negative | nonneg
    · exact split_instant_of_neg fits negative plain
    · exact split_instant_of_nonneg fits nonneg
  · rename_i under
    exact split_instant_of_underflow fits under

theorem tdiv_near (timepoint : Int) :
    -1000 < 1000 * timepoint.tdiv 1000 - timepoint ∧
      1000 * timepoint.tdiv 1000 - timepoint < 1000 := by
  rcases Int.lt_or_le timepoint 0 with negative | nonneg
  · rw [tdiv_of_neg negative]
    omega
  · rw [Int.tdiv_eq_ediv_of_nonneg nonneg]
    omega

theorem split_fits_iff {timepoint : Int} (fits : FitsInt64 timepoint) :
    FitsInt64 (splitInstant timepoint) ↔
      NoUnderflow timepoint ∨ timepoint ≤ -9223372036145225000 := by
  by_cases plain : NoUnderflow timepoint
  · have split := split_instant fits
    rw [if_pos plain, Int.add_zero] at split
    refine iff_of_true ?_ (.inl plain)
    rw [split]
    unfold FitsInt64 at *
    rcases Int.lt_or_le timepoint 0 with negative | nonneg
    · rw [tdiv_of_neg negative]
      omega
    · rw [Int.tdiv_eq_ediv_of_nonneg nonneg]
      omega
  · rw [split_instant_of_underflow fits plain]
    unfold NoUnderflow at *
    unfold FitsInt64 at *
    have negative : timepoint < 0 := by omega
    rw [tdiv_of_neg negative]
    omega

theorem split_bounded {timepoint : Int} (fits : FitsInt64 timepoint) :
    -2 ^ 64 < splitInstant timepoint ∧ splitInstant timepoint < 2 ^ 64 := by
  have split := split_instant fits
  have rounded := tdiv_near timepoint
  unfold FitsInt64 at fits
  by_cases plain : NoUnderflow timepoint
  · rw [if_pos plain] at split
    omega
  · rw [if_neg plain] at split
    unfold NoUnderflow at plain
    omega

end DateTime

/-! ## What the fields show -/

structure Fields.Shows (fields : Fields) (civil : Civil) : Prop where
  year : fields.year = civil.date.year
  month : fields.month = civil.date.month + 1
  day : fields.day = civil.date.day + 1
  hour : fields.hour = civil.hour
  minute : fields.minute = civil.minute
  second : fields.second = civil.second
  microsecond : 0 ≤ fields.microsecond ∧ fields.microsecond < 1000000

def instant (zone : Zone) (civil : Civil) (microsecond : Int) : Int :=
  (civil.seconds - epoch - zone.utcOffset) * 1000000000 + microsecond * 1000

/-- The fields are the local decomposition of the time point, to the microsecond. -/
def DateTime.Agrees (zone : Zone) (d : DateTime) : Prop :=
  ∃ civil, d.Shows civil ∧ -1000 < instant zone civil d.microsecond - d.timepoint ∧
    instant zone civil d.microsecond - d.timepoint < 1000

variable {fields : Fields} {civil : Civil}

theorem Fields.Shows.unique {other : Civil} (shows : fields.Shows civil)
    (again : fields.Shows other) : civil = other := by
  obtain ⟨⟨year, month, day, _⟩, ⟨hour, _⟩, ⟨minute, _⟩, ⟨second, _⟩⟩ := civil
  obtain ⟨⟨year', month', day', _⟩, ⟨hour', _⟩, ⟨minute', _⟩, ⟨second', _⟩⟩ := other
  have sameYear := shows.year.symm.trans again.year
  have sameMonth := shows.month.symm.trans again.month
  have sameDay := shows.day.symm.trans again.day
  have sameHour := shows.hour.symm.trans again.hour
  have sameMinute := shows.minute.symm.trans again.minute
  have sameSecond := shows.second.symm.trans again.second
  simp only [Civil.mk.injEq, Date.mk.injEq, Fin.mk.injEq]
  simp only at sameYear sameMonth sameDay sameHour sameMinute sameSecond
  omega

theorem year_of_instant (zone : Zone) {microsecond : Int}
    (within : 0 ≤ microsecond ∧ microsecond < 1000000)
    (lower : -2 ^ 64 < instant zone civil microsecond)
    (upper : instant zone civil microsecond < 2 ^ 64) :
    1200 < civil.date.year ∧ civil.date.year < 2700 := by
  have bounds := civil.year_bounds
  have offset := zone.bounded
  unfold instant epoch at lower upper
  omega

variable {zone : Zone}

theorem calendar_of_shows (shows : fields.Shows civil)
    (near : 1200 < civil.date.year ∧ civil.date.year < 2700) :
    (DateTime.calendar fields).seconds = civil.seconds := by
  have monthLt := civil.date.month_lt
  have mon : int32 (fields.month - 1) = civil.date.month := by
    rw [shows.month, Int.add_sub_cancel]
    apply int32_eq
    unfold FitsInt
    omega
  have year : int32 (fields.year - 1900) = civil.date.year - 1900 := by
    rw [shows.year]
    apply int32_eq
    unfold FitsInt
    omega
  have carry : (civil.date.month : Int) / 12 = 0 := by omega
  have month : ((civil.date.month : Int) % 12).toNat = civil.date.month := by omega
  simp only [Tm.seconds, DateTime.calendar, mon, year, carry, month, shows.day, shows.hour,
    shows.minute, shows.second, Int.sub_add_cancel, Int.add_sub_cancel, Int.add_zero]
  rfl

/-- `mktime` undoes the decomposition. -/
theorem mktime_of_shows (shows : fields.Shows civil)
    (near : 1200 < civil.date.year ∧ civil.date.year < 2700) :
    mktime zone (DateTime.calendar fields) = civil.seconds - epoch - zone.utcOffset := by
  unfold mktime
  rw [calendar_of_shows shows near, Civil.ofSeconds_seconds]
  apply if_pos
  unfold FitsInt
  omega

theorem timepoint_of_shows {d : DateTime} (shows : d.Shows civil)
    (near : 1200 < civil.date.year ∧ civil.date.year < 2700) :
    (DateTime.datetimeToTimepoint zone d).timepoint =
      int64 (instant zone civil d.microsecond) := by
  simp only [DateTime.datetimeToTimepoint, fromTimeT, mktime_of_shows shows near, instant]
  rw [int64_add_int64, Int.add_comm, int64_add_int64, Int.add_comm]

/-- A time point that is made from the fields agrees with them exactly when they are a time
of the calendar that the clock can hold. -/
theorem recomputed_agrees_iff (zone : Zone) (d : DateTime) :
    (DateTime.datetimeToTimepoint zone d).Agrees zone ↔
      ∃ civil, d.Shows civil ∧ FitsInt64 (instant zone civil d.microsecond) := by
  have micro : (DateTime.datetimeToTimepoint zone d).microsecond = d.microsecond := rfl
  constructor
  · rintro ⟨civil, shows, lower, upper⟩
    have shown : d.Shows civil := shows
    rw [micro] at lower upper
    -- the time point is a word, so the instant near it is one of the known centuries
    have word : FitsInt64 (DateTime.datetimeToTimepoint zone d).timepoint := int64_fits _
    have near : 1200 < civil.date.year ∧ civil.date.year < 2700 := by
      unfold FitsInt64 at word
      exact year_of_instant zone shown.microsecond (by omega) (by omega)
    rw [timepoint_of_shows shown near] at lower upper
    have same : int64 (instant zone civil d.microsecond) = instant zone civil d.microsecond :=
      int64_eq_of_near (by omega) (by omega)
    refine ⟨civil, shown, ?_⟩
    rw [← same]
    exact int64_fits _
  · rintro ⟨civil, shows, fits⟩
    have near : 1200 < civil.date.year ∧ civil.date.year < 2700 := by
      unfold FitsInt64 at fits
      exact year_of_instant zone shows.microsecond (by omega) (by omega)
    refine ⟨civil, shows, ?_⟩
    rw [timepoint_of_shows shows near, int64_eq fits, micro]
    omega

/-! ## The constructors -/

theorem ofTimePoint_shows (zone : Zone) {timepoint : Int} (fits : FitsInt64 timepoint) :
    ∃ d civil, DateTime.ofTimePoint zone timepoint = .ok d ∧ d.timepoint = timepoint ∧
      d.Shows civil ∧ instant zone civil d.microsecond = DateTime.splitInstant timepoint := by
  have within := DateTime.microsecondsOf_bounds timepoint
  obtain ⟨civil, seconds⟩ : ∃ civil : Civil, civil.seconds = DateTime.secondsOf timepoint
      (DateTime.microsecondsOf timepoint) + zone.utcOffset + epoch :=
    ⟨_, Civil.seconds_ofSeconds _⟩
  have shown : instant zone civil (DateTime.microsecondsOf timepoint) =
      DateTime.splitInstant timepoint := by
    unfold instant DateTime.splitInstant
    rw [seconds]
    omega
  have bounded := DateTime.split_bounded fits
  rw [← shown] at bounded
  have near := year_of_instant zone within bounded.1 bounded.2
  have monthLt := civil.date.month_lt
  have decomposed : localtime zone (DateTime.secondsOf timepoint
      (DateTime.microsecondsOf timepoint)) = some (tmOf civil) := by
    unfold localtime
    rw [← seconds, Civil.ofSeconds_seconds]
    apply if_pos
    unfold FitsInt
    omega
  have year : int32 (civil.date.year - 1900 + 1900) = civil.date.year := by
    rw [Int.sub_add_cancel]
    apply int32_eq
    unfold FitsInt
    omega
  have month : int32 (civil.date.month + 1) = civil.date.month + 1 := by
    apply int32_eq
    unfold FitsInt
    omega
  have built : DateTime.ofTimePoint zone timepoint = .ok
      { year := int32 (civil.date.year - 1900 + 1900)
        month := int32 (civil.date.month + 1)
        day := civil.date.day + 1
        hour := civil.hour
        minute := civil.minute
        second := civil.second
        microsecond := DateTime.microsecondsOf timepoint
        timepoint := timepoint } := by
    unfold DateTime.ofTimePoint DateTime.timepointToDatetime
    simp only [decomposed, tmOf]
  refine ⟨_, civil, built, rfl, ?_, shown⟩
  constructor <;> simp only [year, month, within, and_self]

/-- The ranges that the constructor documents; year and microsecond are any `int`. -/
structure Fields.Documented (fields : Fields) : Prop where
  year : FitsInt fields.year
  month : 1 ≤ fields.month ∧ fields.month ≤ 12
  day : 1 ≤ fields.day ∧ fields.day ≤ 31
  hour : 0 ≤ fields.hour ∧ fields.hour ≤ 23
  minute : 0 ≤ fields.minute ∧ fields.minute ≤ 59
  second : 0 ≤ fields.second ∧ fields.second ≤ 60
  microsecond : FitsInt fields.microsecond

/-- The instant of fields that need not be a time of the calendar, in nanoseconds. -/
def Fields.instant (zone : Zone) (fields : Fields) : Int :=
  (civilSeconds (dayNumber fields.year (fields.month - 1).toNat (fields.day - 1)) fields.hour
    fields.minute fields.second - epoch - zone.utcOffset) * 1000000000 +
      fields.microsecond * 1000

/-- A day that the month has, no leap second, less than a second of microseconds, and an
instant that the clock can hold. -/
structure Fields.Exact (zone : Zone) (fields : Fields) : Prop where
  day : fields.day ≤ monthLength fields.year (fields.month - 1).toNat
  second : fields.second ≤ 59
  microsecond : 0 ≤ fields.microsecond ∧ fields.microsecond < 1000000
  fits : FitsInt64 (fields.instant zone)

theorem Fields.Shows.instant_eq (shows : fields.Shows civil) :
    fields.instant zone = Datetime.instant zone civil fields.microsecond := by
  have month : (fields.month - 1).toNat = civil.date.month := by
    rw [shows.month]
    omega
  have day : fields.day - 1 = civil.date.day := by
    rw [shows.day]
    omega
  simp only [Fields.instant, Datetime.instant, Civil.seconds, Date.number, month, day,
    shows.year, shows.hour, shows.minute, shows.second]

theorem documented_shows_iff (documented : fields.Documented) :
    (∃ civil, fields.Shows civil ∧ FitsInt64 (instant zone civil fields.microsecond)) ↔
      fields.Exact zone := by
  have day := documented.day
  have hour := documented.hour
  have minute := documented.minute
  have second := documented.second
  have month := documented.month
  constructor
  · rintro ⟨civil, shows, fits⟩
    have dayLt := civil.date.exists_day
    have secondLt := civil.second.isLt
    have sameMonth : (fields.month - 1).toNat = civil.date.month := by
      rw [shows.month]
      omega
    refine ⟨?_, ?_, shows.microsecond, shows.instant_eq ▸ fits⟩
    · rw [shows.day, shows.year, sameMonth]
      omega
    · rw [shows.second]
      omega
  · intro exact
    have dayLe := exact.day
    have secondLe := exact.second
    obtain ⟨civil, shows⟩ : ∃ civil, fields.Shows civil := by
      refine ⟨{
        date := {
          year := fields.year
          month := (fields.month - 1).toNat
          day := (fields.day - 1).toNat
          exists_day := by omega }
        hour := ⟨fields.hour.toNat, by omega⟩
        minute := ⟨fields.minute.toNat, by omega⟩
        second := ⟨fields.second.toNat, by omega⟩ }, ?_⟩
      refine ⟨rfl, ?_, ?_, ?_, ?_, ?_, exact.microsecond⟩ <;>
      · simp only
        omega
    exact ⟨civil, shows, shows.instant_eq ▸ exact.fits⟩

end AresCommon.Datetime
