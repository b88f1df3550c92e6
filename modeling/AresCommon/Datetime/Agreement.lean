import AresCommon.Datetime.Conversion

/-!
# Constructed objects

Every `DateTime` comes from a constructor, a copy or an assignment. Copies take over the
seven fields and make a new time point from them; whether the result agrees with its fields,
and whether it is its source, depends on what the first constructor of the chain was given.
-/

namespace AresCommon.Datetime

open AresCommon.Foundation.Calendar

set_option autoImplicit false

inductive Construction where
  | zero
  | ofTimePoint (timepoint : Int)
  | ofFields (fields : Fields)
  | copy (rhs : Construction)
  | assign (this rhs : Construction)
  deriving DecidableEq, Repr

structure Fields.Ints (fields : Fields) : Prop where
  year : FitsInt fields.year
  month : FitsInt fields.month
  day : FitsInt fields.day
  hour : FitsInt fields.hour
  minute : FitsInt fields.minute
  second : FitsInt fields.second
  microsecond : FitsInt fields.microsecond

namespace Construction

def build (zone : Zone) : Construction → Except DateTimeException DateTime
  | .zero => .ok .zero
  | .ofTimePoint timepoint => DateTime.ofTimePoint zone timepoint
  | .ofFields fields => .ok (DateTime.ofFields zone fields)
  | .copy rhs => (rhs.build zone).map (DateTime.copy zone)
  | .assign this rhs => do
      let this ← this.build zone
      let rhs ← rhs.build zone
      return DateTime.assign zone this rhs

def Typed : Construction → Prop
  | .zero => True
  | .ofTimePoint timepoint => FitsInt64 timepoint
  | .ofFields fields => fields.Ints
  | .copy rhs => rhs.Typed
  | .assign this rhs => this.Typed ∧ rhs.Typed

/-- The chain starts at a time point or at fields in the documented ranges. -/
def Documented : Construction → Prop
  | .zero => False
  | .ofTimePoint timepoint => FitsInt64 timepoint
  | .ofFields fields => fields.Documented
  | .copy rhs => rhs.Documented
  | .assign this rhs => this.Typed ∧ rhs.Documented

/-- What a copy needs of its source for its fields to agree with its time point. -/
def CopiesInStep (zone : Zone) : Construction → Prop
  | .zero => False
  | .ofTimePoint timepoint =>
      DateTime.NoUnderflow timepoint ∨ timepoint ≤ -9223372036145225000
  | .ofFields fields => fields.Exact zone
  | .copy rhs => rhs.CopiesInStep zone
  | .assign _ rhs => rhs.CopiesInStep zone

def InStep (zone : Zone) : Construction → Prop
  | .zero => False
  | .ofTimePoint timepoint => DateTime.NoUnderflow timepoint
  | .ofFields fields => fields.Exact zone
  | .copy rhs => rhs.CopiesInStep zone
  | .assign _ rhs => rhs.CopiesInStep zone

variable {zone : Zone} {c : Construction} {d : DateTime}

theorem build_ok (zone : Zone) (typed : c.Typed) : ∃ d, c.build zone = .ok d := by
  induction c with
  | zero => exact ⟨_, rfl⟩
  | ofTimePoint timepoint =>
      obtain ⟨d, _, built, _⟩ := ofTimePoint_shows zone typed
      exact ⟨d, built⟩
  | ofFields fields => exact ⟨_, rfl⟩
  | copy rhs ih =>
      obtain ⟨d, built⟩ := ih typed
      exact ⟨_, by simp only [build, built]; rfl⟩
  | assign this rhs thisIh rhsIh =>
      obtain ⟨target, made⟩ := thisIh typed.1
      obtain ⟨d, built⟩ := rhsIh typed.2
      exact ⟨_, by simp only [build, made, built]; rfl⟩

theorem of_copy {rhs : Construction} (built : (copy rhs).build zone = .ok d) :
    ∃ source, rhs.build zone = .ok source ∧ d = DateTime.copy zone source := by
  simp only [build] at built
  cases made : rhs.build zone with
  | error exception =>
      rw [made] at built
      cases built
  | ok source =>
      rw [made] at built
      cases built
      exact ⟨source, rfl, rfl⟩

theorem of_assign {this rhs : Construction} (built : (assign this rhs).build zone = .ok d) :
    ∃ target source, rhs.build zone = .ok source ∧ d = DateTime.assign zone target source := by
  simp only [build] at built
  cases made : this.build zone with
  | error exception =>
      rw [made] at built
      cases built
  | ok target =>
      rw [made] at built
      cases from' : rhs.build zone with
      | error exception =>
          rw [from'] at built
          cases built
      | ok source =>
          rw [from'] at built
          cases built
          exact ⟨target, source, rfl, rfl⟩

/-- The fields of a constructed object are a time that the clock can hold exactly when its
copies are in step. -/
theorem fits_iff (documented : c.Documented) (built : c.build zone = .ok d) :
    (∃ civil, d.Shows civil ∧ FitsInt64 (instant zone civil d.microsecond)) ↔
      c.CopiesInStep zone := by
  induction c generalizing d with
  | zero => exact documented.elim
  | ofTimePoint timepoint =>
      obtain ⟨made, civil, done, _, shows, shown⟩ := ofTimePoint_shows zone documented
      cases done.symm.trans built
      rw [CopiesInStep, ← DateTime.split_fits_iff documented, ← shown]
      constructor
      · rintro ⟨other, showsOther, fits⟩
        rw [shows.unique showsOther]
        exact fits
      · exact fun fits => ⟨civil, shows, fits⟩
  | ofFields fields =>
      cases built
      exact documented_shows_iff documented
  | copy rhs ih =>
      obtain ⟨source, made, rfl⟩ := of_copy built
      have known := ih documented made
      exact known
  | assign this rhs _ ih =>
      obtain ⟨target, source, made, rfl⟩ := of_assign built
      have known := ih documented.2 made
      exact known

theorem Documented.typed (documented : c.Documented) : c.Typed := by
  induction c with
  | zero => trivial
  | ofTimePoint timepoint => exact documented
  | ofFields fields =>
      obtain ⟨year, month, day, hour, minute, second, microsecond⟩ := documented
      unfold FitsInt at year microsecond
      constructor <;>
      · unfold FitsInt
        omega
  | copy rhs ih => exact ih documented
  | assign this rhs _ ih => exact ⟨documented.1, ih documented.2⟩

theorem timepoint_agrees_iff (zone : Zone) {timepoint : Int} (fits : FitsInt64 timepoint) :
    (∃ d, (ofTimePoint timepoint).build zone = .ok d ∧ d.Agrees zone) ↔
      DateTime.NoUnderflow timepoint := by
  obtain ⟨made, civil, built, same, shows, shown⟩ := ofTimePoint_shows zone fits
  have rounded := DateTime.tdiv_near timepoint
  have split := DateTime.split_instant fits
  constructor
  · rintro ⟨d, done, other, showsOther, near⟩
    cases built.symm.trans done
    cases shows.unique showsOther
    by_contra under
    rw [if_neg under] at split
    rw [shown, same] at near
    omega
  · intro plain
    rw [if_pos plain] at split
    refine ⟨made, built, civil, shows, ?_⟩
    rw [shown, same]
    omega

end Construction

/-- The fields and the time point of a constructed object agree, to the microsecond, exactly
when the constructor of the chain was given what it can represent: the constructor from
fields a time of the calendar within the range of the clock, the constructor from a time
point one whose difference with its microseconds does not wrap. -/
theorem fields_agree_iff (zone : Zone) (c : Construction) (documented : c.Documented) :
    (∃ d, c.build zone = .ok d ∧ d.Agrees zone) ↔ c.InStep zone := by
  -- what holds of every object whose time point was made from its fields
  have recomputed {d : DateTime} (built : c.build zone = .ok d)
      (made : ∃ source, d = DateTime.datetimeToTimepoint zone source) :
      (∃ d, c.build zone = .ok d ∧ d.Agrees zone) ↔ c.CopiesInStep zone := by
    obtain ⟨source, rfl⟩ := made
    rw [← Construction.fits_iff documented built]
    have known := recomputed_agrees_iff zone source
    constructor
    · rintro ⟨other, again, agrees⟩
      cases built.symm.trans again
      exact known.mp agrees
    · exact fun fits => ⟨_, built, known.mpr fits⟩
  obtain ⟨d, built⟩ := Construction.build_ok zone documented.typed
  cases c with
  | zero => exact documented.elim
  | ofTimePoint timepoint => exact Construction.timepoint_agrees_iff zone documented
  | ofFields fields =>
      cases built
      exact recomputed rfl ⟨_, rfl⟩
  | copy rhs =>
      obtain ⟨source, _, rfl⟩ := Construction.of_copy built
      exact recomputed built ⟨_, rfl⟩
  | assign this rhs =>
      obtain ⟨target, source, _, rfl⟩ := Construction.of_assign built
      exact recomputed built ⟨_, rfl⟩

def utc : Zone := ⟨0, by decide⟩

def leapDay : Fields where
  year := 2024
  month := 2
  day := 29
  hour := 23
  minute := 59
  second := 59
  microsecond := 999999

theorem fields_agree_on_leap_day :
    ∃ d, (Construction.assign .zero (.copy (.ofFields leapDay))).build utc = .ok d ∧
      d.Agrees utc := by
  have documented : leapDay.Documented := by constructor <;> decide
  have exact : leapDay.Exact utc := by constructor <;> decide
  exact (fields_agree_iff utc (.assign .zero (.copy (.ofFields leapDay)))
    ⟨trivial, documented⟩).mpr exact

/-- 31 February is a day that the constructor documents, and that no month has. -/
theorem thirty_first_of_february :
    ¬∀ zone c, Construction.Documented c →
      ∃ d, c.build zone = .ok d ∧ DateTime.Agrees zone d := by
  intro always
  have documented : Fields.Documented { leapDay with day := 31 } := by constructor <;> decide
  obtain ⟨d, built, agrees⟩ := always utc (.ofFields { leapDay with day := 31 }) documented
  cases built
  have exact := (documented_shows_iff documented).mp ((recomputed_agrees_iff utc _).mp agrees)
  have day := exact.day
  exact absurd day (by decide)

/-! ## Copies -/

namespace Construction

/-- A copy of the object is the object: it was made from fields, or from a time point in
whole microseconds whose difference with them does not wrap. -/
def CopiesEqual : Construction → Prop
  | .zero => False
  | .ofTimePoint timepoint => DateTime.NoUnderflow timepoint ∧ timepoint % 1000 = 0
  | .ofFields _ => True
  | .copy _ => True
  | .assign _ _ => True

end Construction

namespace DateTime

variable {zone : Zone}

theorem assign_eq_copy (zone : Zone) (this rhs : DateTime) :
    assign zone this rhs = copy zone rhs := rfl

theorem copy_eq_iff (zone : Zone) (d : DateTime) :
    copy zone d = d ↔ (copy zone d).timepoint = d.timepoint := by
  constructor
  · exact congrArg timepoint
  · intro same
    cases d
    simp only [copy, datetimeToTimepoint, DateTime.mk.injEq, true_and] at same ⊢
    exact same

theorem copy_recomputed (zone : Zone) (d : DateTime) :
    copy zone (datetimeToTimepoint zone d) = datetimeToTimepoint zone d := by
  simp only [copy, datetimeToTimepoint]

theorem zero_seconds : (calendar zero.toFields).seconds = -2764800 := by
  decide +kernel

/-- The default fields are an instant beyond the range of the clock. -/
theorem zero_instant_wraps (zone : Zone) :
    int64 ((-2764800 - epoch - zone.utcOffset) * 1000000000) ≠ 0 := by
  have offset := zone.bounded
  have fits : FitsInt64 ((-2764800 - epoch - zone.utcOffset) * 1000000000 +
      18446744073709551616 * 3) := by
    unfold FitsInt64 epoch
    omega
  rw [← int64_add_wraps _ 3, int64_eq fits]
  unfold epoch
  omega

theorem copy_zero (zone : Zone) : copy zone zero ≠ zero := by
  intro same
  have timepoint : (copy zone zero).timepoint = 0 := congrArg DateTime.timepoint same
  have time : mktime zone (calendar zero.toFields) = -2764800 - epoch - zone.utcOffset := by
    unfold mktime
    rw [zero_seconds]
    exact if_pos (by decide +kernel)
  have micro : zero.microsecond * 1000 = 0 := rfl
  simp only [copy, datetimeToTimepoint, fromTimeT, time, micro] at timepoint
  rw [int64_add_int64, Int.add_comm, int64_add_int64, Int.zero_add] at timepoint
  exact zero_instant_wraps zone timepoint

theorem split_eq_iff {timepoint : Int} (fits : FitsInt64 timepoint) :
    int64 (splitInstant timepoint) = timepoint ↔
      NoUnderflow timepoint ∧ timepoint % 1000 = 0 := by
  by_cases plain : NoUnderflow timepoint
  · have inside := (split_fits_iff fits).mpr (.inl plain)
    rw [int64_eq inside, split_instant fits, if_pos plain, Int.add_zero]
    simp only [plain, true_and]
    rcases Int.lt_or_le timepoint 0 with negative | nonneg
    · rw [tdiv_of_neg negative]
      omega
    · rw [Int.tdiv_eq_ediv_of_nonneg nonneg]
      omega
  · refine iff_of_false ?_ fun both => plain both.1
    intro same
    have rounded := tdiv_near timepoint
    obtain ⟨wraps, differs⟩ := int64_wraps (splitInstant timepoint)
    rw [same, split_instant_of_underflow fits plain] at differs
    omega

theorem copy_ofTimePoint_iff {timepoint : Int} (fits : FitsInt64 timepoint) {d : DateTime}
    (built : ofTimePoint zone timepoint = .ok d) :
    copy zone d = d ↔ NoUnderflow timepoint ∧ timepoint % 1000 = 0 := by
  obtain ⟨made, civil, done, same, shows, shown⟩ := ofTimePoint_shows zone fits
  cases done.symm.trans built
  have bounded := split_bounded fits
  rw [← shown] at bounded
  have near := year_of_instant zone shows.microsecond bounded.1 bounded.2
  have copied : (copy zone d).timepoint = int64 (splitInstant timepoint) := by
    rw [← shown]
    exact timepoint_of_shows shows near
  rw [copy_eq_iff, copied, same]
  exact split_eq_iff fits

end DateTime

/-- A copy or an assignment takes over the seven fields. It is its source exactly when the
source was made from fields, or from a time point in whole microseconds whose difference
with them does not wrap. -/
theorem copy_equals_iff (zone : Zone) (c : Construction) (typed : c.Typed) :
    ∃ d, c.build zone = .ok d ∧ (DateTime.copy zone d).toFields = d.toFields ∧
      (DateTime.copy zone d = d ↔ c.CopiesEqual) ∧
      ∀ this, (DateTime.assign zone this d).toFields = d.toFields ∧
        (DateTime.assign zone this d = d ↔ c.CopiesEqual) := by
  obtain ⟨d, built⟩ := Construction.build_ok zone typed
  have same : DateTime.copy zone d = d ↔ c.CopiesEqual := by
    cases c with
    | zero =>
        cases built
        exact iff_of_false (DateTime.copy_zero zone) id
    | ofTimePoint timepoint => exact DateTime.copy_ofTimePoint_iff typed built
    | ofFields fields =>
        cases built
        exact iff_of_true (DateTime.copy_recomputed zone _) trivial
    | copy rhs =>
        obtain ⟨source, _, rfl⟩ := Construction.of_copy built
        exact iff_of_true (DateTime.copy_recomputed zone _) trivial
    | assign this rhs =>
        obtain ⟨target, source, _, rfl⟩ := Construction.of_assign built
        exact iff_of_true (DateTime.copy_recomputed zone _) trivial
  refine ⟨d, built, rfl, same, fun this => ⟨rfl, ?_⟩⟩
  rw [DateTime.assign_eq_copy]
  exact same

theorem copy_equals_of_microseconds :
    ∃ d, (Construction.ofTimePoint (-1500000)).build utc = .ok d ∧ DateTime.copy utc d = d := by
  obtain ⟨d, built, _, same, _⟩ :=
    copy_equals_iff utc (.ofTimePoint (-1500000)) ⟨by decide, by decide⟩
  exact ⟨d, built, same.mpr ⟨by decide, by decide⟩⟩

/-- A nanosecond after the epoch is lost in a copy. -/
theorem copy_loses_nanosecond :
    ¬∀ zone c, Construction.Typed c →
      ∃ d, c.build zone = .ok d ∧ DateTime.copy zone d = d ∧
        ∀ this, DateTime.assign zone this d = d := by
  intro always
  have typed : FitsInt64 1 := by decide
  obtain ⟨d, built, same, _⟩ := always utc (.ofTimePoint 1) typed
  obtain ⟨_, whole⟩ := (DateTime.copy_ofTimePoint_iff typed built).mp same
  cases whole

end AresCommon.Datetime
