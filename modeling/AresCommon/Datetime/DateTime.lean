import AresCommon.Foundation.Calendar

/-!
# Dates and times

A `DateTime` holds seven fields and a time point of `system_clock`, in nanoseconds. The
fields and the time point are made from each other: from a time point by `localtime`, from
fields by `mktime`. Both are those of a time zone with a fixed offset. Signed words wrap.
-/

namespace AresCommon.Datetime

open AresCommon.Foundation.Calendar

set_option autoImplicit false

/-! ## The C library -/

def int32 (value : Int) : Int := value.bmod (2 ^ 32)

def int64 (value : Int) : Int := value.bmod (2 ^ 64)

def FitsInt (value : Int) : Prop := -2 ^ 31 ≤ value ∧ value < 2 ^ 31

def FitsInt64 (value : Int) : Prop := -2 ^ 63 ≤ value ∧ value < 2 ^ 63

instance (value : Int) : Decidable (FitsInt value) := inferInstanceAs (Decidable (_ ∧ _))

instance (value : Int) : Decidable (FitsInt64 value) := inferInstanceAs (Decidable (_ ∧ _))

structure Tm where
  sec : Int
  min : Int
  hour : Int
  mday : Int
  mon : Int
  year : Int
  isdst : Int
  deriving DecidableEq, Repr

/-- A time zone that is always the same offset away from UTC, by less than a week. -/
structure Zone where
  utcOffset : Int
  bounded : -604800 < utcOffset ∧ utcOffset < 604800

/-- The epoch, 1970-01-01 00:00:00 UTC, in seconds. -/
def epoch : Int := 62167219200

/-- The civil seconds of a `tm`, whose fields may lie outside their ranges. -/
def Tm.seconds (cal : Tm) : Int :=
  civilSeconds
    (dayNumber (cal.year + 1900 + cal.mon / 12) (cal.mon % 12).toNat (cal.mday - 1))
    cal.hour cal.min cal.sec

def tmOf (civil : Civil) : Tm where
  sec := civil.second
  min := civil.minute
  hour := civil.hour
  mday := civil.date.day + 1
  mon := civil.date.month
  year := civil.date.year - 1900
  isdst := 0

/-- `std::mktime`; minus one when the year that comes out is not one of an `int`. The library
may fail otherwise too, and answer minus one: that is left out. -/
def mktime (zone : Zone) (cal : Tm) : Int :=
  if FitsInt ((Civil.ofSeconds cal.seconds).date.year - 1900) then
    cal.seconds - epoch - zone.utcOffset
  else -1

def localtime (zone : Zone) (time : Int) : Option Tm :=
  let civil := Civil.ofSeconds (time + zone.utcOffset + epoch)
  if FitsInt (civil.date.year - 1900) then some (tmOf civil) else none

def fromTimeT (time : Int) : Int := int64 (time * 1000000000)

/-- `system_clock::to_time_t`, which rounds toward zero. -/
def toTimeT (timepoint : Int) : Int := timepoint.tdiv 1000000000

/-! ## The class -/

structure DateTimeException where
  msg : String
  deriving DecidableEq, Repr

structure Fields where
  year : Int
  month : Int
  day : Int
  hour : Int
  minute : Int
  second : Int
  microsecond : Int
  deriving DecidableEq, Repr

structure DateTime extends Fields where
  timepoint : Int
  deriving DecidableEq, Repr

namespace DateTime

def zero : DateTime where
  year := 0
  month := 0
  day := 0
  hour := 0
  minute := 0
  second := 0
  microsecond := 0
  timepoint := 0

/-- The microseconds of a time point within its second, in an `int`. -/
def microsecondsOf (timepoint : Int) : Int :=
  let us := int32 ((timepoint.tmod 1000000000).tdiv 1000)
  if us < 0 then int32 (us + 1000000) else us

/-- The second of a time point, once its microseconds are known. -/
def secondsOf (timepoint us : Int) : Int :=
  toTimeT (int64 (timepoint - int64 (us * 1000)))

def timepointToDatetime (zone : Zone) (this : DateTime) (timepoint : Int) :
    Except DateTimeException DateTime :=
  let us := microsecondsOf timepoint
  match localtime zone (secondsOf timepoint us) with
  | none => .error { msg := "Unable to represent system_lock in local time" }
  | some localtime => .ok
      { this with
        year := int32 (localtime.year + 1900)
        month := int32 (localtime.mon + 1)
        day := localtime.mday
        hour := localtime.hour
        minute := localtime.min
        second := localtime.sec
        microsecond := us }

def calendar (fields : Fields) : Tm where
  sec := fields.second
  min := fields.minute
  hour := fields.hour
  mday := fields.day
  mon := int32 (fields.month - 1)
  year := int32 (fields.year - 1900)
  isdst := -1

def datetimeToTimepoint (zone : Zone) (this : DateTime) : DateTime :=
  { this with
    timepoint := int64 (fromTimeT (mktime zone (calendar this.toFields)) +
      int64 (this.microsecond * 1000)) }

/-- `DateTime(timepoint)` -/
def ofTimePoint (zone : Zone) (timepoint : Int) : Except DateTimeException DateTime :=
  timepointToDatetime zone { zero with timepoint := timepoint } timepoint

/-- `DateTime(year, month, day, hour, minute, second, microsecond)` -/
def ofFields (zone : Zone) (fields : Fields) : DateTime :=
  datetimeToTimepoint zone { zero with toFields := fields }

/-- `DateTime(rhs)` -/
def copy (zone : Zone) (rhs : DateTime) : DateTime :=
  datetimeToTimepoint zone { zero with toFields := rhs.toFields }

/-- `operator=` -/
def assign (zone : Zone) (this rhs : DateTime) : DateTime :=
  datetimeToTimepoint zone { this with toFields := rhs.toFields }

end DateTime

end AresCommon.Datetime
