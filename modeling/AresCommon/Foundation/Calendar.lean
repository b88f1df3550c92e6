import Mathlib.Algebra.Order.Ring.Int
import Mathlib.Data.List.Basic
import Mathlib.Logic.Equiv.Defs

/-!
# The proleptic Gregorian calendar

Days are counted from the first of January of the year 0, seconds from its midnight.
Months and days count from 0. A date is a year, a month and a day that this month has;
dates and day numbers correspond one to one, and so do civil times and seconds. The first
part is about positions in a row of parts of different lengths, such as the months.
-/

namespace AresCommon.Foundation.Calendar

set_option autoImplicit false

/-! ## Positions in a row of parts -/

/-- The part that a position falls into, and the position within this part. -/
def locate : List Nat → Nat → Nat × Nat
  | [], position => (0, position)
  | length :: rest, position =>
      if position < length then (0, position)
      else ((locate rest (position - length)).1 + 1, (locate rest (position - length)).2)

theorem take_sum_locate (lengths : List Nat) (position : Nat) :
    (lengths.take (locate lengths position).1).sum + (locate lengths position).2 = position := by
  induction lengths generalizing position with
  | nil => simp [locate]
  | cons length rest ih =>
      unfold locate
      split
      · simp
      · rename_i beyond
        have tail := ih (position - length)
        simp only [List.take_succ_cons, List.sum_cons]
        omega

theorem locate_bounds {lengths : List Nat} {position : Nat} (inside : position < lengths.sum) :
    (locate lengths position).1 < lengths.length ∧
      (locate lengths position).2 < lengths.getD (locate lengths position).1 0 := by
  induction lengths generalizing position with
  | nil => simp at inside
  | cons length rest ih =>
      unfold locate
      split
      · rename_i within
        simpa using within
      · rename_i beyond
        rw [List.sum_cons] at inside
        have shorter : position - length < rest.sum := by omega
        simpa using ih shorter

theorem locate_take_sum {lengths : List Nat} {part offset : Nat}
    (within : offset < lengths.getD part 0) :
    locate lengths ((lengths.take part).sum + offset) = (part, offset) := by
  induction lengths generalizing part with
  | nil => simp at within
  | cons length rest ih =>
      cases part with
      | zero =>
          have first : offset < length := by simpa using within
          simp [locate, first]
      | succ part =>
          have inner : offset < rest.getD part 0 := by simpa using within
          have tail := ih inner
          have beyond : ¬length + (rest.take part).sum + offset < length := by omega
          have rest' : length + (rest.take part).sum + offset - length =
              (rest.take part).sum + offset := by omega
          simp only [List.take_succ_cons, List.sum_cons, locate, if_neg beyond, rest', tail]

theorem take_sum_lt {lengths : List Nat} {part offset : Nat}
    (within : offset < lengths.getD part 0) :
    (lengths.take part).sum + offset < lengths.sum := by
  induction lengths generalizing part with
  | nil => simp at within
  | cons length rest ih =>
      cases part with
      | zero =>
          have first : offset < length := by simpa using within
          simp only [List.take_zero, List.sum_nil, List.sum_cons]
          omega
      | succ part =>
          have inner : offset < rest.getD part 0 := by simpa using within
          have tail := ih inner
          simp only [List.take_succ_cons, List.sum_cons]
          omega

/-! ## Years -/

def isLeap (year : Int) : Bool :=
  year % 4 = 0 && (year % 100 ≠ 0 || year % 400 = 0)

def yearLength (year : Int) : Nat := if isLeap year then 366 else 365

def yearStart (year : Int) : Int :=
  365 * year + (year + 3) / 4 - (year + 99) / 100 + (year + 399) / 400

theorem yearStart_succ (year : Int) : yearStart (year + 1) = yearStart year + yearLength year := by
  unfold yearStart yearLength isLeap
  split
  · rename_i leap
    simp only [Bool.and_eq_true, Bool.or_eq_true, decide_eq_true_eq] at leap
    omega
  · rename_i common
    simp only [Bool.and_eq_true, Bool.or_eq_true, decide_eq_true_eq] at common
    omega

theorem yearStart_bounds (year : Int) :
    146097 * year - 396 ≤ 400 * yearStart year ∧ 400 * yearStart year ≤ 146097 * year + 699 := by
  unfold yearStart
  omega

theorem yearStart_mono {earlier later : Int} (ordered : earlier ≤ later) :
    yearStart earlier ≤ yearStart later := by
  unfold yearStart
  omega

/-- The year of a day: the average year gives a guess that is at most one off. -/
def yearOfDay (day : Int) : Int :=
  let guess := 400 * day / 146097
  if day < yearStart guess then guess - 1
  else if yearStart (guess + 1) ≤ day then guess + 1
  else guess

theorem year_of_day_contains (day : Int) :
    yearStart (yearOfDay day) ≤ day ∧ day < yearStart (yearOfDay day + 1) := by
  have before := yearStart_bounds (400 * day / 146097 - 1)
  have after := yearStart_bounds (400 * day / 146097 + 1 + 1)
  unfold yearOfDay
  simp only
  split
  · rename_i early
    constructor
    · omega
    · rw [Int.sub_add_cancel]
      exact early
  · rename_i begun
    split
    · rename_i ended
      constructor
      · exact ended
      · omega
    · rename_i goes
      exact ⟨Int.not_lt.mp begun, Int.not_le.mp goes⟩

theorem year_of_day_eq {day year : Int} (lower : yearStart year ≤ day)
    (upper : day < yearStart (year + 1)) : yearOfDay day = year := by
  obtain ⟨begun, goes⟩ := year_of_day_contains day
  rcases Int.lt_trichotomy (yearOfDay day) year with less | same | greater
  · have := yearStart_mono (Int.add_one_le_of_lt less)
    omega
  · exact same
  · have := yearStart_mono (Int.add_one_le_of_lt greater)
    omega

/-! ## Dates -/

def monthLengths (year : Int) : List Nat :=
  [31, if isLeap year then 29 else 28, 31, 30, 31, 30, 31, 31, 30, 31, 30, 31]

def monthLength (year : Int) (month : Nat) : Nat := (monthLengths year).getD month 0

@[simp]
theorem monthLengths_length (year : Int) : (monthLengths year).length = 12 := rfl

theorem monthLengths_sum (year : Int) : (monthLengths year).sum = yearLength year := by
  unfold monthLengths yearLength
  split <;> rfl

/-- The number of a day, which may also lie outside the month it is counted from. -/
def dayNumber (year : Int) (month : Nat) (day : Int) : Int :=
  yearStart year + ((monthLengths year).take month).sum + day

structure Date where
  year : Int
  month : Nat
  day : Nat
  exists_day : day < monthLength year month
  deriving DecidableEq

namespace Date

def number (date : Date) : Int := dayNumber date.year date.month date.day

theorem month_lt (date : Date) : date.month < 12 := by
  by_contra beyond
  have outside : (monthLengths date.year).length ≤ date.month := Nat.not_lt.mp beyond
  have nothing : monthLength date.year date.month = 0 := by
    rw [monthLength, List.getD_eq_getElem?_getD, List.getElem?_eq_none outside]
    rfl
  have exists_day := date.exists_day
  omega

theorem number_bounds (date : Date) :
    yearStart date.year ≤ date.number ∧ date.number < yearStart (date.year + 1) := by
  have inside := take_sum_lt date.exists_day
  rw [monthLengths_sum] at inside
  rw [yearStart_succ]
  unfold number dayNumber
  omega

def dayOfYear (day : Int) : Nat := (day - yearStart (yearOfDay day)).toNat

theorem day_of_year_lt (day : Int) : dayOfYear day < (monthLengths (yearOfDay day)).sum := by
  have bounds := year_of_day_contains day
  rw [yearStart_succ] at bounds
  rw [monthLengths_sum]
  unfold dayOfYear
  omega

def ofNumber (day : Int) : Date where
  year := yearOfDay day
  month := (locate (monthLengths (yearOfDay day)) (dayOfYear day)).1
  day := (locate (monthLengths (yearOfDay day)) (dayOfYear day)).2
  exists_day := (locate_bounds (day_of_year_lt day)).2

theorem number_ofNumber (day : Int) : (ofNumber day).number = day := by
  have bounds := year_of_day_contains day
  have place := take_sum_locate (monthLengths (yearOfDay day)) (dayOfYear day)
  have position : (dayOfYear day : Int) = day - yearStart (yearOfDay day) := by
    unfold dayOfYear
    omega
  simp only [number, ofNumber, dayNumber]
  omega

theorem ofNumber_number (date : Date) : ofNumber date.number = date := by
  obtain ⟨lower, upper⟩ := date.number_bounds
  have year := year_of_day_eq lower upper
  have position : dayOfYear date.number =
      ((monthLengths date.year).take date.month).sum + date.day := by
    unfold dayOfYear
    rw [year]
    unfold number dayNumber
    omega
  have place := locate_take_sum date.exists_day
  cases date
  simp only [ofNumber, year, position]
  simp only at place
  simp only [place]

def equiv : Date ≃ Int where
  toFun := number
  invFun := ofNumber
  left_inv := ofNumber_number
  right_inv := number_ofNumber

end Date

/-! ## Civil times -/

/-- The seconds up to a time of day, which may also lie outside its day. -/
def civilSeconds (day hour minute second : Int) : Int :=
  86400 * day + 3600 * hour + 60 * minute + second

structure Civil where
  date : Date
  hour : Fin 24
  minute : Fin 60
  second : Fin 60
  deriving DecidableEq

namespace Civil

def seconds (civil : Civil) : Int :=
  civilSeconds civil.date.number civil.hour civil.minute civil.second

def ofSeconds (seconds : Int) : Civil where
  date := .ofNumber (seconds / 86400)
  hour := Fin.ofNat 24 (seconds % 86400 / 3600).toNat
  minute := Fin.ofNat 60 (seconds % 3600 / 60).toNat
  second := Fin.ofNat 60 (seconds % 60).toNat

theorem seconds_ofSeconds (seconds : Int) : (ofSeconds seconds).seconds = seconds := by
  simp only [Civil.seconds, ofSeconds, Date.number_ofNumber, civilSeconds, Fin.ofNat]
  omega

theorem seconds_div (civil : Civil) : civil.seconds / 86400 = civil.date.number := by
  have hour := civil.hour.isLt
  have minute := civil.minute.isLt
  have second := civil.second.isLt
  unfold seconds civilSeconds
  omega

theorem ofSeconds_seconds (civil : Civil) : ofSeconds civil.seconds = civil := by
  have day := civil.seconds_div
  obtain ⟨date, ⟨hour, hourLt⟩, ⟨minute, minuteLt⟩, ⟨second, secondLt⟩⟩ := civil
  simp only [ofSeconds, day, Date.ofNumber_number, Fin.ofNat, Civil.mk.injEq, Fin.mk.injEq,
    true_and]
  simp only [seconds, civilSeconds]
  omega

def equiv : Civil ≃ Int where
  toFun := seconds
  invFun := ofSeconds
  left_inv := ofSeconds_seconds
  right_inv := seconds_ofSeconds

theorem year_bounds (civil : Civil) :
    146097 * civil.date.year - 396 ≤ 400 * (civil.seconds / 86400) ∧
      400 * (civil.seconds / 86400) ≤ 146097 * civil.date.year + 146796 := by
  obtain ⟨lower, upper⟩ := civil.date.number_bounds
  have first := yearStart_bounds civil.date.year
  have next := yearStart_bounds (civil.date.year + 1)
  rw [civil.seconds_div]
  omega

end Civil

end AresCommon.Foundation.Calendar
