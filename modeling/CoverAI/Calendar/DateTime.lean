import CoverAI.Calendar.Gregorian

/-!
# Dates and times of day

A date and a time of day carry the bounds of their fields, so a date that the
calendar does not have cannot be built.  A date-time is read off the number of
microseconds since 1970-01-01 on the same clock, and that number off it.
-/

namespace Calendar

def daysInMonth (year month : Int) : Int :=
  (monthLengths (leapDay year)).getD (month - 1).toNat 0

structure Date where
  year : Int
  month : Int
  day : Int
  month_mem : 1 ≤ month ∧ month ≤ 12
  day_mem : 1 ≤ day ∧ day ≤ daysInMonth year month

theorem Date.ext {a b : Date} (hyear : a.year = b.year)
    (hmonth : a.month = b.month) (hday : a.day = b.day) : a = b := by
  cases a
  cases b
  cases hyear
  cases hmonth
  cases hday
  rfl

/-!
# Days of a month
-/

/-- A month ends where the next one starts. -/
theorem monthStart_add_daysInMonth (year : Int) {month : Int}
    (h : 1 ≤ month ∧ month ≤ 12) :
    monthStart (12 * year + (month - 1) + 1) =
      monthStart (12 * year + (month - 1)) + daysInMonth year month := by
  rcases Int.eq_ofNat_of_zero_le (a := month - 1) (by omega) with ⟨m, hm⟩
  have hlt : m < (monthLengths (leapDay year)).length := by
    change m < 12
    omega
  have htake : (monthLengths (leapDay year)).take (m + 1) =
      (monthLengths (leapDay year)).take m ++
        [(monthLengths (leapDay year))[m]] :=
    List.take_succ_eq_append_getElem hlt
  have hdays : daysInMonth year month = (monthLengths (leapDay year))[m] := by
    rw [daysInMonth, hm, Int.toNat_natCast, List.getD_eq_getElem?_getD,
      List.getElem?_eq_getElem hlt, Option.getD_some]
  rw [hm, monthStart_succ_of_lt year hlt, monthStart_of_lt year hlt, hdays,
    daysBeforeMonth, htake, List.sum_append, List.sum_singleton,
    daysBeforeMonth, add_assoc]

theorem one_le_daysInMonth (year : Int) {month : Int}
    (h : 1 ≤ month ∧ month ≤ 12) : 1 ≤ daysInMonth year month := by
  have hstart := monthStart_lt_succ (12 * year + (month - 1))
  rw [monthStart_add_daysInMonth year h] at hstart
  omega

theorem monthOf_eq (d : Int) :
    monthOf d = 12 * yearOf d +
      (((monthOfYearDay (leapDay (yearOf d)) (d - yearStart (yearOf d)) : Int) +
        1) - 1) := by
  rw [monthOf]
  omega

/-!
# Dates and day numbers
-/

namespace Date

/-- The number of the month, counted from January of the year 0. -/
def monthNumber (date : Date) : Int :=
  12 * date.year + (date.month - 1)

def toDays (date : Date) : Int :=
  monthStart date.monthNumber + (date.day - 1)

def ofDays (d : Int) : Date where
  year := yearOf d
  month := monthOfYearDay (leapDay (yearOf d)) (d - yearStart (yearOf d)) + 1
  day := d - monthStart (monthOf d) + 1
  month_mem := by
    have h := monthOfYearDay_lt d
    omega
  day_mem := by
    have hlt := monthOfYearDay_lt d
    have hstart := monthStart_monthOf_le d
    have hnext := lt_monthStart_monthOf_succ d
    rw [monthOf_eq, monthStart_add_daysInMonth _ (by omega),
      <- monthOf_eq] at hnext
    omega

theorem monthNumber_ofDays (d : Int) : (ofDays d).monthNumber = monthOf d :=
  (monthOf_eq d).symm

theorem toDays_ofDays (d : Int) : (ofDays d).toDays = d := by
  rw [toDays, monthNumber_ofDays]
  change monthStart (monthOf d) + (d - monthStart (monthOf d) + 1 - 1) = d
  omega

theorem monthOf_toDays (date : Date) :
    monthOf date.toDays = date.monthNumber := by
  apply months.index_eq_iff.mpr
  have hday := date.day_mem
  have hnext := monthStart_add_daysInMonth date.year date.month_mem
  constructor
  · change monthStart date.monthNumber ≤ date.toDays
    unfold toDays
    omega
  · change date.toDays < monthStart (date.monthNumber + 1)
    unfold toDays monthNumber
    omega

/-- The month number tells the year and the month. -/
theorem monthNumber_inj {a b : Date} :
    a.monthNumber = b.monthNumber <-> a.year = b.year ∧ a.month = b.month := by
  have ha := a.month_mem
  have hb := b.month_mem
  unfold monthNumber
  omega

theorem ofDays_toDays (date : Date) : ofDays date.toDays = date := by
  have hmonth : (ofDays date.toDays).monthNumber = date.monthNumber := by
    rw [monthNumber_ofDays, monthOf_toDays]
  rcases monthNumber_inj.mp hmonth with ⟨hyear, hmonth⟩
  refine Date.ext hyear hmonth ?_
  change date.toDays - monthStart (monthOf date.toDays) + 1 = date.day
  rw [monthOf_toDays, toDays]
  omega

theorem ofDays_inj {c d : Int} : ofDays c = ofDays d <-> c = d := by
  constructor
  · intro h
    rw [<- toDays_ofDays c, h, toDays_ofDays]
  · exact congrArg ofDays

/-- `date.replace(day=1)` -/
def firstOfMonth (date : Date) : Date :=
  { date with
    day := 1
    day_mem := ⟨le_refl 1, one_le_daysInMonth date.year date.month_mem⟩ }

theorem toDays_firstOfMonth (date : Date) :
    date.firstOfMonth.toDays = monthStart date.monthNumber := by
  change monthStart date.monthNumber + (1 - 1) = _
  omega

end Date

/-!
# Times of day
-/

structure TimeOfDay where
  hour : Int
  minute : Int
  second : Int
  microsecond : Int
  hour_mem : 0 ≤ hour ∧ hour < 24
  minute_mem : 0 ≤ minute ∧ minute < 60
  second_mem : 0 ≤ second ∧ second < 60
  microsecond_mem : 0 ≤ microsecond ∧ microsecond < 1000000

def microsecondsOfDay : Int :=
  86400 * 1000000

namespace TimeOfDay

theorem ext {a b : TimeOfDay} (hhour : a.hour = b.hour)
    (hminute : a.minute = b.minute) (hsecond : a.second = b.second)
    (hmicrosecond : a.microsecond = b.microsecond) : a = b := by
  cases a
  cases b
  cases hhour
  cases hminute
  cases hsecond
  cases hmicrosecond
  rfl

def midnight : TimeOfDay where
  hour := 0
  minute := 0
  second := 0
  microsecond := 0
  hour_mem := by decide
  minute_mem := by decide
  second_mem := by decide
  microsecond_mem := by decide

def toMicroseconds (time : TimeOfDay) : Int :=
  ((time.hour * 60 + time.minute) * 60 + time.second) * 1000000 +
    time.microsecond

/-- The whole days of the number are left out. -/
def ofMicroseconds (n : Int) : TimeOfDay where
  hour := n / 3600000000 % 24
  minute := n / 60000000 % 60
  second := n / 1000000 % 60
  microsecond := n % 1000000
  hour_mem := by omega
  minute_mem := by omega
  second_mem := by omega
  microsecond_mem := by omega

theorem toMicroseconds_mem (time : TimeOfDay) :
    0 ≤ time.toMicroseconds ∧ time.toMicroseconds < microsecondsOfDay := by
  have hhour := time.hour_mem
  have hminute := time.minute_mem
  have hsecond := time.second_mem
  have hmicrosecond := time.microsecond_mem
  unfold toMicroseconds microsecondsOfDay
  omega

theorem toMicroseconds_ofMicroseconds (n : Int) :
    (ofMicroseconds n).toMicroseconds = n % microsecondsOfDay := by
  simp only [toMicroseconds, ofMicroseconds, microsecondsOfDay]
  omega

theorem ofMicroseconds_toMicroseconds (days : Int) (time : TimeOfDay) :
    ofMicroseconds (days * microsecondsOfDay + time.toMicroseconds) = time := by
  have hhour := time.hour_mem
  have hminute := time.minute_mem
  have hsecond := time.second_mem
  have hmicrosecond := time.microsecond_mem
  unfold toMicroseconds ofMicroseconds microsecondsOfDay
  apply ext
  · change (_ : Int) / _ % _ = _
    omega
  · change (_ : Int) / _ % _ = _
    omega
  · change (_ : Int) / _ % _ = _
    omega
  · change (_ : Int) % _ = _
    omega

theorem toMicroseconds_midnight : midnight.toMicroseconds = 0 := rfl

end TimeOfDay

/-!
# Date-times
-/

structure DateTime where
  date : Date
  time : TimeOfDay

namespace DateTime

def toMicroseconds (c : DateTime) : Int :=
  c.date.toDays * microsecondsOfDay + c.time.toMicroseconds

def ofMicroseconds (n : Int) : DateTime where
  date := Date.ofDays (n / microsecondsOfDay)
  time := TimeOfDay.ofMicroseconds n

theorem toMicroseconds_ofMicroseconds (n : Int) :
    (ofMicroseconds n).toMicroseconds = n := by
  rw [toMicroseconds, ofMicroseconds, Date.toDays_ofDays,
    TimeOfDay.toMicroseconds_ofMicroseconds]
  unfold microsecondsOfDay
  omega

theorem ofMicroseconds_toMicroseconds (c : DateTime) :
    ofMicroseconds c.toMicroseconds = c := by
  have htime := c.time.toMicroseconds_mem
  have hdays : c.toMicroseconds / microsecondsOfDay = c.date.toDays := by
    unfold toMicroseconds microsecondsOfDay at *
    omega
  rw [ofMicroseconds, hdays, Date.ofDays_toDays, toMicroseconds,
    TimeOfDay.ofMicroseconds_toMicroseconds]

end DateTime

example : (Date.ofDays 19782).month = 2 ∧ (Date.ofDays 19782).day = 29 := by
  decide

end Calendar
