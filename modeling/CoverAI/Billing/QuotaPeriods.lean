import CoverAI.Services.Billing

/-!
# Quota periods

The days and the months of the clock in Moscow are the periods of two grids, so
the replaced fields give the floor of the instant in a grid.
-/

namespace CoverAI

open Calendar

/-!
# The clock in Moscow
-/

theorem instantOfMoscow_moscowTime (now : Instant) :
    instantOfMoscow (moscowTime now) = now := by
  rw [instantOfMoscow, moscowTime, DateTime.toMicroseconds_ofMicroseconds]
  exact Int.add_sub_cancel now moscowOffset

theorem moscowTime_instantOfMoscow (localTime : DateTime) :
    moscowTime (instantOfMoscow localTime) = localTime := by
  rw [moscowTime, instantOfMoscow, Int.sub_add_cancel,
    DateTime.ofMicroseconds_toMicroseconds]

theorem toDays_moscowTime (now : Instant) :
    (moscowTime now).date.toDays = moscowDays.index now :=
  Date.toDays_ofDays _

theorem monthNumber_moscowTime (now : Instant) :
    (moscowTime now).date.monthNumber = moscowMonths.index now :=
  Date.monthNumber_ofDays _

/-- Midnight of a date in Moscow. -/
def moscowMidnight (date : Date) : Instant :=
  instantOfMoscow { date := date, time := TimeOfDay.midnight }

theorem moscowMidnight_eq (date : Date) :
    moscowMidnight date = moscowDays.start date.toDays := by
  rw [moscowMidnight, instantOfMoscow, DateTime.toMicroseconds,
    TimeOfDay.toMicroseconds_midnight, Int.add_zero]
  rfl

theorem moscowMidnight_firstOfMonth (date : Date) :
    moscowMidnight date.firstOfMonth = moscowMonths.start date.monthNumber := by
  rw [moscowMidnight_eq, Date.toDays_firstOfMonth]
  rfl

/-- The fields replaced on the clock give the floor in the grid. -/
theorem quotaPeriodStartOnClock_eq (plan : Plan) (now : Instant) :
    quotaPeriodStartOnClock plan now = quotaPeriodStart plan now := by
  cases plan with
  | free =>
      change moscowMidnight (moscowTime now).date = moscowDays.floor now
      rw [moscowMidnight_eq, toDays_moscowTime]
      rfl
  | standard =>
      change moscowMidnight (moscowTime now).date.firstOfMonth =
        moscowMonths.floor now
      rw [moscowMidnight_firstOfMonth, monthNumber_moscowTime]
      rfl
  | pro => exact instantOfMoscow_moscowTime now

/-!
# Midnights
-/

def IsMoscowMidnight (t : Instant) : Prop :=
  (moscowTime t).time = TimeOfDay.midnight

def IsMoscowMonthStart (t : Instant) : Prop :=
  IsMoscowMidnight t ∧ (moscowTime t).date.day = 1

theorem isMoscowMidnight_moscowMidnight (date : Date) :
    IsMoscowMidnight (moscowMidnight date) := by
  rw [IsMoscowMidnight, moscowMidnight, moscowTime_instantOfMoscow]

theorem IsMoscowMidnight.eq {t : Instant} (h : IsMoscowMidnight t) :
    moscowMidnight (moscowTime t).date = t := by
  rw [moscowMidnight, <- show (moscowTime t).time = TimeOfDay.midnight from h]
  exact instantOfMoscow_moscowTime t

theorem isMoscowMidnight_iff (t : Instant) :
    IsMoscowMidnight t <-> exists k, t = moscowDays.start k := by
  constructor
  · intro h
    exists (moscowTime t).date.toDays
    rw [<- moscowMidnight_eq, h.eq]
  · intro h
    rcases h with ⟨k, rfl⟩
    rw [<- Date.toDays_ofDays k, <- moscowMidnight_eq]
    exact isMoscowMidnight_moscowMidnight (Date.ofDays k)

theorem isMoscowMonthStart_iff (t : Instant) :
    IsMoscowMonthStart t <-> exists k, t = moscowMonths.start k := by
  constructor
  · intro h
    exists (moscowTime t).date.monthNumber
    have hfirst : (moscowTime t).date.firstOfMonth = (moscowTime t).date :=
      Date.ext rfl rfl h.right.symm
    rw [<- moscowMidnight_firstOfMonth, hfirst, h.left.eq]
  · intro h
    rcases h with ⟨k, rfl⟩
    have hmonth : (Date.ofDays (monthStart k)).monthNumber = k := by
      rw [Date.monthNumber_ofDays]
      exact months.index_start k
    have hstart : moscowMonths.start k =
        moscowMidnight (Date.ofDays (monthStart k)).firstOfMonth := by
      rw [moscowMidnight_firstOfMonth, hmonth]
    rw [hstart]
    constructor
    · exact isMoscowMidnight_moscowMidnight _
    · rw [moscowMidnight, moscowTime_instantOfMoscow]
      rfl

/-!
# Periods
-/

def SameMoscowDay (a b : Instant) : Prop :=
  (moscowTime a).date = (moscowTime b).date

def SameMoscowMonth (a b : Instant) : Prop :=
  (moscowTime a).date.year = (moscowTime b).date.year ∧
    (moscowTime a).date.month = (moscowTime b).date.month

theorem sameMoscowDay_iff (a b : Instant) :
    SameMoscowDay a b <-> moscowDays.index a = moscowDays.index b :=
  Date.ofDays_inj

theorem sameMoscowMonth_iff (a b : Instant) :
    SameMoscowMonth a b <-> moscowMonths.index a = moscowMonths.index b := by
  rw [<- monthNumber_moscowTime, <- monthNumber_moscowTime]
  exact Date.monthNumber_inj.symm

/-- The starts of the periods that are given by a set of instants: the latest
of them up to now, the same for the instants of one period. -/
structure StartsPeriods (periodStart : Instant -> Instant)
    (IsStart : Instant -> Prop) (SamePeriod : Instant -> Instant -> Prop) :
    Prop where
  latest : forall now,
    IsGreatest {t | IsStart t ∧ t ≤ now} (periodStart now)
  monotone : forall a b, a ≤ b -> periodStart a ≤ periodStart b
  idempotent : forall now, periodStart (periodStart now) = periodStart now
  coincide : forall a b, periodStart a = periodStart b <-> SamePeriod a b

theorem startsPeriods_floor {G : Grid} {IsStart : Instant -> Prop}
    {SamePeriod : Instant -> Instant -> Prop}
    (hstart : forall t, IsStart t <-> exists k, t = G.start k)
    (hsame : forall a b, SamePeriod a b <-> G.index a = G.index b) :
    StartsPeriods G.floor IsStart SamePeriod where
  latest := by
    intro now
    simp only [hstart]
    exact G.isGreatest_floor now
  monotone := fun _ _ h => G.floor_mono h
  idempotent := G.floor_floor
  coincide := by
    intro a b
    rw [hsame]
    exact G.floor_eq_floor_iff

theorem quota_period_starts :
    StartsPeriods (quotaPeriodStartOnClock .free) IsMoscowMidnight
        SameMoscowDay ∧
      StartsPeriods (quotaPeriodStartOnClock .standard) IsMoscowMonthStart
        SameMoscowMonth := by
  have hfree : quotaPeriodStartOnClock .free = moscowDays.floor :=
    funext (quotaPeriodStartOnClock_eq .free)
  have hstandard : quotaPeriodStartOnClock .standard = moscowMonths.floor :=
    funext (quotaPeriodStartOnClock_eq .standard)
  rw [hfree, hstandard]
  constructor
  · exact startsPeriods_floor isMoscowMidnight_iff sameMoscowDay_iff
  · exact startsPeriods_floor isMoscowMonthStart_iff sameMoscowMonth_iff

/-- 22:30 UTC on the last day of the year is in January in Moscow. -/
example : (moscowTime 1704061800000000).date.month = 1 ∧
    quotaPeriodStartOnClock .standard 1704061800000000 =
      1704056400000000 := by
  decide

end CoverAI
