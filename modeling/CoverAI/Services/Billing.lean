import CoverAI.Calendar.DateTime
import CoverAI.Repos.Generation

/-!
# Plan quota

Europe/Moscow is UTC+3 all year round since 2014, and that is the offset taken
here.
-/

namespace CoverAI

open Txn Program

structure PlanLimits where
  plan : Plan
  limit : Option Nat
  period : Option String

def planLimits (plan : Plan) : PlanLimits :=
  match plan with
  | .free => { plan := plan, limit := some 1, period := some "day" }
  | .standard => { plan := plan, limit := some 300, period := some "month" }
  | .pro => { plan := plan, limit := none, period := none }

structure PlanUsage where
  plan : Plan
  used : Nat
  limit : Option Nat
  period : Option String
  periodStart : Option Instant
  subscriptionExpiresAt : Option Instant

def quotaStatuses : List GenerationStatus :=
  [.pending, .succeeded]

/-!
# Quota periods
-/

def microsecondsPerDay : Int :=
  86400 * 1000000

def moscowOffset : Int :=
  3 * 3600 * 1000000

def moscowDays : Calendar.Grid :=
  Calendar.Grid.units.scale microsecondsPerDay moscowOffset (by decide)

def moscowMonths : Calendar.Grid :=
  Calendar.months.scale microsecondsPerDay moscowOffset (by decide)

def quotaPeriodStart (plan : Plan) (now : Instant) : Instant :=
  match plan with
  | .free => moscowDays.floor now
  | .standard => moscowMonths.floor now
  | .pro => now

/-!
# Quota periods on the clock

The start of a period is taken on the clock in Moscow: the fields of the local
time are replaced, and the result is converted back.
-/

def moscowTime (now : Instant) : Calendar.DateTime :=
  Calendar.DateTime.ofMicroseconds (now + moscowOffset)

def instantOfMoscow (localTime : Calendar.DateTime) : Instant :=
  localTime.toMicroseconds - moscowOffset

def quotaPeriodStartOnClock (plan : Plan) (now : Instant) : Instant :=
  let localNow := moscowTime now
  match plan with
  | .free =>
      instantOfMoscow { localNow with time := Calendar.TimeOfDay.midnight }
  | .standard =>
      instantOfMoscow {
        date := localNow.date.firstOfMonth
        time := Calendar.TimeOfDay.midnight }
  | .pro => instantOfMoscow localNow

/-!
# Usage
-/

def getPlanUsage (held : Option User) (userId : Int) (now : Instant) :
    Session PlanUsage := do
  match ← userById held userId with
  | none => raise Exc.userNotFound
  | some user => do
      let limits := planLimits user.plan
      let subscription ← activeByUserId userId
      let expiresAt := subscription.map fun entry => entry.2.expiresAt
      match limits.limit with
      | none =>
          return {
            plan := user.plan
            used := 0
            limit := none
            period := none
            periodStart := none
            subscriptionExpiresAt := expiresAt }
      | some limit => do
          let periodStart := quotaPeriodStart user.plan now
          let used ← countByUserStatusesSince userId quotaStatuses periodStart
          return {
            plan := user.plan
            used := used
            limit := some limit
            period := limits.period
            periodStart := some periodStart
            subscriptionExpiresAt := expiresAt }

def PlanUsage.isExhausted (usage : PlanUsage) : Bool :=
  match usage.limit with
  | none => false
  | some limit => limit ≤ usage.used

def PlanUsage.remaining (usage : PlanUsage) : Option Nat :=
  usage.limit.map fun limit => limit - usage.used

def ensureCanGenerate (held : Option User) (userId : Int) (now : Instant) :
    Session PlanUsage := do
  let usage ← getPlanUsage held userId now
  if usage.isExhausted then raise Exc.quotaExceeded
  else return usage

/-!
# Period starts
-/

theorem quotaPeriodStart_le (plan : Plan) (now : Instant) :
    quotaPeriodStart plan now ≤ now := by
  cases plan with
  | free => exact moscowDays.floor_le now
  | standard => exact moscowMonths.floor_le now
  | pro => exact Int.le_refl now

theorem quotaPeriodStart_mono (plan : Plan) {now later : Instant}
    (h : now ≤ later) :
    quotaPeriodStart plan now ≤ quotaPeriodStart plan later := by
  cases plan with
  | free => exact moscowDays.floor_mono h
  | standard => exact moscowMonths.floor_mono h
  | pro => exact h

end CoverAI
