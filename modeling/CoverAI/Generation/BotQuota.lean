import CoverAI.Generation.Quota

/-!
# The quota check of the bot

The bot checks the quota with a query of its own.  It knows the limit of the
FREE plan alone, and its day starts at midnight in UTC, three hours after the
day of the quota service.
-/

namespace CoverAI

open Txn Program

/-!
# When the checks refuse
-/

theorem run_getPlanUsage {userId : Int} {user : User} (now : Instant)
    {s : Store coverAI} (huser : s.db.users.get userId = some user) :
    exists usage, (getPlanUsage none userId now).run s = (.ok usage, s) ∧
      (usage.isExhausted = true <->
        exists limit, (planLimits user.plan).limit = some limit ∧
          limit ≤ usedSince userId (quotaPeriodStart user.plan now)
            s.db.generationRequests) := by
  have hfound : (userById none userId).run s = (.ok (some user), s) := by
    rw [← huser]
    rfl
  simp only [getPlanUsage, bind_eq, run_bind, hfound, activeByUserId,
    countByUserStatusesSince, select, ask, run]
  cases hlimit : (planLimits user.plan).limit with
  | none =>
      refine ⟨_, rfl, ?_⟩
      simp [PlanUsage.isExhausted]
  | some limit =>
      refine ⟨_, rfl, ?_⟩
      simp [PlanUsage.isExhausted, usedSince]

theorem ensureCanGenerate_refuses_iff {userId : Int} {user : User}
    {now : Instant} {s : Store coverAI}
    (huser : s.db.users.get userId = some user) :
    ((ensureCanGenerate none userId now).run s).1 =
        .error Exc.quotaExceeded <->
      exists limit, (planLimits user.plan).limit = some limit ∧
        limit ≤ usedSince userId (quotaPeriodStart user.plan now)
          s.db.generationRequests := by
  rcases run_getPlanUsage now huser with ⟨usage, hrun, hexhausted⟩
  rw [← hexhausted, ensureCanGenerate, bind_eq, run_bind, hrun]
  simp only
  split
  · rename_i hfull
    exact iff_of_true rfl hfull
  · rename_i hfree
    apply iff_of_false
    · intro h
      cases h
    · exact hfree

theorem botEnqueueGeneration_refuses_iff {env : Env} {userId : Int}
    {user : User} {s : Store coverAI} (vacancyUrl : String) (tone : Tone)
    (now : Instant) (huser : s.db.users.get userId = some user)
    (hcredits : env.predictionCostCredits ≤ user.credits) :
    ((botEnqueueGeneration env userId vacancyUrl tone now).run s).1 =
        .error Exc.quotaExceeded <->
      user.plan = .free ∧
        1 ≤ usedSince userId (utcDayStart now) s.db.generationRequests := by
  have hcount : (countByUserStatusesSince userId [.pending, .succeeded]
      (utcDayStart now)).run s =
        (.ok (usedSince userId (utcDayStart now) s.db.generationRequests), s) :=
    rfl
  unfold botEnqueueGeneration
  simp only [select, ask, bind_eq, read_bind, ret_bind, run]
  rw [huser]
  simp only
  rw [if_neg (not_lt_of_ge hcredits), run_bind, hcount]
  simp only
  split
  · rename_i hfull
    exact iff_of_true rfl hfull
  · rename_i hfree
    apply iff_of_false
    · intro h
      cases h
    · exact hfree

/-!
# The two midnights
-/

/-- The Moscow day begins at 21:00 UTC. -/
def moscowMidnightUtc : Int :=
  microsecondsPerDay - moscowOffset

def earlierMidnight (now : Instant) : Instant :=
  if now % microsecondsPerDay < moscowMidnightUtc then
    utcDayStart now - moscowOffset
  else utcDayStart now

def laterMidnight (now : Instant) : Instant :=
  if now % microsecondsPerDay < moscowMidnightUtc then utcDayStart now
  else utcDayStart now + moscowMidnightUtc

theorem earlierMidnight_le (now : Instant) :
    earlierMidnight now ≤ laterMidnight now := by
  unfold earlierMidnight laterMidnight
  split
  · exact Int.sub_le_self _ (by decide)
  · exact Int.le_add_of_nonneg_right (by decide)

theorem moscowDays_floor (now : Instant) :
    moscowDays.floor now =
      if now % microsecondsPerDay < moscowMidnightUtc then
        utcDayStart now - moscowOffset
      else utcDayStart now + moscowMidnightUtc :=
  Calendar.Grid.floor_units_scale microsecondsPerDay moscowOffset (by decide)
    (by decide) (by decide) now

/-- Whatever the hour, the bot counts from one midnight and the service from
the other. -/
theorem midnights_cases (now : Instant) :
    (utcDayStart now = laterMidnight now ∧
        moscowDays.floor now = earlierMidnight now) ∨
      (utcDayStart now = earlierMidnight now ∧
        moscowDays.floor now = laterMidnight now) := by
  rw [moscowDays_floor]
  unfold earlierMidnight laterMidnight
  split
  · exact Or.inl ⟨rfl, rfl⟩
  · exact Or.inr ⟨rfl, rfl⟩

/-- A request of the user that counts towards the quota. -/
structure CountedRequest (userId : Int)
    (requests : Table GenerationRequest noChecks) (r : GenerationRequest) :
    Prop where
  stored : exists id, requests.get id = some r
  owner : r.userId = userId
  status : r.status ≠ .failed

theorem one_le_usedSince_iff {userId : Int} {since : Instant}
    {requests : Table GenerationRequest noChecks} :
    1 ≤ usedSince userId since requests <->
      exists r, CountedRequest userId requests r ∧ since ≤ r.createdAt := by
  change 0 < requests.count _ <-> _
  rw [Table.count_pos_iff]
  constructor
  · intro h
    rcases h with ⟨id, r, hget, hcounts⟩
    rcases countsSince_iff.mp hcounts with ⟨howner, hstatus, hsince⟩
    exact ⟨r, ⟨⟨id, hget⟩, howner, hstatus⟩, hsince⟩
  · intro h
    rcases h with ⟨r, ⟨⟨id, hget⟩, howner, hstatus⟩, hsince⟩
    exact ⟨id, r, hget, countsSince_iff.mpr ⟨howner, hstatus, hsince⟩⟩

/-- Two windows agree on the first request unless there is one in the first
window only. -/
theorem usedSince_agree_iff {userId : Int} {first second : Instant}
    (hle : first ≤ second) {requests : Table GenerationRequest noChecks} :
    (1 ≤ usedSince userId second requests <->
        1 ≤ usedSince userId first requests) <->
      ((exists r, CountedRequest userId requests r ∧ first ≤ r.createdAt ∧
          r.createdAt < second) ->
        exists r, CountedRequest userId requests r ∧ second ≤ r.createdAt) := by
  simp only [one_le_usedSince_iff]
  constructor
  · intro hagree hbetween
    rcases hbetween with ⟨r, hcounted, hfirst, _⟩
    exact hagree.mpr ⟨r, hcounted, hfirst⟩
  · intro hfollowed
    constructor
    · intro h
      rcases h with ⟨r, hcounted, hsecond⟩
      exact ⟨r, hcounted, Int.le_trans hle hsecond⟩
    · intro h
      rcases h with ⟨r, hcounted, hfirst⟩
      by_cases hsecond : second ≤ r.createdAt
      · exact ⟨r, hcounted, hsecond⟩
      · exact hfollowed ⟨r, hcounted, hfirst, Int.lt_of_not_ge hsecond⟩

/-- PRO is never refused; STANDARD has requests left in the Moscow month; FREE
has no request between the two midnights, or one after both. -/
def SameVerdict (userId : Int) (now : Instant)
    (requests : Table GenerationRequest noChecks) : Plan -> Prop
  | .free =>
      (exists r, CountedRequest userId requests r ∧
          earlierMidnight now ≤ r.createdAt ∧
          r.createdAt < laterMidnight now) ->
        exists r, CountedRequest userId requests r ∧
          laterMidnight now ≤ r.createdAt
  | .standard => usedSince userId (moscowMonths.floor now) requests < 300
  | .pro => True

/-- The bot and the quota service refuse the same requests exactly under these
conditions. -/
theorem bot_quota_agrees_iff {env : Env} {userId : Int} {user : User}
    {s : Store coverAI} (vacancyUrl : String) (tone : Tone) (now : Instant)
    (huser : s.db.users.get userId = some user)
    (hcredits : env.predictionCostCredits ≤ user.credits) :
    (((botEnqueueGeneration env userId vacancyUrl tone now).run s).1 =
        .error Exc.quotaExceeded <->
      ((ensureCanGenerate none userId now).run s).1 =
        .error Exc.quotaExceeded) <->
      SameVerdict userId now s.db.generationRequests user.plan := by
  rw [botEnqueueGeneration_refuses_iff vacancyUrl tone now huser hcredits,
    ensureCanGenerate_refuses_iff huser]
  cases user.plan with
  | free =>
      have hservice : (exists limit, (planLimits .free).limit = some limit ∧
          limit ≤ usedSince userId (quotaPeriodStart .free now)
            s.db.generationRequests) <->
          1 ≤ usedSince userId (moscowDays.floor now)
            s.db.generationRequests := by
        simp [planLimits, quotaPeriodStart]
      rw [hservice, SameVerdict,
        ← usedSince_agree_iff (earlierMidnight_le now)]
      rcases midnights_cases now with ⟨hutc, hmoscow⟩ | ⟨hutc, hmoscow⟩
      · rw [hutc, hmoscow]
        simp only [true_and]
      · rw [hutc, hmoscow]
        simp only [true_and]
        exact iff_comm
  | standard =>
      have hservice : (exists limit,
          (planLimits .standard).limit = some limit ∧
            limit ≤ usedSince userId (quotaPeriodStart .standard now)
              s.db.generationRequests) <->
          300 ≤ usedSince userId (moscowMonths.floor now)
            s.db.generationRequests := by
        simp [planLimits, quotaPeriodStart]
      rw [hservice, SameVerdict]
      simp only [reduceCtorEq, false_and, false_iff, not_le]
  | pro => simp [planLimits, SameVerdict]

/-!
# Requests at one and at four in the morning in Moscow
-/

def hours (n : Int) : Int :=
  n * 3600 * 1000000

def nightRequest : GenerationRequest where
  userId := 1
  profileId := 1
  vacancyId := 1
  status := .succeeded
  tone := .formal
  errorMessage := none
  snapshotProfileText := none
  snapshotVacancyText := none
  snapshotTone := none
  completedAt := none
  createdAt := hours 2398

def nightStore : Store coverAI :=
  bonusStore.setDb { bonusStore.db with
    generationRequests :=
      bonusStore.db.generationRequests.insert 1 nightRequest }

def morningRequest : GenerationRequest :=
  { nightRequest with createdAt := hours 2401 }

def morningStore : Store coverAI :=
  nightStore.setDb { nightStore.db with
    generationRequests :=
      nightStore.db.generationRequests.insert 2 morningRequest }

/-- One request was created between the two midnights and one after both: the
bot refuses as the service does. -/
theorem bot_quota_agrees_beside_midnight :
    earlierMidnight (hours 2408) ≤ nightRequest.createdAt ∧
      nightRequest.createdAt < laterMidnight (hours 2408) ∧
      ((ensureCanGenerate none 1 (hours 2408)).run morningStore).1 =
        .error Exc.quotaExceeded ∧
      ((botEnqueueGeneration sampleEnv 1 "url" .formal (hours 2408)).run
        morningStore).1 = .error Exc.quotaExceeded := by
  have huser : morningStore.db.users.get 1 =
      some { sampleUser with credits := 5 } := rfl
  have hservice : ((ensureCanGenerate none 1 (hours 2408)).run
      morningStore).1 = .error Exc.quotaExceeded := rfl
  have hverdict : SameVerdict 1 (hours 2408) morningStore.db.generationRequests
      .free := by
    intro _
    refine ⟨morningRequest, ⟨⟨2, rfl⟩, rfl, ?_⟩, ?_⟩
    · decide
    · decide
  have hcredits : sampleEnv.predictionCostCredits ≤
      { sampleUser with credits := 5 }.credits := by
    decide
  have hagree := (bot_quota_agrees_iff "url" .formal (hours 2408) huser
    hcredits).mpr hverdict
  refine ⟨by decide, by decide, hservice, hagree.mpr hservice⟩

/-- The request was created two hours before midnight in UTC.  Ten hours after
it the service has used the FREE request of the Moscow day, and the bot queues
another one. -/
theorem bot_ignores_night_request :
    nightRequest.createdAt ≤ hours 2408 ∧
      (nightStore.db.users.get 1).map User.credits =
        some sampleEnv.predictionCostCredits ∧
      ((ensureCanGenerate none 1 (hours 2408)).run nightStore).1 =
        .error Exc.quotaExceeded ∧
      ((botEnqueueGeneration sampleEnv 1 "url" .formal (hours 2408)).run
        nightStore).1 = .ok () ∧
      ¬ (((botEnqueueGeneration sampleEnv 1 "url" .formal (hours 2408)).run
          nightStore).1 = .error Exc.quotaExceeded <->
        ((ensureCanGenerate none 1 (hours 2408)).run nightStore).1 =
          .error Exc.quotaExceeded) := by
  have hservice : ((ensureCanGenerate none 1 (hours 2408)).run nightStore).1 =
      .error Exc.quotaExceeded := rfl
  have hbot : ((botEnqueueGeneration sampleEnv 1 "url" .formal
      (hours 2408)).run nightStore).1 = .ok () := rfl
  refine ⟨by decide, rfl, hservice, hbot, ?_⟩
  rw [hbot]
  intro h
  cases h.mpr hservice

end CoverAI
