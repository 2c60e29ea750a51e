import CoverAI.Repos.Users

/-!
# Repositories of the generation services
-/

namespace CoverAI

open Txn Program

def profileByUserId (userId : Int) : Session (Option (Int × ResumeProfile)) :=
  select fun db => db.resumeProfiles.first? fun p => p.userId = userId

def createResumeProfile (profile : ResumeProfile) :
    Session (Int × ResumeProfile) := do
  let id ← draw SeqName.resumeProfiles
  flushUnit [LockName.resumeProfileOwner profile.userId]
    [insertResumeProfile id profile]
  return (id, profile)

def updateProfileText (profileId : Int) (resumeText : String) :
    Session (Option ResumeProfile) := do
  match ← select fun db => db.resumeProfiles.get profileId with
  | none => return none
  | some row => do
      let edited := { row with resumeText := resumeText }
      flushUnit [LockName.resumeProfile profileId]
        [updateResumeProfile profileId row edited]
      return some edited

/-!
# Generation requests
-/

def createGenerationRequest (request : GenerationRequest) :
    Session (Int × GenerationRequest) := do
  let id ← draw SeqName.generationRequests
  flushUnit [] [insertGenerationRequest id request]
  return (id, request)

def requestByIdForUser (requestId userId : Int) :
    Session (Option GenerationRequest) :=
  select fun db =>
    (db.generationRequests.get requestId).filter fun r => r.userId = userId

def GenerationRequest.withStatus (request : GenerationRequest)
    (status : GenerationStatus) (errorMessage : Option String)
    (completedAt : Option Instant) : GenerationRequest :=
  { request with
    status := status
    errorMessage := errorMessage
    completedAt := completedAt }

def updateStatus (requestId : Int) (status : GenerationStatus)
    (errorMessage : Option String) (completedAt : Option Instant) :
    Session Unit := do
  match ← select fun db => db.generationRequests.get requestId with
  | none => return ()
  | some row =>
      flushUnit [LockName.generationRequest requestId]
        [updateGenerationRequest requestId row
          (row.withStatus status errorMessage completedAt)]

def countsSince (userId : Int) (statuses : List GenerationStatus)
    (since : Instant) (r : GenerationRequest) : Bool :=
  r.userId = userId && r.status ∈ statuses && since ≤ r.createdAt

def countByUserStatusesSince (userId : Int) (statuses : List GenerationStatus)
    (since : Instant) : Session Nat :=
  select fun db => db.generationRequests.count (countsSince userId statuses since)

def createCoverLetter (letter : CoverLetter) : Session (Int × CoverLetter) := do
  let id ← draw SeqName.coverLetters
  flushUnit [] [insertCoverLetter id letter]
  return (id, letter)

def coverLetterById (letterId : Int) : Session (Option CoverLetter) :=
  select fun db => db.coverLetters.get letterId

/-- Order by creation and then by id, both descending. -/
def newerLetter (a b : Int × CoverLetter) : Bool :=
  b.2.createdAt < a.2.createdAt ||
    (b.2.createdAt = a.2.createdAt && b.1 ≤ a.1)

def listedSince (userId : Int) (since : Option Instant) (l : CoverLetter) :
    Bool :=
  l.userId = userId &&
    match since with
    | none => true
    | some since => since ≤ l.createdAt

/-- The database refuses a negative limit. -/
def listByUserIdSince (userId : Int) (since : Option Instant) (limit : Int) :
    Session (List (Int × CoverLetter)) :=
  if limit < 0 then
    raise (Exc.other "DBAPIError" "LIMIT must not be negative")
  else
    select fun db =>
      ((db.coverLetters.rows.filter fun entry =>
        listedSince userId since entry.2).mergeSort newerLetter).take limit.toNat

/-!
# Subscriptions
-/

/-- Order by expiry and then by id, both descending. -/
def laterSubscription (best : Option (Int × Subscription))
    (entry : Int × Subscription) : Option (Int × Subscription) :=
  match best with
  | none => some entry
  | some old =>
      if old.2.expiresAt < entry.2.expiresAt ∨
          (old.2.expiresAt = entry.2.expiresAt ∧ old.1 < entry.1) then
        some entry
      else some old

def activeByUserId (userId : Int) : Session (Option (Int × Subscription)) :=
  select fun db =>
    (db.subscriptions.rows.filter fun entry =>
      entry.2.userId = userId && entry.2.status = .active).foldl
        laterSubscription none

def createSubscription (subscription : Subscription) :
    Session (Int × Subscription) := do
  let id ← draw SeqName.subscriptions
  flushUnit [] [insertSubscription id subscription]
  return (id, subscription)

def updateSubscriptionStatus (subscriptionId : Int)
    (status : SubscriptionStatus) : Session (Option Subscription) := do
  match ← select fun db => db.subscriptions.get subscriptionId with
  | none => return none
  | some row => do
      let edited := { row with status := status }
      flushUnit [LockName.subscription subscriptionId]
        [updateSubscription subscriptionId row edited]
      return some edited

/-- The query gives no order; here the rows come in insertion order. -/
def listActiveExpiredBefore (now : Instant) :
    Session (List (Int × Subscription)) :=
  select fun db => db.subscriptions.rows.filter fun entry =>
    entry.2.status = .active && entry.2.expiresAt < now

/-!
# Vacancies and employers
-/

def vacancyByHhId (hhId : Int) : Session (Option (Int × Vacancy)) :=
  select fun db => db.vacancies.first? fun v => v.hhId = hhId

def employerById (employerId : Int) : Session (Option Employer) :=
  select fun db => db.employers.get employerId

def employerByHhId (hhId : Int) : Session (Option (Int × Employer)) :=
  select fun db => db.employers.first? fun e => e.hhId = hhId

def createEmployer (employer : Employer) : Session (Int × Employer) := do
  let id ← draw SeqName.employers
  flushUnit [LockName.employerHhId employer.hhId] [insertEmployer id employer]
  return (id, employer)

def createVacancy (vacancy : Vacancy) : Session (Int × Vacancy) := do
  let id ← draw SeqName.vacancies
  flushUnit [LockName.vacancyHhId vacancy.hhId] [insertVacancy id vacancy]
  return (id, vacancy)

def updateEmployerCache (employerId : Int) (name : String)
    (url : Option String) (rawPayload : Option (List (String × PyObject)))
    (cachedAt : Option Instant) : Session (Option Employer) := do
  match ← employerById employerId with
  | none => return none
  | some row => do
      let edited :=
        { row with
          name := name, url := url, rawPayload := rawPayload
          cachedAt := cachedAt }
      flushUnit [LockName.employer employerId]
        [updateEmployer employerId row edited]
      return some edited

def updateVacancyCache (vacancyId : Int) (title : String)
    (url : Option String) (rawPayload : Option (List (String × PyObject)))
    (cachedAt : Option Instant) (employerId : Int) :
    Session (Option Vacancy) := do
  match ← select fun db => db.vacancies.get vacancyId with
  | none => return none
  | some row => do
      let edited :=
        { row with
          employerId := employerId, title := title, url := url
          rawPayload := rawPayload, cachedAt := cachedAt }
      flushUnit [LockName.vacancy vacancyId]
        [updateVacancy vacancyId row edited]
      return some edited

end CoverAI
