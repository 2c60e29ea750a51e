import CoverAI.Services.Billing
import CoverAI.Services.Vacancy

/-!
# Generation services

The queue service runs inside the API request and pushes a job; the cover
letter service runs inside the worker's session.
-/

namespace CoverAI

open Txn Program

def pendingRequest (userId profileId vacancyId : Int) (tone : Tone)
    (profile : ResumeProfile) (vacancy : Vacancy) (now : Instant) :
    GenerationRequest where
  userId := userId
  profileId := profileId
  vacancyId := vacancyId
  status := .pending
  tone := tone
  errorMessage := none
  snapshotProfileText := some profile.resumeText
  snapshotVacancyText := some vacancy.title
  snapshotTone := some tone
  completedAt := none
  createdAt := now

/-!
# Queue service
-/

def allowedTones (plan : Plan) : List Tone :=
  match plan with
  | .free => [.formal]
  | .standard => [.formal, .confident, .concise]
  | .pro => [.formal, .confident, .concise]

def getOrCreatePlaceholderVacancy (hhId : Int) (vacancyUrl : String) :
    Session (Int × Vacancy) := do
  match ← vacancyByHhId hhId with
  | some existing => return existing
  | none => do
      let (employerId, _) ← createEmployer {
        hhId := -hhId
        name := "Pending hh.ru employer"
        url := none
        rawPayload := none
        cachedAt := none }
      createVacancy {
        hhId := hhId
        employerId := employerId
        title := "Pending hh.ru vacancy"
        url := some vacancyUrl
        rawPayload := none
        cachedAt := none }

/-- The job `ArqGenerationJobQueue` puts into the queue. -/
def queuedJob (userId : Int) (vacancyUrl : String) (tone : Tone)
    (costCredits requestId : Int) : Job where
  userId := userId
  vacancyUrl := vacancyUrl
  tone := tone.value
  notifyTelegram := false
  chargeCredits := true
  costCredits := costCredits
  generationRequestId := some requestId

/-- The part of `enqueue_generation` up to the quota check: the profile
and the vacancy of the request. -/
def enqueueChecks (env : Env) (held : Option User) (userId : Int)
    (vacancyUrl : String) (tone : Tone) (now : Instant) :
    Session (Int × ResumeProfile × Int) := do
  match ← userById held userId with
  | none => raise Exc.userNotFound
  | some user =>
      match ← profileByUserId userId with
      | none => raise Exc.profileNotFound
      | some (profileId, profile) =>
          if user.credits < env.predictionCostCredits then
            raise Exc.insufficientCredits
          else if tone ∉ allowedTones user.plan then raise Exc.forbiddenTone
          else do
            let hhId ← ofExcept (env.parseHhVacancyId vacancyUrl)
            let _ ← ensureCanGenerate held userId now
            return (profileId, profile, hhId)

/-- The part of `enqueue_generation` after the quota check. -/
def createAndQueue (env : Env) (userId profileId hhId : Int)
    (profile : ResumeProfile) (vacancyUrl : String) (tone : Tone)
    (now : Instant) : Session (Int × GenerationRequest) := do
  let (vacancyId, vacancy) ← getOrCreatePlaceholderVacancy hhId vacancyUrl
  let (requestId, request) ← createGenerationRequest
    (pendingRequest userId profileId vacancyId tone profile vacancy now)
  send (queuedJob userId vacancyUrl tone env.predictionCostCredits requestId)
  return (requestId, request)

def enqueueGeneration (env : Env) (held : Option User) (userId : Int)
    (vacancyUrl : String) (tone : Tone) (now : Instant) :
    Session (Int × GenerationRequest) := do
  let (profileId, profile, hhId) ←
    enqueueChecks env held userId vacancyUrl tone now
  createAndQueue env userId profileId hhId profile vacancyUrl tone now

def getRequestForUser (requestId userId : Int) : Session GenerationRequest := do
  match ← requestByIdForUser requestId userId with
  | none => raise Exc.generationRequestNotFound
  | some request => return request

/-!
# Cover letter service
-/

structure GeneratedCoverLetter where
  user : User
  letterId : Int
  letter : CoverLetter

def existingRequest (requestId : Option Int) (userId : Int) :
    Session (Option (Int × GenerationRequest)) :=
  match requestId with
  | none => ret none
  | some requestId => do
      match ← requestByIdForUser requestId userId with
      | none => raise Exc.generationRequestNotFound
      | some request => return some (requestId, request)

def snapshotProfile (profile : ResumeProfile) (request : GenerationRequest) :
    ResumeProfile :=
  match request.snapshotProfileText with
  | none => profile
  | some text => { profile with resumeText := text }

/-- The prompt is built and the model is asked. -/
def completionFor (env : Env) (clients : Clients) (profile : ResumeProfile)
    (result : VacancyResult) (tone : Tone) :
    Except Exc (String × LLMCompletion) := do
  let prompt ← env.buildCoverLetterPrompt profile result.vacancy
    result.employer tone
  let completion ← clients.generateCoverLetter prompt
  return (prompt, completion)

def coverLetter (requestId : Int) (request : GenerationRequest)
    (result : VacancyResult) (tone : Tone) (prompt : String)
    (completion : LLMCompletion) (now : Instant) : CoverLetter where
  generationRequestId := requestId
  userId := request.userId
  profileId := request.profileId
  vacancyId := request.vacancyId
  employerId := result.employerId
  vacancyTitle := result.vacancy.title
  employerName := result.employer.name
  tone := tone
  text := strip completion.text
  promptContext := prompt
  model := completion.model
  generationMs := completion.generationMs
  createdAt := now

def generateAndSaveLetter (env : Env) (clients : Clients) (requestId : Int)
    (request : GenerationRequest) (profile : ResumeProfile)
    (result : VacancyResult) (tone : Tone) (now : Instant) :
    Session (Int × CoverLetter) := do
  let (prompt, completion) ←
    ofExcept (completionFor env clients profile result tone)
  let letter := coverLetter requestId request result tone prompt completion now
  if letter.text = "" then raise Exc.emptyLLMResponse
  else createCoverLetter letter

def errorText (e : Exc) : String :=
  if e.message = "" then e.className else e.message

def markFailed (requestId : Int) (e : Exc) (now : Instant) : Session Unit :=
  updateStatus requestId .failed (some (errorText e)) (some now)

def markSucceeded (requestId : Int) (now : Instant) : Session Unit :=
  updateStatus requestId .succeeded none (some now)

/-- `except (EmptyLLMResponseError, HHClientError, LLMClientError)`. -/
def isGenerationFailure : Exc -> Bool
  | .emptyLLMResponse | .hhClientError _ | .vacancyNotFound _
  | .llmClientError _ => true
  | _ => false

/-- The handler of the `try` block, with the request that is bound when
the exception is raised. -/
def onFailure {α : Type} (request : Option Int) (now : Instant) (e : Exc) :
    Session α :=
  if isGenerationFailure e then do
    match request with
    | none => raise e
    | some requestId => do
        markFailed requestId e now
        raise e
  else raise e

/-- The `try` block after the vacancy is there.  A request that is created
here is bound from then on. -/
def writeLetter (env : Env) (clients : Clients) (userId profileId : Int)
    (profile : ResumeProfile) (tone : Tone)
    (request : Option (Int × GenerationRequest)) (result : VacancyResult)
    (now : Instant) : Session (Int × CoverLetter) := do
  let (requestId, request) ←
    match request with
    | some bound => ret bound
    | none =>
        (createGenerationRequest
          (pendingRequest userId profileId result.vacancyId tone profile
            result.vacancy now)).tryCatch (onFailure none now)
  (generateAndSaveLetter env clients requestId request
    (snapshotProfile profile request) result
    (request.snapshotTone.getD tone) now).tryCatch
      (onFailure (some requestId) now)

/-- The part of `generate_for_vacancy_url` after the quota check. -/
def loadAndWrite (env : Env) (clients : Clients) (userId : Int)
    (vacancyUrl : String) (user : User) (profileId : Int)
    (profile : ResumeProfile) (tone : Tone)
    (request : Option (Int × GenerationRequest)) (now : Instant) :
    Session GeneratedCoverLetter := do
  let result ← (getOrLoadVacancy env clients vacancyUrl now).tryCatch
    (onFailure (request.map Prod.fst) now)
  let (letterId, letter) ←
    writeLetter env clients userId profileId profile tone request result now
  markSucceeded letter.generationRequestId now
  return { user := user, letterId := letterId, letter := letter }

def generateForVacancyUrl (env : Env) (clients : Clients) (userId : Int)
    (vacancyUrl : String) (tone : Tone) (generationRequestId : Option Int)
    (enforceQuota : Bool) (now : Instant) : Session GeneratedCoverLetter := do
  match ← userById none userId with
  | none => raise Exc.userNotFound
  | some user =>
      if user.credits < 1 then raise Exc.insufficientCredits
      else
        match ← profileByUserId userId with
        | none => raise Exc.profileNotFound
        | some (profileId, profile) => do
            let request ← existingRequest generationRequestId userId
            if enforceQuota then (ensureCanGenerate none userId now).void
            loadAndWrite env clients userId vacancyUrl user profileId profile
              tone request now

end CoverAI
