import CoverAI.Txn.Footprint
import CoverAI.Workers.Tasks

/-!
# Footprints of the generation services

What the vacancy service, the queue service and the worker's session write, draw
and raise, whatever the statements in between see.
-/

namespace CoverAI

open Txn Program

/-!
# Constraint violations
-/

theorem insertInto_violation_eq {row : Type} {check : row -> Bool}
    {table : Db -> Table row check} {put : Table row check -> Db -> Db}
    {id : Int} {r : row} {db : Db} {e : Exc}
    (h : (insertInto table put id r).violation db = some e) :
    e = .integrityError := by
  simp only [insertInto] at h
  split at h <;> cases h
  rfl

theorem updateIn_violation_eq {row : Type} {check : row -> Bool}
    {table : Db -> Table row check} {put : Table row check -> Db -> Db}
    {id : Int} {f : row -> row} {db : Db} {e : Exc}
    (h : (updateIn table put id f).violation db = some e) :
    e = .integrityError := by
  simp only [updateIn] at h
  split at h <;> cases h
  rfl

theorem insertEmployer_violation_eq {id : Int} {r : Employer} {db : Db}
    {e : Exc} (h : (insertEmployer id r).violation db = some e) :
    e = .integrityError := by
  simp only [insertEmployer] at h
  split at h
  · exact insertInto_violation_eq h
  · cases h
    rfl

theorem insertVacancy_violation_eq {id : Int} {r : Vacancy} {db : Db}
    {e : Exc} (h : (insertVacancy id r).violation db = some e) :
    e = .integrityError := by
  simp only [insertVacancy] at h
  split at h
  · exact insertInto_violation_eq h
  · cases h
    rfl

/-!
# Reads
-/

/-- Statements that only look at the database. -/
def readOnly : Footprint coverAI where
  sees := fun _ => True
  writes := fun _ => False
  draws := fun _ => False
  emits := fun _ => False
  raises := fun _ => True

section Reads

variable {F : Footprint coverAI}

theorem preserves_of_readOnly {α : Type} {Q : α -> Prop} {p : Session α}
    (h : p.Within readOnly Q) : p.Preserves (fun s : Store coverAI => s) :=
  preserves_of_within h (fun _ => trivial) (fun _ h => h.elim)
    (fun _ h => h.elim) (fun _ h => h.elim)

theorem userById_within (held : Option User) (userId : Int) :
    (userById held userId).Within F fun found =>
      found = none -> held = none := by
  cases held with
  | none => exact fun _ _ _ => rfl
  | some user => exact fun h => h

theorem ensureCanGenerate_within (held : Option User) (userId : Int)
    (now : Instant) (huser : held = none -> F.raises .userNotFound)
    (hquota : F.raises .quotaExceeded) :
    (ensureCanGenerate held userId now).Within F fun _ => True := by
  refine within_bind (R := fun _ => True) ?_ ?_
  · apply within_bind (userById_within held userId)
    intro found hfound
    cases found with
    | none => exact huser (hfound rfl)
    | some user =>
        apply within_ask_bind
        intro v _
        split
        · trivial
        · exact fun _ _ => trivial
  · intro usage _
    split
    · exact hquota
    · trivial

end Reads

/-!
# Vacancies
-/

inductive VacancyWrite : Write coverAI -> Prop where
  | insertEmployer (id : Int) (r : Employer) :
      VacancyWrite (CoverAI.insertEmployer id r)
  | updateEmployer (id : Int) (loaded edited : Employer) :
      VacancyWrite (CoverAI.updateEmployer id loaded edited)
  | insertVacancy (id : Int) (r : Vacancy) :
      VacancyWrite (CoverAI.insertVacancy id r)
  | updateVacancy (id : Int) (loaded edited : Vacancy) :
      VacancyWrite (CoverAI.updateVacancy id loaded edited)

/-- The exceptions of the functions that are given from outside. -/
inductive ForeignError (env : Env) (clients : Clients) : Exc -> Prop where
  | parse {url : String} {e : Exc} (h : env.parseHhVacancyId url = .error e) :
      ForeignError env clients e
  | vacancy {hhId : Int} {e : Exc} (h : clients.getVacancy hhId = .error e) :
      ForeignError env clients e
  | employer {hhId : Int} {e : Exc} (h : clients.getEmployer hhId = .error e) :
      ForeignError env clients e
  | prompt {profile : ResumeProfile} {vacancy : Vacancy} {employer : Employer}
      {tone : Tone} {e : Exc}
      (h : env.buildCoverLetterPrompt profile vacancy employer tone = .error e) :
      ForeignError env clients e
  | letter {prompt : String} {e : Exc}
      (h : clients.generateCoverLetter prompt = .error e) :
      ForeignError env clients e

structure PermitsVacancies (F : Footprint coverAI) : Prop where
  vacancyWrites : forall w, VacancyWrite w -> F.writes w
  drawsEmployers : F.draws SeqName.employers
  drawsVacancies : F.draws SeqName.vacancies
  raisesIntegrity : F.raises .integrityError

section Vacancies

variable {F : Footprint coverAI}

theorem within_ofExcept {α : Type} {Q : α -> Prop} {res : Except Exc α}
    (herror : forall e, res = .error e -> F.raises e)
    (hok : forall a, res = .ok a -> Q a) : (ofExcept res).Within F Q := by
  cases res with
  | ok a => exact hok a rfl
  | error e => exact herror e rfl

theorem createEmployer_within (hF : PermitsVacancies F) (employer : Employer) :
    (createEmployer employer).Within F fun _ => True := by
  apply within_draw_bind hF.drawsEmployers
  intro id
  apply within_flushOne_bind (hF.vacancyWrites _ (.insertEmployer id employer))
  · intro db e he
    rw [insertEmployer_violation_eq he]
    exact hF.raisesIntegrity
  · trivial

theorem createVacancy_within (hF : PermitsVacancies F) (vacancy : Vacancy) :
    (createVacancy vacancy).Within F fun _ => True := by
  apply within_draw_bind hF.drawsVacancies
  intro id
  apply within_flushOne_bind (hF.vacancyWrites _ (.insertVacancy id vacancy))
  · intro db e he
    rw [insertVacancy_violation_eq he]
    exact hF.raisesIntegrity
  · trivial

theorem getOrCreatePlaceholderVacancy_within (hF : PermitsVacancies F)
    (hhId : Int) (vacancyUrl : String) :
    (getOrCreatePlaceholderVacancy hhId vacancyUrl).Within F
      fun _ => True := by
  apply within_ask_bind
  intro v _
  split
  · trivial
  · exact within_bind (createEmployer_within hF _)
      fun _ _ => createVacancy_within hF _

theorem updateEmployerCache_within (hF : PermitsVacancies F)
    (employerId : Int) (name : String) (url : Option String)
    (rawPayload : Option (List (String × PyObject)))
    (cachedAt : Option Instant) :
    (updateEmployerCache employerId name url rawPayload cachedAt).Within F
      fun _ => True := by
  apply within_ask_bind
  intro v _
  cases v.employers.get employerId with
  | none => trivial
  | some row =>
      apply within_flushOne_bind (hF.vacancyWrites _ (.updateEmployer _ _ _))
      · intro db e he
        rw [updateIn_violation_eq he]
        exact hF.raisesIntegrity
      · trivial

theorem updateVacancyCache_within (hF : PermitsVacancies F) (vacancyId : Int)
    (title : String) (url : Option String)
    (rawPayload : Option (List (String × PyObject)))
    (cachedAt : Option Instant) (employerId : Int) :
    (updateVacancyCache vacancyId title url rawPayload cachedAt
      employerId).Within F fun _ => True := by
  apply within_ask_bind
  intro v _
  cases v.vacancies.get vacancyId with
  | none => trivial
  | some row =>
      apply within_flushOne_bind (hF.vacancyWrites _ (.updateVacancy _ _ _))
      · intro db e he
        rw [updateIn_violation_eq he]
        exact hF.raisesIntegrity
      · trivial

theorem upsertEmployer_within (hF : PermitsVacancies F)
    (payload : HHEmployerPayload) (cachedAt : Instant) :
    (upsertEmployer payload cachedAt).Within F fun _ => True := by
  apply within_ask_bind
  intro v _
  split
  · exact createEmployer_within hF _
  · exact within_bind (updateEmployerCache_within hF _ _ _ _ _)
      fun _ _ => trivial

theorem upsertVacancy_within (hF : PermitsVacancies F)
    (payload : HHVacancyPayload) (employerId : Int) (cachedAt : Instant) :
    (upsertVacancy payload employerId cachedAt).Within F fun _ => True := by
  apply within_ask_bind
  intro v _
  split
  · exact createVacancy_within hF _
  · exact within_bind (updateVacancyCache_within hF _ _ _ _ _ _)
      fun _ _ => trivial

theorem cachedResult_within (hhId : Int) (now : Instant) :
    (cachedResult hhId now).Within F fun _ => True := by
  apply within_ask_bind
  intro v _
  split
  · trivial
  · split
    · apply within_ask_bind
      intro u _
      split
      · trivial
      · split <;> trivial
    · trivial

theorem getOrLoadVacancy_within (hF : PermitsVacancies F) {env : Env}
    {clients : Clients}
    (hforeign : forall e, ForeignError env clients e -> F.raises e)
    (hclosed : F.raises .vacancyClosed) (messageText : String)
    (now : Instant) :
    (getOrLoadVacancy env clients messageText now).Within F fun _ => True := by
  have hload (hhId : Int) :
      (loadVacancy clients hhId now).Within F fun _ => True := by
    apply within_bind (within_ofExcept
      (fun e he => hforeign e (.vacancy he)) fun _ _ => trivial)
    intro vacancyPayload _
    split
    · exact hclosed
    · apply within_bind (within_ofExcept
        (fun e he => hforeign e (.employer he)) fun _ _ => trivial)
      intro employerPayload _
      apply within_bind (upsertEmployer_within hF _ _)
      intro employer _
      exact within_bind (upsertVacancy_within hF _ _ _) fun _ _ => trivial
  apply within_bind (within_ofExcept (fun e he => hforeign e (.parse he))
    fun _ _ => trivial)
  intro hhId _
  apply within_bind (cachedResult_within hhId now)
  intro cached _
  cases cached with
  | none => exact hload hhId
  | some result => trivial

/-- The vacancy service alone. -/
def vacancyFootprint : Footprint coverAI where
  sees := fun _ => True
  writes := VacancyWrite
  draws := fun t => t = SeqName.employers ∨ t = SeqName.vacancies
  emits := fun _ => False
  raises := fun _ => True

theorem vacancyFootprint_permits : PermitsVacancies vacancyFootprint where
  vacancyWrites := fun _ h => h
  drawsEmployers := Or.inl rfl
  drawsVacancies := Or.inr rfl
  raisesIntegrity := trivial

end Vacancies

/-!
# Queueing
-/

section Queueing

variable {F : Footprint coverAI}

/-- The checks for a loaded user end as the quota check does, or at one of the
checks before it. -/
theorem enqueueChecks_within {Q : PlanUsage -> Prop} {env : Env} {user : User}
    {userId : Int} {vacancyUrl : String} {tone : Tone} {now : Instant}
    (hprofile : forall v, F.sees v ->
      v.resumeProfiles.first? (fun p => p.userId = userId) = none ->
      F.raises .profileNotFound)
    (hcredits : user.credits < env.predictionCostCredits ->
      F.raises .insufficientCredits)
    (htone : tone ∉ allowedTones user.plan -> F.raises .forbiddenTone)
    (hparse : forall e, env.parseHhVacancyId vacancyUrl = .error e -> F.raises e)
    (hquota : (ensureCanGenerate (some user) userId now).Within F Q) :
    (enqueueChecks env (some user) userId vacancyUrl tone now).Within F
      fun _ => exists usage, Q usage := by
  apply within_ask_bind
  intro v hv
  split
  · rename_i hnone
    exact hprofile v hv hnone
  · split
    · rename_i hlow
      exact hcredits hlow
    · split
      · rename_i hforbidden
        exact htone hforbidden
      · apply within_bind (within_ofExcept hparse fun _ _ => trivial)
        intro hhId (_ : True)
        exact within_bind hquota fun usage husage => ⟨usage, husage⟩

structure PermitsQueueing (F : Footprint coverAI) (userId : Int) : Prop
    extends PermitsVacancies F where
  requests : forall id request, request.userId = userId ->
    F.writes (insertGenerationRequest id request)
  drawsRequests : F.draws SeqName.generationRequests
  sends : forall job, F.emits job

theorem createAndQueue_within {userId : Int} (hF : PermitsQueueing F userId)
    (env : Env) (profileId hhId : Int) (profile : ResumeProfile)
    (vacancyUrl : String) (tone : Tone) (now : Instant) :
    (createAndQueue env userId profileId hhId profile vacancyUrl tone
      now).Within F fun _ => True := by
  apply within_bind
    (getOrCreatePlaceholderVacancy_within hF.toPermitsVacancies _ _)
  intro vacancy _
  refine within_bind (R := fun _ => True) ?_ ?_
  · apply within_draw_bind hF.drawsRequests
    intro id
    apply within_flushOne_bind (hF.requests _ _ rfl)
    · intro db e he
      rw [insertInto_violation_eq he]
      exact hF.raisesIntegrity
    · trivial
  · intro created _
    exact ⟨hF.sends _, trivial⟩

end Queueing

/-!
# Executions
-/

/-- Everything an execution for a request may do, but for the exception of a
request that is not found. -/
structure PermitsExecution (F : Footprint coverAI) : Prop where
  vacancyWrites : forall w, VacancyWrite w -> F.writes w
  letters : forall id letter, F.writes (insertCoverLetter id letter)
  statuses : forall id loaded edited,
    F.writes (updateGenerationRequest id loaded edited)
  users : forall id loaded edited, F.writes (updateUser id loaded edited)
  ledger : forall t, F.writes (insertCreditTransaction t)
  drawsEmployers : F.draws SeqName.employers
  drawsVacancies : F.draws SeqName.vacancies
  drawsLetters : F.draws SeqName.coverLetters
  raises : forall e, e ≠ .generationRequestNotFound -> F.raises e

/-- What the charge for a letter may do. -/
structure PermitsCharging (F : Footprint coverAI) : Prop where
  users : forall id loaded edited, F.writes (updateUser id loaded edited)
  ledger : forall t, F.writes (insertCreditTransaction t)
  raisesQuota : F.raises .quotaExceeded
  raisesIntegrity : F.raises .integrityError

/-- What an execution may do besides the calls of the vacancy service. -/
structure PermitsWriting (F : Footprint coverAI) : Prop where
  letters : forall id letter, F.writes (insertCoverLetter id letter)
  statuses : forall id loaded edited,
    F.writes (updateGenerationRequest id loaded edited)
  users : forall id loaded edited, F.writes (updateUser id loaded edited)
  ledger : forall t, F.writes (insertCreditTransaction t)
  drawsLetters : F.draws SeqName.coverLetters
  raises : forall e, e ≠ .generationRequestNotFound -> F.raises e

section Executions

variable {F : Footprint coverAI} {env : Env} {clients : Clients}

theorem PermitsExecution.writing (hF : PermitsExecution F) :
    PermitsWriting F where
  letters := hF.letters
  statuses := hF.statuses
  users := hF.users
  ledger := hF.ledger
  drawsLetters := hF.drawsLetters
  raises := hF.raises

theorem PermitsWriting.charging (hF : PermitsWriting F) :
    PermitsCharging F where
  users := hF.users
  ledger := hF.ledger
  raisesQuota := hF.raises _ fun h => nomatch h
  raisesIntegrity := hF.raises _ fun h => nomatch h

theorem PermitsExecution.vacancies (hF : PermitsExecution F) :
    PermitsVacancies F where
  vacancyWrites := hF.vacancyWrites
  drawsEmployers := hF.drawsEmployers
  drawsVacancies := hF.drawsVacancies
  raisesIntegrity := hF.raises _ fun h => nomatch h

theorem updateStatus_within (hF : PermitsWriting F) (requestId : Int)
    (status : GenerationStatus) (errorMessage : Option String)
    (completedAt : Option Instant) :
    (updateStatus requestId status errorMessage completedAt).Within F
      fun _ => True := by
  apply within_ask_bind
  intro v _
  cases v.generationRequests.get requestId with
  | none => trivial
  | some row =>
      apply within_flushOne (hF.statuses _ _ _)
      · intro db e he
        rw [updateIn_violation_eq he]
        exact hF.charging.raisesIntegrity
      · trivial

theorem onFailure_within {α : Type} {Q : α -> Prop} (hF : PermitsWriting F)
    (request : Option Int) (now : Instant) {e : Exc} (he : F.raises e) :
    (onFailure request now e).Within F Q := by
  unfold onFailure
  split
  · cases request with
    | none => exact he
    | some requestId =>
        exact within_bind (updateStatus_within hF _ _ _ _) fun _ _ => he
  · exact he

theorem generateAndSaveLetter_within (hF : PermitsWriting F)
    (hforeign : forall e, ForeignError env clients e -> F.raises e)
    (requestId : Int) (request : GenerationRequest) (profile : ResumeProfile)
    (result : VacancyResult) (tone : Tone) (now : Instant) :
    (generateAndSaveLetter env clients requestId request profile result tone
      now).Within F fun _ => True := by
  apply within_bind (within_ofExcept (Q := fun _ => True) ?_ fun _ _ => trivial)
  · intro reply _
    rcases reply with ⟨prompt, completion⟩
    simp only
    split
    · exact hF.raises _ fun h => nomatch h
    · apply within_draw_bind hF.drawsLetters
      intro id
      apply within_flushOne_bind (hF.letters _ _)
      · intro db e he
        rw [insertInto_violation_eq he]
        exact hF.charging.raisesIntegrity
      · trivial
  · intro e he
    unfold completionFor at he
    cases hprompt : env.buildCoverLetterPrompt profile result.vacancy
      result.employer tone with
    | error e' =>
        rw [hprompt] at he
        cases he
        exact hforeign _ (.prompt hprompt)
    | ok prompt =>
        cases hletter : clients.generateCoverLetter prompt with
        | error e' =>
            simp only [Bind.bind, Except.bind, hprompt, hletter] at he
            cases he
            exact hforeign _ (.letter hletter)
        | ok completion =>
            simp only [Bind.bind, Except.bind, hprompt, hletter] at he
            cases he

/-- A request that is bound is not created again. -/
theorem writeLetter_within (hF : PermitsWriting F)
    (hforeign : forall e, ForeignError env clients e -> F.raises e)
    (userId profileId : Int) (profile : ResumeProfile) (tone : Tone)
    (bound : Int × GenerationRequest) (result : VacancyResult)
    (now : Instant) :
    (writeLetter env clients userId profileId profile tone (some bound) result
      now).Within F fun _ => True :=
  within_tryCatch (generateAndSaveLetter_within hF hforeign _ _ _ _ _ _)
    fun _ he => onFailure_within hF _ _ he

theorem loadAndWrite_within (hF : PermitsExecution F)
    (hforeign : forall e, ForeignError env clients e -> F.raises e)
    (userId : Int) (vacancyUrl : String) (user : User) (profileId : Int)
    (profile : ResumeProfile) (tone : Tone) (bound : Int × GenerationRequest)
    (now : Instant) :
    (loadAndWrite env clients userId vacancyUrl user profileId profile tone
      (some bound) now).Within F fun _ => True := by
  apply within_bind (within_tryCatch
    (getOrLoadVacancy_within hF.vacancies hforeign
      (hF.raises _ fun h => nomatch h) _ _)
    fun _ he => onFailure_within hF.writing _ _ he)
  intro result _
  apply within_bind (writeLetter_within hF.writing hforeign _ _ _ _ _ _ _)
  intro entry _
  exact within_bind (updateStatus_within hF.writing _ _ _ _) fun _ _ => trivial

/-- The row the job names is there, or the exception is allowed. -/
def FindsRequest (F : Footprint coverAI) (requestId userId : Int) : Prop :=
  forall v, F.sees v -> (v.generationRequests.get requestId).filter
      (fun r => r.userId = userId) = none ->
    F.raises .generationRequestNotFound

theorem existingRequest_within {requestId userId : Int}
    (hfinds : FindsRequest F requestId userId) :
    (existingRequest (some requestId) userId).Within F fun bound =>
      exists request, bound = some (requestId, request) := by
  apply within_ask_bind
  intro v hv
  split
  · rename_i hnone
    exact hfinds v hv hnone
  · rename_i request _
    exact ⟨request, rfl⟩

theorem generateForJob_within (hF : PermitsExecution F)
    (hforeign : forall e, ForeignError env clients e -> F.raises e)
    {job : Job} {requestId : Int}
    (hjob : job.generationRequestId = some requestId)
    (hfinds : FindsRequest F requestId job.userId) (now : Instant) :
    (generateForJob env clients job now).Within F fun _ => True := by
  unfold generateForJob
  split
  · exact hF.raises _ fun h => nomatch h
  · rename_i tone _
    rw [hjob]
    apply within_ask_bind
    intro v _
    split
    · exact hF.raises _ fun h => nomatch h
    · split
      · exact hF.raises _ fun h => nomatch h
      · apply within_ask_bind
        intro v _
        split
        · exact hF.raises _ fun h => nomatch h
        · rename_i profileId profile _
          apply within_bind (existingRequest_within hfinds)
          intro bound hbound
          rcases hbound with ⟨request, rfl⟩
          exact loadAndWrite_within hF hforeign _ _ _ _ _ _ _ _

theorem keepError_within (job : Job) {e : Exc}
    (he : F.raises e) : (keepError job e).Within F fun _ => True := by
  unfold keepError
  split
  · exact fun _ _ => trivial
  · split
    · exact fun _ _ => trivial
    · exact he

theorem debitGenerationCredits_within (hF : PermitsCharging F)
    (userId amount generationRequestId : Int) :
    (debitGenerationCredits userId amount generationRequestId).Within F
      fun _ => True := by
  apply within_forUpdate_bind
  intro v _
  split
  · exact hF.raisesQuota
  · split
    · exact hF.raisesQuota
    · apply within_flushUnit
      · intro w hw
        simp only [List.mem_cons, List.not_mem_nil, or_false] at hw
        rcases hw with rfl | rfl
        · exact hF.users _ _ _
        · exact hF.ledger _
      · intro w hw db e he
        simp only [List.mem_cons, List.not_mem_nil, or_false] at hw
        rcases hw with rfl | rfl
        · rw [updateIn_violation_eq he]
          exact hF.raisesIntegrity
        · cases he
      · trivial

theorem chargeForLetter_within (hF : PermitsCharging F) (job : Job)
    (result : GeneratedCoverLetter) :
    (chargeForLetter job result).Within F fun _ => True := by
  unfold chargeForLetter
  simp only
  split
  · exact within_bind (debitGenerationCredits_within hF _ _ _)
      fun _ _ => trivial
  · trivial

theorem generationSession_within (hF : PermitsExecution F)
    (hforeign : forall e, ForeignError env clients e -> F.raises e)
    {job : Job} {requestId : Int}
    (hjob : job.generationRequestId = some requestId)
    (hfinds : FindsRequest F requestId job.userId) (now : Instant) :
    (generationSession env clients job now).Within F fun _ => True := by
  unfold generationSession
  refine within_bind (R := fun _ => True) ?_ ?_
  · apply within_tryCatch
    · exact within_bind (generateForJob_within hF hforeign hjob hfinds now)
        fun _ _ => trivial
    · intro e he
      exact within_bind (keepError_within job he) fun _ _ => trivial
  · intro outcome _
    cases outcome with
    | inl result => exact chargeForLetter_within hF.writing.charging job result
    | inr kept => trivial

end Executions

end CoverAI
