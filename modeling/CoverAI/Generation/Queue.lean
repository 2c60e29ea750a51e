import CoverAI.Generation.Charge
import CoverAI.Generation.Route

/-!
# The queue between the route and the worker

The route pushes a job before its session commits, and a worker sees committed
rows only.  A queued job refers to a committed request from the commit of the
session that pushed it on, and a worker that looks up the request after that
commit finds it.
-/

namespace CoverAI

open Txn Program

/-!
# Sessions of the system
-/

inductive SystemAnswer where
  | created (response : GenerationCreateResponse)
  | worked (result : SessionResult)

def apiSession (env : Env) (userId : Int) (vacancyUrl : String) (tone : Tone)
    (now : Instant) : Session SystemAnswer := do
  let response ← createGeneration env userId vacancyUrl tone now
  return .created response

def workerSession (env : Env) (clients : Clients) (job : Job) (now : Instant) :
    Session SystemAnswer := do
  let result ← generationSession env clients job now
  return .worked result

/-- A worker takes a job that is in the queue, and may take it again. -/
def StartsWorker (env : Env) (w : World coverAI SystemAnswer) (job : Job)
    (clients : Clients) (p : Session SystemAnswer) : Prop :=
  job ∈ w.out ∧ exists now, p = workerSession env clients job now

/-- Any calls of the route and any executions of queued jobs, each of which can
lose its connection before its commit. -/
def SystemAct (env : Env) (w : World coverAI SystemAnswer) :
    Act coverAI SystemAnswer -> Prop
  | .start _ p =>
      (exists userId vacancyUrl tone now,
        p = apiSession env userId vacancyUrl tone now) ∨
        exists job clients, StartsWorker env w job clients p
  | .step _ => True
  | .fail _ e => e = .connectionLost

/-- The request of the job is there and belongs to the user of the job. -/
def JobHasRequest (db : Db) (job : Job) : Prop :=
  exists id, job.generationRequestId = some id ∧
    (db.generationRequests.get id).map GenerationRequest.userId =
      some job.userId

/-- The session that pushed the job has committed. -/
def ApiCommitted (w : World coverAI SystemAnswer) (job : Job) : Prop :=
  exists i response, w.procs i = .done (.ok (.created response)) ∧
    job.generationRequestId = some response.generationRequestId ∧
    response.userId = job.userId

/-!
# Owners of the requests as a registry
-/

def requestOwners : Registry coverAI (Int -> Option Int) Int where
  obs := fun db id =>
    (db.generationRequests.get id).map GenerationRequest.userId
  get := fun g n => g n
  add := fun g n owner m => if m = n ∧ g n = none then some owner else g m
  seq := SeqName.generationRequests
  Announces := fun job n owner =>
    job.generationRequestId = some n ∧ job.userId = owner
  get_add := fun _ _ _ _ => rfl

theorem requestOwners_registers :
    RegistersRequests requestOwners GenerationRequest.userId where
  seq_eq := rfl
  inserts := by
    intro id request db
    funext m
    simp only [requestOwners, Table.get_insert, Option.map_eq_none_iff]
    split
    · rename_i h
      rw [if_pos ⟨h.left, h.right.left⟩, Option.map_some]
    · rename_i h
      rw [if_neg (fun h' => h ⟨h'.left, h'.right, rfl⟩)]
  vacancies := by
    intro w hw db
    cases hw <;> rfl

/-- How the stages of the sessions end. -/
def systemEnds : SystemAnswer -> Stage Int -> Prop
  | .created response, st =>
      st = .announced response.generationRequestId response.userId
  | .worked _, st => st = .blank

/-!
# Sessions of the route
-/

section Route

variable {env : Env} {userId : Int} {vacancyUrl : String} {tone : Tone}
  {now : Instant}

theorem apiSession_follows :
    requestOwners.Follows systemEnds .blank
      (apiSession env userId vacancyUrl tone now) := by
  apply Registry.follows_bind
  apply createGeneration_follows requestOwners_registers
  · exact fun id request howner => ⟨rfl, howner.symm⟩
  · intro response request howner _ _ huser
    change Stage.announced _ _ = Stage.announced _ _
    rw [howner, huser]

theorem apiSession_keeps (job : Job) :
    (apiSession env userId vacancyUrl tone now).Keeps
      fun db => JobHasRequest db job := by
  refine within_bind (R := fun _ => True) (createGeneration_keeps ?_ ?_)
    fun _ _ => trivial
  · intro w hw db hwatched
    rcases hwatched with ⟨id, hjob, howner⟩
    refine ⟨id, hjob, ?_⟩
    cases hw <;> exact howner
  · intro n request _ db hwatched
    rcases hwatched with ⟨id, hjob, howner⟩
    refine ⟨id, hjob, ?_⟩
    rcases Option.map_eq_some_iff.mp howner with ⟨row, hrow, hmapped⟩
    rw [insertGenerationRequest_apply]
    simp only
    rw [Table.get_insert_of_some hrow, Option.map_some, hmapped]

end Route

/-!
# Sessions of the worker
-/

/-- An execution of a named job changes no owner and creates no request. -/
def workerFootprint : Footprint coverAI where
  sees := fun _ => True
  writes := fun w => forall db,
    requestOwners.obs (w.apply db) = requestOwners.obs db
  draws := fun t => t ≠ SeqName.generationRequests
  emits := fun _ => False
  raises := fun _ => True

theorem workerFootprint_permits : PermitsExecution workerFootprint where
  vacancyWrites := requestOwners_registers.vacancies
  letters := fun _ _ _ => rfl
  statuses := by
    intro id loaded edited db
    funext n
    simp only [requestOwners, updateGenerationRequest_apply, Table.get_modify]
    split
    · rename_i hn
      subst hn
      cases db.generationRequests.get n <;> rfl
    · rfl
  users := fun _ _ _ _ => rfl
  ledger := fun _ _ => rfl
  drawsEmployers := fun h => nomatch h
  drawsVacancies := fun h => nomatch h
  drawsLetters := fun h => nomatch h
  raises := fun _ _ => trivial

/-- Anything but the exception of a request that is not found. -/
def sparedFootprint : Footprint coverAI where
  sees := fun _ => True
  writes := fun _ => True
  draws := fun _ => True
  emits := fun _ => True
  raises := fun e => e ≠ .generationRequestNotFound

theorem sparedFootprint_permits : PermitsExecution sparedFootprint where
  vacancyWrites := fun _ _ => trivial
  letters := fun _ _ => trivial
  statuses := fun _ _ _ => trivial
  users := fun _ _ _ => trivial
  ledger := fun _ => trivial
  drawsEmployers := trivial
  drawsVacancies := trivial
  drawsLetters := trivial
  raises := fun _ h => h

/-- The program raises the exception of a missing request only where it looks up
the row of the job. -/
abbrev SparesJob {α : Type} (job : Job) (p : Session α) : Prop :=
  p.Spares Exc.generationRequestNotFound fun db => JobHasRequest db job

section Worker

variable {env : Env} {clients : Clients} {job : Job} {requestId : Int}
  {now : Instant}

theorem workerSession_within (hjob : job.generationRequestId = some requestId) :
    (workerSession env clients job now).Within workerFootprint
      fun answer => exists result, answer = .worked result :=
  within_bind (generationSession_within workerFootprint_permits
    (fun _ _ => trivial) hjob (fun _ _ _ => trivial) now)
    fun result _ => ⟨result, rfl⟩

theorem workerSession_follows
    (hjob : job.generationRequestId = some requestId) :
    requestOwners.Follows systemEnds .blank
      (workerSession env clients job now) := by
  apply Registry.follows_of_within (workerSession_within hjob)
  · exact fun _ => trivial
  · exact fun _ hw => hw
  · exact fun hdraws => hdraws rfl
  · exact fun _ h => h
  · intro _ hresult
    rcases hresult with ⟨result, rfl⟩
    rfl

theorem workerSession_keeps (hjob : job.generationRequestId = some requestId)
    (job' : Job) :
    (workerSession env clients job now).Keeps
      fun db => JobHasRequest db job' := by
  apply within_mono (workerSession_within hjob)
  · exact fun _ _ => trivial
  · intro w hw db hwatched
    rcases hwatched with ⟨id, hid, howner⟩
    exact ⟨id, hid, (congrFun (hw db) id).trans howner⟩
  · exact fun _ _ => trivial
  · exact fun _ _ => trivial
  · exact fun _ _ => trivial
  · exact fun _ _ => trivial

/-- The lookup raises only when the row is not there. -/
theorem existingRequest_bind_spares {α : Type}
    {f : Option (Int × GenerationRequest) -> Session α}
    (hjob : job.generationRequestId = some requestId)
    (hf : forall request, SparesJob job (f (some (requestId, request)))) :
    SparesJob job
      ((existingRequest (some requestId) job.userId).bind f) := by
  simp only [existingRequest, requestByIdForUser, bind_eq, bind_assoc]
  apply spares_lookup_bind
  intro v hfound
  cases hrequest : (v.generationRequests.get requestId).filter
      fun r => r.userId = job.userId with
  | none =>
      rw [hrequest] at hfound
      rcases hfound rfl with ⟨id, hid, howner⟩
      cases hjob.symm.trans hid
      rcases Option.map_eq_some_iff.mp howner with ⟨row, hrow, huser⟩
      rw [hrow, Option.filter_some, if_pos (decide_eq_true huser)] at hrequest
      cases hrequest
  | some request => exact hf request

theorem generateForJob_spares
    (hforeign : forall e, ForeignError env clients e ->
      e ≠ .generationRequestNotFound)
    (hjob : job.generationRequestId = some requestId) :
    SparesJob job (generateForJob env clients job now) := by
  unfold generateForJob
  split
  · exact fun h => nomatch h
  · rename_i tone _
    rw [hjob]
    apply spares_ask_bind
    intro v
    split
    · exact fun h => nomatch h
    · split
      · exact fun h => nomatch h
      · apply spares_ask_bind
        intro v
        split
        · exact fun h => nomatch h
        · apply existingRequest_bind_spares hjob
          intro request
          exact spares_of_within (loadAndWrite_within sparedFootprint_permits
            hforeign _ _ _ _ _ _ _ _) (fun _ => trivial) fun _ h => h

theorem workerSession_spares
    (hforeign : forall e, ForeignError env clients e ->
      e ≠ .generationRequestNotFound)
    (hjob : job.generationRequestId = some requestId) :
    SparesJob job (workerSession env clients job now) := by
  refine spares_bind (spares_bind (spares_tryCatch ?_ rfl ?_) ?_) ?_
  · exact spares_bind (generateForJob_spares hforeign hjob) fun _ => trivial
  · intro e he
    exact spares_bind (spares_of_within
      (keepError_within (F := sparedFootprint) job he) (fun _ => trivial)
      fun _ h => h) fun _ => trivial
  · intro outcome
    cases outcome with
    | inl result =>
        exact spares_of_within (chargeForLetter_within
          sparedFootprint_permits.writing.charging job result)
          (fun _ => trivial) fun _ h => h
    | inr kept => trivial
  · exact fun _ => trivial

end Worker

/-!
# Every interleaving
-/

/-- Session `i` is a worker with the job, and the session that pushed the
job has committed when the worker looks up the request. -/
def LooksUpAfterCommit (env : Env) (i : Nat) (job : Job)
    (w : World coverAI SystemAnswer) : Act coverAI SystemAnswer -> Prop
  | .start j p => j = i -> exists clients, StartsWorker env w job clients p ∧
      forall e, ForeignError env clients e -> e ≠ .generationRequestNotFound
  | .step j => j = i -> forall own p, w.procs i = .running own p ->
      p.LooksUp Exc.generationRequestNotFound -> ApiCommitted w job
  | .fail _ _ => True

section Runs

variable {env : Env} {s : Store coverAI} {w : World coverAI SystemAnswer}
  {stage : Nat -> Stage Int}

abbrev OwnersRegistered (s : Store coverAI) (w : World coverAI SystemAnswer)
    (stage : Nat -> Stage Int) : Prop :=
  requestOwners.Registered systemEnds (World.init s) w stage

/-- A queued job names the key its session has drawn. -/
theorem announced_of_mem (h : OwnersRegistered s w stage) (hempty : s.out = [])
    {job : Job} (hjob : job ∈ w.out) :
    exists i n, stage i = .announced n job.userId ∧
      job.generationRequestId = some n := by
  rcases h.announced job hjob with hold | ⟨i, n, owner, hstage, hnamed, howner⟩
  · change job ∈ s.out at hold
    rw [hempty] at hold
    cases hold
  · exact ⟨i, n, howner ▸ hstage, hnamed⟩

theorem registered_of_system (hempty : s.out = [])
    (hkeys : requestOwners.KeysDrawn (World.init s : World _ SystemAnswer))
    (hrun : World.Reaches (SystemAct env) (World.init s) w) :
    exists stage, OwnersRegistered s w stage := by
  apply Registry.registered_of_reaches hrun (fun _ => rfl) hkeys
  intro u stage i p h hstart
  rcases hstart with ⟨userId, vacancyUrl, tone, now, rfl⟩ |
    ⟨job, clients, hjob, now, rfl⟩
  · exact apiSession_follows
  · rcases announced_of_mem h hempty hjob with ⟨_, n, _, hnamed⟩
    exact workerSession_follows hnamed

theorem jobHasRequest_of_committed (h : OwnersRegistered s w stage) {job : Job}
    (hcommitted : ApiCommitted w job) : JobHasRequest w.committed job := by
  rcases hcommitted with ⟨i, response, hdone, hnamed, howner⟩
  have hstage := h.conforms i
  rw [hdone] at hstage
  change stage i = .announced _ _ at hstage
  have hpublished : (w.procs i).published (stage i) =
      some (response.generationRequestId, response.userId) := by
    rw [hdone, hstage]
    rfl
  exact ⟨_, hnamed, howner ▸ h.kept i _ _ hpublished⟩

theorem committed_of_jobHasRequest (h : OwnersRegistered s w stage)
    (hempty : s.out = [])
    (hkeys : requestOwners.KeysDrawn (World.init s : World _ SystemAnswer))
    {job : Job} (hjob : job ∈ w.out) (hrequest : JobHasRequest w.committed job) :
    ApiCommitted w job := by
  rcases announced_of_mem h hempty hjob with ⟨i, n, hstage, hnamed⟩
  have hkey : (stage i).key = some n := by
    rw [hstage]
    rfl
  rcases hrequest with ⟨id, hid, howner⟩
  cases hnamed.symm.trans hid
  rcases h.only n job.userId howner with hold | ⟨j, hpublished⟩
  · -- the key was drawn after the start, so no old row has it
    have hlt := hkeys n fun hnone => nomatch hold.symm.trans hnone
    have hle := (h.bounds i n hkey).left
    omega
  · have hij := h.apart i j n hkey (Registry.key_of_published hpublished)
    subst hij
    have hends := h.conforms i
    unfold Process.published at hpublished
    split at hpublished
    · rename_i answer hdone
      rw [hdone] at hends
      change systemEnds answer (stage i) at hends
      rw [hstage] at hends
      cases answer with
      | created response =>
          rcases Stage.announced.inj hends with ⟨hid, huser⟩
          exact ⟨i, response, hdone, hid ▸ hnamed, huser.symm⟩
      | worked result => cases hends
    · cases hpublished

/-- The sessions keep the requests of all jobs. -/
theorem keepers_of_system (hempty : s.out = [])
    (hkeys : requestOwners.KeysDrawn (World.init s : World _ SystemAnswer))
    (hrun : World.Reaches (SystemAct env) (World.init s) w) (job : Job) :
    w.Keepers fun db => JobHasRequest db job := by
  apply hrun.keepers
  · exact fun _ _ _ h => nomatch h
  · intro u i p hreach hstart
    rcases hstart with ⟨userId, vacancyUrl, tone, now, rfl⟩ |
      ⟨job', clients, hjob, now, rfl⟩
    · exact apiSession_keeps job
    · rcases registered_of_system hempty hkeys hreach with ⟨stage, h⟩
      rcases announced_of_mem h hempty hjob with ⟨_, n, _, hnamed⟩
      exact workerSession_keeps hnamed job

end Runs

/-- In every reachable state a queued job has its request exactly when the
session that pushed it has committed, and a worker that looks the request up
after that commit does not miss it. -/
theorem queued_jobs_refer_to_requests {env : Env} {s : Store coverAI}
    (hempty : s.out = [])
    (hkeys : forall n, s.db.generationRequests.get n ≠ none ->
      n < s.seq SeqName.generationRequests) :
    (forall w, World.Reaches (SystemAct env) (World.init s) w ->
      forall job, job ∈ w.out ->
        (JobHasRequest w.committed job <-> ApiCommitted w job)) ∧
      forall i job w, World.Reaches (fun w a =>
          SystemAct env w a ∧ LooksUpAfterCommit env i job w a)
          (World.init s) w ->
        w.procs i ≠ .done (.error .generationRequestNotFound) := by
  have hdrawn : requestOwners.KeysDrawn (World.init s : World _ SystemAnswer) :=
    fun n hn => hkeys n fun hnone => hn (by
      change Option.map _ (s.db.generationRequests.get n) = none
      rw [hnone, Option.map_none])
  constructor
  · intro w hrun job hjob
    rcases registered_of_system hempty hdrawn hrun with ⟨stage, h⟩
    exact ⟨committed_of_jobHasRequest h hempty hdrawn hjob,
      jobHasRequest_of_committed h⟩
  · intro i job w hrun
    have hsystem {u : World coverAI SystemAnswer}
        (h : World.Reaches (fun w a =>
          SystemAct env w a ∧ LooksUpAfterCommit env i job w a)
          (World.init s) u) :
        World.Reaches (SystemAct env) (World.init s) u :=
      h.mono fun _ _ hadm => hadm.left
    have hspared : (w.procs i).Spares Exc.generationRequestNotFound
        fun db => JobHasRequest db job := by
      apply hrun.spares
      · trivial
      · intro u p hreach hadm
        rcases hadm with ⟨_, hstart⟩
        rcases hstart rfl with ⟨clients, ⟨hjob, now, rfl⟩, hforeign⟩
        rcases registered_of_system hempty hdrawn (hsystem hreach) with
          ⟨stage, h⟩
        rcases announced_of_mem h hempty hjob with ⟨_, n, _, hnamed⟩
        exact workerSession_spares hforeign hnamed
      · intro u own p hreach hadm hproc hlookup
        rcases hadm with ⟨_, hlooks⟩
        rcases registered_of_system hempty hdrawn (hsystem hreach) with
          ⟨stage, h⟩
        have hkeepers := keepers_of_system hempty hdrawn (hsystem hreach) job
        exact (hkeepers i own p hproc).left _
          (jobHasRequest_of_committed h (hlooks rfl own p hproc hlookup))
      · intro u e hadm
        rcases hadm with ⟨rfl, _⟩
        exact fun h => nomatch h
    intro hdone
    rw [hdone] at hspared
    exact hspared rfl

/-!
# A call of the route and a worker
-/

def startApi : Act coverAI SystemAnswer :=
  .start 0 (apiSession sampleEnv 1 "vacancy" .formal 0)

def startWorker : Act coverAI SystemAnswer :=
  .start 1 (workerSession sampleEnv sampleClients sampleJob 1)

/-- The worker acts once the job is in the queue. -/
def queued (w : World coverAI SystemAnswer) (a : Act coverAI SystemAnswer) :
    Bool :=
  a.session = 0 || sampleJob ∈ w.out

/-- The worker looks up the request after the push and before the commit, and
then the commit fails. -/
def overtakingActs : List (Act coverAI SystemAnswer) :=
  startApi :: (List.replicate 12 (.step 0) ++
    (startWorker :: (List.replicate 4 (.step 1) ++ [.fail 0 .connectionLost])))

theorem systemAct_startApi (w : World coverAI SystemAnswer) :
    SystemAct sampleEnv w startApi :=
  Or.inl ⟨1, "vacancy", .formal, 0, rfl⟩

theorem startsWorker_of_queued {w : World coverAI SystemAnswer}
    (h : queued w startWorker = true) :
    StartsWorker sampleEnv w sampleJob sampleClients
      (workerSession sampleEnv sampleClients sampleJob 1) :=
  ⟨of_decide_eq_true h, 1, rfl⟩

theorem queued_job_misses_request :
    exists w, World.Reaches (SystemAct sampleEnv) (World.init profileStore) w ∧
      sampleJob ∈ w.out ∧ ¬ JobHasRequest w.committed sampleJob ∧
      w.procs 1 = .done (.error .generationRequestNotFound) := by
  have hacts : ((World.init profileStore).runChecked queued
      overtakingActs).map (fun w => (decide (sampleJob ∈ w.out),
        (w.committed.generationRequests.get 1).isNone, (w.procs 1).ended)) =
      some (true, true, some (.error Exc.generationRequestNotFound)) := by
    rfl
  rcases Option.map_eq_some_iff.mp hacts with ⟨w, hrun, hend⟩
  rw [Prod.mk.injEq, Prod.mk.injEq] at hend
  rcases hend with ⟨hjob, hnone, hended⟩
  refine ⟨w, World.reaches_of_runChecked ?_ hrun, of_decide_eq_true hjob, ?_,
    Process.eq_done_of_ended hended⟩
  · intro a ha u hcheck
    simp only [overtakingActs, List.mem_append, List.mem_cons,
      List.mem_replicate, List.not_mem_nil, or_false] at ha
    rcases ha with rfl | ⟨_, rfl⟩ | rfl | ⟨_, rfl⟩ | rfl
    · exact systemAct_startApi u
    · trivial
    · exact Or.inr ⟨_, _, startsWorker_of_queued hcheck⟩
    · trivial
    · rfl
  · intro hwatched
    rcases hwatched with ⟨id, hid, howner⟩
    cases hid
    rw [Option.isNone_iff_eq_none.mp hnone] at howner
    cases howner

/-- The call is over before the worker starts. -/
def callActs : List (Act coverAI SystemAnswer) :=
  startApi :: List.replicate 13 (.step 0)

def workerActs : List (Act coverAI SystemAnswer) :=
  startWorker :: List.replicate 17 (.step 1)

def sampleResponse : GenerationCreateResponse where
  queued := true
  userId := 1
  vacancyUrl := "vacancy"
  tone := .formal
  costCredits := 5
  generationRequestId := 1
  status := .pending

def Answered (w : World coverAI SystemAnswer) : Prop :=
  w.procs 0 = .done (.ok (.created sampleResponse))

theorem answered_committed {w : World coverAI SystemAnswer} (h : Answered w) :
    ApiCommitted w sampleJob :=
  ⟨0, sampleResponse, h, rfl, rfl⟩

theorem sampleClients_own_errors {e : Exc}
    (h : ForeignError sampleEnv sampleClients e) :
    e ≠ .generationRequestNotFound := by
  cases h with
  | parse h => cases h
  | vacancy h => cases h
  | employer h => cases h
  | prompt h => cases h
  | letter h => cases h

theorem queued_jobs_refer_to_requests_in_order :
    exists w : World coverAI SystemAnswer,
      JobHasRequest w.committed sampleJob ∧ (w.procs 1).succeeded = true ∧
        w.procs 1 ≠ .done (.error .generationRequestNotFound) := by
  have hacts : (((World.init profileStore).runActs callActs).bind fun u =>
      (u.runChecked queued workerActs).map fun w => ((u.procs 0).ended,
        (w.procs 0).ended, decide (sampleJob ∈ w.out),
        (w.procs 1).succeeded)) =
      some (some (.ok (.created sampleResponse)),
        some (.ok (.created sampleResponse)), true, true) := by
    rfl
  rcases Option.bind_eq_some_iff.mp hacts with ⟨u, hcall, hworker⟩
  rcases Option.map_eq_some_iff.mp hworker with ⟨w, hrun, hend⟩
  rw [Prod.mk.injEq, Prod.mk.injEq, Prod.mk.injEq] at hend
  rcases hend with ⟨hbefore, hafter, hjob, hsucceeded⟩
  let adm (w : World coverAI SystemAnswer) (a : Act coverAI SystemAnswer) :=
    SystemAct sampleEnv w a ∧ LooksUpAfterCommit sampleEnv 1 sampleJob w a
  have hfirst : World.Reaches adm (World.init profileStore) u := by
    apply World.reaches_of_runActs ?_ hcall
    intro a ha v
    simp only [callActs, List.mem_cons, List.mem_replicate] at ha
    rcases ha with rfl | ⟨_, rfl⟩
    · exact ⟨systemAct_startApi v, fun h => nomatch h⟩
    · exact ⟨trivial, fun h => nomatch h⟩
  have hrest : World.Reaches adm u w := by
    have hanswered : Answered u := Process.eq_done_of_ended hbefore
    have hacts : forall a, a ∈ workerActs -> a = startWorker ∨ a = .step 1 := by
      intro a ha
      simp only [workerActs, List.mem_cons, List.mem_replicate] at ha
      exact ha.imp_right fun h => h.right
    apply World.reaches_of_runChecked_inv hanswered ?_ ?_ hrun
    · intro a ha v v' hv hm
      have hsession : (0 : Nat) ≠ a.session := by
        rcases hacts a ha with rfl | rfl <;> exact fun h => nomatch h
      exact (hm.procs_of_ne hsession).trans hv
    · intro a ha v hv hcheck
      rcases hacts a ha with rfl | rfl
      · have hstarts := startsWorker_of_queued hcheck
        exact ⟨Or.inr ⟨_, _, hstarts⟩, fun _ =>
          ⟨_, hstarts, fun _ he => sampleClients_own_errors he⟩⟩
      · exact ⟨trivial, fun _ _ _ _ _ => answered_committed hv⟩
  have hreach := hfirst.trans hrest
  have hmain := @queued_jobs_refer_to_requests sampleEnv profileStore rfl
    fun _ h => (h rfl).elim
  refine ⟨w, ?_, hsucceeded, hmain.right 1 sampleJob w hreach⟩
  exact (hmain.left w (hreach.mono fun _ _ hadm => hadm.left) sampleJob
    (of_decide_eq_true hjob)).mpr
    (answered_committed (Process.eq_done_of_ended hafter))

end CoverAI
