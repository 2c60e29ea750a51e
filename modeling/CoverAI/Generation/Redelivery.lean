import CoverAI.Generation.Enqueue
import CoverAI.Generation.Failure

/-!
# Jobs that are delivered again

The queue delivers a job at least once, and the service does not look at the
status of the request it is given.  An execution moves the request, its letters
and its SPEND rows together; what a later execution may add depends only on how
it comes out.
-/

namespace CoverAI

open Txn Program

/-!
# What one execution does to a request
-/

def isLetterOf (requestId : Int) (letter : CoverLetter) : Bool :=
  letter.generationRequestId = requestId

def isSpendOf (requestId : Int) (t : CreditTransaction) : Bool :=
  t.type = .spend && t.generationRequestId = some requestId

structure RequestProgress where
  status : Option GenerationStatus
  letters : Nat
  spends : Nat

def GenerationView.progress (v : GenerationView) (requestId : Int) :
    RequestProgress where
  status := (v.generationRequests.get requestId).map GenerationRequest.status
  letters := v.coverLetters.count (isLetterOf requestId)
  spends := v.creditTransactions.countP (isSpendOf requestId)

def progressOf (requestId : Int) (s : Store coverAI) : RequestProgress :=
  (generationView s.db).progress requestId

inductive Progresses (completes fails : Prop) (v : RequestProgress) :
    RequestProgress -> Prop where
  | keep : Progresses completes fails v v
  | fail (h : fails) :
      Progresses completes fails v { v with status := some .failed }
  | complete {charged : Nat} (h : completes) (hcharged : charged ≤ 1) :
      Progresses completes fails v {
        status := some .succeeded
        letters := v.letters + 1
        spends := v.spends + charged }

section Progress

variable {job : Job} {now : Instant} {s : Store coverAI} {requestId : Int}
  {v : GenerationView}

theorem progress_setStatus {request : GenerationRequest}
    (hget : v.generationRequests.get requestId = some request)
    (status : GenerationStatus) (errorMessage : Option String)
    (completedAt : Option Instant) :
    (v.setStatus requestId status errorMessage completedAt).progress requestId =
      { v.progress requestId with status := some status } := by
  unfold GenerationView.progress
  rw [GenerationView.get_setStatus hget]
  rfl

theorem progress_addLetter {letterId : Int} {letter : CoverLetter}
    (hfree : v.coverLetters.get letterId = none)
    (hrequest : letter.generationRequestId = requestId) :
    (v.addLetter letterId letter).progress requestId =
      { v.progress requestId with
        letters := (v.progress requestId).letters + 1 } := by
  have hcount := Table.count_insert hfree (noChecks_eq letter)
    (isLetterOf requestId)
  rw [if_pos (by simp [isLetterOf, hrequest])] at hcount
  unfold GenerationView.progress GenerationView.addLetter
  rw [hcount]

theorem progress_charge (v : GenerationView) (job : Job) (user : User)
    (requestId : Int) :
    exists charged, charged ≤ 1 ∧
      (v.charge job user requestId).progress requestId =
        { v.progress requestId with
          spends := (v.progress requestId).spends + charged } := by
  unfold GenerationView.progress GenerationView.charge
  split
  · exact ⟨1, Nat.le_refl 1, by simp [isSpendOf, spendRow]⟩
  · exact ⟨0, Nat.zero_le 1, rfl⟩

/-- One execution for a request that exists. -/
theorem generateCoverLetter_progresses (env : Env) (clients : Clients)
    (sender : TelegramSender) (job : Job) (now : Instant) (s : Store coverAI)
    (requestId : Int) (request : GenerationRequest)
    (hjob : job.generationRequestId = some requestId)
    (hget : s.db.generationRequests.get requestId = some request) :
    Progresses (Completes env clients job requestId now s)
      (FailsDurably env clients job requestId now s) (progressOf requestId s)
      (progressOf requestId
        (generateCoverLetter env clients sender job now s).2) := by
  have hcases := generateCoverLetter_cases env clients sender job now s
  generalize (generateCoverLetter env clients sender job now s).2 = s' at hcases ⊢
  rcases hcases with ⟨hdb, _⟩ | ⟨r, hends⟩
  · rw [progressOf, progressOf, hdb]
    exact Progresses.keep
  · cases hends with
    | unbound hnone _ => exact nomatch hnone.symm.trans hjob
    | quotaKept hbinds hview _ =>
        rcases hbinds.eq_of_named hjob with ⟨rfl, rfl⟩
        rw [progressOf, progressOf, hview]
        exact Progresses.keep
    | failed hbinds hview houtcome =>
        rcases hbinds.eq_of_named hjob with ⟨rfl, rfl⟩
        rw [progressOf, progressOf, hview, progress_setStatus hget]
        exact Progresses.fail (houtcome hjob)
    | @completed _ _ _ _ letterId letter user hbinds hrequest hfree _ _ hview
        houtcome =>
        rcases hbinds.eq_of_named hjob with ⟨rfl, rfl⟩
        rcases progress_charge
          (((generationView s.db).addLetter letterId letter).setStatus _
            .succeeded none (some now)) job user _ with
          ⟨charged, hcharged, hcharge⟩
        rw [progressOf, progressOf, hview, hcharge, progress_setStatus,
          progress_addLetter hfree hrequest]
        · exact Progresses.complete (houtcome hjob) hcharged
        · exact hget

end Progress

/-!
# What the balance keeps from happening
-/

/-- The user has less than `n` credits, or has been removed. -/
def BalanceBelow (userId n : Int) (s : Store coverAI) : Prop :=
  forall user, s.db.users.get userId = some user -> user.credits < n

/-- A request that has succeeded is executed again only when its user has no
credit left, and one that has failed only when the balance does not cover the
price.  A pending request may be executed in any state. -/
def RedeliveryUnpaid (job : Job) (requestId : Int) (s : Store coverAI) : Prop :=
  ((progressOf requestId s).status = some .succeeded ->
      BalanceBelow job.userId 1 s) ∧
    ((progressOf requestId s).status = some .failed ->
      BalanceBelow job.userId 1 s ∨
        (job.charges = true ∧ BalanceBelow job.userId job.costCredits s))

section Balance

variable {env : Env} {clients : Clients} {job : Job} {requestId : Int}
  {now : Instant} {s : Store coverAI}

theorem user_of_requestOutcome {user : User}
    {letter : VacancyResult × String × LLMCompletion}
    (h : requestOutcome env clients job requestId now s = .ok (user, letter)) :
    s.db.users.get job.userId = some user ∧ 1 ≤ user.credits := by
  unfold requestOutcome at h
  split at h
  · exact nomatch h
  · exact nomatch h
  · rename_i tone held _ hget
    split at h
    · exact nomatch h
    · rename_i hcredits
      split at h
      · exact nomatch h
      · exact nomatch h
      · split at h
        · exact nomatch h
        · cases h
          exact ⟨hget, Int.not_lt.mp hcredits⟩

/-- The first check of the service comes before everything an exception of the
hh.ru client could come from. -/
theorem requestOutcome_of_balanceBelow
    (h : BalanceBelow job.userId 1 s) :
    exists e, requestOutcome env clients job requestId now s = .error e ∧
      e.isHHClientError = false := by
  unfold requestOutcome
  split
  · exact ⟨_, rfl, rfl⟩
  · exact ⟨_, rfl, rfl⟩
  · rename_i user _ hget
    rw [if_pos (h user hget)]
    exact ⟨_, rfl, rfl⟩

theorem not_completes_of_balanceBelow (h : BalanceBelow job.userId 1 s) :
    ¬ Completes env clients job requestId now s := by
  intro hcompletes
  rcases hcompletes with ⟨user, letter, houtcome, _⟩
  rcases user_of_requestOutcome houtcome with ⟨hget, hcredits⟩
  exact Int.not_lt.mpr hcredits (h user hget)

theorem not_completes_of_price (hcharges : job.charges = true)
    (h : BalanceBelow job.userId job.costCredits s) :
    ¬ Completes env clients job requestId now s := by
  intro hcompletes
  rcases hcompletes with ⟨user, letter, houtcome, hcovered⟩
  rcases user_of_requestOutcome houtcome with ⟨hget, _⟩
  exact Int.not_lt.mpr (hcovered hcharges) (h user hget)

theorem not_failsDurably_of_balanceBelow (h : BalanceBelow job.userId 1 s) :
    ¬ FailsDurably env clients job requestId now s := by
  intro hfails
  rcases hfails with ⟨e, houtcome, hhh⟩
  rcases requestOutcome_of_balanceBelow h with ⟨e', houtcome', hother⟩
  have heq : e = e' := Except.error.inj (houtcome.symm.trans houtcome')
  rw [heq, hother] at hhh
  exact nomatch hhh

theorem RedeliveryUnpaid.succeeded (h : RedeliveryUnpaid job requestId s)
    (hstatus : (progressOf requestId s).status = some .succeeded) :
    ¬ Completes env clients job requestId now s ∧
      ¬ FailsDurably env clients job requestId now s := by
  have hbelow := h.left hstatus
  exact ⟨not_completes_of_balanceBelow hbelow,
    not_failsDurably_of_balanceBelow hbelow⟩

theorem RedeliveryUnpaid.failed (h : RedeliveryUnpaid job requestId s)
    (hstatus : (progressOf requestId s).status = some .failed) :
    ¬ Completes env clients job requestId now s := by
  rcases h.right hstatus with hbelow | ⟨hcharges, hbelow⟩
  · exact not_completes_of_balanceBelow hbelow
  · exact not_completes_of_price hcharges hbelow

end Balance

/-!
# Runs of executions
-/

/-- Executions of one job, one after another; the outside world may answer each
of them differently. -/
inductive ExecutionRun (env : Env) (job : Job)
    (allowed : Store coverAI -> Prop) (s₀ : Store coverAI) :
    Store coverAI -> Prop where
  | refl : ExecutionRun env job allowed s₀ s₀
  | step {s : Store coverAI} (clients : Clients) (sender : TelegramSender)
      (now : Instant) (h : ExecutionRun env job allowed s₀ s)
      (hallowed : allowed s) :
      ExecutionRun env job allowed s₀
        (generateCoverLetter env clients sender job now s).2

def RequestProgress.AtMostOnce (p : RequestProgress) : Prop :=
  match p.status with
  | none => False
  | some .succeeded => p.letters ≤ 1 ∧ p.spends ≤ 1
  | some .pending | some .failed => p.letters = 0 ∧ p.spends = 0

theorem RequestProgress.AtMostOnce.le {p : RequestProgress}
    (h : p.AtMostOnce) : p.letters ≤ 1 ∧ p.spends ≤ 1 := by
  unfold AtMostOnce at h
  split at h
  · exact h.elim
  · exact h
  all_goals omega

theorem RequestProgress.AtMostOnce.exists_status {p : RequestProgress}
    (h : p.AtMostOnce) : p.status ≠ none := by
  intro hnone
  unfold AtMostOnce at h
  rw [hnone] at h
  exact h

section Run

variable {completes fails : Prop} {p p' : RequestProgress}

theorem Progresses.atMostOnce (h : Progresses completes fails p p')
    (hp : p.AtMostOnce)
    (hsucceeded : p.status = some .succeeded -> ¬ completes ∧ ¬ fails)
    (hfailed : p.status = some .failed -> ¬ completes) : p'.AtMostOnce := by
  rcases p with ⟨status, letters, spends⟩
  cases h with
  | keep => exact hp
  | fail hfails =>
      cases status with
      | none => exact hp.elim
      | some status =>
          cases status with
          | pending => exact hp
          | succeeded => exact ((hsucceeded rfl).right hfails).elim
          | failed => exact hp
  | complete hcompletes hcharged =>
      cases status with
      | none => exact hp.elim
      | some status =>
          cases status with
          | pending =>
              rcases hp with ⟨hletters, hspends⟩
              simp only at hletters hspends
              simp only [RequestProgress.AtMostOnce]
              omega
          | succeeded => exact ((hsucceeded rfl).left hcompletes).elim
          | failed => exact (hfailed rfl hcompletes).elim

theorem Progresses.status_eq (h : Progresses completes fails p p')
    (hsucceeded : p.status = some .succeeded -> ¬ completes ∧ ¬ fails)
    (hfailed : p.status = some .failed -> ¬ completes)
    (hended : p.status = some .succeeded ∨ p.status = some .failed) :
    p'.status = p.status := by
  cases h with
  | keep => rfl
  | fail hfails =>
      rcases hended with hstatus | hstatus
      · exact ((hsucceeded hstatus).right hfails).elim
      · exact hstatus.symm
  | complete hcompletes _ =>
      rcases hended with hstatus | hstatus
      · exact ((hsucceeded hstatus).left hcompletes).elim
      · exact (hfailed hstatus hcompletes).elim

end Run

theorem exists_request_of_progress {requestId : Int} {s : Store coverAI}
    (h : (progressOf requestId s).AtMostOnce) :
    exists request, s.db.generationRequests.get requestId = some request := by
  have hstatus := h.exists_status
  cases hget : s.db.generationRequests.get requestId with
  | none =>
      refine (hstatus ?_).elim
      change (s.db.generationRequests.get requestId).map _ = none
      rw [hget]
      rfl
  | some request => exact ⟨request, rfl⟩

theorem ExecutionRun.atMostOnce {env : Env} {job : Job} {requestId : Int}
    {s₀ s : Store coverAI}
    (h : ExecutionRun env job (RedeliveryUnpaid job requestId) s₀ s)
    (hjob : job.generationRequestId = some requestId)
    (h₀ : (progressOf requestId s₀).AtMostOnce) :
    (progressOf requestId s).AtMostOnce := by
  induction h with
  | refl => exact h₀
  | @step s clients sender now _ hallowed ih =>
      rcases exists_request_of_progress ih with ⟨request, hget⟩
      have hprogress := generateCoverLetter_progresses env clients sender job now
        s requestId request hjob hget
      exact hprogress.atMostOnce ih hallowed.succeeded hallowed.failed

/-- The foreign keys on `generation_requests`. -/
structure ReferencesRequests (db : Db) : Prop where
  letters : forall id letter, db.coverLetters.get id = some letter ->
    db.generationRequests.get letter.generationRequestId ≠ none
  ledger : forall t, t ∈ db.creditTransactions -> forall id,
    t.generationRequestId = some id -> db.generationRequests.get id ≠ none

theorem Enqueued.atMostOnce {userId : Int} {held : Option User}
    {now : Instant} {s s' : Store coverAI} {created : Int × GenerationRequest}
    (h : Enqueued userId held now s created s')
    (hforeign : ReferencesRequests s.db) :
    (progressOf created.1 s').AtMostOnce := by
  have hletters : s.db.coverLetters.count (isLetterOf created.1) = 0 := by
    apply Table.count_eq_zero
    intro id letter hget
    apply decide_eq_false
    intro heq
    apply hforeign.letters id letter hget
    rw [heq]
    exact h.fresh
  have hspends : s.db.creditTransactions.countP (isSpendOf created.1) = 0 := by
    apply List.countP_eq_zero.mpr
    intro t ht hspend
    simp only [isSpendOf, Bool.and_eq_true, decide_eq_true_eq] at hspend
    exact hforeign.ledger t ht created.1 hspend.right h.fresh
  have hget := Table.get_insert_self h.fresh (noChecks_eq created.2)
  have hstatus : (progressOf created.1 s').status = some .pending := by
    rw [progressOf, h.view]
    change ((s.db.generationRequests.insert _ _).get _).map _ = _
    rw [hget, Option.map_some, h.pending]
  unfold RequestProgress.AtMostOnce
  rw [hstatus, progressOf, h.view]
  exact ⟨hletters, hspends⟩

/-- From its creation on, whatever executions of its job the balance stops where
the request has ended: it is written and charged at most once, and an ended
request keeps its status. -/
theorem redelivered_job_charges_once {env : Env} {held : Option User}
    {userId : Int} {vacancyUrl : String} {tone : Tone} {now : Instant}
    {s s₀ s₁ : Store coverAI} {requestId : Int} {request : GenerationRequest}
    (hforeign : ReferencesRequests s.db)
    (hqueued : (enqueueGeneration env held userId vacancyUrl tone now).transact
      s = (.ok (requestId, request), s₀))
    (hrun : ExecutionRun env
      (queuedJob userId vacancyUrl tone env.predictionCostCredits requestId)
      (RedeliveryUnpaid
        (queuedJob userId vacancyUrl tone env.predictionCostCredits requestId)
        requestId) s₀ s₁) :
    (progressOf requestId s₁).letters ≤ 1 ∧
      (progressOf requestId s₁).spends ≤ 1 ∧
      (RedeliveryUnpaid
          (queuedJob userId vacancyUrl tone env.predictionCostCredits requestId)
          requestId s₁ ->
        ((progressOf requestId s₁).status = some .succeeded ∨
          (progressOf requestId s₁).status = some .failed) ->
        forall clients sender now,
          (progressOf requestId (generateCoverLetter env clients sender
            (queuedJob userId vacancyUrl tone env.predictionCostCredits
              requestId) now s₁).2).status =
            (progressOf requestId s₁).status) := by
  have hstart := ensures_of_run
    (enqueueGeneration_ensures env held userId vacancyUrl tone now s)
    (run_of_transact_ok hqueued)
  have honce := hrun.atMostOnce rfl (hstart.atMostOnce hforeign)
  refine ⟨honce.le.left, honce.le.right, ?_⟩
  intro hunpaid hended clients sender now
  rcases exists_request_of_progress honce with ⟨row, hget⟩
  have hprogress := generateCoverLetter_progresses env clients sender
    (queuedJob userId vacancyUrl tone env.predictionCostCredits requestId) now
    s₁ requestId row rfl hget
  exact hprogress.status_eq hunpaid.succeeded hunpaid.failed hended

theorem profileStore_referencesRequests :
    ReferencesRequests profileStore.db := by
  constructor
  · intro id letter hget
    cases hget
  · intro t ht id hid
    cases ht with
    | head => cases hid
    | tail _ hrest => cases hrest

/-- The first delivery leaves no credits; the second and the third find the
request succeeded and are refused. -/
theorem redelivered_job_charges_once_twice :
    statusOf 1 (generatedStore sampleClients queuedStore) = some .succeeded ∧
      (progressOf 1 (generatedStore sampleClients
        (generatedStore sampleClients queuedStore))).letters ≤ 1 ∧
      (progressOf 1 (generatedStore sampleClients
        (generatedStore sampleClients queuedStore))).spends ≤ 1 ∧
      statusOf 1 (generatedStore unavailableClients
        (generatedStore sampleClients
          (generatedStore sampleClients queuedStore))) = some .succeeded := by
  have hpending : statusOf 1 queuedStore = some .pending := rfl
  have hstatus : statusOf 1 (generatedStore sampleClients queuedStore) =
      some .succeeded := by
    decide
  have hagain : statusOf 1 (generatedStore sampleClients
      (generatedStore sampleClients queuedStore)) = some .succeeded := by
    decide
  have hspent : (generatedStore sampleClients queuedStore).db.users.get 1 =
      some sampleUser := rfl
  have hstill : (generatedStore sampleClients
      (generatedStore sampleClients queuedStore)).db.users.get 1 =
      some sampleUser := rfl
  have hfirst : RedeliveryUnpaid sampleJob 1 queuedStore :=
    ⟨(fun h => nomatch hpending.symm.trans h),
      (fun h => nomatch hpending.symm.trans h)⟩
  have hsecond : RedeliveryUnpaid sampleJob 1
      (generatedStore sampleClients queuedStore) := by
    constructor
    · intro _ user hget
      cases hspent.symm.trans hget
      exact Int.zero_lt_one
    · exact fun h => nomatch hstatus.symm.trans h
  have hthird : RedeliveryUnpaid sampleJob 1 (generatedStore sampleClients
      (generatedStore sampleClients queuedStore)) := by
    constructor
    · intro _ user hget
      cases hstill.symm.trans hget
      exact Int.zero_lt_one
    · exact fun h => nomatch hagain.symm.trans h
  have hrun : ExecutionRun sampleEnv sampleJob (RedeliveryUnpaid sampleJob 1)
      queuedStore (generatedStore sampleClients
        (generatedStore sampleClients queuedStore)) :=
    ExecutionRun.step sampleClients silentSender 1
      (ExecutionRun.step sampleClients silentSender 1 ExecutionRun.refl hfirst)
      hsecond
  have hqueued : (enqueueGeneration sampleEnv none 1 "vacancy" .formal
      0).transact profileStore = (.ok (1, _), queuedStore) := rfl
  have honce := redelivered_job_charges_once profileStore_referencesRequests
    hqueued hrun
  have hkept := honce.right.right hthird (Or.inl hagain) unavailableClients
    silentSender 1
  exact ⟨hstatus, honce.left, honce.right.left, hkept.trans hagain⟩

/-- The same request with a balance for two letters. -/
def fundedStore : Store coverAI :=
  ((enqueueGeneration sampleEnv none 1 "vacancy" .formal 0).transact
    (((BillingRequest.grantWelcomeBonus 1 5).session sampleEnv).transact
      profileStore).2).2

theorem second_delivery_charges_again :
    (progressOf 1 (generatedStore sampleClients fundedStore)).status =
        some .succeeded ∧
      (progressOf 1 (generatedStore sampleClients
        (generatedStore sampleClients fundedStore))).letters = 2 ∧
      (progressOf 1 (generatedStore sampleClients
        (generatedStore sampleClients fundedStore))).spends = 2 := by
  decide

end CoverAI
