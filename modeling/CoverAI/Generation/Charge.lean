import CoverAI.Billing.Books
import CoverAI.Generation.Execution

/-!
# All-or-nothing charge

One execution of a job that charges leaves a letter that is paid for, or no
letter and no charge.
-/

namespace CoverAI

open Txn Program

/-- One letter for the request, one SPEND row for it, and the balance reduced by
the price. -/
def ChargedLetter (job : Job) (before after : Db) : Prop :=
  exists requestId letterId letter balance,
    (forall id, job.generationRequestId = some id -> requestId = id) ∧
      (job.generationRequestId = none ->
        before.generationRequests.get requestId = none) ∧
      letter.generationRequestId = requestId ∧
      before.coverLetters.get letterId = none ∧
      after.coverLetters = before.coverLetters.insert letterId letter ∧
      (after.generationRequests.get requestId).map GenerationRequest.status =
        some .succeeded ∧
      after.creditTransactions = before.creditTransactions ++
        [spendRow job.userId job.costCredits balance requestId] ∧
      creditsOf before job.userId = some (balance + job.costCredits) ∧
      creditsOf after job.userId = some balance

/-- No letter, no ledger row and no change of a balance; the request of the job,
or one that is new, has not succeeded. -/
def NothingCharged (job : Job) (before after : Db) : Prop :=
  after.coverLetters = before.coverLetters ∧
    after.creditTransactions = before.creditTransactions ∧
    (forall userId, creditsOf after userId = creditsOf before userId) ∧
    forall requestId,
      (job.generationRequestId = some requestId ∨
        before.generationRequests.get requestId = none) ->
      (after.generationRequests.get requestId).map GenerationRequest.status ≠
        some .succeeded

section Charge

variable {env : Env} {clients : Clients} {job : Job} {now : Instant}
  {s s' : Store coverAI} {requestId : Int} {v : GenerationView}

/-- The job names a pending request of its user, or none. -/
def PendingJob (job : Job) (db : Db) : Prop :=
  forall requestId, job.generationRequestId = some requestId ->
    exists request, db.generationRequests.get requestId = some request ∧
      request.userId = job.userId ∧ request.status = .pending

theorem Binds.pending (h : Binds job now s requestId v)
    (hpending : PendingJob job s.db) :
    exists request, v.generationRequests.get requestId = some request ∧
      request.status = .pending := by
  cases h with
  | existing hjob _ _ =>
      rcases hpending requestId hjob with ⟨request, hget, _, hstatus⟩
      exact ⟨request, hget, hstatus⟩
  | created _ _ hfree _ hstatus _ =>
      exact ⟨_, Table.get_insert_self hfree rfl, hstatus⟩

theorem Binds.get_of_ne (h : Binds job now s requestId v) {id : Int}
    (hid : job.generationRequestId = some id ∨
      s.db.generationRequests.get id = none) (hne : id ≠ requestId) :
    v.generationRequests.get id = none := by
  rcases hid with hjob | hnone
  · exact (hne (h.eq_of_named hjob).left.symm).elim
  · cases h with
    | existing _ _ _ => exact hnone
    | created _ _ hfree _ _ _ =>
        change (s.db.generationRequests.insert requestId _).get id = none
        rw [Table.get_insert_of_ne _ hne]
        exact hnone

theorem Binds.not_succeeded_of_failed (h : Binds job now s requestId v)
    {errorMessage : Option String} {completedAt : Option Instant} {id : Int}
    (hid : job.generationRequestId = some id ∨
      s.db.generationRequests.get id = none) :
    ((v.setStatus requestId .failed errorMessage
      completedAt).generationRequests.get id).map GenerationRequest.status ≠
        some .succeeded := by
  rw [GenerationView.setStatus, Table.get_modify]
  split
  · cases v.generationRequests.get requestId with
    | none =>
        intro h
        cases h
    | some request =>
        intro h
        cases h
  · rename_i hne
    rw [h.get_of_ne hid hne]
    intro h
    cases h

theorem nothingCharged_of_view {u : GenerationView}
    (hview : generationView s'.db = u)
    (hsame : u.users = s.db.users ∧ u.coverLetters = s.db.coverLetters ∧
      u.creditTransactions = s.db.creditTransactions)
    (hrequests : forall id, (job.generationRequestId = some id ∨
        s.db.generationRequests.get id = none) ->
      (u.generationRequests.get id).map GenerationRequest.status ≠
        some .succeeded) : NothingCharged job s.db s'.db := by
  subst hview
  rcases hsame with ⟨husers, hletters, hledger⟩
  change s'.db.users = s.db.users at husers
  refine ⟨hletters, hledger, ?_, hrequests⟩
  intro userId
  rw [creditsOf, creditsOf, husers]

theorem not_succeeded_of_same (hpending : PendingJob job s.db) {id : Int}
    (hid : job.generationRequestId = some id ∨
      s.db.generationRequests.get id = none) :
    (s.db.generationRequests.get id).map GenerationRequest.status ≠
      some .succeeded := by
  rcases hid with hjob | hnone
  · rcases hpending id hjob with ⟨request, hget, _, hstatus⟩
    rw [hget, Option.map_some, hstatus]
    intro h
    cases h
  · rw [hnone]
    intro h
    cases h

theorem Binds.tables (h : Binds job now s requestId v) :
    v.users = s.db.users ∧ v.coverLetters = s.db.coverLetters ∧
      v.creditTransactions = s.db.creditTransactions := by
  cases h <;> exact ⟨rfl, rfl, rfl⟩

theorem Binds.not_succeeded (h : Binds job now s requestId v)
    (hpending : PendingJob job s.db) {id : Int}
    (hid : job.generationRequestId = some id ∨
      s.db.generationRequests.get id = none) :
    (v.generationRequests.get id).map GenerationRequest.status ≠
      some .succeeded := by
  by_cases hne : id = requestId
  · rcases h.pending hpending with ⟨request, hget, hstatus⟩
    rw [hne, hget, Option.map_some, hstatus]
    intro h
    cases h
  · rw [h.get_of_ne hid hne]
    intro h
    cases h

theorem not_chargedLetter_of_nothingCharged
    (h : NothingCharged job s.db s'.db) : ¬ ChargedLetter job s.db s'.db := by
  intro hletter
  rcases hletter with ⟨_, letterId, letter, _, _, _, _, hfree, hletters, _⟩
  have hget := Table.get_insert_self hfree (noChecks_eq letter)
  rw [← hletters, h.left, hfree] at hget
  cases hget

theorem chargedLetter_of_completed {letterId : Int} {letter : CoverLetter}
    {user : User} (hcharges : job.charges = true)
    (hpending : PendingJob job s.db) (hbinds : Binds job now s requestId v)
    (hrequest : letter.generationRequestId = requestId)
    (hfree : s.db.coverLetters.get letterId = none)
    (huser : s.db.users.get job.userId = some user)
    (hcovered : job.costCredits ≤ user.credits)
    (hview : generationView s'.db =
      ((v.addLetter letterId letter).setStatus requestId .succeeded none
        (some now)).charge job user requestId) :
    ChargedLetter job s.db s'.db := by
  rw [GenerationView.charge, if_pos hcharges] at hview
  rcases hbinds.tables with ⟨husers, hletters, hledger⟩
  have hcheck : userChecks { user with
      credits := user.credits - job.costCredits } = true := by
    have hrow := (userChecks_iff user).mp (Table.check_of_get huser)
    rw [userChecks_iff]
    simp only
    omega
  refine ⟨requestId, letterId, letter, user.credits - job.costCredits,
    fun _ hjob => (hbinds.eq_of_named hjob).left, ?_, hrequest, hfree, ?_, ?_,
    ?_, ?_, ?_⟩
  · intro hjob
    cases hbinds with
    | existing hown _ _ => cases hjob.symm.trans hown
    | created _ _ hnew _ _ _ => exact hnew
  · rw [← hletters]
    exact congrArg GenerationView.coverLetters hview
  · have hrequests := congrArg GenerationView.generationRequests hview
    change s'.db.generationRequests = _ at hrequests
    rcases hbinds.pending hpending with ⟨request, hget, _⟩
    have hstatus := GenerationView.get_setStatus hget .succeeded none (some now)
    change ((v.addLetter letterId letter).setStatus requestId _ _
      _).generationRequests.get requestId = _ at hstatus
    rw [hrequests]
    exact congrArg (Option.map GenerationRequest.status) hstatus
  · rw [← hledger]
    exact congrArg GenerationView.creditTransactions hview
  · rw [creditsOf_of_get huser]
    congr 1
    omega
  · have hmodified : s'.db.users = s.db.users.modify job.userId
        (User.write user { user with
          credits := user.credits - job.costCredits }) := by
      rw [← husers]
      exact congrArg GenerationView.users hview
    rw [creditsOf_update (creditsOf_of_get huser) hcheck hmodified, if_pos rfl]

end Charge

/-- Whatever the outside world does, an execution that charges leaves a letter
with its charge or neither. -/
theorem generation_charges_all_or_nothing (env : Env) (clients : Clients)
    (sender : TelegramSender) (job : Job) (now : Instant) (s : Store coverAI)
    (hcharge : job.chargeCredits = true) (hcost : 0 < job.costCredits)
    (hpending : PendingJob job s.db) :
    Xor (ChargedLetter job s.db
        (generateCoverLetter env clients sender job now s).2.db)
      (NothingCharged job s.db
        (generateCoverLetter env clients sender job now s).2.db) := by
  have hcharges : job.charges = true := by
    simp [Job.charges, hcharge, hcost]
  generalize hs' : (generateCoverLetter env clients sender job now s).2 = s'
  have hcases := generateCoverLetter_cases env clients sender job now s
  rw [hs'] at hcases
  have hnothing (h : NothingCharged job s.db s'.db) :
      Xor (ChargedLetter job s.db s'.db) (NothingCharged job s.db s'.db) :=
    Or.inr ⟨h, not_chargedLetter_of_nothingCharged h⟩
  rcases hcases with ⟨hdb, _⟩ | ⟨r, hends⟩
  · apply hnothing
    rw [hdb]
    exact ⟨rfl, rfl, fun _ => rfl, fun _ => not_succeeded_of_same hpending⟩
  · cases hends with
    | unbound _ hview =>
        apply hnothing
        exact nothingCharged_of_view hview ⟨rfl, rfl, rfl⟩
          fun _ => not_succeeded_of_same hpending
    | quotaKept hbinds hview _ =>
        apply hnothing
        exact nothingCharged_of_view hview hbinds.tables
          fun _ => hbinds.not_succeeded hpending
    | failed hbinds hview _ =>
        apply hnothing
        exact nothingCharged_of_view hview hbinds.tables
          fun _ => hbinds.not_succeeded_of_failed
    | completed hbinds hrequest hfree huser hcovered hview _ =>
        have hcharged := chargedLetter_of_completed hcharges hpending hbinds
          hrequest hfree huser (hcovered hcharges) hview
        exact Or.inl ⟨hcharged,
          fun h => not_chargedLetter_of_nothingCharged h hcharged⟩

/-!
# A paid letter
-/

def sampleProfile : ResumeProfile where
  userId := 1
  title := "Engineer"
  resumeText := "Lean"

def sampleClients : Clients where
  getVacancy := fun hhId => .ok {
    hhId := hhId
    title := "Prover"
    employerHhId := 3
    employerName := "Employer"
    url := none
    archived := .bool false
    typeId := some "open"
    rawPayload := [] }
  getEmployer := fun hhId => .ok {
    hhId := hhId
    name := "Employer"
    url := none
    rawPayload := [] }
  generateCoverLetter := fun _ => .ok {
    text := "Dear employer"
    model := "model"
    generationMs := 1 }

def silentSender : TelegramSender :=
  fun _ _ => .ok ()

def profileStore : Store coverAI :=
  bonusStore.setDb { bonusStore.db with
    resumeProfiles := Table.empty.insert 1 sampleProfile }

/-- A user with a profile and five credits, and one queued request. -/
def queuedStore : Store coverAI :=
  ((enqueueGeneration sampleEnv none 1 "vacancy" .formal 0).transact
    profileStore).2

def sampleJob : Job :=
  queuedJob 1 "vacancy" .formal 5 1

def generatedStore (clients : Clients) (s : Store coverAI) : Store coverAI :=
  (generateCoverLetter sampleEnv clients silentSender sampleJob 1 s).2

def statusOf (requestId : Int) (s : Store coverAI) : Option GenerationStatus :=
  (s.db.generationRequests.get requestId).map GenerationRequest.status

theorem generation_charges_all_or_nothing_paid :
    ChargedLetter sampleJob queuedStore.db
      (generatedStore sampleClients queuedStore).db := by
  have hpending : PendingJob sampleJob queuedStore.db := by
    intro requestId hjob
    cases hjob
    exact ⟨_, rfl, rfl, rfl⟩
  have hstatus : statusOf 1 (generatedStore sampleClients queuedStore) =
      some .succeeded := by
    decide
  rcases generation_charges_all_or_nothing sampleEnv sampleClients silentSender
    sampleJob 1 queuedStore rfl (by decide) hpending with
    ⟨hcharged, _⟩ | ⟨hnothing, _⟩
  · exact hcharged
  · exact (hnothing.right.right.right 1 (Or.inl rfl) hstatus).elim

end CoverAI
