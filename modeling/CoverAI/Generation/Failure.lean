import CoverAI.Generation.Charge

/-!
# Failed generations

The mark of a failed request is written in the transaction that an escaping
exception rolls back.  Only the exceptions of the hh.ru client pass the service's
handler and are kept from escaping by the task; after every other failure the
request is pending as before.
-/

namespace CoverAI

open Txn Program

/-- The execution committed a letter for the request. -/
def LetterCommitted (requestId : Int) (before after : Db) : Prop :=
  exists letterId letter,
    before.coverLetters.get letterId = none ∧
      after.coverLetters.get letterId = some letter ∧
      letter.generationRequestId = requestId

def DurablyEnded (requestId : Int) (before after : Db) : Prop :=
  (LetterCommitted requestId before after ∨
      (after.generationRequests.get requestId).map GenerationRequest.status =
        some .failed) ∧
    (after.generationRequests.get requestId).map GenerationRequest.status ≠
      some .pending

section Failure

variable {job : Job} {now : Instant} {s s' : Store coverAI} {requestId : Int}
  {v : GenerationView} {request : GenerationRequest}

theorem not_durablyEnded_of_pending
    (hpending : (s'.db.generationRequests.get requestId).map
      GenerationRequest.status = some .pending) :
    ¬ DurablyEnded requestId s.db s'.db :=
  fun h => h.right hpending

theorem durablyEnded_of_failed {errorMessage : Option String}
    {completedAt : Option Instant}
    (hget : v.generationRequests.get requestId = some request)
    (hview : generationView s'.db =
      v.setStatus requestId .failed errorMessage completedAt) :
    DurablyEnded requestId s.db s'.db := by
  have hrequests := congrArg (fun u : GenerationView =>
    (u.generationRequests.get requestId).map GenerationRequest.status) hview
  simp only [GenerationView.get_setStatus hget] at hrequests
  have hstatus : (s'.db.generationRequests.get requestId).map
      GenerationRequest.status = some .failed := hrequests
  refine ⟨Or.inr hstatus, ?_⟩
  intro hpending
  exact nomatch hstatus.symm.trans hpending

theorem durablyEnded_of_completed {letterId : Int} {letter : CoverLetter}
    {user : User} (hbinds : Binds job now s requestId v)
    (hget : v.generationRequests.get requestId = some request)
    (hrequest : letter.generationRequestId = requestId)
    (hfree : s.db.coverLetters.get letterId = none)
    (hview : generationView s'.db =
      ((v.addLetter letterId letter).setStatus requestId .succeeded none
        (some now)).charge job user requestId) :
    DurablyEnded requestId s.db s'.db := by
  constructor
  · refine Or.inl ⟨letterId, letter, hfree, ?_, hrequest⟩
    have hletters := congrArg GenerationView.coverLetters hview
    rw [GenerationView.charge_coverLetters] at hletters
    change s'.db.coverLetters = v.coverLetters.insert letterId letter at hletters
    rw [hletters, hbinds.tables.right.left]
    exact Table.get_insert_self hfree rfl
  · have hrequests := congrArg GenerationView.generationRequests hview
    rw [GenerationView.charge_generationRequests] at hrequests
    have hstatus := GenerationView.get_setStatus hget .succeeded none (some now)
    change s'.db.generationRequests = _ at hrequests
    change ((v.addLetter letterId letter).setStatus requestId _ _
      _).generationRequests.get requestId = _ at hstatus
    rw [hrequests, hstatus]
    exact fun h => nomatch h

end Failure

/-- A queued request is durably ended exactly where the execution comes to a
letter whose price the balance covers, or to an exception of the hh.ru
client. -/
theorem request_durablyEnded_iff (env : Env) (clients : Clients)
    (sender : TelegramSender) (job : Job) (now : Instant) (s : Store coverAI)
    (requestId : Int) (request : GenerationRequest)
    (hjob : job.generationRequestId = some requestId)
    (hget : s.db.generationRequests.get requestId = some request)
    (hpending : request.status = .pending) (hfree : LetterIdFree s) :
    DurablyEnded requestId s.db
        (generateCoverLetter env clients sender job now s).2.db <->
      Completes env clients job requestId now s ∨
        FailsDurably env clients job requestId now s := by
  have hcases := generateCoverLetter_cases env clients sender job now s
  generalize (generateCoverLetter env clients sender job now s).2 = s' at hcases ⊢
  rcases hcases with ⟨hdb, houtcome⟩ | ⟨r, hends⟩
  · have hstill : (s'.db.generationRequests.get requestId).map
        GenerationRequest.status = some .pending := by
      rw [hdb, hget, Option.map_some, hpending]
    have hneither := houtcome requestId hjob hfree
    exact iff_of_false (not_durablyEnded_of_pending hstill)
      (not_or.mpr hneither)
  · cases hends with
    | unbound hnone _ => exact nomatch hnone.symm.trans hjob
    | @quotaKept _ _ id v hbinds hview houtcome =>
        rcases hbinds.eq_of_named hjob with ⟨rfl, rfl⟩
        have hrequests := congrArg GenerationView.generationRequests hview
        change s'.db.generationRequests = s.db.generationRequests at hrequests
        have hstill : (s'.db.generationRequests.get id).map
            GenerationRequest.status = some .pending := by
          rw [hrequests, hget, Option.map_some, hpending]
        exact iff_of_false (not_durablyEnded_of_pending hstill)
          (not_or.mpr (houtcome hjob))
    | failed hbinds hview houtcome =>
        rcases hbinds.eq_of_named hjob with ⟨rfl, rfl⟩
        exact iff_of_true (durablyEnded_of_failed hget hview)
          (Or.inr (houtcome hjob))
    | completed hbinds hrequest hnew _ _ hview houtcome =>
        rcases hbinds.eq_of_named hjob with ⟨rfl, rfl⟩
        exact iff_of_true
          (durablyEnded_of_completed hbinds hget hrequest hnew hview)
          (Or.inl (houtcome hjob))

def unavailableClients : Clients :=
  { sampleClients with
    getVacancy := fun _ => .error (.hhClientError "unavailable") }

/-- The vacancy cannot be loaded. -/
theorem request_durablyEnded_iff_unavailable :
    DurablyEnded 1 queuedStore.db
      (generatedStore unavailableClients queuedStore).db := by
  have houtcome : requestOutcome sampleEnv unavailableClients sampleJob 1 1
      queuedStore = .error (.hhClientError "unavailable") := rfl
  exact (request_durablyEnded_iff sampleEnv unavailableClients silentSender
    sampleJob 1 queuedStore 1 _ rfl rfl rfl rfl).mpr
      (Or.inr ⟨_, houtcome, rfl⟩)

def timedOutClients : Clients :=
  { sampleClients with
    generateCoverLetter := fun _ => .error (.llmClientError "timeout") }

/-- The service marks the request for a failure of the model; the exception
escapes the task, and the mark is rolled back. -/
theorem model_failure_leaves_request_pending :
    statusOf 1 queuedStore = some .pending ∧
      statusOf 1 (generatedStore timedOutClients queuedStore) =
        some .pending ∧
      ¬ DurablyEnded 1 queuedStore.db
        (generatedStore timedOutClients queuedStore).db := by
  have hpending : statusOf 1 (generatedStore timedOutClients queuedStore) =
      some .pending := by
    decide
  exact ⟨by decide, hpending, fun h => h.right hpending⟩

end CoverAI
