import CoverAI.Generation.Footprints

/-!
# One execution of the worker's job

What an execution can leave behind: nothing, a request that failed, or a letter
that is paid for.  The outside world enters through three outcomes (the vacancy
service, the prompt builder and the model), and what an execution leaves is
determined by them and by the rows of the user.
-/

namespace CoverAI

open Txn Program

/-!
# Frame of the vacancy service
-/

/-- The tables an execution reads or writes beside vacancies and employers. -/
structure GenerationView where
  users : Table User userChecks
  resumeProfiles : Table ResumeProfile noChecks
  generationRequests : Table GenerationRequest noChecks
  coverLetters : Table CoverLetter noChecks
  creditTransactions : List CreditTransaction

def generationView (db : Db) : GenerationView where
  users := db.users
  resumeProfiles := db.resumeProfiles
  generationRequests := db.generationRequests
  coverLetters := db.coverLetters
  creditTransactions := db.creditTransactions

namespace GenerationView

def addRequest (v : GenerationView) (id : Int) (request : GenerationRequest) :
    GenerationView :=
  { v with generationRequests := v.generationRequests.insert id request }

def setStatus (v : GenerationView) (requestId : Int)
    (status : GenerationStatus) (errorMessage : Option String)
    (completedAt : Option Instant) : GenerationView :=
  { v with
    generationRequests := v.generationRequests.modify requestId fun r =>
      r.withStatus status errorMessage completedAt }

def addLetter (v : GenerationView) (id : Int) (letter : CoverLetter) :
    GenerationView :=
  { v with coverLetters := v.coverLetters.insert id letter }

/-- The handlers of the service mark the request for some of the exceptions. -/
def afterError (v : GenerationView) (requestId : Int) (e : Exc)
    (now : Instant) : GenerationView :=
  if isGenerationFailure e then
    v.setStatus requestId .failed (some (errorText e)) (some now)
  else v

/-- What the request's row holds after its status was set. -/
theorem get_setStatus {v : GenerationView} {requestId : Int}
    {request : GenerationRequest}
    (hget : v.generationRequests.get requestId = some request)
    (status : GenerationStatus) (errorMessage : Option String)
    (completedAt : Option Instant) :
    (v.setStatus requestId status errorMessage
      completedAt).generationRequests.get requestId =
        some (request.withStatus status errorMessage completedAt) := by
  rw [setStatus, Table.get_modify_self, hget, Option.map_some,
    Table.checkedUpdate_of_check rfl]

end GenerationView

/-- Vacancies and employers are left out, and so are their sequences. -/
def vacancyFrame (s : Store coverAI) : GenerationView × Int × Int :=
  (generationView s.db, s.seq SeqName.generationRequests,
    s.seq SeqName.coverLetters)

theorem preserves_vacancyFrame {α : Type} {Q : α -> Prop} {p : Session α}
    (h : p.Within vacancyFootprint Q) : p.Preserves vacancyFrame := by
  apply preserves_of_within h
  · exact fun _ => trivial
  · intro w hw s
    cases hw <;> rfl
  · rintro t (rfl | rfl) s <;> rfl
  · exact fun _ h => h.elim

theorem getOrLoadVacancy_preserves (env : Env) (clients : Clients)
    (messageText : String) (now : Instant) :
    (getOrLoadVacancy env clients messageText now).Preserves vacancyFrame :=
  preserves_vacancyFrame (getOrLoadVacancy_within vacancyFootprint_permits
    (fun _ _ => trivial) trivial messageText now)

/-!
# Outcomes of the outside world
-/

def vacancyOutcome (env : Env) (clients : Clients) (messageText : String)
    (now : Instant) (s : Store coverAI) : Except Exc VacancyResult :=
  ((getOrLoadVacancy env clients messageText now).run s).1

/-- An answer without text is an error. -/
def textOutcome (env : Env) (clients : Clients) (profile : ResumeProfile)
    (result : VacancyResult) (tone : Tone) :
    Except Exc (String × LLMCompletion) :=
  match completionFor env clients profile result tone with
  | .error e => .error e
  | .ok (prompt, completion) =>
      if strip completion.text = "" then .error Exc.emptyLLMResponse
      else .ok (prompt, completion)

def letterOutcome (env : Env) (clients : Clients) (messageText : String)
    (profile : ResumeProfile) (tone : Tone) (now : Instant)
    (s : Store coverAI) : Except Exc (VacancyResult × String × LLMCompletion) :=
  match vacancyOutcome env clients messageText now s with
  | .error e => .error e
  | .ok result =>
      match textOutcome env clients profile result tone with
      | .error e => .error e
      | .ok (prompt, completion) => .ok (result, prompt, completion)

/-- The outcome for a queued request, with the rows of its user. -/
def requestOutcome (env : Env) (clients : Clients) (job : Job)
    (requestId : Int) (now : Instant) (s : Store coverAI) :
    Except Exc (User × VacancyResult × String × LLMCompletion) :=
  match Tone.ofValue job.tone, s.db.users.get job.userId with
  | none, _ => .error (Exc.valueError "not a valid Tone")
  | some _, none => .error Exc.userNotFound
  | some tone, some user =>
      if user.credits < 1 then .error Exc.insufficientCredits
      else
        match s.db.resumeProfiles.first? fun p => p.userId = job.userId,
          (s.db.generationRequests.get requestId).filter
            fun r => r.userId = job.userId with
        | none, _ => .error Exc.profileNotFound
        | some _, none => .error Exc.generationRequestNotFound
        | some (_, profile), some request =>
            match letterOutcome env clients job.vacancyUrl
              (snapshotProfile profile request)
              (request.snapshotTone.getD tone) now s with
            | .error e => .error e
            | .ok letter => .ok (user, letter)

/-!
# Writes of the cover letter service
-/

def setStatus (requestId : Int) (status : GenerationStatus)
    (errorMessage : Option String) (completedAt : Option Instant) (db : Db) :
    Db :=
  { db with
    generationRequests := db.generationRequests.modify requestId fun r =>
      r.withStatus status errorMessage completedAt }

theorem run_updateStatus (requestId : Int) (status : GenerationStatus)
    (errorMessage : Option String) (completedAt : Option Instant)
    (s : Store coverAI) :
    (updateStatus requestId status errorMessage completedAt).run s =
      (.ok (), s.setDb (setStatus requestId status errorMessage completedAt
        s.db)) := by
  simp only [updateStatus, select, ask, bind_eq, read_bind, ret_bind, run]
  cases hget : s.db.generationRequests.get requestId with
  | none =>
      rw [setStatus, Table.modify_of_none hget]
      rfl
  | some row =>
      have hwrite : GenerationRequest.write row
          (row.withStatus status errorMessage completedAt) row =
            row.withStatus status errorMessage completedAt := by
        simp [GenerationRequest.write, GenerationRequest.withStatus]
      have hviolation : (updateGenerationRequest requestId row
          (row.withStatus status errorMessage completedAt)).violation s.db =
            none :=
        violation_updateIn.mpr fun _ _ => rfl
      simp only [flushUnit, run, Write.attempt_cons_of_none hviolation,
        Write.attempt_nil, updateGenerationRequest_apply]
      rw [setStatus, Table.modify_congr
        (g := fun r => r.withStatus status errorMessage completedAt) hget hwrite]

section Writes

variable {α : Type} {s : Store coverAI} {requestId : Int} {now : Instant}

theorem exits_updateStatus_bind {status : GenerationStatus}
    {errorMessage : Option String} {completedAt : Option Instant}
    {f : Unit -> Session α} {Q : Except Exc α -> Store coverAI -> Prop}
    (h : (f ()).Exits Q (s.setDb (setStatus requestId status errorMessage
      completedAt s.db))) :
    ((updateStatus requestId status errorMessage completedAt).bind f).Exits Q
      s := by
  rw [exits_bind, Exits, run_updateStatus]
  exact h

/-- The request that is bound is marked, and the exception goes on. -/
theorem exits_onFailure {e : Exc} {Q : Except Exc α -> Store coverAI -> Prop}
    (hmarked : isGenerationFailure e = true ->
      Q (.error e) (s.setDb (setStatus requestId .failed (some (errorText e))
        (some now) s.db)))
    (hother : isGenerationFailure e = false -> Q (.error e) s) :
    (onFailure (some requestId) now e : Session α).Exits Q s := by
  unfold onFailure
  split
  · rename_i h
    exact exits_updateStatus_bind (hmarked h)
  · rename_i h
    exact hother (by simpa using h)

theorem onFailure_bind {β : Type} (request : Option Int) (now : Instant)
    (e : Exc) (f : β -> Session α) :
    (onFailure request now e).bind f = onFailure request now e := by
  unfold onFailure
  split
  · cases request with
    | none => rfl
    | some requestId => simp only [bind_eq, bind_assoc, raise_bind]
  · rfl

theorem exits_onFailure_none {e : Exc}
    {Q : Except Exc α -> Store coverAI -> Prop} (h : Q (.error e) s) :
    (onFailure none now e : Session α).Exits Q s := by
  unfold onFailure
  split <;> exact h

theorem exits_flushUnit_bind {rs : List LockName} {ws : List (Write coverAI)}
    {f : Unit -> Session α} {Q : Except Exc α -> Store coverAI -> Prop}
    (hok : forall db, Write.attempt ws s.db = .ok db ->
      (f ()).Exits Q (s.setDb db))
    (herror : forall e, Write.attempt ws s.db = .error e -> Q (.error e) s) :
    ((flushUnit rs ws).bind f).Exits Q s := by
  simp only [flushUnit, flush_bind, exits_flush]
  cases hws : Write.attempt ws s.db with
  | ok db => exact hok db hws
  | error e => exact herror e hws

theorem attempt_insertCoverLetter {id : Int} {letter : CoverLetter} {db : Db} :
    Write.attempt [insertCoverLetter id letter] db =
      if db.coverLetters.get id = none then
        .ok { db with coverLetters := db.coverLetters.insert id letter }
      else .error Exc.integrityError := by
  simp only [Write.attempt_cons, insertCoverLetter, insertInto, noChecks_eq,
    and_true]
  by_cases h : db.coverLetters.get id = none
  · simp [h]
  · simp [h]

theorem attempt_insertGenerationRequest {id : Int}
    {request : GenerationRequest} {db : Db} :
    Write.attempt [insertGenerationRequest id request] db =
      if db.generationRequests.get id = none then
        .ok { db with
          generationRequests := db.generationRequests.insert id request }
      else .error Exc.integrityError := by
  simp only [Write.attempt_cons, insertGenerationRequest, insertInto,
    noChecks_eq, and_true]
  by_cases h : db.generationRequests.get id = none
  · simp [h]
  · simp [h]

/-- The letter is saved under the next id of its sequence, unless that is
taken. -/
theorem exits_generateAndSaveLetter {env : Env} {clients : Clients}
    {request : GenerationRequest} {profile : ResumeProfile}
    {result : VacancyResult} {tone : Tone}
    {Q : Except Exc (Int × CoverLetter) -> Store coverAI -> Prop}
    (herror : forall e, textOutcome env clients profile result tone = .error e ->
      Q (.error e) s)
    (hsaved : forall prompt completion,
      textOutcome env clients profile result tone = .ok (prompt, completion) ->
      s.db.coverLetters.get (s.seq SeqName.coverLetters) = none ->
      let letter :=
        coverLetter requestId request result tone prompt completion now
      Q (.ok (s.seq SeqName.coverLetters, letter))
        ((s.draw SeqName.coverLetters).setDb { s.db with
          coverLetters :=
            s.db.coverLetters.insert (s.seq SeqName.coverLetters) letter }))
    (htaken : s.db.coverLetters.get (s.seq SeqName.coverLetters) ≠ none ->
      Q (.error Exc.integrityError) (s.draw SeqName.coverLetters)) :
    (generateAndSaveLetter env clients requestId request profile result tone
      now).Exits Q s := by
  unfold textOutcome at herror hsaved
  unfold generateAndSaveLetter
  cases hcompletion : completionFor env clients profile result tone with
  | error e => exact herror e (by rw [hcompletion])
  | ok answer =>
      rcases answer with ⟨prompt, completion⟩
      simp only [hcompletion] at herror hsaved
      simp only [ofExcept, bind_eq, ret_bind]
      by_cases htext : (coverLetter requestId request result tone prompt
          completion now).text = ""
      · have hblank : strip completion.text = "" := htext
        rw [if_pos htext]
        exact herror _ (if_pos hblank)
      · have hblank : ¬ strip completion.text = "" := htext
        rw [if_neg htext]
        apply exits_flushUnit_bind
        · intro db hdb
          rw [attempt_insertCoverLetter] at hdb
          split at hdb
          · rename_i hfree
            cases hdb
            exact hsaved prompt completion (if_neg hblank) hfree
          · cases hdb
        · intro e he
          rw [attempt_insertCoverLetter] at he
          split at he
          · cases he
          · rename_i hfree
            cases he
            exact htaken hfree

theorem exits_createGenerationRequest {request : GenerationRequest}
    {Q : Except Exc (Int × GenerationRequest) -> Store coverAI -> Prop}
    (hok : s.db.generationRequests.get (s.seq SeqName.generationRequests) =
        none ->
      Q (.ok (s.seq SeqName.generationRequests, request))
        ((s.draw SeqName.generationRequests).setDb { s.db with
          generationRequests := s.db.generationRequests.insert
            (s.seq SeqName.generationRequests) request }))
    (htaken : Q (.error Exc.integrityError)
      (s.draw SeqName.generationRequests)) :
    (createGenerationRequest request).Exits Q s := by
  apply exits_flushUnit_bind
  · intro db hdb
    rw [attempt_insertGenerationRequest] at hdb
    split at hdb
    · rename_i hfree
      cases hdb
      exact hok hfree
    · cases hdb
  · intro e he
    rw [attempt_insertGenerationRequest] at he
    split at he
    · cases he
    · cases he
      exact htaken

/-- A failure to write the letter marks the bound request. -/
theorem exits_generateAndSaveLetter_tryCatch {env : Env} {clients : Clients}
    {request : GenerationRequest} {profile : ResumeProfile}
    {result : VacancyResult} {tone : Tone}
    {Q : Except Exc (Int × CoverLetter) -> Store coverAI -> Prop}
    (herror : forall e s', textOutcome env clients profile result tone =
        .error e ->
      generationView s'.db = (generationView s.db).afterError requestId e now ->
      Q (.error e) s')
    (hsaved : forall prompt completion s',
      textOutcome env clients profile result tone = .ok (prompt, completion) ->
      s.db.coverLetters.get (s.seq SeqName.coverLetters) = none ->
      let letter :=
        coverLetter requestId request result tone prompt completion now
      generationView s'.db = (generationView s.db).addLetter
        (s.seq SeqName.coverLetters) letter ->
      Q (.ok (s.seq SeqName.coverLetters, letter)) s')
    (htaken : forall s',
      s.db.coverLetters.get (s.seq SeqName.coverLetters) ≠ none ->
      generationView s'.db = generationView s.db ->
      Q (.error Exc.integrityError) s') :
    ((generateAndSaveLetter env clients requestId request profile result tone
      now).tryCatch (onFailure (some requestId) now)).Exits Q s := by
  rw [exits_tryCatch]
  apply exits_generateAndSaveLetter
  · intro e he
    apply exits_onFailure
    · intro hfailure
      exact herror e _ he (if_pos hfailure).symm
    · intro hother
      refine herror e _ he ?_
      rw [GenerationView.afterError, if_neg]
      simp [hother]
  · intro prompt completion hanswer hfree
    exact hsaved prompt completion _ hanswer hfree rfl
  · intro htakenId
    apply exits_onFailure
    · exact fun h => nomatch h
    · intro _
      exact htaken _ htakenId rfl

end Writes

/-!
# Exits of the cover letter service
-/

/-- The request the execution works for: the one the job names, or one that
passed the quota check and was inserted by the execution. -/
inductive Binds (job : Job) (now : Instant) (s : Store coverAI) :
    Int -> GenerationView -> Prop where
  | existing {requestId : Int} {request : GenerationRequest}
      (hjob : job.generationRequestId = some requestId)
      (hget : s.db.generationRequests.get requestId = some request)
      (howner : request.userId = job.userId) :
      Binds job now s requestId (generationView s.db)
  | created {requestId : Int} {request : GenerationRequest} {usage : PlanUsage}
      (hjob : job.generationRequestId = none)
      (hquota : ((ensureCanGenerate none job.userId now).run s).1 = .ok usage)
      (hfree : s.db.generationRequests.get requestId = none)
      (howner : request.userId = job.userId)
      (hpending : request.status = .pending)
      (hcreated : request.createdAt = now) :
      Binds job now s requestId
        ((generationView s.db).addRequest requestId request)

/-- The next id of a cover letter is not in use. -/
def LetterIdFree (s : Store coverAI) : Prop :=
  s.db.coverLetters.get (s.seq SeqName.coverLetters) = none

/-- How the call of the service ends.  Where the job names a request, the
outcome of the request is the reason. -/
inductive GenerationEnds (env : Env) (clients : Clients) (job : Job)
    (now : Instant) (s : Store coverAI) :
    Except Exc GeneratedCoverLetter -> Store coverAI -> Prop where
  | early {e : Exc} {s' : Store coverAI}
      (hview : generationView s'.db = generationView s.db)
      (houtcome : forall requestId, job.generationRequestId = some requestId ->
        requestOutcome env clients job requestId now s = .error e ∧
          e.isHHClientError = false ∧ e ≠ .quotaExceeded) :
      GenerationEnds env clients job now s (.error e) s'
  | raised {e : Exc} {s' : Store coverAI} {requestId : Int}
      {v : GenerationView} (hbinds : Binds job now s requestId v)
      (hview : generationView s'.db = v.afterError requestId e now)
      (houtcome : job.generationRequestId = some requestId ->
        requestOutcome env clients job requestId now s = .error e ∨
          (e = .integrityError ∧ ¬ LetterIdFree s)) :
      GenerationEnds env clients job now s (.error e) s'
  | written {result : GeneratedCoverLetter} {s' : Store coverAI}
      {requestId : Int} {v : GenerationView}
      {letter : VacancyResult × String × LLMCompletion}
      (hbinds : Binds job now s requestId v)
      (hrequest : result.letter.generationRequestId = requestId)
      (huser : s.db.users.get job.userId = some result.user)
      (hfree : s.db.coverLetters.get result.letterId = none)
      (hview : generationView s'.db =
        (v.addLetter result.letterId result.letter).setStatus requestId
          .succeeded none (some now))
      (houtcome : job.generationRequestId = some requestId ->
        requestOutcome env clients job requestId now s =
          .ok (result.user, letter)) :
      GenerationEnds env clients job now s (.ok result) s'

section Service

variable {env : Env} {clients : Clients} {job : Job} {now : Instant}
  {s : Store coverAI}

theorem exits_select_bind {α β : Type} {q : Db -> β} {f : β -> Session α}
    {Q : Except Exc α -> Store coverAI -> Prop}
    (h : (f (q s.db)).Exits Q s) : ((select q).bind f).Exits Q s :=
  h

theorem exits_selectForUpdate_bind {α β : Type} {r : LockName} {q : Db -> β}
    {f : β -> Session α} {Q : Except Exc α -> Store coverAI -> Prop}
    (h : (f (q s.db)).Exits Q s) : ((selectForUpdate r q).bind f).Exits Q s :=
  h

/-- The end of the service, once the vacancy is there and a request is bound. -/
theorem exits_writeLetter {tone : Tone} {profile : ResumeProfile}
    {requestId : Int} {request : GenerationRequest} {user : User}
    {result : VacancyResult} {t : Store coverAI}
    (hbinds : Binds job now s requestId (generationView t.db))
    (huser : s.db.users.get job.userId = some user)
    (hletters : t.db.coverLetters = s.db.coverLetters)
    (hseq : t.seq SeqName.coverLetters = s.seq SeqName.coverLetters)
    (houtcome : job.generationRequestId = some requestId ->
      requestOutcome env clients job requestId now s =
        match textOutcome env clients profile result tone with
        | .error e => .error e
        | .ok (prompt, completion) => .ok (user, result, prompt, completion)) :
    (((generateAndSaveLetter env clients requestId request profile result tone
      now).tryCatch (onFailure (some requestId) now)).bind fun entry =>
        (markSucceeded entry.2.generationRequestId now).bind fun _ =>
          ret { user := user, letterId := entry.1, letter := entry.2 }).Exits
      (GenerationEnds env clients job now s) t := by
  rw [exits_bind]
  apply exits_generateAndSaveLetter_tryCatch
  · intro e t' htext hview
    refine GenerationEnds.raised hbinds hview ?_
    intro hjob
    rw [houtcome hjob, htext]
    exact Or.inl rfl
  · intro prompt completion t' htext hfree letter hview
    apply exits_updateStatus_bind
    rw [exits_ret]
    have hok : job.generationRequestId = some requestId ->
        requestOutcome env clients job requestId now s =
          .ok (user, result, prompt, completion) := by
      intro hjob
      rw [houtcome hjob, htext]
    refine GenerationEnds.written hbinds rfl huser ?_ ?_ hok
    · rw [← hletters]
      exact hfree
    · change (generationView t'.db).setStatus requestId .succeeded none
        (some now) = _
      rw [hview]
  · intro t' htaken hview
    refine GenerationEnds.raised hbinds ?_ ?_
    · rw [hview]
      rfl
    · intro _
      refine Or.inr ⟨rfl, ?_⟩
      rw [LetterIdFree, ← hletters, ← hseq]
      exact htaken

theorem exits_getOrLoadVacancy_bind {α : Type} {messageText : String}
    {request : Option Int} {f : VacancyResult -> Session α}
    {Q : Except Exc α -> Store coverAI -> Prop}
    (herror : forall e t,
      vacancyOutcome env clients messageText now s = .error e ->
      generationView t.db = generationView s.db ->
      (onFailure request now e : Session α).Exits Q t)
    (hloaded : forall result t,
      vacancyOutcome env clients messageText now s = .ok result ->
      generationView t.db = generationView s.db ->
      t.seq SeqName.coverLetters = s.seq SeqName.coverLetters ->
      (f result).Exits Q t) :
    (((getOrLoadVacancy env clients messageText now).tryCatch
      (onFailure request now)).bind f).Exits Q s := by
  rw [exits_bind, exits_tryCatch]
  apply exits_of_preserves (getOrLoadVacancy_preserves env clients messageText now)
  intro t hframe
  have hview : generationView t.db = generationView s.db :=
    congrArg Prod.fst hframe
  cases hres : ((getOrLoadVacancy env clients messageText now).run s).1 with
  | error e =>
      have hraises := herror e t hres hview
      rw [← onFailure_bind request now e f, exits_bind] at hraises
      exact hraises
  | ok result =>
      exact hloaded result t hres hview
        (congrArg (fun frame => frame.2.2) hframe)

section Stages

variable {tone : Tone} {user : User} {profileId requestId : Int}
  {profile : ResumeProfile}

theorem exits_loadAndWrite_existing {request : GenerationRequest}
    (hjob : job.generationRequestId = some requestId)
    (hget : s.db.generationRequests.get requestId = some request)
    (howner : request.userId = job.userId)
    (huser : s.db.users.get job.userId = some user)
    (houtcome : requestOutcome env clients job requestId now s =
      match letterOutcome env clients job.vacancyUrl
        (snapshotProfile profile request) (request.snapshotTone.getD tone) now
        s with
      | .error e => .error e
      | .ok letter => .ok (user, letter)) :
    (loadAndWrite env clients job.userId job.vacancyUrl user profileId profile
      tone (some (requestId, request)) now).Exits
      (GenerationEnds env clients job now s) s := by
  have hbinds : Binds job now s requestId (generationView s.db) :=
    Binds.existing hjob hget howner
  apply exits_getOrLoadVacancy_bind
  · intro e t hvacancy hview
    have herror : requestOutcome env clients job requestId now s = .error e := by
      rw [houtcome, letterOutcome, hvacancy]
    apply exits_onFailure
    · intro hfailure
      refine GenerationEnds.raised hbinds ?_ fun _ => Or.inl herror
      rw [GenerationView.afterError, if_pos hfailure, ← hview]
      rfl
    · intro hother
      refine GenerationEnds.raised hbinds ?_ fun _ => Or.inl herror
      rw [GenerationView.afterError, if_neg (by simp [hother]), hview]
  · intro result t hvacancy hview hseq
    rw [← hview] at hbinds
    refine exits_writeLetter hbinds huser
      (congrArg GenerationView.coverLetters hview) hseq ?_
    intro _
    simp only [houtcome, letterOutcome, hvacancy]
    cases textOutcome env clients (snapshotProfile profile request) result
      (request.snapshotTone.getD tone) <;> rfl

theorem exits_loadAndWrite_created {usage : PlanUsage}
    (hjob : job.generationRequestId = none)
    (hquota : ((ensureCanGenerate none job.userId now).run s).1 = .ok usage)
    (huser : s.db.users.get job.userId = some user) :
    (loadAndWrite env clients job.userId job.vacancyUrl user profileId profile
      tone none now).Exits
      (GenerationEnds env clients job now s) s := by
  have hnone : forall id, job.generationRequestId ≠ some id := by
    intro id hid
    rw [hjob] at hid
    cases hid
  apply exits_getOrLoadVacancy_bind
  · intro e t _ hview
    apply exits_onFailure_none
    exact GenerationEnds.early hview fun id hid => (hnone id hid).elim
  · intro result t _ hview hseq
    have hrequests : t.db.generationRequests = s.db.generationRequests :=
      congrArg GenerationView.generationRequests hview
    simp only [writeLetter, bind_eq, bind_assoc]
    rw [exits_bind, exits_tryCatch]
    apply exits_createGenerationRequest
    · intro hfree
      have hbinds : Binds job now s (t.seq SeqName.generationRequests)
          ((generationView s.db).addRequest (t.seq SeqName.generationRequests)
            (pendingRequest job.userId profileId result.vacancyId tone profile
              result.vacancy now)) := by
        rw [hrequests] at hfree
        exact Binds.created hjob hquota hfree rfl rfl rfl
      rw [← hview] at hbinds
      exact exits_writeLetter hbinds huser
        (congrArg GenerationView.coverLetters hview) hseq
        fun hid => (hnone _ hid).elim
    · apply exits_onFailure_none
      exact GenerationEnds.early hview fun id hid => (hnone id hid).elim

end Stages

theorem userById_preserves (held : Option User) (userId : Int) :
    (userById held userId).Preserves (fun s : Store coverAI => s) :=
  preserves_of_readOnly (userById_within held userId)

theorem ensureCanGenerate_preserves (held : Option User) (userId : Int)
    (now : Instant) :
    (ensureCanGenerate held userId now).Preserves
      (fun s : Store coverAI => s) :=
  preserves_of_readOnly
    (ensureCanGenerate_within held userId now (fun _ => trivial) trivial)

/-- A refusal of the service before a request is bound. -/
theorem generationEnds_refused {e : Exc}
    (houtcome : forall requestId, job.generationRequestId = some requestId ->
      requestOutcome env clients job requestId now s = .error e)
    (hhh : e.isHHClientError = false) (hquota : e ≠ .quotaExceeded) :
    GenerationEnds env clients job now s (.error e) s :=
  GenerationEnds.early rfl
    fun requestId hjob => ⟨houtcome requestId hjob, hhh, hquota⟩

section Jobs

variable {tone : Tone} {user : User} {profileId requestId : Int}
  {profile : ResumeProfile}

/-- A job that names its request. -/
theorem exits_existingRequest_bind (htone : Tone.ofValue job.tone = some tone)
    (huser : s.db.users.get job.userId = some user)
    (hcredits : ¬ user.credits < 1)
    (hprofile : s.db.resumeProfiles.first? (fun p => p.userId = job.userId) =
      some (profileId, profile))
    (hjob : job.generationRequestId = some requestId) :
    ((existingRequest (some requestId) job.userId).bind fun request =>
      loadAndWrite env clients job.userId job.vacancyUrl user profileId profile
        tone request now).Exits (GenerationEnds env clients job now s) s := by
  simp only [existingRequest, requestByIdForUser, bind_eq, bind_assoc]
  apply exits_select_bind
  cases hrequest : (s.db.generationRequests.get requestId).filter
      fun r => r.userId = job.userId with
  | none =>
      refine generationEnds_refused ?_ rfl (by decide)
      intro id hid
      cases hjob.symm.trans hid
      simp [requestOutcome, htone, huser, hcredits, hprofile, hrequest]
  | some request =>
      rcases Option.filter_eq_some_iff.mp hrequest with ⟨hget, howner⟩
      refine exits_loadAndWrite_existing hjob hget (of_decide_eq_true howner)
        huser ?_
      simp [requestOutcome, htone, huser, hcredits, hprofile, hrequest]

/-- A job that does not: the quota is checked, and a request is created. -/
theorem exits_ensureCanGenerate_bind (hjob : job.generationRequestId = none)
    (huser : s.db.users.get job.userId = some user) :
    (((ensureCanGenerate none job.userId now).void).bind fun _ =>
      loadAndWrite env clients job.userId job.vacancyUrl user profileId profile
        tone none now).Exits (GenerationEnds env clients job now s) s := by
  rw [void, bind_assoc, exits_bind]
  apply exits_of_preserves (ensureCanGenerate_preserves none job.userId now)
  intro t heq
  subst heq
  cases hquota : ((ensureCanGenerate none job.userId now).run t).1 with
  | error e =>
      refine GenerationEnds.early rfl ?_
      intro id hid
      cases hjob.symm.trans hid
  | ok usage => exact exits_loadAndWrite_created hjob hquota huser

end Jobs

theorem generateForJob_exits :
    (generateForJob env clients job now).Exits
      (GenerationEnds env clients job now s) s := by
  unfold generateForJob
  cases htone : Tone.ofValue job.tone with
  | none =>
      refine generationEnds_refused ?_ rfl (by decide)
      intro requestId _
      rw [requestOutcome, htone]
  | some tone =>
      unfold generateForVacancyUrl
      apply exits_select_bind
      cases huser : s.db.users.get job.userId with
      | none =>
          refine generationEnds_refused ?_ rfl (by decide)
          intro requestId _
          rw [requestOutcome, htone, huser]
      | some user =>
          simp only
          split
          · rename_i hcredits
            refine generationEnds_refused ?_ rfl (by decide)
            intro requestId _
            simp [requestOutcome, htone, huser, hcredits]
          · rename_i hcredits
            apply exits_select_bind
            cases hprofile : s.db.resumeProfiles.first?
              fun p => p.userId = job.userId with
            | none =>
                refine generationEnds_refused ?_ rfl (by decide)
                intro requestId _
                simp [requestOutcome, htone, huser, hcredits, hprofile]
            | some entry =>
                cases hjob : job.generationRequestId with
                | none => exact exits_ensureCanGenerate_bind hjob huser
                | some requestId =>
                    exact exits_existingRequest_bind htone huser hcredits
                      hprofile hjob

end Service

/-!
# Exits of the worker's session
-/

def Job.charges (job : Job) : Bool :=
  job.chargeCredits && decide (0 < job.costCredits)

/-- The outcome is a letter, and the balance covers its price. -/
def Completes (env : Env) (clients : Clients) (job : Job) (requestId : Int)
    (now : Instant) (s : Store coverAI) : Prop :=
  exists user letter,
    requestOutcome env clients job requestId now s = .ok (user, letter) ∧
      (job.charges = true -> job.costCredits ≤ user.credits)

/-- The outcome is an exception the service marks the request for and the task
does not let escape. -/
def FailsDurably (env : Env) (clients : Clients) (job : Job) (requestId : Int)
    (now : Instant) (s : Store coverAI) : Prop :=
  exists e, requestOutcome env clients job requestId now s = .error e ∧
    e.isHHClientError = true

def GenerationView.charge (v : GenerationView) (job : Job) (user : User)
    (requestId : Int) : GenerationView :=
  if job.charges then
    let credits := user.credits - job.costCredits
    { v with
      users := v.users.modify job.userId
        (User.write user { user with credits := credits })
      creditTransactions := v.creditTransactions ++
        [spendRow job.userId job.costCredits credits requestId] }
  else v

@[simp] theorem GenerationView.charge_generationRequests (v : GenerationView)
    (job : Job) (user : User) (requestId : Int) :
    (v.charge job user requestId).generationRequests =
      v.generationRequests := by
  unfold charge
  split <;> rfl

@[simp] theorem GenerationView.charge_coverLetters (v : GenerationView)
    (job : Job) (user : User) (requestId : Int) :
    (v.charge job user requestId).coverLetters = v.coverLetters := by
  unfold charge
  split <;> rfl

/-- How the session ends.  An exception rolls it back; every other exit is
committed. -/
inductive SessionEnds (env : Env) (clients : Clients) (job : Job)
    (now : Instant) (s : Store coverAI) :
    Except Exc SessionResult -> Store coverAI -> Prop where
  | raised {e : Exc} {s' : Store coverAI}
      (houtcome : forall requestId, job.generationRequestId = some requestId ->
        LetterIdFree s ->
        ¬ Completes env clients job requestId now s ∧
          ¬ FailsDurably env clients job requestId now s) :
      SessionEnds env clients job now s (.error e) s'
  | unbound {r : SessionResult} {s' : Store coverAI}
      (hjob : job.generationRequestId = none)
      (hview : generationView s'.db = generationView s.db) :
      SessionEnds env clients job now s (.ok r) s'
  | quotaKept {r : SessionResult} {s' : Store coverAI} {requestId : Int}
      {v : GenerationView} (hbinds : Binds job now s requestId v)
      (hview : generationView s'.db = v)
      (houtcome : job.generationRequestId = some requestId ->
        ¬ Completes env clients job requestId now s ∧
          ¬ FailsDurably env clients job requestId now s) :
      SessionEnds env clients job now s (.ok r) s'
  | failed {r : SessionResult} {s' : Store coverAI} {requestId : Int}
      {v : GenerationView} {e : Exc} (hbinds : Binds job now s requestId v)
      (hview : generationView s'.db =
        v.setStatus requestId .failed (some (errorText e)) (some now))
      (houtcome : job.generationRequestId = some requestId ->
        FailsDurably env clients job requestId now s) :
      SessionEnds env clients job now s (.ok r) s'
  | completed {r : SessionResult} {s' : Store coverAI} {requestId : Int}
      {v : GenerationView} {letterId : Int} {letter : CoverLetter} {user : User}
      (hbinds : Binds job now s requestId v)
      (hrequest : letter.generationRequestId = requestId)
      (hfree : s.db.coverLetters.get letterId = none)
      (huser : s.db.users.get job.userId = some user)
      (hcovered : job.charges = true -> job.costCredits ≤ user.credits)
      (hview : generationView s'.db =
        ((v.addLetter letterId letter).setStatus requestId .succeeded none
          (some now)).charge job user requestId)
      (houtcome : job.generationRequestId = some requestId ->
        Completes env clients job requestId now s) :
      SessionEnds env clients job now s (.ok r) s'

theorem Binds.users {job : Job} {now : Instant} {s : Store coverAI}
    {requestId : Int} {v : GenerationView} (h : Binds job now s requestId v) :
    v.users = s.db.users := by
  cases h <;> rfl

section Session

variable {env : Env} {clients : Clients} {job : Job} {now : Instant}
  {s : Store coverAI}

theorem isGenerationFailure_of_isHHClientError {e : Exc}
    (h : e.isHHClientError = true) : isGenerationFailure e = true := by
  cases e <;> first | rfl | cases h

theorem exits_keepError {e : Exc} {t : Store coverAI}
    {Q : Except Exc SessionResult -> Store coverAI -> Prop}
    (hhh : e.isHHClientError = true -> forall r, Q (.ok r) t)
    (hquota : e = .quotaExceeded -> forall r, Q (.ok r) t)
    (hraise : e.isHHClientError = false -> e ≠ .quotaExceeded ->
      Q (.error e) t) : (keepError job e).Exits Q t := by
  unfold keepError
  split
  · rename_i h
    exact hhh h _
  · rename_i h
    split
    · rename_i h'
      exact hquota h' _
    · rename_i h'
      exact hraise (by simpa using h) h'

theorem exits_chargeForLetter {result : GeneratedCoverLetter}
    {t : Store coverAI} {Q : Except Exc SessionResult -> Store coverAI -> Prop}
    (huser : t.db.users.get job.userId = some result.user)
    (hok : forall r t', (job.charges = true ->
        job.costCredits ≤ result.user.credits) ->
      generationView t'.db = (generationView t.db).charge job result.user
        result.letter.generationRequestId -> Q (.ok r) t')
    (hrefused : job.charges = true -> result.user.credits < job.costCredits ->
      Q (.error .quotaExceeded) t) :
    (chargeForLetter job result).Exits Q t := by
  unfold chargeForLetter
  by_cases hcharges : job.charges = true
  · rw [if_pos (show (job.chargeCredits && decide (0 < job.costCredits)) = true
      from hcharges)]
    simp only [debitGenerationCredits, userForUpdate, bind_eq, bind_assoc]
    apply exits_selectForUpdate_bind
    rw [huser]
    simp only
    split
    · rename_i hshort
      exact hrefused hcharges hshort
    · rename_i hcovered
      have hcheck : userChecks { result.user with
          credits := result.user.credits - job.costCredits } = true := by
        have hrow := (userChecks_iff _).mp (Table.check_of_get huser)
        rw [userChecks_iff]
        simp only
        omega
      apply exits_flushUnit_bind
      · intro db hdb
        refine hok _ _ (fun _ => by omega) ?_
        rw [Write.applyAll_of_attempt hdb, GenerationView.charge, if_pos hcharges]
        rfl
      · intro e he
        rw [Write.attempt_cons_of_none (updateUser_violation huser hcheck),
          Write.attempt_cons_of_none rfl, Write.attempt_nil] at he
        cases he
  · rw [if_neg (show ¬ (job.chargeCredits && decide (0 < job.costCredits)) = true
      from hcharges)]
    refine hok _ _ (fun h => (hcharges h).elim) ?_
    rw [GenerationView.charge, if_neg hcharges]
    rfl

/-- A job that names a request works on the rows as they are. -/
theorem Binds.eq_of_named {requestId id : Int} {v : GenerationView}
    (h : Binds job now s requestId v) (hjob : job.generationRequestId = some id) :
    requestId = id ∧ v = generationView s.db := by
  cases h with
  | existing hown _ _ => exact ⟨Option.some.inj (hown.symm.trans hjob), rfl⟩
  | created hnone _ _ _ _ _ => cases hnone.symm.trans hjob

theorem not_completes_of_error {requestId : Int} {e : Exc}
    (h : requestOutcome env clients job requestId now s = .error e) :
    ¬ Completes env clients job requestId now s := by
  intro hcompletes
  rcases hcompletes with ⟨user, letter, hok, _⟩
  rw [h] at hok
  cases hok

theorem not_failsDurably_of_error {requestId : Int} {e : Exc}
    (h : requestOutcome env clients job requestId now s = .error e)
    (he : e.isHHClientError = false) :
    ¬ FailsDurably env clients job requestId now s := by
  intro hfails
  rcases hfails with ⟨e', herror, hhh⟩
  rw [h] at herror
  cases herror
  rw [he] at hhh
  cases hhh

theorem generationSession_exits :
    (generationSession env clients job now).Exits
      (SessionEnds env clients job now s) s := by
  unfold generationSession
  simp only [bind_eq]
  rw [exits_bind, exits_tryCatch, exits_bind]
  apply exits_mono generateForJob_exits
  intro res t hends
  cases hends with
  | @early e t hview houtcome =>
      change ((keepError job e).bind fun kept => ret (Sum.inr kept)).Exits _ t
      rw [exits_bind]
      apply exits_keepError
      · intro hhh r
        cases hjob : job.generationRequestId with
        | none => exact SessionEnds.unbound hjob hview
        | some requestId =>
            have hno := (houtcome requestId hjob).right.left
            rw [hno] at hhh
            cases hhh
      · intro hquota r
        cases hjob : job.generationRequestId with
        | none => exact SessionEnds.unbound hjob hview
        | some requestId =>
            exact ((houtcome requestId hjob).right.right hquota).elim
      · intro hhh _
        apply SessionEnds.raised
        intro requestId hjob _
        have herror := (houtcome requestId hjob).left
        exact ⟨not_completes_of_error herror,
          not_failsDurably_of_error herror hhh⟩
  | @raised e t requestId v hbinds hview houtcome =>
      change ((keepError job e).bind fun kept => ret (Sum.inr kept)).Exits _ t
      rw [exits_bind]
      apply exits_keepError
      · intro hhh r
        rw [GenerationView.afterError,
          if_pos (isGenerationFailure_of_isHHClientError hhh)] at hview
        refine SessionEnds.failed hbinds hview ?_
        intro hjob
        rcases houtcome hjob with herror | ⟨rfl, _⟩
        · exact ⟨e, herror, hhh⟩
        · cases hhh
      · intro heq r
        subst heq
        refine SessionEnds.quotaKept hbinds hview ?_
        intro hjob
        rcases houtcome hjob with herror | ⟨heq, _⟩
        · exact ⟨not_completes_of_error herror,
            not_failsDurably_of_error herror rfl⟩
        · cases heq
      · intro hhh _
        apply SessionEnds.raised
        intro id hjob hfree
        have hid := (hbinds.eq_of_named hjob).left
        subst hid
        rcases houtcome hjob with herror | ⟨_, htaken⟩
        · exact ⟨not_completes_of_error herror,
            not_failsDurably_of_error herror hhh⟩
        · exact (htaken hfree).elim
  | @written result t requestId v letter hbinds hrequest huser hfree hview
      houtcome =>
      have hstored : t.db.users.get job.userId = some result.user := by
        have husers := congrArg GenerationView.users hview
        change t.db.users = v.users at husers
        rw [husers, hbinds.users]
        exact huser
      apply exits_chargeForLetter hstored
      · intro r t' hcovered hview'
        rw [hview, hrequest] at hview'
        exact SessionEnds.completed hbinds hrequest hfree huser hcovered hview'
          fun hjob => ⟨result.user, letter, houtcome hjob, hcovered⟩
      · intro hcharges hshort
        apply SessionEnds.raised
        intro id hjob _
        have hid := (hbinds.eq_of_named hjob).left
        subst hid
        have hok := houtcome hjob
        constructor
        · intro hcompletes
          rcases hcompletes with ⟨user, letter', hok', hcovered⟩
          rw [hok] at hok'
          cases hok'
          have hle := hcovered hcharges
          omega
        · intro hfails
          rcases hfails with ⟨e, herror, _⟩
          rw [hok] at herror
          cases herror

end Session

/-- One execution of the job: it is rolled back, or its session ends normally
and is committed. -/
theorem generateCoverLetter_cases (env : Env) (clients : Clients)
    (sender : TelegramSender) (job : Job) (now : Instant) (s : Store coverAI) :
    ((generateCoverLetter env clients sender job now s).2.db = s.db ∧
      forall requestId, job.generationRequestId = some requestId ->
        LetterIdFree s ->
        ¬ Completes env clients job requestId now s ∧
          ¬ FailsDurably env clients job requestId now s) ∨
      exists r, SessionEnds env clients job now s (.ok r)
        (generateCoverLetter env clients sender job now s).2 := by
  unfold generateCoverLetter
  have hends : (generationSession env clients job now).Exits
      (SessionEnds env clients job now s) s := generationSession_exits
  rcases hrun : (generationSession env clients job now).run s with ⟨res, s'⟩
  have hsession := exits_of_run hends hrun
  cases res with
  | ok r =>
      rw [transact_of_ok hrun]
      exact Or.inr ⟨r, hsession⟩
  | error e =>
      rw [transact_of_error hrun]
      cases hsession with
      | raised houtcome => exact Or.inl ⟨rfl, houtcome⟩

end CoverAI
