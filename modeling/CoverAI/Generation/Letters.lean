import CoverAI.Generation.Execution

/-!
# How a letter is written

A call of the cover letter service that ends normally has stored one letter.
Its columns come from the request that was bound, from the answer of the vacancy
service and from what the model made of the prompt.
-/

namespace CoverAI

open Txn Program

structure LetterSource where
  profileId : Int
  profile : ResumeProfile
  requestId : Int
  request : GenerationRequest
  result : VacancyResult
  prompt : String
  completion : LLMCompletion

namespace LetterSource

def tone (source : LetterSource) (tone : Tone) : Tone :=
  source.request.snapshotTone.getD tone

/-- The bound request: the one that was named, or a new one. -/
def Binds (source : LetterSource) (userId : Int) (tone : Tone)
    (now : Instant) (db : Db) : Option Int -> Prop
  | some id => source.requestId = id ∧
      db.generationRequests.get id = some source.request ∧
      source.request.userId = userId
  | none => source.request =
      pendingRequest userId source.profileId source.result.vacancyId tone
        source.profile source.result.vacancy now

end LetterSource

/-- The call from the store has written the letter and left the second
store. -/
structure WritesLetter (env : Env) (clients : Clients) (userId : Int)
    (vacancyUrl : String) (tone : Tone) (generationRequestId : Option Int)
    (now : Instant) (s : Store coverAI) (source : LetterSource)
    (result : GeneratedCoverLetter) (s' : Store coverAI) : Prop where
  profile : s.db.resumeProfiles.first? (fun p => p.userId = userId) =
    some (source.profileId, source.profile)
  binds : source.Binds userId tone now s.db generationRequestId
  vacancy : vacancyOutcome env clients vacancyUrl now s = .ok source.result
  prompt : env.buildCoverLetterPrompt
      (snapshotProfile source.profile source.request) source.result.vacancy
      source.result.employer (source.tone tone) = .ok source.prompt
  completion : clients.generateCoverLetter source.prompt =
    .ok source.completion
  letter : result.letter = coverLetter source.requestId source.request
    source.result (source.tone tone) source.prompt source.completion now
  letters : s'.db.coverLetters =
    s.db.coverLetters.insert result.letterId result.letter
  loaded : let t := ((getOrLoadVacancy env clients vacancyUrl now).run s).2
    s'.db.vacancies = t.db.vacancies ∧ s'.db.employers = t.db.employers

theorem textOutcome_eq_ok {env : Env} {clients : Clients}
    {profile : ResumeProfile} {result : VacancyResult} {tone : Tone}
    {prompt : String} {completion : LLMCompletion}
    (h : textOutcome env clients profile result tone =
      .ok (prompt, completion)) :
    env.buildCoverLetterPrompt profile result.vacancy result.employer tone =
        .ok prompt ∧ clients.generateCoverLetter prompt = .ok completion := by
  unfold textOutcome completionFor at h
  cases hprompt : env.buildCoverLetterPrompt profile result.vacancy
      result.employer tone with
  | error e =>
      simp only [Bind.bind, Except.bind, hprompt] at h
      cases h
  | ok built =>
      cases hletter : clients.generateCoverLetter built with
      | error e =>
          simp only [Bind.bind, Except.bind, hprompt, hletter] at h
          cases h
      | ok answer =>
          simp only [Bind.bind, Except.bind, Pure.pure, Except.pure, hprompt,
            hletter] at h
          split at h
          · cases h
          · cases h
            exact ⟨rfl, hletter⟩

section Service

variable {env : Env} {clients : Clients} {userId : Int} {vacancyUrl : String}
  {tone : Tone} {now : Instant} {s : Store coverAI}

theorem saveLetter_ensures {generationRequestId : Option Int} {user : User}
    {profileId requestId : Int} {profile : ResumeProfile}
    {request : GenerationRequest} {result : VacancyResult} {t : Store coverAI}
    (hprofile : s.db.resumeProfiles.first? (fun p => p.userId = userId) =
      some (profileId, profile))
    (hbinds : forall prompt completion, LetterSource.Binds
      ⟨profileId, profile, requestId, request, result, prompt, completion⟩
      userId tone now s.db generationRequestId)
    (hvacancy : vacancyOutcome env clients vacancyUrl now s = .ok result)
    (hletters : t.db.coverLetters = s.db.coverLetters)
    (hloaded : let u := ((getOrLoadVacancy env clients vacancyUrl now).run s).2
      t.db.vacancies = u.db.vacancies ∧ t.db.employers = u.db.employers) :
    (((generateAndSaveLetter env clients requestId request
      (snapshotProfile profile request) result
      (request.snapshotTone.getD tone) now).tryCatch
        (onFailure (some requestId) now)).bind fun entry =>
        (markSucceeded entry.2.generationRequestId now).bind fun _ =>
          ret { user := user, letterId := entry.1, letter := entry.2 }).Ensures
      (fun written s' => exists source, WritesLetter env clients userId
        vacancyUrl tone generationRequestId now s source written s') t := by
  rw [ensures_bind, Ensures, exits_tryCatch]
  apply exits_generateAndSaveLetter
  · intro e _
    apply exits_onFailure
    · exact fun _ _ h => by cases h
    · exact fun _ _ h => by cases h
  · intro prompt completion htext hfree letter entry hentry
    cases hentry
    rcases textOutcome_eq_ok htext with ⟨hprompt, hcompletion⟩
    simp only [markSucceeded, Ensures]
    apply exits_updateStatus_bind
    intro written hwritten
    cases hwritten
    refine ⟨⟨profileId, profile, requestId, request, result, prompt,
      completion⟩, hprofile, hbinds prompt completion, hvacancy, hprompt,
      hcompletion, rfl, ?_, hloaded⟩
    rw [← hletters]
    rfl
  · intro _
    apply exits_onFailure
    · exact fun _ _ h => by cases h
    · exact fun _ _ h => by cases h

theorem loadAndWrite_ensures {user : User} {profileId : Int}
    {profile : ResumeProfile} {bound : Option (Int × GenerationRequest)}
    (hprofile : s.db.resumeProfiles.first? (fun p => p.userId = userId) =
      some (profileId, profile))
    (hbound : forall requestId request, bound = some (requestId, request) ->
      s.db.generationRequests.get requestId = some request ∧
        request.userId = userId) :
    (loadAndWrite env clients userId vacancyUrl user profileId profile tone
      bound now).Ensures
      (fun written s' => exists source, WritesLetter env clients userId
        vacancyUrl tone (bound.map Prod.fst) now s source written s') s := by
  have hraise (request : Option Int) (e : Exc) (t : Store coverAI) :
      (onFailure request now e : Session GeneratedCoverLetter).Ensures
        (fun written s' => exists source, WritesLetter env clients userId
          vacancyUrl tone (bound.map Prod.fst) now s source written s') t := by
    cases request with
    | none => exact exits_onFailure_none fun _ h => by cases h
    | some id =>
        exact exits_onFailure (fun _ _ h => by cases h) fun _ _ h => by cases h
  unfold loadAndWrite
  rw [bind_eq, Ensures, exits_bind, exits_tryCatch, Exits]
  have hview := getOrLoadVacancy_preserves env clients vacancyUrl now s
  cases hvacancy : ((getOrLoadVacancy env clients vacancyUrl now).run s).1 with
  | error e =>
      simp only
      have h := hraise (bound.map Prod.fst) e
        ((getOrLoadVacancy env clients vacancyUrl now).run s).2
      rw [← onFailure_bind, Ensures, exits_bind] at h
      exact h
  | ok result =>
      simp only
      have hletters := congrArg (fun frame => frame.1.coverLetters) hview
      cases bound with
      | some entry =>
          rcases hbound entry.1 entry.2 rfl with ⟨hget, howner⟩
          exact saveLetter_ensures hprofile
            (fun _ _ => ⟨rfl, hget, howner⟩) hvacancy hletters ⟨rfl, rfl⟩
      | none =>
          simp only [writeLetter, bind_eq, bind_assoc]
          rw [exits_bind, exits_tryCatch]
          apply exits_createGenerationRequest
          · intro _
            exact saveLetter_ensures hprofile (fun _ _ => rfl) hvacancy hletters
              ⟨rfl, rfl⟩
          · exact exits_onFailure_none fun _ h => by cases h

theorem afterQuota_ensures {α : Type} {R : α -> Store coverAI -> Prop}
    {p : Session α} (enforceQuota : Bool) (h : p.Ensures R s) :
    (if enforceQuota = true then
      (ensureCanGenerate none userId now).void.bind fun _ => p
    else p).Ensures R s := by
  cases enforceQuota with
  | false => exact h
  | true =>
      rw [if_pos rfl, void, bind_assoc, ensures_bind]
      apply exits_of_preserves (ensureCanGenerate_preserves none userId now)
      intro t ht _ _
      rw [ht]
      exact h

/-- Where a stored letter comes from. -/
theorem generateForVacancyUrl_ensures {generationRequestId : Option Int}
    {enforceQuota : Bool} :
    (generateForVacancyUrl env clients userId vacancyUrl tone
      generationRequestId enforceQuota now).Ensures
      (fun written s' => exists source, WritesLetter env clients userId
        vacancyUrl tone generationRequestId now s source written s') s := by
  unfold generateForVacancyUrl
  apply exits_select_bind
  cases s.db.users.get userId with
  | none => exact ensures_raise _ _
  | some user =>
      simp only
      split
      · exact ensures_raise _ _
      · apply exits_select_bind
        cases hprofile : s.db.resumeProfiles.first?
            fun p => p.userId = userId with
        | none => exact ensures_raise _ _
        | some entry =>
            refine (ensures_bind _ _ _).mpr ?_
            cases generationRequestId with
            | none =>
                exact (ensures_ret _ _).mpr (afterQuota_ensures enforceQuota
                  (loadAndWrite_ensures hprofile fun _ _ h => nomatch h))
            | some id =>
                apply exits_select_bind
                cases hrequest : (s.db.generationRequests.get id).filter
                    fun r => r.userId = userId with
                | none => exact ensures_raise _ _
                | some request =>
                    rcases Option.filter_eq_some_iff.mp hrequest with
                      ⟨hget, howner⟩
                    refine (ensures_ret _ _).mpr (afterQuota_ensures
                      enforceQuota (loadAndWrite_ensures hprofile ?_))
                    intro requestId found heq
                    cases heq
                    exact ⟨hget, of_decide_eq_true howner⟩

theorem generateForJob_ensures {job : Job} :
    (generateForJob env clients job now).Ensures
      (fun written s' => exists tone source, WritesLetter env clients job.userId
        job.vacancyUrl tone job.generationRequestId now s source written s')
      s := by
  unfold generateForJob
  split
  · exact ensures_raise _ _
  · rename_i tone _
    exact ensures_mono generateForVacancyUrl_ensures fun _ _ h => ⟨tone, h⟩

end Service
end CoverAI
