import CoverAI.System.BlindCalls

/-!
# Continuations of a queued request

Anything may be called after a request was queued.  Neither the saves of the
user's profile nor the tone of the job change what the work on the request does,
as long as no job of the user is executed whose request was queued later.
-/

namespace CoverAI

open Txn Program

/-!
# Later calls
-/

/-- A session after queueing: a call of the profile service by the user, or an
entry point. -/
inductive LaterCall where
  | createProfile (title resumeText : String)
  | updateProfile (resumeText : String)
  | other (entry : EntryPoint)

namespace EntryPoint

/-- The routes on which the user calls the profile service. -/
def savesProfileOf (userId : Int) : EntryPoint -> Bool
  | saveProfile owner _ _ | saveResume owner _ _ => owner = userId
  | _ => false

def LooksOnly : EntryPoint -> Prop
  | look reading => reading.Within readOnly fun _ => True
  | _ => True

/-- The requests of the user that hold their snapshots. -/
def heldRequests (userId : Int) (db : Db) : Set Int :=
  { id | exists q : Snapshot,
    q.userId = userId ∧ q.requestId = id ∧ q.Held db }

/-- Of the user's jobs only those are executed whose requests were there. -/
def SparesLaterJobs (userId : Int) (db : Db) : EntryPoint -> Prop
  | generateCoverLetter _ job _ => JobHeld userId (heldRequests userId db) job
  | _ => True

end EntryPoint

namespace LaterCall

def session (env : Env) (userId : Int) : LaterCall -> Session Unit
  | createProfile title resumeText =>
      (CoverAI.createProfile userId title resumeText).void
  | updateProfile resumeText => (CoverAI.updateProfile userId resumeText).void
  | other entry => entry.session env

/-- The calls that do not save the user's profile. -/
def other? (userId : Int) : LaterCall -> Option EntryPoint
  | other entry => if entry.savesProfileOf userId then none else some entry
  | _ => none

end LaterCall

def otherCalls (userId : Int) (calls : List LaterCall) : List EntryPoint :=
  calls.filterMap (LaterCall.other? userId)

def afterCalls (env : Env) (userId : Int) (s : Store coverAI)
    (calls : List LaterCall) : Store coverAI :=
  transactAll s (calls.map (LaterCall.session env userId))

theorem mem_of_otherCalls {userId : Int} {entry : EntryPoint}
    {calls : List LaterCall} (h : entry ∈ otherCalls userId calls) :
    .other entry ∈ calls := by
  rcases List.mem_filterMap.mp h with ⟨call, hmem, hother⟩
  cases call with
  | createProfile title resumeText => cases hother
  | updateProfile resumeText => cases hother
  | other stored =>
      rw [LaterCall.other?] at hother
      split at hother
      · cases hother
      · cases hother
        exact hmem

/-!
# Saves of the user
-/

section Saves

variable {env : Env} {userId : Int} {ids : Set Int} {s t : Store coverAI}

theorem run_createOrUpdateProfile_stored {id : Int} {p : ResumeProfile}
    (hfirst : s.db.resumeProfiles.first? (fun p => p.userId = userId) =
      some (id, p)) (title resumeText : String) :
    (createOrUpdateProfile userId title resumeText).run s =
      (updateProfile userId resumeText).run s := by
  rw [createOrUpdateProfile, run_tryCatch,
    run_createProfile_stored hfirst title resumeText]
  simp only [if_true]

theorem createOrUpdateProfile_related (title resumeText : String)
    (h : s.Related (ResumeBlind userId ids) t) :
    ((createOrUpdateProfile userId title resumeText).transact s).2.Related
      (ResumeBlind userId ids) t := by
  rcases h.db.held.profile with ⟨id, p, hfirst⟩
  have hupdated := updateProfile_related resumeText h
  rw [transact, run_createOrUpdateProfile_stored hfirst, ← transact]
  exact hupdated

theorem saveProfile_related (title resumeText : String)
    (h : s.Related (ResumeBlind userId ids) t) :
    ((saveProfile userId title resumeText).transact s).2.Related
      (ResumeBlind userId ids) t := by
  have hsaved := createOrUpdateProfile_related title resumeText h
  cases hget : s.db.users.get userId with
  | none =>
      have hrun : (saveProfile userId title resumeText).run s =
          (.error (Exc.httpException 401 "User not found"), s) := by
        simp only [saveProfile, currentUser, select, ask, bind_eq, read_bind,
          ret_bind, run, hget, raise_bind]
      rw [transact_of_error hrun]
      exact ⟨h.db, h.seq, h.out⟩
  | some user =>
      have hrest : (saveProfile userId title resumeText).run s =
          ((((createOrUpdateProfile userId title resumeText).tryCatch
            fun e => raise (profileError e)).bind fun result =>
              ret (profileResponse result))).run s := by
        simp only [saveProfile, currentUser, select, ask, bind_eq, read_bind,
          ret_bind, run, hget, pure_eq]
      rw [transact, hrest, ← transact, transact_renamed]
      exact hsaved

theorem EntryPoint.save_related {entry : EntryPoint}
    (hsaves : entry.savesProfileOf userId = true)
    (h : s.Related (ResumeBlind userId ids) t) :
    ((entry.session env).transact s).2.Related (ResumeBlind userId ids) t := by
  cases entry with
  | saveProfile owner title resumeText =>
      rw [← of_decide_eq_true hsaves] at h ⊢
      rw [EntryPoint.session, transact_void]
      exact saveProfile_related title resumeText h
  | saveResume owner title resumeText =>
      rw [← of_decide_eq_true hsaves] at h ⊢
      rw [EntryPoint.session, transact_void]
      exact createOrUpdateProfile_related title resumeText h
  | _ => cases hsaves

end Saves

/-!
# Other calls
-/

section Others

variable {env : Env} {userId : Int} {ids : Set Int} {s t : Store coverAI}

theorem IgnoresResume.related {p : Session Unit}
    (hp : IgnoresResume userId ids p)
    (h : s.Related (ResumeBlind userId ids) t) :
    (p.transact s).2.Related (ResumeBlind userId ids) (p.transact t).2 :=
  (sim_transact hp h).right

theorem transact_of_readOnly {α : Type} {Q : α -> Prop} {p : Session α}
    (h : p.Within readOnly Q) (s : Store coverAI) : (p.transact s).2 = s := by
  have hrun : (p.run s).2 = s := preserves_of_readOnly h s
  cases hresult : p.run s with
  | mk res s' =>
      rw [hresult] at hrun
      change s' = s at hrun
      subst hrun
      cases res with
      | ok a => rw [transact_of_ok hresult]
      | error e =>
          rw [transact_of_error hresult]
          rfl

theorem ignores_void {α : Type} {p : Session α}
    (hp : IgnoresResume userId ids p) : IgnoresResume userId ids p.void :=
  sim_void hp

theorem EntryPoint.other_related {entry : EntryPoint}
    (hsaves : entry.savesProfileOf userId = false) (hlooks : entry.LooksOnly)
    (hjobs : forall clients job now,
      entry = .generateCoverLetter clients job now -> JobHeld userId ids job)
    (h : s.Related (ResumeBlind userId ids) t) :
    ((entry.session env).transact s).2.Related (ResumeBlind userId ids)
      ((entry.session env).transact t).2 := by
  cases entry with
  | ensureAdminUser email => exact (ensureAdminUser_ignores email).related h
  | registerApiUser email =>
      exact (ignores_void (registerApiUser_ignores _ email)).related h
  | getOrCreateTelegramUser telegramId =>
      exact (ignores_void
        (getOrCreateTelegramUser_ignores _ telegramId)).related h
  | saveProfile owner title resumeText =>
      have hne : owner ≠ userId := of_decide_eq_false hsaves
      rw [EntryPoint.session, transact_void, transact_void]
      exact Tracks.transact (saveProfile_tracks hne title resumeText) h
  | saveResume owner title resumeText =>
      have hne : owner ≠ userId := of_decide_eq_false hsaves
      rw [EntryPoint.session, transact_void, transact_void]
      exact Tracks.transact
        (createOrUpdateProfile_tracks hne title resumeText) h
  | createGeneration owner vacancyUrl tone now =>
      exact (createGeneration_ignores env owner vacancyUrl tone now).related h
  | botEnqueueGeneration owner vacancyUrl tone now =>
      exact (botEnqueueGeneration_ignores env owner vacancyUrl tone
        now).related h
  | generateCoverLetter clients job now =>
      exact (ignores_void (generationSession_ignores env clients
        (hjobs clients job now rfl) now)).related h
  | createPayment owner creditsAmount uuidHex now =>
      exact (ignores_void (createPayment_ignores env owner creditsAmount uuidHex
        now)).related h
  | confirmPayment externalId now =>
      exact (ignores_void (confirmPayment_ignores externalId now)).related h
  | failPayment externalId now =>
      exact (ignores_void (endPending_ignores .failed externalId now)).related h
  | cancelPayment externalId now =>
      exact (ignores_void
        (endPending_ignores .canceled externalId now)).related h
  | refundPayment paymentId now =>
      exact (ignores_void (refundPayment_ignores paymentId now)).related h
  | createMockTopUp owner creditsAmount =>
      exact (ignores_void
        (createMockTopUp_ignores env owner creditsAmount)).related h
  | createPromo adminId payload =>
      exact (ignores_void (createPromo_ignores env adminId payload)).related h
  | redeemPromo owner code now =>
      exact (ignores_void (redeemPromo_ignores env owner code now)).related h
  | redeemPromoCode owner code =>
      exact (ignores_void (redeemPromoCode_ignores env owner code)).related h
  | adjustBalance adminId owner amount reason =>
      exact (ignores_void
        (adjustBalance_ignores adminId owner amount reason)).related h
  | activateSubscription owner plan now =>
      exact (ignores_void (activateSubscription_ignores owner plan now)).related
        h
  | expireSubscription order adminId owner =>
      exact (ignores_void
        (expireSubscription_ignores order adminId owner)).related h
  | expireSubscriptions now =>
      exact (ignores_void (expireSubscriptions_ignores now)).related h
  | look reading =>
      rw [EntryPoint.session, transact_of_readOnly hlooks s,
        transact_of_readOnly hlooks t]
      exact h

end Others

/-!
# Continuations
-/

/-- The saves leave no trace that the other calls can see. -/
theorem afterCalls_related (env : Env) {userId : Int} {ids : Set Int}
    {calls : List LaterCall}
    (hlooks : forall entry, entry ∈ otherCalls userId calls -> entry.LooksOnly)
    (hjobs : forall clients job now,
      .generateCoverLetter clients job now ∈ otherCalls userId calls ->
      JobHeld userId ids job)
    {s t : Store coverAI} (h : s.Related (ResumeBlind userId ids) t) :
    (afterCalls env userId s calls).Related (ResumeBlind userId ids)
      (transactAll t ((otherCalls userId calls).map (EntryPoint.session env)))
    := by
  induction calls generalizing s t with
  | nil => exact h
  | cons call rest ih =>
      cases call with
      | createProfile title resumeText =>
          have hstep := createProfile_related title resumeText h
          rw [← transact_void] at hstep
          exact ih hlooks hjobs hstep
      | updateProfile resumeText =>
          have hstep := updateProfile_related resumeText h
          rw [← transact_void] at hstep
          exact ih hlooks hjobs hstep
      | other entry =>
          cases hsaves : entry.savesProfileOf userId with
          | true =>
              have hothers : otherCalls userId (.other entry :: rest) =
                  otherCalls userId rest := by
                simp [otherCalls, LaterCall.other?, hsaves]
              rw [hothers] at hlooks hjobs ⊢
              exact ih hlooks hjobs (entry.save_related hsaves h)
          | false =>
              have hothers : otherCalls userId (.other entry :: rest) =
                  entry :: otherCalls userId rest := by
                simp [otherCalls, LaterCall.other?, hsaves]
              rw [hothers] at hlooks hjobs ⊢
              refine ih (fun e he => hlooks e (List.mem_cons_of_mem _ he)) ?_
                (entry.other_related hsaves
                  (hlooks entry List.mem_cons_self) ?_ h)
              · intro clients job now hmem
                exact hjobs clients job now (List.mem_cons_of_mem _ hmem)
              · intro clients job now heq
                apply hjobs clients job now
                rw [heq]
                exact List.mem_cons_self

/-!
# The snapshot stays
-/

/-- What a snapshot is made of is settled when the rows are inserted. -/
theorem Snapshot.Held.later {q : Snapshot} {db db' : Db} (h : q.Held db)
    (hlater : db.Later db') : q.Held db' := by
  constructor
  · rcases h.request with ⟨r, hget, hr⟩
    rcases Table.get_of_column_prefix hlater.generationRequests hget with
      ⟨r', hget', hqueued⟩
    have howner : r'.queued.userId = r.queued.userId := by rw [hqueued]
    have hprofile : r'.queued.profileId = r.queued.profileId := by rw [hqueued]
    have htext :
        r'.queued.snapshotProfileText = r.queued.snapshotProfileText := by
      rw [hqueued]
    have htone : r'.queued.snapshotTone = r.queued.snapshotTone := by
      rw [hqueued]
    exact ⟨r', hget', howner.trans hr.owner, hprofile.trans hr.profile,
      htext.trans hr.text, htone.trans hr.tone⟩
  · rcases h.profile with ⟨id, p, hfirst, htitle⟩
    rcases Table.first?_of_column_prefix hlater.resumeProfiles
      (fun heading => decide (heading.1 = q.userId)) (fun _ => rfl)
      hfirst with ⟨p', hfirst', hheading⟩
    have hsame : p'.title = p.title := congrArg Prod.snd hheading
    exact ⟨id, p', hfirst', hsame.trans htitle⟩

theorem LaterCall.retains {env : Env} {userId : Int} {call : LaterCall}
    (hlooks : forall entry, call = .other entry -> entry.LooksOnly) :
    Retains (call.session env userId) := by
  cases call with
  | createProfile title resumeText =>
      exact advances_void (createProfile_retains userId title resumeText)
  | updateProfile resumeText =>
      exact advances_void (updateProfile_retains userId resumeText)
  | other entry =>
      apply EntryPoint.retains
      intro reading hlook
      have hlooks := hlooks entry rfl
      rw [hlook] at hlooks
      exact hlooks

theorem afterCalls_held {env : Env} {userId : Int} {q : Snapshot}
    {calls : List LaterCall}
    (hlooks : forall entry, .other entry ∈ calls -> entry.LooksOnly)
    {s : Store coverAI} (h : q.Held s.db) :
    q.Held (afterCalls env userId s calls).db := by
  induction calls generalizing s with
  | nil => exact h
  | cons call rest ih =>
      have hretains : Retains (call.session env userId) := by
        apply LaterCall.retains
        intro entry heq
        rw [heq] at hlooks
        exact hlooks entry List.mem_cons_self
      exact ih (fun entry he => hlooks entry (List.mem_cons_of_mem _ he))
        (h.later (hretains.transact s))

/-!
# The work on the request
-/

/-- After two continuations with the same calls but for the saves of the user's
profile, none of which executes a job of the user whose request was queued
later, the work on the request sends the same prompts, ends alike and stores the
same letter, whatever tone the job carries.  And whatever is called in between,
any two letters for the request agree as soon as the vacancy service gives the
same posting. -/
theorem queued_generation_depends_on_snapshot {env : Env} {held : Option User}
    {userId : Int} {vacancyUrl : String} {tone : Tone} {queuedAt : Instant}
    {s queued : Store coverAI} {created : Int × GenerationRequest}
    (hqueued : (enqueueGeneration env held userId vacancyUrl tone
      queuedAt).transact s = (.ok created, queued))
    (clients : Clients) (enforceQuota : Bool) (now : Instant)
    (jobTone jobTone' : Tone) (calls calls' : List LaterCall)
    (hlooks : forall entry, .other entry ∈ calls ++ calls' -> entry.LooksOnly) :
    let work := workOn env clients userId vacancyUrl created.1 enforceQuota now
    let s₁ := afterCalls env userId queued calls
    let s₂ := afterCalls env userId queued calls'
    (otherCalls userId calls = otherCalls userId calls' ->
      (forall entry, entry ∈ otherCalls userId calls ->
        entry.SparesLaterJobs userId queued.db) ->
      (forall prompt, SendsPrompt (work jobTone) s₁ prompt <->
        SendsPrompt (work jobTone') s₂ prompt) ∧
      forall model,
        WritesAlike (work jobTone model) (work jobTone' model) s₁ s₂) ∧
    (SamePosting env clients vacancyUrl now s₁ s₂ ->
      forall model written written',
        ((work jobTone model).transact s₁).1 = .ok written ->
        ((work jobTone' model).transact s₂).1 = .ok written' ->
        SameLetter written.letter written'.letter) := by
  intro work s₁ s₂
  rcases held_of_enqueued hqueued with ⟨q, howner, hid, hheld⟩
  constructor
  · intro hsame hspares
    have hrequest : created.1 ∈ EntryPoint.heldRequests userId queued.db :=
      ⟨q, howner, hid, hheld⟩
    have hrefl : queued.Related
        (ResumeBlind userId (EntryPoint.heldRequests userId queued.db))
        queued :=
      ⟨resumeBlind_refl ⟨⟨_, hrequest⟩, fun _ h => h⟩, rfl, rfl⟩
    have hothers : forall entry, entry ∈ otherCalls userId calls ->
        entry.LooksOnly := by
      intro entry hentry
      exact hlooks entry (List.mem_append_left _ (mem_of_otherCalls hentry))
    have hjobs : forall clients job now,
        .generateCoverLetter clients job now ∈ otherCalls userId calls ->
        JobHeld userId (EntryPoint.heldRequests userId queued.db) job :=
      fun clients job now hmem => hspares _ hmem
    have h₁ := afterCalls_related env hothers hjobs hrefl
    rw [hsame] at hothers hjobs h₁
    have h₂ := afterCalls_related env hothers hjobs hrefl
    have hwork : forall model,
        WritesAlike (work jobTone model) (work jobTone' model) s₁ s₂ :=
      fun model => (workOn_alike jobTone jobTone' model hrequest h₁).join
        (workOn_alike jobTone' jobTone' model hrequest h₂)
    exact ⟨sendsPrompt_iff_of_alike hwork, hwork⟩
  · intro hposting model written written' hwritten hwritten'
    have hwork : work = workOn env clients q.userId vacancyUrl q.requestId
        enforceQuota now := by
      rw [hid, howner]
    rw [hwork] at hwritten hwritten'
    refine sameLetter_of_held (afterCalls_held ?_ hheld)
      (afterCalls_held ?_ hheld) hposting hwritten hwritten'
    · exact fun entry he => hlooks entry (List.mem_append_left _ he)
    · exact fun entry he => hlooks entry (List.mem_append_right _ he)

/-!
# An update after queueing
-/

def textEnv : Env :=
  { sampleEnv with
    buildCoverLetterPrompt := fun profile _ _ _ => .ok profile.resumeText }

def longText : String :=
  String.ofList (List.replicate 100 'a')

def sampleQueued : Store coverAI :=
  ((enqueueGeneration textEnv none 1 "vacancy" .formal 0).transact
    profileStore).2

def sampleQueuedRequest : GenerationRequest where
  userId := 1
  profileId := 1
  vacancyId := 1
  status := .pending
  tone := .formal
  errorMessage := none
  snapshotProfileText := some "Lean"
  snapshotVacancyText := some "Pending hh.ru vacancy"
  snapshotTone := some .formal
  completedAt := none
  createdAt := 0

/-- The user queues once more and subscribes. -/
def sampleLater : List LaterCall :=
  [.other (.createGeneration 1 "vacancy" .concise 1),
    .other (.activateSubscription 1 .standard 1)]

def sampleUpdated : Store coverAI :=
  afterCalls textEnv 1 sampleQueued (.updateProfile longText :: sampleLater)

def sampleWork (tone : Tone) (model : String -> Except Exc LLMCompletion) :
    Session GeneratedCoverLetter :=
  workOn textEnv sampleClients 1 "vacancy" 1 false 2 tone model

theorem sampleLater_looksOnly :
    forall entry, .other entry ∈
      (.updateProfile longText :: sampleLater) ++ sampleLater ->
      entry.LooksOnly := by
  intro entry hmem
  simp only [sampleLater, List.cons_append, List.nil_append, List.mem_cons,
    reduceCtorEq, LaterCall.other.injEq, List.not_mem_nil, or_false,
    false_or] at hmem
  rcases hmem with heq | heq | heq | heq <;> rw [heq] <;> exact trivial

set_option maxRecDepth 20000 in
/-- The user has another text by now, and another request holds it: the prompt
is still made from the text of the time of queueing, and so is the letter. -/
theorem queued_generation_depends_on_snapshot_updated :
    sampleUpdated.db.resumeProfiles.get 1 =
        some { sampleProfile with resumeText := longText } ∧
      SendsPrompt (sampleWork .concise) sampleUpdated "Lean" ∧
      exists written, ((sampleWork .concise
          sampleClients.generateCoverLetter).transact sampleUpdated).1 =
            .ok written ∧
        written.letter.promptContext = "Lean" ∧
        written.letter.tone = .formal := by
  have hqueued : (enqueueGeneration textEnv none 1 "vacancy" .formal 0).transact
      profileStore = (.ok (1, sampleQueuedRequest), sampleQueued) := rfl
  have hspares : forall entry, entry ∈ otherCalls 1
      (.updateProfile longText :: sampleLater) ->
      entry.SparesLaterJobs 1 sampleQueued.db := by
    intro entry hmem
    have hcases : entry ∈ [.createGeneration 1 "vacancy" .concise 1,
        .activateSubscription 1 .standard 1] := hmem
    simp only [List.mem_cons, List.not_mem_nil, or_false] at hcases
    rcases hcases with heq | heq <;> rw [heq] <;> exact trivial
  have hsame := (queued_generation_depends_on_snapshot hqueued sampleClients
    false 2 .concise .formal (.updateProfile longText :: sampleLater)
    sampleLater sampleLater_looksOnly).left rfl hspares
  have hsends : SendsPrompt (sampleWork .formal)
      (afterCalls textEnv 1 sampleQueued sampleLater) "Lean" := by
    intro e
    cases e <;> rfl
  have hwritten : exists written, ((sampleWork .formal
        sampleClients.generateCoverLetter).transact
          (afterCalls textEnv 1 sampleQueued sampleLater)).1 = .ok written ∧
      written.letter.promptContext = "Lean" ∧
      written.letter.tone = .formal := ⟨_, rfl, rfl, rfl⟩
  rcases hwritten with ⟨written, hresult, hletter⟩
  have halike := hsame.right sampleClients.generateCoverLetter
  exact ⟨rfl, (hsame.left "Lean").mpr hsends, written,
    halike.result.trans hresult, hletter⟩

/-!
# Another job of the same user
-/

def subscriberStore : Store coverAI :=
  profileStore.setDb { profileStore.db with
    users := Table.empty.insert 1 { sampleUser with
      credits := 5
      plan := .pro } }

def subscriberQueued : Store coverAI :=
  ((enqueueGeneration textEnv none 1 "vacancy" .formal 0).transact
    subscriberStore).2

/-- The model answers one prompt only. -/
def answersLean (prompt : String) : Except Exc LLMCompletion :=
  if prompt = "Lean" then sampleClients.generateCoverLetter prompt
  else .error (.llmClientError "refused")

def leanClients : Clients :=
  { sampleClients with generateCoverLetter := answersLean }

/-- The user queues a second request, and a worker executes it. -/
def secondRequest : List LaterCall :=
  [.other (.createGeneration 1 "vacancy" .formal 1),
    .other (.generateCoverLetter leanClients
      (queuedJob 1 "vacancy" .formal 5 2) 2)]

set_option maxRecDepth 20000 in
/-- The second request holds the text of its time.  Without the update its
letter is written and uses up the credits; with the update the model refuses its
prompt, and the letter of the first request can be paid. -/
theorem queued_generation_depends_on_own_jobs :
    (exists written, ((workOn textEnv leanClients 1 "vacancy" 1 false 3 .formal
        answersLean).transact (afterCalls textEnv 1 subscriberQueued
          (.updateProfile longText :: secondRequest))).1 = .ok written) ∧
      ((workOn textEnv leanClients 1 "vacancy" 1 false 3 .formal
        answersLean).transact (afterCalls textEnv 1 subscriberQueued
          secondRequest)).1 = .error .insufficientCredits := by
  constructor
  · exact ⟨_, rfl⟩
  · rfl

end CoverAI
