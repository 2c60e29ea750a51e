import CoverAI.Billing.Subscriptions
import CoverAI.Generation.Charge
import CoverAI.Generation.Quota
import CoverAI.Generation.Route
import CoverAI.Txn.Turns
import CoverAI.Vacancy.Placement
import Mathlib.Data.List.Induction

/-!
# Two users and one new vacancy

A request for a vacancy that is not stored creates a placeholder, and the hh ids
of the placeholder rows are unique.  The look-up of the vacancy is the last read
of the session: two sessions that look it up in turn end as one after the other.
-/

namespace CoverAI

open Txn Program

structure QueueCall where
  userId : Int
  vacancyUrl : String
  tone : Tone
  now : Instant

def QueueCall.session (call : QueueCall) (env : Env) :
    Session GenerationCreateResponse :=
  createGeneration env call.userId call.vacancyUrl call.tone call.now

/-- Profile, credits, quota, tone and link of the call are in order. -/
structure InOrder (env : Env) (hhId : Int) (call : QueueCall)
    (user : User) (entry : Int × ResumeProfile) (db : Db) : Prop where
  caller : db.users.get call.userId = some user
  profile : db.resumeProfiles.first? (fun p => p.userId = call.userId) =
    some entry
  credits : env.predictionCostCredits ≤ user.credits
  tone : call.tone ∈ allowedTones user.plan
  link : env.parseHhVacancyId call.vacancyUrl = .ok hhId
  quota : forall limit, (planLimits user.plan).limit = some limit ->
    usedSince call.userId (quotaPeriodStart user.plan call.now)
      db.generationRequests < limit

/-!
# Reads before the look-up
-/

/-- What the checks of the user's session read is as it was. -/
structure SameChecks (userId : Int) (db₀ db : Db) : Prop where
  users : db.users = db₀.users
  profiles : db.resumeProfiles = db₀.resumeProfiles
  subscriptions : db.subscriptions = db₀.subscriptions
  used : forall since, usedSince userId since db.generationRequests =
    usedSince userId since db₀.generationRequests

def queueResponse (env : Env) (call : QueueCall)
    (created : Int × GenerationRequest) : GenerationCreateResponse where
  queued := true
  userId := call.userId
  vacancyUrl := call.vacancyUrl
  tone := call.tone
  costCredits := env.predictionCostCredits
  generationRequestId := created.1
  status := created.2.status

/-- The rest of the session, from the look-up of the vacancy on. -/
def queueVacancy (env : Env) (hhId : Int) (call : QueueCall)
    (entry : Int × ResumeProfile) : Session GenerationCreateResponse :=
  ((createAndQueue env call.userId entry.1 hhId entry.2 call.vacancyUrl
    call.tone call.now).tryCatch fun e => raise (generationError e)).bind
      fun created => ret (queueResponse env call created)

section Checks

variable {env : Env} {hhId : Int} {call : QueueCall} {user : User}
  {entry : Int × ResumeProfile} {db₀ : Db}

theorem getPlanUsage_leadsTo
    (h : InOrder env hhId call user entry db₀) :
    exists usage, usage.isExhausted = false ∧
      LeadsTo (SameChecks call.userId db₀) (ret usage)
        (getPlanUsage (some user) call.userId call.now) := by
  have hcurrent : forall db, SameChecks call.userId db₀ db ->
      latestActive call.userId db = latestActive call.userId db₀ := by
    intro db hdb
    rw [latestActive, hdb.subscriptions]
    rfl
  cases hlimit : (planLimits user.plan).limit with
  | none =>
      refine ⟨{
        plan := user.plan
        used := 0
        limit := none
        period := none
        periodStart := none
        subscriptionExpiresAt :=
          (latestActive call.userId db₀).map fun e => e.2.expiresAt }, rfl,
        leadsTo_ask_bind hcurrent ?_⟩
      simp only [hlimit]
      exact LeadsTo.here
  | some limit =>
      have hused := h.quota limit hlimit
      refine ⟨{
        plan := user.plan
        used := usedSince call.userId (quotaPeriodStart user.plan call.now)
          db₀.generationRequests
        limit := some limit
        period := (planLimits user.plan).period
        periodStart := some (quotaPeriodStart user.plan call.now)
        subscriptionExpiresAt :=
          (latestActive call.userId db₀).map fun e => e.2.expiresAt },
        decide_eq_false (Nat.not_le.mpr hused), leadsTo_ask_bind hcurrent ?_⟩
      simp only [hlimit]
      exact leadsTo_ask_bind (fun db hdb => hdb.used _) LeadsTo.here

/-- The checks pass, whatever the other session commits meanwhile. -/
theorem enqueueChecks_leadsTo (h : InOrder env hhId call user entry db₀) :
    LeadsTo (SameChecks call.userId db₀) (ret (entry.1, entry.2, hhId))
      (enqueueChecks env (some user) call.userId call.vacancyUrl call.tone
        call.now) := by
  have hprofile : forall db, SameChecks call.userId db₀ db ->
      db.resumeProfiles.first? (fun p => p.userId = call.userId) =
        some entry := by
    intro db hdb
    rw [hdb.profiles]
    exact h.profile
  rcases getPlanUsage_leadsTo h with ⟨usage, hroom, husage⟩
  refine leadsTo_ask_bind hprofile ?_
  simp only [Int.not_lt.mpr h.credits, not_not.mpr h.tone, if_false, h.link,
    ofExcept, bind_eq, ret_bind, pure_eq]
  have hquota := husage.bind fun usage =>
    if usage.isExhausted then raise Exc.quotaExceeded else ret usage
  rw [ret_bind, hroom] at hquota
  exact (hquota.bind fun _ => ret (entry.1, entry.2, hhId))

theorem session_leadsTo (h : InOrder env hhId call user entry db₀) :
    LeadsTo (SameChecks call.userId db₀) (queueVacancy env hhId call entry)
      (call.session env) := by
  have hcaller : forall db, SameChecks call.userId db₀ db ->
      db.users.get call.userId = some user := by
    intro db hdb
    rw [hdb.users]
    exact h.caller
  have hfound : LeadsTo (SameChecks call.userId db₀) (ret user)
      (currentUser call.userId) := leadsTo_ask_bind hcaller LeadsTo.here
  have hqueue : LeadsTo (SameChecks call.userId db₀)
      (createAndQueue env call.userId entry.1 hhId entry.2 call.vacancyUrl
        call.tone call.now)
      (enqueueGeneration env (some user) call.userId call.vacancyUrl call.tone
        call.now) :=
    (enqueueChecks_leadsTo h).bind fun checked =>
      createAndQueue env call.userId checked.1 checked.2.2 checked.2.1
        call.vacancyUrl call.tone call.now
  refine (hfound.bind _).trans ?_
  exact (hqueue.tryCatch fun e => raise (generationError e)).bind
    fun created => ret (queueResponse env call created)

end Checks

/-!
# The look-up is the last read
-/

theorem createEmployer_noReads (e : Employer) : (createEmployer e).NoReads :=
  noReads_bind (noReads_draw _) fun _ =>
    noReads_bind (noReads_flushUnit _ _) fun _ => trivial

theorem createVacancy_noReads (v : Vacancy) : (createVacancy v).NoReads :=
  noReads_bind (noReads_draw _) fun _ =>
    noReads_bind (noReads_flushUnit _ _) fun _ => trivial

theorem createGenerationRequest_noReads (request : GenerationRequest) :
    (createGenerationRequest request).NoReads :=
  noReads_bind (noReads_draw _) fun _ =>
    noReads_bind (noReads_flushUnit _ _) fun _ => trivial

theorem getOrCreatePlaceholderVacancy_lastRead (hhId : Int)
    (vacancyUrl : String) :
    (getOrCreatePlaceholderVacancy hhId vacancyUrl).LastRead := by
  apply lastRead_ask_bind
  intro found
  cases found with
  | some existing => trivial
  | none =>
      exact noReads_bind (createEmployer_noReads _) fun _ =>
        createVacancy_noReads _

theorem queueVacancy_lastRead (env : Env) (hhId : Int) (call : QueueCall)
    (entry : Int × ResumeProfile) :
    (queueVacancy env hhId call entry).LastRead := by
  have hcreate : (createAndQueue env call.userId entry.1 hhId entry.2
      call.vacancyUrl call.tone call.now).LastRead := by
    apply (getOrCreatePlaceholderVacancy_lastRead hhId call.vacancyUrl).bind
    intro vacancy
    refine noReads_bind (createGenerationRequest_noReads _) ?_
    exact fun created => trivial
  refine LastRead.bind (LastRead.tryCatch hcreate ?_) ?_
  · exact fun _ => trivial
  · exact fun _ => trivial

/-!
# Other users' sessions
-/

theorem usedSince_insert_other {userId : Int} {request : GenerationRequest}
    (howner : request.userId ≠ userId) (since : Instant) (id : Int)
    (T : Table GenerationRequest noChecks) :
    usedSince userId since (T.insert id request) = usedSince userId since T := by
  by_cases hfree : T.get id = none
  · have hcount := Table.count_insert (r := request) hfree rfl
      (countsSince userId quotaStatuses since)
    rw [if_neg fun h => howner (countsSince_iff.mp h).left] at hcount
    exact hcount
  · rw [Table.insert_of_rejected (fun h => hfree h.left)]

/-- A session of another user leaves what the checks read as it is. -/
theorem sameChecks_transact {env : Env} {call : QueueCall} {userId : Int}
    {db₀ : Db} {s : Store coverAI} (hother : call.userId ≠ userId)
    (h : SameChecks userId db₀ s.db) :
    SameChecks userId db₀ ((call.session env).transact s).2.db := by
  refine Txn.Program.Keeps.transact ?_ h
  apply createGeneration_keeps
  · intro w hw db hdb
    have hframe : (w.apply db).users = db.users ∧
        (w.apply db).resumeProfiles = db.resumeProfiles ∧
        (w.apply db).subscriptions = db.subscriptions ∧
        (w.apply db).generationRequests = db.generationRequests := by
      cases hw <;> exact ⟨rfl, rfl, rfl, rfl⟩
    rcases hframe with ⟨husers, hprofiles, hsubscriptions, hrequests⟩
    refine ⟨husers.trans hdb.users, hprofiles.trans hdb.profiles,
      hsubscriptions.trans hdb.subscriptions, ?_⟩
    intro since
    rw [hrequests]
    exact hdb.used since
  · intro id request howner db hdb
    refine ⟨hdb.users, hdb.profiles, hdb.subscriptions, ?_⟩
    intro since
    have hne : request.userId ≠ userId := by
      rw [howner]
      exact hother
    exact (usedSince_insert_other hne since id db.generationRequests).trans
      (hdb.used since)

/-!
# The look-up and what follows
-/

/-- The rows of placeholders are in place, and the sequences are ahead of the
keys. -/
structure QueueReady (s : Store coverAI) : Prop where
  placed : Placed s
  requests :
    s.db.generationRequests.KeysBelow (s.seq SeqName.generationRequests)

def OneVacancy (hhId : Int) (db : Db) : Prop :=
  exists id v, db.vacancies.get id = some v ∧ v.hhId = hhId ∧
    forall k r, db.vacancies.get k = some r -> r.hhId = hhId -> k = id

def OnePlaceholder (hhId : Int) (db : Db) : Prop :=
  exists id, db.employers.get id = some (placeholderEmployer hhId) ∧
    forall k e, db.employers.get k = some e -> e.hhId = -hhId -> k = id

/-- One pending request and one job, for the vacancy that is stored or for a
placeholder. -/
structure QueuesVacancy (env : Env) (hhId : Int) (call : QueueCall)
    (s : Store coverAI) (requestId : Int) (s' : Store coverAI) : Prop where
  request : exists request, s.db.generationRequests.get requestId = none ∧
    request.userId = call.userId ∧ request.status = .pending ∧
    Table.Puts s.db.generationRequests s'.db.generationRequests requestId
      request
  job : s'.out = s.out ++ [queuedJob call.userId call.vacancyUrl call.tone
    env.predictionCostCredits requestId]
  stored : s.db.vacancies.first? (fun v => v.hhId = hhId) ≠ none ->
    s'.db.vacancies = s.db.vacancies ∧ s'.db.employers = s.db.employers
  created : s.db.vacancies.first? (fun v => v.hhId = hhId) = none ->
    OneVacancy hhId s'.db ∧ OnePlaceholder hhId s'.db
  ready : QueueReady s'

section Queue

variable {s : Store coverAI} {hhId : Int}

theorem run_createGenerationRequest {request : GenerationRequest}
    (hfree : s.db.generationRequests.get (s.seq SeqName.generationRequests) =
      none) :
    (createGenerationRequest request).run s =
      (.ok (s.seq SeqName.generationRequests, request),
        (s.draw SeqName.generationRequests).setDb { s.db with
          generationRequests := s.db.generationRequests.insert
            (s.seq SeqName.generationRequests) request }) := by
  have hwrite := @attempt_insertGenerationRequest
    (s.seq SeqName.generationRequests) request s.db
  rw [if_pos hfree] at hwrite
  simp only [createGenerationRequest, Txn.Program.draw, flushUnit, bind_eq,
    nextval_bind, ret_bind, flush_bind, run, Store.draw_db]
  rw [hwrite]
  rfl

/-- The placeholder rows are the only ones with their hh ids. -/
theorem placeholder_unique {s t s' : Store coverAI} {vacancyId employerId : Int}
    {vacancyUrl : String}
    (hnew : s.db.vacancies.first? (fun v => v.hhId = hhId) = none)
    (hfree : s.db.employers.first? (fun e => e.hhId = -hhId) = none)
    (hemployer : EmployerPut s employerId (placeholderEmployer hhId) t)
    (hvacancy : VacancyPut t vacancyId
      (placeholderVacancy hhId employerId vacancyUrl) s') :
    OneVacancy hhId s'.db ∧ OnePlaceholder hhId s'.db := by
  constructor
  · refine ⟨vacancyId, _, hvacancy.puts.get_self, rfl, ?_⟩
    intro k r hget hr
    rcases hvacancy.puts.cases hget with ⟨hk, _⟩ | ⟨_, hold⟩
    · exact hk
    · rw [hemployer.vacancies] at hold
      have hne := Table.property_of_first?_none hnew hold
      exact absurd hr (of_decide_eq_false hne)
  · refine ⟨employerId, ?_, ?_⟩
    · rw [hvacancy.employers]
      exact hemployer.puts.get_self
    · intro k e hget he
      rw [hvacancy.employers] at hget
      rcases hemployer.puts.cases hget with ⟨hk, _⟩ | ⟨_, hold⟩
      · exact hk
      · have hne := Table.property_of_first?_none hfree hold
        exact absurd he (of_decide_eq_false hne)

/-- Where the look-up leads to, with the rows it leaves. -/
theorem run_getOrCreatePlaceholderVacancy (hready : QueueReady s)
    (hhhId : 0 ≤ hhId) (vacancyUrl : String) :
    exists found t,
      (getOrCreatePlaceholderVacancy hhId vacancyUrl).run s = (.ok found, t) ∧
      QueueReady t ∧ t.out = s.out ∧
      t.db.generationRequests = s.db.generationRequests ∧
      (s.db.vacancies.first? (fun v => v.hhId = hhId) ≠ none ->
        t.db.vacancies = s.db.vacancies ∧ t.db.employers = s.db.employers) ∧
      (s.db.vacancies.first? (fun v => v.hhId = hhId) = none ->
        OneVacancy hhId t.db ∧ OnePlaceholder hhId t.db) := by
  cases hfound : s.db.vacancies.first? (fun v => decide (v.hhId = hhId)) with
  | some entry =>
      refine ⟨entry, s, ?_, hready, rfl, rfl, fun _ => ⟨rfl, rfl⟩,
        fun h => absurd h (Option.some_ne_none entry)⟩
      simp only [getOrCreatePlaceholderVacancy, vacancyByHhId, select, ask,
        bind_eq, read_bind, ret_bind, run, hfound]
      rfl
  | none =>
      rcases hrun : (getOrCreatePlaceholderVacancy hhId vacancyUrl).run s with
        ⟨res, t⟩
      have hcall := exits_of_run (getOrCreatePlaceholderVacancy_exits
        hready.placed.keys hhId vacancyUrl) hrun
      have hfinds := exits_of_run (getOrCreatePlaceholderVacancy_finds
        hready.placed hhhId) hrun
      have hframe := getOrCreatePlaceholderVacancy_out hhId vacancyUrl s
      rw [hrun] at hframe
      have hrequests : t.db.generationRequests = s.db.generationRequests :=
        congrArg (fun frame => frame.1.1.generationRequests) hframe
      have hseq : t.seq SeqName.generationRequests =
          s.seq SeqName.generationRequests :=
        congrArg (fun frame => frame.1.2.1) hframe
      have hfree := hready.placed.placeholder_free hhhId hfound
      cases hcall with
      | existing hget hsame =>
          have hne := Table.property_of_first?_none hfound hget
          exact absurd hsame (of_decide_eq_false hne)
      | rejected hnone hget hsame =>
          have hne := Table.property_of_first?_none hfree hget
          exact absurd hsame (of_decide_eq_false hne)
      | created hemployer hvacancy =>
          refine ⟨_, t, rfl, ⟨hfinds.left, ?_⟩, congrArg Prod.snd hframe,
            hrequests, fun h => absurd rfl h,
            fun _ => placeholder_unique hfound hfree hemployer hvacancy⟩
          rw [hrequests, hseq]
          exact hready.requests

/-- The request is inserted and the job is sent. -/
theorem run_createAndQueue (hready : QueueReady s) (hhhId : 0 ≤ hhId)
    (env : Env) (call : QueueCall) (entry : Int × ResumeProfile) :
    exists created s',
      (createAndQueue env call.userId entry.1 hhId entry.2 call.vacancyUrl
        call.tone call.now).run s = (.ok created, s') ∧
      QueuesVacancy env hhId call s created.1 s' := by
  rcases run_getOrCreatePlaceholderVacancy hready hhhId call.vacancyUrl with
    ⟨found, t, hrun, hready', hout, hrequests, hstored, hcreated⟩
  have hfresh := hready'.requests.get_eq_none
  let request := pendingRequest call.userId entry.1 found.1 call.tone entry.2
    found.2 call.now
  have hputs := Table.puts_insert (r := request) hfresh rfl
  have hrequest := @run_createGenerationRequest t request hfresh
  refine ⟨(t.seq SeqName.generationRequests, request),
    ((t.draw SeqName.generationRequests).setDb { t.db with
      generationRequests := t.db.generationRequests.insert
        (t.seq SeqName.generationRequests) request }).push
      (queuedJob call.userId call.vacancyUrl call.tone env.predictionCostCredits
        (t.seq SeqName.generationRequests)), ?_, ?_⟩
  · rw [createAndQueue, bind_eq, run_bind, hrun]
    simp only
    rw [bind_eq, run_bind, hrequest]
    rfl
  · refine ⟨⟨request, ?_, rfl, rfl, ?_⟩, ?_, hstored, hcreated, ?_, ?_⟩
    · rw [← hrequests]
      exact hfresh
    · rw [← hrequests]
      exact hputs
    · exact congrArg (· ++ _) hout
    · refine Placed.of_frame ?_ hready'.placed
      rfl
    · refine hready'.requests.puts (Int.le_add_one (Int.le_refl _)) ?_ hputs
      exact Int.lt_add_one_of_le (Int.le_refl _)

/-- A session whose checks read what they would have read at first. -/
theorem session_queues {env : Env} {call : QueueCall} {user : User}
    {entry : Int × ResumeProfile} {db₀ : Db}
    (horder : InOrder env hhId call user entry db₀)
    (hsame : SameChecks call.userId db₀ s.db) (hready : QueueReady s)
    (hhhId : 0 ≤ hhId) :
    exists response s', (call.session env).transact s = (.ok response, s') ∧
      QueuesVacancy env hhId call s response.generationRequestId s' := by
  rcases run_createAndQueue hready hhhId env call entry with
    ⟨created, s', hrun, hqueues⟩
  refine ⟨queueResponse env call created, s', transact_of_ok ?_, hqueues⟩
  rw [(session_leadsTo horder).run_eq hsame, queueVacancy, run_bind,
    run_tryCatch, hrun]
  rfl

end Queue

/-!
# One session after the other
-/

/-- The user has one request more, which is pending, and one job more. -/
structure OnlyRequest (env : Env) (call : QueueCall) (s s' : Store coverAI)
    (requestId : Int) : Prop where
  new : s.db.generationRequests.get requestId = none
  request : exists request,
    s'.db.generationRequests.get requestId = some request ∧
      request.userId = call.userId ∧ request.status = .pending
  only : forall k r, k ≠ requestId ->
    s'.db.generationRequests.get k = some r -> r.userId = call.userId ->
      s.db.generationRequests.get k = some r
  job : s'.out.filter (fun job => job.userId = call.userId) =
    s.out.filter (fun job => job.userId = call.userId) ++
      [queuedJob call.userId call.vacancyUrl call.tone
        env.predictionCostCredits requestId]

section Serial

variable {env : Env} {hhId : Int} {call other : QueueCall}
  {s s₁ s₂ : Store coverAI} {requestId otherId : Int}

theorem QueuesVacancy.onlyRequest
    (h : QueuesVacancy env hhId call s requestId s₁) :
    OnlyRequest env call s s₁ requestId := by
  rcases h.request with ⟨request, hnew, howner, hpending, hputs⟩
  refine ⟨hnew, ⟨request, hputs.get_self, howner, hpending⟩, ?_, ?_⟩
  · intro k r hk hget _
    rwa [hputs.get_of_ne hk] at hget
  · rw [h.job, List.filter_append, List.append_cancel_left_eq]
    simp [queuedJob]

theorem filter_job_other (hne : other.userId ≠ call.userId)
    (h : QueuesVacancy env hhId other s otherId s₁) :
    s₁.out.filter (fun job => job.userId = call.userId) =
      s.out.filter (fun job => job.userId = call.userId) := by
  rw [h.job, List.filter_append]
  simp [queuedJob, hne]

/-- The session of another user follows. -/
theorem OnlyRequest.before (h : OnlyRequest env call s s₁ requestId)
    (hne : other.userId ≠ call.userId)
    (hother : QueuesVacancy env hhId other s₁ otherId s₂) :
    OnlyRequest env call s s₂ requestId := by
  rcases hother.request with ⟨r', hnew, howner, _, hputs⟩
  rcases h.request with ⟨request, hget, hrequest⟩
  refine ⟨h.new, ⟨request, ?_, hrequest⟩, ?_, ?_⟩
  · rw [hputs.get_of_ne]
    · exact hget
    · intro heq
      subst heq
      cases hnew.symm.trans hget
  · intro k r hk hget' hr
    rcases hputs.cases hget' with ⟨_, rfl⟩ | ⟨_, hold⟩
    · exact absurd (howner.symm.trans hr) hne
    · exact h.only k r hk hold hr
  · rw [filter_job_other hne hother]
    exact h.job

/-- The session of another user precedes. -/
theorem OnlyRequest.after (h : OnlyRequest env call s₁ s₂ requestId)
    (hne : other.userId ≠ call.userId)
    (hother : QueuesVacancy env hhId other s otherId s₁) :
    OnlyRequest env call s s₂ requestId := by
  rcases hother.request with ⟨r', _, howner, _, hputs⟩
  refine ⟨?_, h.request, ?_, ?_⟩
  · have hid : requestId ≠ otherId := by
      intro heq
      subst heq
      cases h.new.symm.trans hputs.get_self
    rw [← hputs.get_of_ne hid]
    exact h.new
  · intro k r hk hget hr
    rcases hputs.cases (h.only k r hk hget hr) with ⟨_, rfl⟩ | ⟨_, hold⟩
    · exact absurd (howner.symm.trans hr) hne
    · exact hold
  · rw [h.job, filter_job_other hne hother]

theorem OneVacancy.first?_ne_none {db : Db} (h : OneVacancy hhId db) :
    db.vacancies.first? (fun v => v.hhId = hhId) ≠ none := by
  rcases h with ⟨id, v, hget, hv, _⟩
  intro hnone
  have hne := Table.property_of_first?_none hnone hget
  exact of_decide_eq_false hne hv

end Serial

/-!
# Two sessions
-/

/-- Both sessions start with everything in order, for different users. -/
structure BothInOrder (env : Env) (hhId : Int) (calls : Nat -> QueueCall)
    (users : Nat -> User) (entries : Nat -> Int × ResumeProfile) (db : Db) :
    Prop where
  order : forall i, i < 2 ->
    InOrder env hhId (calls i) (users i) (entries i) db
  apart : forall i j, i < 2 -> j < 2 -> i ≠ j ->
    (calls i).userId ≠ (calls j).userId

/-- Session 0 makes the first call and session 1 the second one. -/
def MakesQueueCalls (env : Env) (calls : Nat -> QueueCall) :
    Act coverAI GenerationCreateResponse -> Prop
  | .start i p => i < 2 ∧ p = (calls i).session env
  | .step _ => True
  | .fail _ _ => False

/-- Both calls succeed as one after the other: a pending request and a job for
each user, one vacancy and one placeholder employer. -/
structure BothQueued (env : Env) (hhId : Int) (calls : Nat -> QueueCall)
    (s : Store coverAI) (w : World coverAI GenerationCreateResponse) :
    Prop where
  serial : exists order : List Nat, order.Perm [0, 1] ∧
    w.store = order.foldl
      (fun s i => (((calls i).session env).transact s).2) s
  queued : forall i, i < 2 -> exists response,
    w.procs i = .done (.ok response) ∧
      OnlyRequest env (calls i) s w.store response.generationRequestId
  vacancy : OneVacancy hhId w.committed
  placeholder : OnePlaceholder hhId w.committed

section Turns

variable {env : Env} {hhId : Int} {calls : Nat -> QueueCall}
  {users : Nat -> User} {entries : Nat -> Int × ResumeProfile}
  {s : Store coverAI}

def queueTurns {db₀ : Db} (h : BothInOrder env hhId calls users entries db₀) :
    Turns coverAI GenerationCreateResponse where
  opened i := i < 2
  program i := (calls i).session env
  point i := queueVacancy env hhId (calls i) (entries i)
  kind i := SameChecks (calls i).userId db₀
  leads i hi := session_leadsTo (h.order i hi)
  last i _ := queueVacancy_lastRead env hhId (calls i) (entries i)
  keeps i j hi hj hne _ hsame := sameChecks_transact (h.apart i j hi hj hne)
    hsame

theorem sameChecks_refl (userId : Int) (db : Db) : SameChecks userId db db :=
  ⟨rfl, rfl, rfl, fun _ => rfl⟩

/-- After any of the sessions another one succeeds. -/
theorem queueTurns_queues (h : BothInOrder env hhId calls users entries s.db)
    (hhhId : 0 ≤ hhId) {order : List Nat}
    (hopened : forall i, i ∈ order -> i < 2) {i : Nat} (hi : i < 2)
    (hnot : i ∉ order) (hready : QueueReady ((queueTurns h).serially s order)) :
    exists response s',
      ((queueTurns h).program i).transact ((queueTurns h).serially s order) =
        (.ok response, s') ∧
      QueuesVacancy env hhId (calls i) ((queueTurns h).serially s order)
        response.generationRequestId s' :=
  session_queues (h.order i hi)
    (@Turns.kind_serially _ _ (queueTurns h) s order i hi hopened hnot
      (sameChecks_refl _ _)) hready hhhId

theorem queueTurns_ready (h : BothInOrder env hhId calls users entries s.db)
    (hready : QueueReady s) (hhhId : 0 ≤ hhId) {order : List Nat}
    (hopened : forall i, i ∈ order -> i < 2) (hnodup : order.Nodup) :
    QueueReady ((queueTurns h).serially s order) := by
  induction order using List.reverseRecOn with
  | nil => exact hready
  | append_singleton earlier i ih =>
      rcases List.nodup_append.mp hnodup with ⟨hearlier, _, hapart⟩
      have hbefore : forall j, j ∈ earlier -> j < 2 :=
        fun j hj => hopened j (List.mem_append_left _ hj)
      have hi := hopened i (List.mem_append_right _ List.mem_cons_self)
      have hnot : i ∉ earlier :=
        fun hmem => hapart i hmem i List.mem_cons_self rfl
      rcases queueTurns_queues h hhhId hbefore hi hnot (ih hbefore hearlier)
        with ⟨response, s', hdone, hqueues⟩
      rw [Turns.serially_snoc, hdone]
      exact hqueues.ready

/-- The sessions in one order or the other. -/
theorem order_of_two {order : List Nat} (hopened : forall i, i ∈ order -> i < 2)
    (hnodup : order.Nodup) (hall : forall i, i < 2 -> i ∈ order) :
    order = [0, 1] ∨ order = [1, 0] := by
  have hperm : order.Perm [0, 1] := by
    apply (List.perm_ext_iff_of_nodup hnodup (by decide)).mpr
    intro i
    rw [List.mem_cons, List.mem_singleton]
    constructor
    · intro hi
      have hlt := hopened i hi
      omega
    · intro hi
      exact hall i (by omega)
  rcases List.length_eq_two.mp hperm.length_eq with ⟨i, j, rfl⟩
  have hi := hopened i List.mem_cons_self
  have hj := hopened j (List.mem_cons_of_mem _ List.mem_cons_self)
  have hne : i ≠ j := by
    intro heq
    subst heq
    exact (List.nodup_cons.mp hnodup).left List.mem_cons_self
  have hcases : i = 0 ∧ j = 1 ∨ i = 1 ∧ j = 0 := by omega
  rcases hcases with ⟨rfl, rfl⟩ | ⟨rfl, rfl⟩
  · exact Or.inl rfl
  · exact Or.inr rfl

theorem split_of_two {i j k : Nat} {before after : List Nat}
    (h : [i, j] = before ++ k :: after) :
    before = [] ∧ k = i ∨ before = [i] ∧ k = j := by
  cases before with
  | nil =>
      cases h
      exact Or.inl ⟨rfl, rfl⟩
  | cons a rest =>
      cases rest with
      | nil =>
          cases h
          exact Or.inr ⟨rfl, rfl⟩
      | cons b rest =>
          have hlength := congrArg List.length h
          simp at hlength

/-- The second session finds the vacancy that the first one has created. -/
theorem serially_two (h : BothInOrder env hhId calls users entries s.db)
    (hready : QueueReady s) (hhhId : 0 ≤ hhId)
    (hnew : s.db.vacancies.first? (fun v => v.hhId = hhId) = none) {i j : Nat}
    (hi : i < 2) (hj : j < 2) (hne : i ≠ j) :
    OneVacancy hhId ((queueTurns h).serially s [i, j]).db ∧
      OnePlaceholder hhId ((queueTurns h).serially s [i, j]).db ∧
      forall before after k, [i, j] = before ++ k :: after ->
        exists response,
          (((queueTurns h).program k).transact
            ((queueTurns h).serially s before)).1 = .ok response ∧
          OnlyRequest env (calls k) s ((queueTurns h).serially s [i, j])
            response.generationRequestId := by
  have hfirst : forall k, k ∈ [i] -> k < 2 := by
    intro k hk
    rwa [List.mem_singleton.mp hk]
  rcases @queueTurns_queues env hhId calls users entries s h hhhId []
    (List.forall_mem_nil _) i hi List.not_mem_nil hready with
    ⟨ri, s₁, hdone, hqueues⟩
  have hs₁ : (queueTurns h).serially s [i] = s₁ := congrArg Prod.snd hdone
  have hnot : j ∉ [i] := fun hmem => hne (List.mem_singleton.mp hmem).symm
  rcases queueTurns_queues h hhhId hfirst hj hnot
    (by rw [hs₁]; exact hqueues.ready) with ⟨rj, s₂, hdone', hqueues'⟩
  have hs₂ : (queueTurns h).serially s [i, j] = s₂ := congrArg Prod.snd hdone'
  rw [hs₁] at hqueues'
  rcases hqueues.created hnew with ⟨hvacancy, hplaceholder⟩
  rcases hqueues'.stored hvacancy.first?_ne_none with ⟨hvacancies, hemployers⟩
  have hji := h.apart j i hj hi (Ne.symm hne)
  have hij := h.apart i j hi hj hne
  rw [hs₂]
  refine ⟨?_, ?_, ?_⟩
  · rw [OneVacancy, hvacancies]
    exact hvacancy
  · rw [OnePlaceholder, hemployers]
    exact hplaceholder
  · intro before after k hsplit
    rcases split_of_two hsplit with ⟨rfl, rfl⟩ | ⟨rfl, rfl⟩
    · exact ⟨ri, congrArg Prod.fst hdone,
        hqueues.onlyRequest.before hji hqueues'⟩
    · exact ⟨rj, congrArg Prod.fst hdone',
        hqueues'.onlyRequest.after hij hqueues⟩

variable {w : World coverAI GenerationCreateResponse} {order : List Nat}
  {turn : Option Nat}

theorem not_error_in_turn (h : BothInOrder env hhId calls users entries s.db)
    (hready : QueueReady s) (hhhId : 0 ≤ hhId)
    (hturns : (queueTurns h).InTurn s w order turn) (i : Nat) (e : Exc) :
    w.procs i ≠ .done (.error e) := by
  intro hdone
  have hconforms := hturns.conforms i
  rw [hdone] at hconforms
  rcases hconforms with ⟨_, before, after, rfl, herror⟩
  have hopened : forall k, k ∈ before -> k < 2 :=
    fun k hk => hturns.opened k (List.mem_append_left _ hk)
  have hi : i < 2 :=
    hturns.opened i (List.mem_append_right _ List.mem_cons_self)
  rcases List.nodup_append.mp hturns.nodup with ⟨hbefore, _, hapart⟩
  have hnot : i ∉ before :=
    fun hmem => hapart i hmem i List.mem_cons_self rfl
  rcases queueTurns_queues h hhhId hopened hi hnot
    (queueTurns_ready h hready hhhId hopened hbefore) with
    ⟨response, s', hok, _⟩
  rw [hok] at herror
  cases herror

/-- A session that has ended has the result of its place in the order. -/
theorem result_in_turn (h : BothInOrder env hhId calls users entries s.db)
    (hturns : (queueTurns h).InTurn s w order turn) {i : Nat}
    (hended : (w.procs i).ended ≠ none) :
    exists before after, order = before ++ i :: after ∧
      w.procs i = .done (((queueTurns h).program i).transact
        ((queueTurns h).serially s before)).1 := by
  rcases Option.ne_none_iff_exists'.mp hended with ⟨res, hres⟩
  have hprocs := Process.eq_done_of_ended hres
  have hconforms := hturns.conforms i
  rw [hprocs] at hconforms
  rcases hconforms with ⟨_, before, after, horder, rfl⟩
  exact ⟨before, after, horder, hprocs⟩

theorem order_in_turn (h : BothInOrder env hhId calls users entries s.db)
    (hturns : (queueTurns h).InTurn s w order turn)
    (hended : forall i, i < 2 -> (w.procs i).ended ≠ none) :
    w.store = (queueTurns h).serially s order ∧
      exists i j, i < 2 ∧ j < 2 ∧ i ≠ j ∧ order = [i, j] ∧
        order.Perm [0, 1] := by
  constructor
  · apply hturns.store_of_ended
    intro i own p hproc
    have hconforms := hturns.conforms i
    rw [hproc] at hconforms
    apply hended i hconforms.right.left
    rw [hproc]
    rfl
  · have hall : forall i, i < 2 -> i ∈ order := by
      intro i hi
      rcases result_in_turn h hturns (hended i hi) with ⟨before, after, rfl, _⟩
      exact List.mem_append_right _ List.mem_cons_self
    rcases order_of_two hturns.opened hturns.nodup hall with rfl | rfl
    · exact ⟨0, 1, by decide, by decide, by decide, rfl, List.Perm.refl _⟩
    · exact ⟨1, 0, by decide, by decide, by decide, rfl,
        List.Perm.swap 0 1 []⟩

/-- Two sessions that look the vacancy up in turn both succeed. -/
theorem concurrent_requests_share_placeholder
    (h : BothInOrder env hhId calls users entries s.db)
    (hready : QueueReady s) (hhhId : 0 ≤ hhId)
    (hnew : s.db.vacancies.first? (fun v => v.hhId = hhId) = none)
    (hrun : World.Reaches
      (fun w a => MakesQueueCalls env calls a ∧ w.TakesTurn a)
      (World.init s) w) :
    (forall i e, w.procs i ≠ .done (.error e)) ∧
      ((forall i, i < 2 -> (w.procs i).ended ≠ none) ->
        BothQueued env hhId calls s w) := by
  rcases Turns.inTurn_of_reaches (queueTurns h) hrun
    (fun i _ => sameChecks_refl _ _) (fun _ _ _ hadm => hadm.left)
    (fun _ _ _ hadm => hadm.left) (fun _ _ hadm => hadm.right) with
    ⟨order, turn, hturns⟩
  refine ⟨not_error_in_turn h hready hhhId hturns, ?_⟩
  intro hended
  rcases order_in_turn h hturns hended with
    ⟨hstore, i, j, hi, hj, hne, rfl, hperm⟩
  rcases serially_two h hready hhhId hnew hi hj hne with
    ⟨hvacancy, hplaceholder, hresponses⟩
  rw [← hstore] at hvacancy hplaceholder
  refine ⟨⟨[i, j], hperm, hstore⟩, ?_, hvacancy, hplaceholder⟩
  intro k hk
  rcases result_in_turn h hturns (hended k hk) with
    ⟨before, after, horder, hprocs⟩
  rcases hresponses before after k horder with ⟨response, hok, honly⟩
  rw [← hstore] at honly
  exact ⟨response, by rw [hprocs, hok], honly⟩

end Turns

/-!
# Two users of one store
-/

/-- A second user with a profile and five credits. -/
def pairStore : Store coverAI :=
  profileStore.setDb { profileStore.db with
    users := profileStore.db.users.insert 2 { sampleUser with
      email := some "second@example.com"
      credits := 5 }
    resumeProfiles := profileStore.db.resumeProfiles.insert 2
      { sampleProfile with userId := 2 } }

def pairCalls (i : Nat) : QueueCall where
  userId := i + 1
  vacancyUrl := "https://hh.ru/vacancy/7"
  tone := .formal
  now := 0

def pairUsers (i : Nat) : User :=
  { sampleUser with
    email :=
      if i = 0 then some "user@example.com" else some "second@example.com"
    credits := 5 }

def pairEntries (i : Nat) : Int × ResumeProfile :=
  (i + 1, { sampleProfile with userId := i + 1 })

theorem pairStore_inOrder :
    BothInOrder sampleEnv 7 pairCalls pairUsers pairEntries pairStore.db := by
  constructor
  · intro i hi
    have hcases : i = 0 ∨ i = 1 := by omega
    rcases hcases with rfl | rfl
    · exact ⟨rfl, rfl, by decide, by decide, rfl,
        fun limit hlimit => by cases hlimit; decide⟩
    · exact ⟨rfl, rfl, by decide, by decide, rfl,
        fun limit hlimit => by cases hlimit; decide⟩
  · intro i j _ _ hne heq
    simp only [pairCalls] at heq
    omega

theorem pairStore_ready : QueueReady pairStore := by
  have hplaced : Placed pairStore := placed_start ⟨rfl, rfl⟩
  refine ⟨hplaced, ?_⟩
  intro id request hget
  cases hget

def startQueueing (i : Nat) : Act coverAI GenerationCreateResponse :=
  .start i ((pairCalls i).session sampleEnv)

def pairRun (steps : List Nat) : List (Act coverAI GenerationCreateResponse) :=
  [startQueueing 0, startQueueing 1] ++ steps.map .step

theorem makesQueueCalls_of_mem {steps : List Nat}
    {a : Act coverAI GenerationCreateResponse} (ha : a ∈ pairRun steps) :
    MakesQueueCalls sampleEnv pairCalls a := by
  simp only [pairRun, List.mem_append, List.mem_cons, List.mem_map,
    List.not_mem_nil, or_false] at ha
  rcases ha with (rfl | rfl) | ⟨i, _, rfl⟩
  · exact ⟨by decide, rfl⟩
  · exact ⟨by decide, rfl⟩
  · trivial

/-- Both sessions make their checks, then one ends before the other one looks
the vacancy up. -/
def inTurn : List Nat :=
  List.replicate 4 0 ++ List.replicate 4 1 ++ List.replicate 9 0 ++
    List.replicate 5 1

/-- The session is not open, or it is about to read. -/
def readsNext : Process coverAI GenerationCreateResponse -> Bool
  | .running _ (.read _) => true
  | .running _ _ => false
  | _ => true

theorem not_past_of_readsNext {q : Process coverAI GenerationCreateResponse}
    (h : readsNext q = true) : ¬ q.Past := by
  intro hpast
  rcases hpast with ⟨own, p, rfl, hno⟩
  cases p with
  | read k => exact hno
  | ret a => cases h
  | raise e => cases h
  | lock r k => cases h
  | flush rs ws k => cases h
  | nextval t k => cases h
  | emit o k => cases h

def otherReadsNext (w : World coverAI GenerationCreateResponse) :
    Act coverAI GenerationCreateResponse -> Bool
  | .step i => readsNext (w.procs (1 - i))
  | _ => true

def TwoAlone (w : World coverAI GenerationCreateResponse) : Prop :=
  forall j, 2 ≤ j -> w.procs j = .idle

theorem takesTurn_of_otherReadsNext
    {w : World coverAI GenerationCreateResponse}
    {a : Act coverAI GenerationCreateResponse} (hsession : a.session < 2)
    (halone : TwoAlone w) (h : otherReadsNext w a = true) : w.TakesTurn a := by
  cases a with
  | start i p => trivial
  | fail i e => trivial
  | step i =>
      intro own p _ _ j hj
      by_cases htwo : 2 ≤ j
      · rw [halone j htwo]
        exact not_past_of_readsNext rfl
      · have hlt : i < 2 := hsession
        have hother : j = 1 - i := by omega
        rw [hother]
        exact not_past_of_readsNext h

theorem session_of_mem {steps : List Nat} (hsteps : forall i, i ∈ steps -> i < 2)
    {a : Act coverAI GenerationCreateResponse} (ha : a ∈ pairRun steps) :
    a.session < 2 := by
  simp only [pairRun, List.mem_append, List.mem_cons, List.mem_map,
    List.not_mem_nil, or_false] at ha
  rcases ha with (rfl | rfl) | ⟨i, hi, rfl⟩
  · exact Nat.zero_lt_two
  · exact Nat.one_lt_two
  · exact hsteps i hi

theorem concurrent_requests_share_placeholder_in_turn :
    exists w, (w.procs 0).succeeded = true ∧ (w.procs 1).succeeded = true ∧
      BothQueued sampleEnv 7 pairCalls pairStore w := by
  have hacts : ((World.init pairStore).runChecked otherReadsNext
      (pairRun inTurn)).map
        (fun w => ((w.procs 0).succeeded, (w.procs 1).succeeded)) =
          some (true, true) := by
    rfl
  rcases Option.map_eq_some_iff.mp hacts with ⟨w, hrun, hend⟩
  rw [Prod.mk.injEq] at hend
  have hsteps : forall i, i ∈ inTurn -> i < 2 := by decide
  have hreach : World.Reaches (fun w a =>
      MakesQueueCalls sampleEnv pairCalls a ∧ w.TakesTurn a)
      (World.init pairStore) w := by
    have halone : TwoAlone (World.init pairStore) := fun _ _ => rfl
    apply World.reaches_of_runChecked_inv halone
    · intro a ha u u' hidle hm j hj
      have hlt := session_of_mem hsteps ha
      rw [hm.procs_of_ne (by omega)]
      exact hidle j hj
    · intro a ha u hidle hcheck
      exact ⟨makesQueueCalls_of_mem ha, takesTurn_of_otherReadsNext
        (session_of_mem hsteps ha) hidle hcheck⟩
    · exact hrun
  refine ⟨w, hend.left, hend.right, ?_⟩
  refine (concurrent_requests_share_placeholder pairStore_inOrder
    pairStore_ready (by decide) rfl hreach).right ?_
  intro i hi
  have hcases : i = 0 ∨ i = 1 := by omega
  rcases hcases with rfl | rfl
  · rcases Process.exists_of_succeeded hend.left with ⟨response, hdone⟩
    rw [hdone]
    exact Option.some_ne_none _
  · rcases Process.exists_of_succeeded hend.right with ⟨response, hdone⟩
    rw [hdone]
    exact Option.some_ne_none _

/-- Both sessions look the vacancy up, then the first one ends. -/
def bothLookUp : List Nat :=
  List.replicate 5 0 ++ List.replicate 5 1 ++ List.replicate 8 0 ++
    List.replicate 3 1

theorem concurrent_requests_collide :
    BothInOrder sampleEnv 7 pairCalls pairUsers pairEntries pairStore.db ∧
      QueueReady pairStore ∧
      pairStore.db.vacancies.first? (fun v => v.hhId = 7) = none ∧
      exists w,
        World.Reaches (fun _ a => MakesQueueCalls sampleEnv pairCalls a)
            (World.init pairStore) w ∧
          (w.procs 0).succeeded = true ∧
          (w.procs 1).ended = some (.error .integrityError) ∧
          ¬ BothQueued sampleEnv 7 pairCalls pairStore w := by
  have hacts : ((World.init pairStore).runActs (pairRun bothLookUp)).map
      (fun w => ((w.procs 0).succeeded, (w.procs 1).ended)) =
        some (true, some (.error .integrityError)) := by
    rfl
  rcases Option.map_eq_some_iff.mp hacts with ⟨w, hrun, hend⟩
  simp only [Prod.mk.injEq] at hend
  refine ⟨pairStore_inOrder, pairStore_ready, rfl, w,
    World.reaches_of_runActs (fun a ha _ => makesQueueCalls_of_mem ha) hrun,
    hend.left, hend.right, ?_⟩
  intro hboth
  rcases hboth.queued 1 (by decide) with ⟨response, hdone, _⟩
  have hended := hend.right
  rw [hdone] at hended
  cases hended

end CoverAI
