import CoverAI.Bot.Runtime
import CoverAI.Generation.Charge
import CoverAI.Generation.Enqueue
import Mathlib.Logic.Relation

/-!
# Plan quota over serial runs

Requests enter through the queue service and through executions without a
request id, and both check the quota first.  An execution for an existing
request can only take it out of the count: a request that was not executed has
not failed.  The window only moves forward.
-/

namespace CoverAI

open Txn Program

/-!
# The count
-/

def usedSince (userId : Int) (since : Instant)
    (requests : Table GenerationRequest noChecks) : Nat :=
  requests.count (countsSince userId quotaStatuses since)

theorem countsSince_iff {userId : Int} {since : Instant}
    {r : GenerationRequest} :
    countsSince userId quotaStatuses since r = true <->
      r.userId = userId ∧ r.status ≠ .failed ∧ since ≤ r.createdAt := by
  have hstatus : r.status ∈ quotaStatuses <-> r.status ≠ .failed := by
    cases r.status <;> decide
  simp [countsSince, hstatus, and_assoc]

theorem usedSince_anti (userId : Int) {since since' : Instant}
    (h : since ≤ since') (requests : Table GenerationRequest noChecks) :
    usedSince userId since' requests ≤ usedSince userId since requests := by
  apply Table.count_le_of_imp
  intro id r _ hcounts
  rcases countsSince_iff.mp hcounts with ⟨howner, hstatus, hcreated⟩
  exact countsSince_iff.mpr ⟨howner, hstatus, Int.le_trans h hcreated⟩

theorem usedSince_insert_le (userId : Int) (since : Instant)
    (requests : Table GenerationRequest noChecks) (id : Int)
    (r : GenerationRequest) :
    usedSince userId since (requests.insert id r) ≤
      usedSince userId since requests + if r.userId = userId then 1 else 0 := by
  apply Nat.le_trans (Table.count_insert_le requests id r _)
  apply Nat.add_le_add_left
  by_cases howner : r.userId = userId
  · rw [if_pos howner]
    split <;> omega
  · rw [if_neg (fun h => howner (countsSince_iff.mp h).left)]
    omega

/-- A request that has not failed is in the count already, whatever status it
gets. -/
theorem usedSince_setStatus_le {userId requestId : Int} {since : Instant}
    {v : GenerationView} {request : GenerationRequest}
    (hget : v.generationRequests.get requestId = some request)
    (hstatus : request.userId = userId -> request.status ≠ .failed)
    (status : GenerationStatus) (errorMessage : Option String)
    (completedAt : Option Instant) :
    usedSince userId since
        (v.setStatus requestId status errorMessage
          completedAt).generationRequests ≤
      usedSince userId since v.generationRequests := by
  apply Table.count_modify_le
  intro r hr hcounts
  rw [hget] at hr
  cases hr
  rcases countsSince_iff.mp hcounts with ⟨howner, _, hcreated⟩
  exact countsSince_iff.mpr ⟨howner, hstatus howner, hcreated⟩

/-!
# The check
-/

theorem usedSince_lt_of_ensured {held : Option User} {userId : Int}
    {now : Instant} {s : Store coverAI} {usage : PlanUsage} {user : User}
    {limit : Nat} (hheld : held = none ∨ held = s.db.users.get userId)
    (huser : s.db.users.get userId = some user)
    (hlimit : (planLimits user.plan).limit = some limit)
    (h : ((ensureCanGenerate held userId now).run s).1 = .ok usage) :
    usedSince userId (quotaPeriodStart user.plan now)
      s.db.generationRequests < limit := by
  have hfound : (userById held userId).run s = (.ok (some user), s) := by
    rcases hheld with rfl | rfl
    · rw [← huser]
      rfl
    · rw [huser]
      rfl
  simp only [ensureCanGenerate, getPlanUsage, bind_eq, bind_assoc, run_bind,
    hfound, activeByUserId, countByUserStatusesSince, select, ask, read_bind,
    run, hlimit, ret_bind, pure_eq, PlanUsage.isExhausted] at h
  unfold usedSince
  by_contra hfull
  simp only [Nat.le_of_not_lt hfull, decide_true, if_true, run] at h
  cases h

/-!
# Runs
-/

/-- The requests that were executed so far, the last instant, and the store
between two sessions. -/
structure QuotaState where
  executed : List Int
  now : Instant
  store : Store coverAI

/-- The request an execution has worked for: the one the job names, or the one
it has created.  A created request that has not failed may still be named. -/
def executedBy (job : Job) (before after : Db) : List Int :=
  match job.generationRequestId with
  | some requestId => [requestId]
  | none =>
      (after.generationRequests.rows.filter fun entry =>
        (before.generationRequests.get entry.1).isNone &&
          entry.2.status = .failed).map Prod.fst

inductive QuotaStep (env : Env) (q : QuotaState) : QuotaState -> Prop where
  | enqueue (held : Option User) (owner : Int) (vacancyUrl : String)
      (tone : Tone) (now : Instant) (hnow : q.now ≤ now)
      (hheld : held = none ∨ held = q.store.db.users.get owner) :
      QuotaStep env q
        { q with
          now := now
          store := ((enqueueGeneration env held owner vacancyUrl tone
            now).transact q.store).2 }
  | botEnqueue (owner : Int) (vacancyUrl : String) (tone : Tone)
      (now : Instant) (hnow : q.now ≤ now) :
      QuotaStep env q
        { q with
          now := now
          store := ((botEnqueueGeneration env owner vacancyUrl tone
            now).transact q.store).2 }
  | execute (clients : Clients) (sender : TelegramSender) (job : Job)
      (now : Instant) (hnow : q.now ≤ now)
      (hfirst : forall requestId, job.generationRequestId = some requestId ->
        requestId ∉ q.executed) :
      QuotaStep env q
        { executed :=
            executedBy job q.store.db
              (generateCoverLetter env clients sender job now q.store).2.db ++
                q.executed
          now := now
          store := (generateCoverLetter env clients sender job now q.store).2 }

/-- The user keeps the plan, a failed request was executed, and the count of
the current period is within the limit. -/
structure QuotaKept (userId : Int) (plan : Plan) (limit : Nat)
    (q : QuotaState) : Prop where
  planned : (q.store.db.users.get userId).map User.plan = some plan
  failed : forall id request,
    q.store.db.generationRequests.get id = some request ->
    request.userId = userId -> request.status = .failed -> id ∈ q.executed
  bound : usedSince userId (quotaPeriodStart plan q.now)
    q.store.db.generationRequests ≤ limit

/-!
# What an execution does to the requests
-/

section Execution

variable {job : Job} {now : Instant} {s s' : Store coverAI} {requestId : Int}
  {v : GenerationView}

theorem Binds.exists_not_failed {userId : Int} {executed : List Int}
    (h : Binds job now s requestId v)
    (hfailed : forall id request,
      s.db.generationRequests.get id = some request ->
      request.userId = userId -> request.status = .failed -> id ∈ executed)
    (hfirst : forall id, job.generationRequestId = some id -> id ∉ executed) :
    exists request, v.generationRequests.get requestId = some request ∧
      (request.userId = userId -> request.status ≠ .failed) := by
  cases h with
  | existing hjob hget _ =>
      refine ⟨_, hget, fun howner hstatus => ?_⟩
      exact hfirst requestId hjob (hfailed requestId _ hget howner hstatus)
  | created _ _ hfree _ hpending _ =>
      refine ⟨_, Table.get_insert_self hfree rfl, fun _ hstatus => ?_⟩
      exact nomatch hpending.symm.trans hstatus

theorem Binds.mem_executedBy (h : Binds job now s requestId v)
    {request : GenerationRequest}
    (hget : s'.db.generationRequests.get requestId = some request)
    (hstatus : request.status = .failed) :
    requestId ∈ executedBy job s.db s'.db := by
  unfold executedBy
  cases h with
  | existing hjob _ _ =>
      rw [hjob]
      exact List.mem_singleton_self requestId
  | created hjob _ hfree _ _ _ =>
      rw [hjob]
      refine List.mem_map.mpr ⟨(requestId, request), ?_, rfl⟩
      refine List.mem_filter.mpr ⟨Table.mem_of_get hget, ?_⟩
      simp [hfree, hstatus]

/-- Binding a request keeps the count within the limit: it is there already, or
the quota check has passed. -/
theorem Binds.used_le {userId : Int} {user : User} {limit : Nat}
    (h : Binds job now s requestId v)
    (huser : s.db.users.get userId = some user)
    (hlimit : (planLimits user.plan).limit = some limit)
    (hbound : usedSince userId (quotaPeriodStart user.plan now)
      s.db.generationRequests ≤ limit) :
    usedSince userId (quotaPeriodStart user.plan now) v.generationRequests ≤
      limit := by
  cases h with
  | existing _ _ _ => exact hbound
  | @created request usage _ hquota _ howner _ _ =>
      have hinsert := usedSince_insert_le userId
        (quotaPeriodStart user.plan now) s.db.generationRequests requestId
        request
      apply Nat.le_trans hinsert
      by_cases hself : job.userId = userId
      · rw [hself] at hquota
        have hbelow := usedSince_lt_of_ensured (Or.inl rfl) huser hlimit hquota
        rw [if_pos (howner.trans hself)]
        exact hbelow
      · rw [if_neg (fun heq => hself (howner.symm.trans heq))]
        exact hbound

theorem Binds.get_eq_of_ne (h : Binds job now s requestId v) {id : Int}
    (hne : id ≠ requestId) :
    v.generationRequests.get id = s.db.generationRequests.get id := by
  cases h with
  | existing _ _ _ => rfl
  | created _ _ _ _ _ _ => exact Table.get_insert_of_ne _ hne _

theorem plan_charge (v : GenerationView) (job : Job) (user : User)
    (requestId userId : Int) :
    ((v.charge job user requestId).users.get userId).map User.plan =
      (v.users.get userId).map User.plan := by
  unfold GenerationView.charge
  split
  · rw [Table.get_modify]
    split
    · rename_i hself
      rw [hself]
      cases v.users.get job.userId with
      | none => rfl
      | some row =>
          simp only [Option.map_some, Table.checkedUpdate]
          split <;> simp [User.write]
    · rfl
  · rfl

/-- A committed execution leaves the requests alone, or it binds one and at most
sets its status. -/
inductive RequestsEnd (job : Job) (now : Instant) (s s' : Store coverAI) :
    Prop where
  | same (h : s'.db.generationRequests = s.db.generationRequests)
  | bound {requestId : Int} {v : GenerationView}
      (hbinds : Binds job now s requestId v)
      (h : s'.db.generationRequests = v.generationRequests)
  | ended {requestId : Int} {v : GenerationView}
      (hbinds : Binds job now s requestId v) (status : GenerationStatus)
      (errorMessage : Option String) (completedAt : Option Instant)
      (h : s'.db.generationRequests =
        (v.setStatus requestId status errorMessage
          completedAt).generationRequests)

theorem SessionEnds.requestsEnd {env : Env} {clients : Clients}
    {r : SessionResult} (h : SessionEnds env clients job now s (.ok r) s') :
    RequestsEnd job now s s' := by
  cases h with
  | unbound _ hview =>
      exact RequestsEnd.same (congrArg GenerationView.generationRequests hview)
  | quotaKept hbinds hview _ =>
      exact RequestsEnd.bound hbinds
        (congrArg GenerationView.generationRequests hview)
  | failed hbinds hview _ =>
      exact RequestsEnd.ended hbinds _ _ _
        (congrArg GenerationView.generationRequests hview)
  | completed hbinds _ _ _ _ hview _ =>
      have hrequests := congrArg GenerationView.generationRequests hview
      rw [GenerationView.charge_generationRequests] at hrequests
      exact RequestsEnd.ended hbinds _ _ _ hrequests

theorem SessionEnds.plan_eq {env : Env} {clients : Clients}
    {r : SessionResult} (h : SessionEnds env clients job now s (.ok r) s')
    (userId : Int) :
    (s'.db.users.get userId).map User.plan =
      (s.db.users.get userId).map User.plan := by
  cases h with
  | unbound _ hview =>
      have husers := congrArg GenerationView.users hview
      change s'.db.users = s.db.users at husers
      rw [husers]
  | quotaKept hbinds hview _ =>
      have husers := congrArg GenerationView.users hview
      change s'.db.users = _ at husers
      rw [husers, hbinds.users]
  | failed hbinds hview _ =>
      have husers := congrArg GenerationView.users hview
      change s'.db.users = _ at husers
      rw [husers, GenerationView.setStatus, hbinds.users]
  | completed hbinds _ _ _ _ hview _ =>
      have husers := congrArg GenerationView.users hview
      change s'.db.users = _ at husers
      rw [husers, plan_charge, ← hbinds.users]
      rfl

end Execution

/-!
# Steps
-/

section Steps

variable {env : Env} {userId : Int} {plan : Plan} {limit : Nat}
  {q q' : QuotaState}

theorem QuotaKept.of_same_db (h : QuotaKept userId plan limit q)
    (hdb : q'.store.db = q.store.db) (hnow : q.now ≤ q'.now)
    (hexecuted : forall id, id ∈ q.executed -> id ∈ q'.executed) :
    QuotaKept userId plan limit q' where
  planned := by
    rw [hdb]
    exact h.planned
  failed := by
    rw [hdb]
    intro id request hget howner hstatus
    exact hexecuted id (h.failed id request hget howner hstatus)
  bound := by
    rw [hdb]
    exact Nat.le_trans (usedSince_anti userId (quotaPeriodStart_mono plan hnow) _)
      h.bound

theorem QuotaKept.bound_of_le (h : QuotaKept userId plan limit q)
    {now : Instant} (hnow : q.now ≤ now) :
    usedSince userId (quotaPeriodStart plan now)
      q.store.db.generationRequests ≤ limit :=
  Nat.le_trans (usedSince_anti userId (quotaPeriodStart_mono plan hnow) _)
    h.bound

theorem QuotaKept.exists_user (h : QuotaKept userId plan limit q) :
    exists user, q.store.db.users.get userId = some user ∧ user.plan = plan :=
  Option.map_eq_some_iff.mp h.planned

theorem QuotaKept.enqueue (h : QuotaKept userId plan limit q)
    (hlimit : (planLimits plan).limit = some limit) {held : Option User}
    {owner : Int} {now : Instant} (hnow : q.now ≤ now)
    (hheld : held = none ∨ held = q.store.db.users.get owner)
    {created : Int × GenerationRequest} {s' : Store coverAI}
    (hqueued : Enqueued owner held now q.store created s') :
    QuotaKept userId plan limit { q with now := now, store := s' } where
  planned := by
    have husers := congrArg GenerationView.users hqueued.view
    change s'.db.users = q.store.db.users at husers
    simp only [husers]
    exact h.planned
  failed := by
    have hrequests := congrArg GenerationView.generationRequests hqueued.view
    change s'.db.generationRequests = _ at hrequests
    intro id request hget howner hstatus
    simp only [hrequests, GenerationView.addRequest, Table.get_insert] at hget
    split at hget
    · cases hget
      exact nomatch hqueued.pending.symm.trans hstatus
    · exact h.failed id request hget howner hstatus
  bound := by
    have hrequests := congrArg GenerationView.generationRequests hqueued.view
    change s'.db.generationRequests = _ at hrequests
    rcases h.exists_user with ⟨user, huser, rfl⟩
    simp only [hrequests, GenerationView.addRequest]
    apply Nat.le_trans (usedSince_insert_le _ _ _ _ _)
    by_cases hself : owner = userId
    · rcases hqueued.quota with ⟨usage, hquota⟩
      rw [hself] at hquota hheld
      have hbelow := usedSince_lt_of_ensured hheld huser hlimit hquota
      rw [if_pos (hqueued.owner.trans hself)]
      exact hbelow
    · rw [if_neg (fun heq => hself (hqueued.owner.symm.trans heq))]
      exact h.bound_of_le hnow

theorem QuotaKept.execute (h : QuotaKept userId plan limit q)
    (hlimit : (planLimits plan).limit = some limit) {job : Job} {now : Instant}
    (hnow : q.now ≤ now)
    (hfirst : forall id, job.generationRequestId = some id -> id ∉ q.executed)
    {s' : Store coverAI} (hend : RequestsEnd job now q.store s')
    (hplan : (s'.db.users.get userId).map User.plan =
      (q.store.db.users.get userId).map User.plan) :
    QuotaKept userId plan limit {
      executed := executedBy job q.store.db s'.db ++ q.executed
      now := now
      store := s' } where
  planned := hplan.trans h.planned
  failed := by
    intro id request hget howner hstatus
    cases hend with
    | same hsame =>
        simp only [hsame] at hget
        exact List.mem_append_right _ (h.failed id request hget howner hstatus)
    | @bound requestId v hbinds hsame =>
        by_cases hid : id = requestId
        · exact List.mem_append_left _
            (hid ▸ hbinds.mem_executedBy (hid ▸ hget) hstatus)
        · simp only [hsame, hbinds.get_eq_of_ne hid] at hget
          exact List.mem_append_right _
            (h.failed id request hget howner hstatus)
    | @ended requestId v hbinds _ _ _ hsame =>
        by_cases hid : id = requestId
        · exact List.mem_append_left _
            (hid ▸ hbinds.mem_executedBy (hid ▸ hget) hstatus)
        · simp only [hsame, GenerationView.setStatus,
            Table.get_modify_of_ne _ hid, hbinds.get_eq_of_ne hid] at hget
          exact List.mem_append_right _
            (h.failed id request hget howner hstatus)
  bound := by
    rcases h.exists_user with ⟨user, huser, rfl⟩
    have hbound := h.bound_of_le hnow
    cases hend with
    | same hsame =>
        simp only [hsame]
        exact hbound
    | bound hbinds hsame =>
        simp only [hsame]
        exact hbinds.used_le huser hlimit hbound
    | ended hbinds status errorMessage completedAt hsame =>
        rcases hbinds.exists_not_failed h.failed hfirst with
          ⟨request, hget, hstatus⟩
        simp only [hsame]
        exact Nat.le_trans (usedSince_setStatus_le hget hstatus _ _ _)
          (hbinds.used_le huser hlimit hbound)

/-- The bot writes nothing: the worker checks the quota and creates the
request. -/
theorem botEnqueueGeneration_preserves (env : Env) (owner : Int)
    (vacancyUrl : String) (tone : Tone) (now : Instant) :
    (botEnqueueGeneration env owner vacancyUrl tone now).Preserves
      (fun s : Store coverAI => s.db) := by
  have hwithin : (botEnqueueGeneration env owner vacancyUrl tone now).Within
      { readOnly with emits := fun _ => True } fun _ => True := by
    apply within_ask_bind
    intro v _
    split
    · trivial
    · split
      · trivial
      · apply within_ask_bind
        intro u _
        split
        · trivial
        · exact ⟨trivial, trivial⟩
  exact preserves_of_within hwithin (fun _ => trivial) (fun _ h => h.elim)
    (fun _ h => h.elim) (fun _ _ _ => rfl)

theorem QuotaStep.kept (h : QuotaStep env q q')
    (hlimit : (planLimits plan).limit = some limit)
    (hkept : QuotaKept userId plan limit q) :
    QuotaKept userId plan limit q' := by
  cases h with
  | enqueue held owner vacancyUrl tone now hnow hheld =>
      rcases ensures_transact (enqueueGeneration_ensures env held owner
        vacancyUrl tone now q.store) with ⟨created, _, hqueued⟩ | ⟨e, _, hdb⟩
      · exact hkept.enqueue hlimit hnow hheld hqueued
      · exact hkept.of_same_db hdb hnow fun _ hid => hid
  | botEnqueue owner vacancyUrl tone now hnow =>
      exact hkept.of_same_db
        (transact_db_of_preserves
          (botEnqueueGeneration_preserves env owner vacancyUrl tone now) q.store)
        hnow fun _ hid => hid
  | execute clients sender job now hnow hfirst =>
      rcases generateCoverLetter_cases env clients sender job now q.store with
        ⟨hdb, _⟩ | ⟨r, hends⟩
      · exact hkept.of_same_db hdb hnow
          fun _ hid => List.mem_append_right _ hid
      · exact hkept.execute hlimit hnow hfirst hends.requestsEnd
          (hends.plan_eq userId)

end Steps

/-- In every reachable state the requests of the user that are pending or have
succeeded in the current period are at most as many as the plan allows. -/
theorem plan_quota_kept {env : Env} {userId : Int} {plan : Plan} {limit : Nat}
    {q₀ q : QuotaState} (hlimit : (planLimits plan).limit = some limit)
    (hstart : QuotaKept userId plan limit q₀)
    (hrun : Relation.ReflTransGen (QuotaStep env) q₀ q) {now : Instant}
    (hnow : q.now ≤ now) :
    usedSince userId (quotaPeriodStart plan now)
      q.store.db.generationRequests ≤ limit := by
  have hkept : QuotaKept userId plan limit q := by
    clear hnow
    induction hrun with
    | refl => exact hstart
    | tail _ hstep ih => exact hstep.kept hlimit ih
  exact hkept.bound_of_le hnow

theorem quotaKept_of_no_requests {userId : Int} {plan : Plan} (limit : Nat)
    {q : QuotaState}
    (hplan : (q.store.db.users.get userId).map User.plan = some plan)
    (hnone : forall id request,
      q.store.db.generationRequests.get id = some request ->
      request.userId ≠ userId) : QuotaKept userId plan limit q where
  planned := hplan
  failed := fun id request hget howner _ => (hnone id request hget howner).elim
  bound := by
    have hzero : usedSince userId (quotaPeriodStart plan q.now)
        q.store.db.generationRequests = 0 := by
      apply Table.count_eq_zero
      intro id request hget
      rw [Bool.eq_false_iff]
      exact fun hcounts =>
        hnone id request hget (countsSince_iff.mp hcounts).left
    rw [hzero]
    exact Nat.zero_le limit

theorem plan_quota_kept_executed :
    usedSince 1 (quotaPeriodStart .free 1)
      (generatedStore sampleClients queuedStore).db.generationRequests ≤ 1 := by
  have hstart : QuotaKept 1 .free 1
      { executed := [], now := 0, store := profileStore } :=
    quotaKept_of_no_requests 1 rfl (fun _ _ hget => nomatch hget)
  have hqueued : QuotaStep sampleEnv
      { executed := [], now := 0, store := profileStore }
      { executed := [], now := 0, store := queuedStore } :=
    QuotaStep.enqueue none 1 "vacancy" .formal 0 (Int.le_refl 0) (Or.inl rfl)
  have hexecuted : QuotaStep sampleEnv
      { executed := [], now := 0, store := queuedStore }
      { executed := [1], now := 1
        store := generatedStore sampleClients queuedStore } :=
    QuotaStep.execute sampleClients silentSender sampleJob 1 (by decide)
      (fun _ _ => List.not_mem_nil)
  exact plan_quota_kept rfl hstart
    ((Relation.ReflTransGen.single hqueued).tail hexecuted) (Int.le_refl 1)

end CoverAI
