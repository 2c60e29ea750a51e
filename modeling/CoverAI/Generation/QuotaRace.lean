import CoverAI.Generation.Quota
import CoverAI.Generation.QueueNames
import CoverAI.Generation.Route
import CoverAI.Txn.Reservation

/-!
# Concurrent requests of one user

The quota check counts committed requests, and the request it admits is
committed later.  The limit holds in every interleaving whose passing checks
leave room for the admitted sessions that are still open.  Where the sessions do
not race for a placeholder either, the others are told that the quota is
exceeded.
-/

namespace CoverAI

open Txn Program

/-!
# The requests as a registry
-/

def requestTable :
    Registry coverAI (Table GenerationRequest noChecks) GenerationRequest where
  obs := fun db => db.generationRequests
  get := Table.get
  add := Table.insert
  seq := SeqName.generationRequests
  Announces := fun _ _ _ => True
  get_add := by
    intro T n r m
    rw [Table.get_insert]
    simp

theorem requestTable_registers : RegistersRequests requestTable id where
  seq_eq := rfl
  inserts := fun _ _ _ => rfl
  vacancies := by
    intro w hw db
    cases hw <;> rfl

/-- A user, a plan with a limit and a period. -/
structure PlanQuota where
  userId : Int
  plan : Plan
  limit : Nat
  since : Instant
  limit_eq : (planLimits plan).limit = some limit

namespace PlanQuota

variable (Z : PlanQuota)

def used (db : Db) : Nat :=
  usedSince Z.userId Z.since db.generationRequests

def Ends (_ : GenerationCreateResponse) (st : Stage GenerationRequest) : Prop :=
  exists n r, st.row = some (n, r) ∧
    countsSince Z.userId quotaStatuses Z.since r = true

/-- Sessions that see this find the limit reached. -/
def Full (db : Db) : Prop :=
  (forall user, db.users.get Z.userId = some user -> user.plan = Z.plan) ∧
    Z.limit ≤ Z.used db

def reservation : Reservation requestTable Z.Ends where
  count := usedSince Z.userId Z.since
  limit := Z.limit
  full := Z.Full
  takes := by
    intro _ st hrow
    rcases hrow with ⟨n, r, hrow, hcounts⟩
    refine ⟨n, r, hrow, fun T hfree => ?_⟩
    have hcount := Table.count_insert (r := r) hfree rfl
      (countsSince Z.userId quotaStatuses Z.since)
    rw [if_pos hcounts] at hcount
    exact hcount

end PlanQuota

/-!
# Calls of the route
-/

structure GenerationCall where
  vacancyUrl : String
  tone : Tone
  now : Instant

def GenerationCall.session (call : GenerationCall) (env : Env) (userId : Int) :
    Session GenerationCreateResponse :=
  createGeneration env userId call.vacancyUrl call.tone call.now

section Calls

variable {env : Env} {Z : PlanQuota} {call : GenerationCall}

theorem session_follows
    (hperiod : quotaPeriodStart Z.plan call.now = Z.since) :
    requestTable.Follows Z.Ends .blank (call.session env Z.userId) := by
  apply createGeneration_follows requestTable_registers
  · exact fun _ _ _ => trivial
  · intro response request howner hpending hcreated _
    refine ⟨response.generationRequestId, request, rfl, ?_⟩
    rw [countsSince_iff, hpending, hcreated, ← hperiod]
    exact ⟨howner, (fun h => nomatch h), quotaPeriodStart_le Z.plan call.now⟩

theorem ensureCanGenerate_refuses {F : Footprint coverAI} {user : User}
    (hsees : forall v, F.sees v -> Z.limit ≤ Z.used v)
    (hplan : user.plan = Z.plan)
    (hperiod : quotaPeriodStart Z.plan call.now = Z.since)
    (hraises : F.raises .quotaExceeded) :
    (ensureCanGenerate (some user) Z.userId call.now).Within F
      fun _ => False := by
  refine within_bind (R := fun usage => usage.isExhausted = true) ?_ ?_
  · intro v _
    simp only [hplan, Z.limit_eq]
    intro u hu
    have hfull := hsees u hu
    unfold PlanQuota.used at hfull
    rw [← hperiod] at hfull
    exact decide_eq_true hfull
  · intro usage hexhausted
    rw [if_pos hexhausted]
    exact hraises

theorem session_refuses
    (hperiod : quotaPeriodStart Z.plan call.now = Z.since) :
    (call.session env Z.userId).Refuses Z.Full := by
  apply createGeneration_within (fun _ _ _ => trivial)
  intro v user hv huser
  refine within_bind (enqueueChecks_within (fun _ _ _ => trivial)
    (fun _ => trivial) (fun _ => trivial) (fun _ _ => trivial)
    (ensureCanGenerate_refuses (fun _ h => h.right) (hv.left user huser) hperiod
      trivial)) ?_
  intro _ hadm
  rcases hadm with ⟨_, h⟩
  exact h.elim

/-!
# Why a call is refused
-/

def Eligible (env : Env) (Z : PlanQuota) (db : Db) : Prop :=
  (exists user, db.users.get Z.userId = some user ∧ user.plan = Z.plan ∧
    env.predictionCostCredits ≤ user.credits) ∧
    db.resumeProfiles.first? (fun p => p.userId = Z.userId) ≠ none

def GenerationCall.Acceptable (call : GenerationCall) (env : Env)
    (Z : PlanQuota) : Prop :=
  call.tone ∈ allowedTones Z.plan ∧
    exists hhId, env.parseHhVacancyId call.vacancyUrl = .ok hhId

def quotaExceededResponse : Exc :=
  .httpException 429 "Quota exceeded"

/-- The quota is exceeded, or somebody else inserts the same placeholder. -/
def RefusedBy (e : Exc) : Prop :=
  e = quotaExceededResponse ∨ e = .integrityError

def eligibleFootprint (env : Env) (Z : PlanQuota) : Footprint coverAI where
  sees := Eligible env Z
  writes := fun _ => True
  draws := fun _ => True
  emits := fun _ => True
  raises := RefusedBy

theorem session_within_eligible (h : call.Acceptable env Z) :
    (call.session env Z.userId).Within (eligibleFootprint env Z)
      fun _ => True := by
  rcases h with ⟨htone, hhId, hparse⟩
  apply createGeneration_within
  · intro v huser hnone
    rcases huser with ⟨⟨user, huser, _⟩, _⟩
    exact nomatch huser.symm.trans hnone
  · intro v user hrow huser
    rcases hrow with ⟨⟨row, hrow, hplan, hcredits⟩, _⟩
    cases hrow.symm.trans huser
    have hquota : RefusedBy (generationError .quotaExceeded) := Or.inl rfl
    have hpermits : PermitsQueueing { eligibleFootprint env Z with
        raises := fun e => RefusedBy (generationError e) } Z.userId :=
      { vacancyWrites := fun _ _ => trivial
        drawsEmployers := trivial
        drawsVacancies := trivial
        raisesIntegrity := Or.inr rfl
        requests := fun _ _ _ => trivial
        drawsRequests := trivial
        sends := fun _ => trivial }
    refine within_bind (enqueueChecks_within ?_ ?_ ?_ ?_
      (ensureCanGenerate_within (some user) Z.userId call.now
        (fun h => nomatch h) hquota))
      fun _ _ => createAndQueue_within hpermits _ _ _ _ _ _ _
    · intro u hu hnone
      exact (hu.right hnone).elim
    · intro hlow
      omega
    · intro hforbidden
      rw [hplan] at hforbidden
      exact (hforbidden htone).elim
    · intro e he
      rw [hparse] at he
      cases he

theorem session_keeps_eligible :
    (call.session env Z.userId).Keeps (Eligible env Z) := by
  apply createGeneration_keeps
  · intro w hw db hok
    cases hw <;> exact hok
  · exact fun _ _ _ _ hok => hok

end Calls

/-!
# Every interleaving
-/

/-- Session `i` makes the `i`-th call, all calls are in the period, and some
sessions may lose their connection. -/
def MakesCalls (env : Env) (Z : PlanQuota) (calls : Nat -> GenerationCall)
    (lost : Nat -> Prop) : Act coverAI GenerationCreateResponse -> Prop
  | .start i p => p = (calls i).session env Z.userId ∧
      quotaPeriodStart Z.plan (calls i).now = Z.since
  | .step _ => True
  | .fail i e => lost i ∧ e = .connectionLost

/-- A check that passes leaves room for the admitted sessions that are open. -/
def ChecksLeaveRoom (Z : PlanQuota)
    (w : World coverAI GenerationCreateResponse) :
    Act coverAI GenerationCreateResponse -> Prop
  | .step i => Z.reservation.LeavesRoom w i
  | _ => True

/-- The look-up of the vacancy is the last read of a session.  Either the
vacancy is stored, or no open session that is past its look-up needs it too. -/
def LooksUpApart (env : Env) (calls : Nat -> GenerationCall)
    (w : World coverAI GenerationCreateResponse) :
    Act coverAI GenerationCreateResponse -> Prop
  | .step i =>
      forall own p, w.procs i = .running own p -> p.LastRead ->
        forall hhId, env.parseHhVacancyId (calls i).vacancyUrl = .ok hhId ->
          w.committed.vacancies.first? (fun v => v.hhId = hhId) ≠ none ∨
          forall j, j ≠ i -> (w.procs j).Past ->
            env.parseHhVacancyId (calls j).vacancyUrl ≠ .ok hhId
  | _ => True

section Runs

variable {env : Env} {Z : PlanQuota} {calls : Nat -> GenerationCall}
  {lost : Nat -> Prop} {s : Store coverAI}
  {w : World coverAI GenerationCreateResponse}

theorem LooksUpApart.alone {a : Act coverAI GenerationCreateResponse}
    (h : LooksUpApart env calls w a) :
    queueClaims.Alone (fun i => linkNames env (calls i).vacancyUrl) w a := by
  cases a with
  | start i p => trivial
  | fail i e => trivial
  | step i =>
      intro own p hproc hlast
      cases hparse : env.parseHhVacancyId (calls i).vacancyUrl with
      | error e =>
          right
          intro j _ _ x _ hx
          change x ∈ linkNames env (calls i).vacancyUrl at hx
          rw [linkNames_of_error hparse] at hx
          exact hx
      | ok hhId =>
          rcases h own p hproc hlast hhId hparse with hstored | hapart
          · left
            refine ⟨.vacancy hhId, ?_, ?_⟩
            · change .vacancy hhId ∈ linkNames env (calls i).vacancyUrl
              rw [linkNames_of_ok hparse]
              exact Or.inr rfl
            · exact hasName_of_stored hstored
          · right
            intro j hj hpast x hxj hxi
            have hother := hapart j hj hpast
            change x ∈ linkNames env (calls i).vacancyUrl at hxi
            change x ∈ linkNames env (calls j).vacancyUrl at hxj
            rw [linkNames_of_ok hparse] at hxi
            cases hparse' : env.parseHhVacancyId (calls j).vacancyUrl with
            | error e =>
                rw [linkNames_of_error hparse'] at hxj
                exact hxj
            | ok hhId' =>
                rw [linkNames_of_ok hparse'] at hxj
                apply hother
                rw [hparse', placeholderNames_inj hxj hxi]

theorem not_integrityError (hids : env.ParsesIds) (hready : QueueReady s)
    (hrun : World.Reaches
      (fun w a => MakesCalls env Z calls lost a ∧ ChecksLeaveRoom Z w a ∧
        LooksUpApart env calls w a)
      (World.init s) w) {i : Nat} {e : Exc}
    (hacceptable : (calls i).Acceptable env Z)
    (hdone : w.procs i = .done (.error e)) : e ≠ .integrityError := by
  have hraised : RaisedBefore env (calls i).vacancyUrl e := by
    apply Claims.raises_of_reaches (C := queueClaims)
      (fun i => RaisedBefore env (calls i).vacancyUrl)
      (fun i => linkNames env (calls i).vacancyUrl) hrun
      (fun i => row_not_mem_linkNames env (calls i).vacancyUrl)
      hready.placed.pairsPlaceholders hready.names_below _ _
      (fun _ _ hadm => hadm.right.right.alone) hdone
    · intro u i p hadm
      rw [hadm.left.left]
      exact createGeneration_approaches hids
    · intro u i e hadm
      rw [hadm.left.right]
      exact Or.inl fun h => nomatch h
  rcases hraised with hne | ⟨e', herror⟩
  · exact hne
  · rcases hacceptable.right with ⟨hhId, hparse⟩
    cases hparse.symm.trans herror

/-- The committed requests of the period stay within the limit, at most as many
sessions succeed as there was room for, and the others are told so. -/
theorem concurrent_requests_within_quota (hids : env.ParsesIds)
    (hready : QueueReady s) (hstart : Z.used s.db ≤ Z.limit)
    (hrun : World.Reaches
      (fun w a => MakesCalls env Z calls lost a ∧ ChecksLeaveRoom Z w a ∧
        LooksUpApart env calls w a)
      (World.init s) w) :
    Z.used w.committed ≤ Z.limit ∧
      (forall js : List Nat, js.Nodup ->
        (forall j, j ∈ js -> (w.procs j).succeeded = true) ->
        Z.used s.db + js.length ≤ Z.limit) ∧
      forall i e, ¬ lost i -> Eligible env Z s.db ->
        (calls i).Acceptable env Z -> w.procs i = .done (.error e) ->
        e = quotaExceededResponse := by
  let w₀ : World coverAI GenerationCreateResponse := World.init s
  have hdrawn : requestTable.KeysDrawn w₀ := by
    intro n hget
    rcases Option.ne_none_iff_exists'.mp hget with ⟨r, hr⟩
    exact hready.requests n r hr
  have hreserved : Z.reservation.Within w ∧ Z.reservation.Counted w₀ w := by
    apply Reservation.within_of_reaches hrun (fun _ => rfl) hdrawn
    · intro u i p hadm
      rcases hadm with ⟨⟨rfl, hperiod⟩, _⟩
      exact session_follows hperiod
    · intro u i p hadm
      rcases hadm with ⟨⟨rfl, hperiod⟩, _⟩
      exact session_refuses hperiod
    · exact fun _ _ hadm => hadm.right.left
    · exact hstart
  rcases hreserved with ⟨hwithin, hcounted⟩
  have hused : Z.used w.committed ≤ Z.limit :=
    hwithin [] List.nodup_nil fun _ h => nomatch h
  refine ⟨hused, ?_, ?_⟩
  · intro js hnodup hsucceeded
    exact Nat.le_trans (hcounted js hnodup hsucceeded) hused
  · intro i e hkept heligible hacceptable hdone
    have hsession : (w.procs i).Within (eligibleFootprint env Z)
        fun _ => True := by
      apply hrun.within
      · exact fun _ _ _ h => nomatch h
      · exact heligible
      · trivial
      · intro u j p _ hadm
        rcases hadm with ⟨⟨rfl, _⟩, _⟩
        exact session_keeps_eligible
      · intro _ u p hadm
        rcases hadm with ⟨⟨rfl, _⟩, _⟩
        exact session_within_eligible hacceptable
      · intro u e' hadm
        exact absurd hadm.left.left hkept
    rw [hdone] at hsession
    rcases hsession with hquota | hintegrity
    · exact hquota
    · have hne := not_integrityError hids hready hrun hacceptable hdone
      exact absurd hintegrity hne

end Runs

/-!
# Two calls of a free user
-/

def freeQuota : PlanQuota where
  userId := 1
  plan := .free
  limit := 1
  since := quotaPeriodStart .free 0
  limit_eq := rfl

def knownVacancyStore : Store coverAI :=
  profileStore.setDb { profileStore.db with
    vacancies := Table.empty.insert 1 {
      hhId := 7
      employerId := 1
      title := "Prover"
      url := none
      rawPayload := none
      cachedAt := none } }

def sampleCalls (_ : Nat) : GenerationCall where
  vacancyUrl := "vacancy"
  tone := .formal
  now := 0

def startCall (i : Nat) : Act coverAI GenerationCreateResponse :=
  .start i ((sampleCalls i).session sampleEnv 1)

def SampleAct (a : Act coverAI GenerationCreateResponse) : Prop :=
  MakesCalls sampleEnv freeQuota sampleCalls (fun _ => False) a

theorem sampleAct_startCall (i : Nat) : SampleAct (startCall i) :=
  ⟨rfl, rfl⟩

/-- Both calls count before either has committed. -/
def overlappingCalls : List (Act coverAI GenerationCreateResponse) :=
  [startCall 0, startCall 1] ++
    ([0, 0, 0, 0, 1, 1, 1, 1] ++ List.replicate 5 0 ++
      List.replicate 5 1).map .step

theorem concurrent_requests_exceed_quota :
    freeQuota.used knownVacancyStore.db = 0 ∧ exists w,
      World.Reaches (fun _ a => SampleAct a)
          (World.init knownVacancyStore) w ∧
        (w.procs 0).succeeded = true ∧ (w.procs 1).succeeded = true ∧
        freeQuota.used w.committed = 2 := by
  have hacts : ((World.init knownVacancyStore).runActs overlappingCalls).map
      (fun w => ((w.procs 0).succeeded, (w.procs 1).succeeded,
        freeQuota.used w.committed)) = some (true, true, 2) := by
    decide
  rcases Option.map_eq_some_iff.mp hacts with ⟨w, hrun, hend⟩
  rw [Prod.mk.injEq, Prod.mk.injEq] at hend
  refine ⟨rfl, w, World.reaches_of_runActs ?_ hrun, hend⟩
  intro a ha _
  simp only [overlappingCalls, List.mem_append, List.mem_cons, List.mem_map,
    List.not_mem_nil, or_false] at ha
  rcases ha with (rfl | rfl) | ⟨i, _, rfl⟩
  · exact sampleAct_startCall 0
  · exact sampleAct_startCall 1
  · trivial

/-!
# Two calls within the limit
-/

/-- The session is about to raise an exception, or it has ended. -/
def raised : Process coverAI GenerationCreateResponse -> Bool
  | .running _ (.raise _) => true
  | .done _ => true
  | _ => false

theorem not_admitted_of_raised
    {q : Process coverAI GenerationCreateResponse} {full : Db -> Prop}
    (h : raised q = true) : ¬ q.Admitted full := by
  cases q with
  | idle => exact fun hadmitted => hadmitted
  | done res => exact not_admitted_done res
  | running own p =>
      cases p with
      | raise e => exact not_admitted_running trivial
      | _ => cases h

/-- No request is committed yet, or the step ends in an exception. -/
def unusedOrRaised (w : World coverAI GenerationCreateResponse)
    (a : Act coverAI GenerationCreateResponse) : Bool :=
  freeQuota.used w.committed = 0 ||
    ((w.exec a).map fun w' => raised (w'.procs a.session)) = some true

/-- The other sessions have not passed their checks. -/
def OthersWait (k : Nat) (w : World coverAI GenerationCreateResponse) : Prop :=
  forall j, j ≠ k ->
    ¬ (w.procs j).Admitted freeQuota.Full ∧ ¬ (w.procs j).Past

def SampleStep (w : World coverAI GenerationCreateResponse)
    (a : Act coverAI GenerationCreateResponse) : Prop :=
  MakesCalls sampleEnv freeQuota sampleCalls (fun _ => False) a ∧
    ChecksLeaveRoom freeQuota w a ∧ LooksUpApart sampleEnv sampleCalls w a

section Waiting

variable {k : Nat} {w w' : World coverAI GenerationCreateResponse}
  {a : Act coverAI GenerationCreateResponse}

theorem OthersWait.leavesRoom (h : OthersWait k w)
    (hcheck : unusedOrRaised w (.step k) = true) :
    freeQuota.reservation.LeavesRoom w k := by
  intro w' hexec hbefore hafter js _ hadmitted
  rcases Bool.or_eq_true_iff.mp hcheck with hunused | hraised
  · cases js with
    | nil =>
        have hzero : freeQuota.used w.committed = 0 :=
          of_decide_eq_true hunused
        change freeQuota.used w.committed + 0 < 1
        omega
    | cons j js =>
        have hj := hadmitted j List.mem_cons_self
        by_cases hk : j = k
        · rw [hk] at hj
          exact absurd hj hbefore
        · exact absurd hj (h j hk).left
  · have hend := of_decide_eq_true hraised
    rw [hexec] at hend
    exact absurd hafter (not_admitted_of_raised (Option.some.inj hend))

theorem OthersWait.sampleStep (h : OthersWait k w) (hsession : a.session = k)
    (ha : SampleAct a) (hcheck : unusedOrRaised w a = true) :
    SampleStep w a := by
  refine ⟨ha, ?_, ?_⟩
  · cases a with
    | start i p => trivial
    | fail i e => trivial
    | step i =>
        change i = k at hsession
        subst hsession
        exact h.leavesRoom hcheck
  · cases a with
    | start i p => trivial
    | fail i e => trivial
    | step i =>
        change i = k at hsession
        subst hsession
        intro own p _ _ hhId _
        right
        intro j hj hpast
        exact absurd hpast (h j hj).right

theorem OthersWait.reaches (h : OthersWait k w)
    {acts : List (Act coverAI GenerationCreateResponse)}
    (hacts : forall a, a ∈ acts -> a.session = k ∧ SampleAct a)
    (hrun : w.runChecked unusedOrRaised acts = some w') :
    World.Reaches SampleStep w w' ∧
      forall j, j ≠ k -> w'.procs j = w.procs j := by
  have hreach : World.Reaches (fun u a => a.session = k ∧ SampleStep u a)
      w w' := by
    apply World.reaches_of_runChecked_inv h
    · intro a ha u u' hwait hm j hj
      rw [hm.procs_of_ne ((hacts a ha).left ▸ hj)]
      exact hwait j hj
    · intro a ha u hwait hcheck
      rcases hacts a ha with ⟨hsession, hsample⟩
      exact ⟨hsession, hwait.sampleStep hsession hsample hcheck⟩
    · exact hrun
  constructor
  · exact hreach.mono fun _ _ hadm => hadm.right
  · apply hreach.inv (fun _ _ => rfl)
    intro u u' a hsame hadm hm j hj
    rw [hm.procs_of_ne (hadm.left ▸ hj)]
    exact hsame j hj

end Waiting

def secondReads : List (Act coverAI GenerationCreateResponse) :=
  startCall 1 :: List.replicate 3 (.step 1)

def firstCall : List (Act coverAI GenerationCreateResponse) :=
  startCall 0 :: List.replicate 13 (.step 0)

def secondCounts : List (Act coverAI GenerationCreateResponse) :=
  List.replicate 2 (.step 1)

theorem sampleAct_of_replicate {k n : Nat}
    {a : Act coverAI GenerationCreateResponse}
    (ha : a ∈ List.replicate n (.step k)) : a.session = k ∧ SampleAct a := by
  rw [(List.mem_replicate.mp ha).right]
  exact ⟨rfl, trivial⟩

theorem sampleAct_of_call {k n : Nat}
    {a : Act coverAI GenerationCreateResponse}
    (ha : a ∈ startCall k :: List.replicate n (.step k)) :
    a.session = k ∧ SampleAct a := by
  rcases List.mem_cons.mp ha with rfl | hstep
  · exact ⟨rfl, sampleAct_startCall k⟩
  · exact sampleAct_of_replicate hstep

theorem queuedStore_full : freeQuota.Full queuedStore.db := by
  constructor
  · intro user huser
    cases huser
    rfl
  · decide

/-- The second call is about to count, and would be refused. -/
theorem secondReads_waits {w : World coverAI GenerationCreateResponse}
    (hrun : (World.init profileStore).runChecked unusedOrRaised secondReads =
      some w) : ¬ (w.procs 1).Admitted freeQuota.Full ∧ ¬ (w.procs 1).Past := by
  have hwaits : exists k, ((World.init profileStore).runChecked unusedOrRaised
      secondReads).map (fun w => w.procs 1) = some (.running id (.read k)) ∧
        (Program.read k).Refuses freeQuota.Full := by
    have hsession :
        ((sampleCalls 1).session sampleEnv freeQuota.userId).Refuses
          freeQuota.Full := session_refuses rfl
    refine ⟨_, rfl, ?_⟩
    exact hsession queuedStore.db queuedStore_full queuedStore.db
      queuedStore_full queuedStore.db queuedStore_full
  rcases hwaits with ⟨k, hproc, hrefuses⟩
  rw [hrun] at hproc
  have hread : w.procs 1 = .running id (.read k) := Option.some.inj hproc
  rw [hread]
  constructor
  · exact not_admitted_running hrefuses
  · exact not_past_of_readsNext rfl

theorem othersWait_of_idle {k : Nat}
    {w : World coverAI GenerationCreateResponse}
    (h : forall j, j ≠ k -> w.procs j = .idle) : OthersWait k w := by
  intro j hj
  rw [h j hj]
  constructor
  · exact fun hadmitted => hadmitted
  · exact not_past_of_readsNext rfl

/-- The second call begins first and counts last. -/
theorem concurrent_requests_within_quota_overlapping :
    exists (w : World coverAI GenerationCreateResponse) (e : Exc),
      (w.procs 0).succeeded = true ∧ w.procs 1 = .done (.error e) ∧
        freeQuota.used w.committed ≤ 1 ∧
        freeQuota.used profileStore.db + 1 ≤ 1 ∧
        e = quotaExceededResponse := by
  have hacts : (((World.init profileStore).runChecked unusedOrRaised
      secondReads).bind fun w₁ => (w₁.runChecked unusedOrRaised firstCall).bind
        fun w₂ => (w₂.runChecked unusedOrRaised secondCounts).map
          fun w => ((w₂.procs 0).succeeded, (w.procs 1).ended)) =
      some (true, some (.error quotaExceededResponse)) := by
    rfl
  rcases Option.bind_eq_some_iff.mp hacts with ⟨w₁, hreads, hrest⟩
  rcases Option.bind_eq_some_iff.mp hrest with ⟨w₂, hcall, hcounts⟩
  rcases Option.map_eq_some_iff.mp hcounts with ⟨w, hrun, hend⟩
  rw [Prod.mk.injEq] at hend
  rcases hend with ⟨hsucceeded, hended⟩
  have hidle : OthersWait 1 (World.init profileStore) :=
    othersWait_of_idle fun _ _ => rfl
  rcases hidle.reaches (fun _ => sampleAct_of_call) hreads with
    ⟨hfirst, hsame₁⟩
  have hwait₁ : OthersWait 0 w₁ := by
    intro j hj
    by_cases hsecond : j = 1
    · rw [hsecond]
      exact secondReads_waits hreads
    · exact (othersWait_of_idle fun k hk => hsame₁ k hk) j hsecond
  rcases hwait₁.reaches (fun _ => sampleAct_of_call) hcall with
    ⟨hsecond, hsame₂⟩
  have hwait₂ : OthersWait 1 w₂ := by
    intro j hj
    by_cases hfirst : j = 0
    · rcases Process.exists_of_succeeded hsucceeded with ⟨response, hdone⟩
      rw [hfirst, hdone]
      exact ⟨not_admitted_done _, not_past_of_readsNext rfl⟩
    · rw [hsame₂ j hfirst, hsame₁ j hj]
      exact (othersWait_of_idle (w := World.init profileStore)
        fun _ _ => rfl) j hj
  rcases hwait₂.reaches (fun _ => sampleAct_of_replicate) hrun with
    ⟨hthird, hsame⟩
  have hdone : w.procs 1 = .done (.error quotaExceededResponse) :=
    Process.eq_done_of_ended hended
  have hready : QueueReady profileStore :=
    ⟨placed_start ⟨rfl, rfl⟩, fun _ _ hget => nomatch hget⟩
  have hids : sampleEnv.ParsesIds := by
    intro text hhId hparse
    cases hparse
    decide
  have hsucceeded' : (w.procs 0).succeeded = true := by
    rw [hsame 0 (by decide)]
    exact hsucceeded
  rcases concurrent_requests_within_quota hids hready (by decide)
    ((hfirst.trans hsecond).trans hthird) with ⟨hused, hcount, hrefused⟩
  refine ⟨w, _, hsucceeded', hdone, hused,
    hcount [0] (List.nodup_singleton 0) ?_, hrefused 1 _ id ?_ ?_ hdone⟩
  · intro j hj
    rw [List.mem_singleton.mp hj]
    exact hsucceeded'
  · exact ⟨⟨_, rfl, rfl, by decide⟩, fun h => nomatch h⟩
  · exact ⟨List.mem_singleton.mpr rfl, 7, rfl⟩

end CoverAI
