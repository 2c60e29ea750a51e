import CoverAI.Billing.Subscriptions
import CoverAI.Billing.Books

/-!
# The plan column and the subscription rows

The plan of a user is stored twice: in the users table and in the active
subscription rows.
-/

namespace CoverAI

open Txn Program

inductive SubscriptionRequest where
  | activate (userId : Int) (plan : Plan) (now : Instant)
  | expire (now : Instant)

namespace SubscriptionRequest

def session : SubscriptionRequest -> Session Unit
  | activate userId plan now => (activateSubscription userId plan now).void
  | expire now => (expireSubscriptions now).void

def instant : SubscriptionRequest -> Instant
  | activate _ _ now => now
  | expire now => now

theorem session_within {F : Footprint coverAI} (hF : PermitsSubscriptions F)
    (request : SubscriptionRequest) :
    request.session.Within F fun _ => True := by
  cases request with
  | activate userId plan now =>
      exact within_bind (activateSubscription_within hF userId plan now)
        fun _ _ => trivial
  | expire now =>
      exact within_bind (expireSubscriptions_within hF now)
        fun _ _ => trivial

end SubscriptionRequest

def afterSubscriptions (s : Store coverAI)
    (requests : List SubscriptionRequest) : Store coverAI :=
  transactAll s (requests.map SubscriptionRequest.session)

/-- The plan is FREE exactly when the user has no active row, and every active
row carries the plan. -/
structure PlanAgrees (userId : Int) (db : Db) : Prop where
  free : forall user, db.users.get userId = some user ->
    (user.plan = .free <-> forall id row, ¬ ActiveRow userId db id row)
  same : forall user, db.users.get userId = some user ->
    forall id row, ActiveRow userId db id row -> row.plan = user.plan

/-- A change of plan is requested only while one row is active, and a sweep
runs only when either all active rows are over or none is. -/
def EndsAllOrNone (userId : Int) (db : Db) : SubscriptionRequest -> Prop
  | .activate owner plan _ =>
      owner = userId -> plan ∈ paidPlans ->
        forall id row, ActiveRow userId db id row -> row.plan ≠ plan ->
          forall other r, ActiveRow userId db other r -> other = id
  | .expire now =>
      forall id row, ActiveRow userId db id row -> row.expiresAt < now ->
        forall other r, ActiveRow userId db other r -> r.expiresAt < now

structure Subscriber (userId : Int) (s : Store coverAI) : Prop where
  user : exists user, s.db.users.get userId = some user
  fresh : forall id, s.seq SeqName.subscriptions ≤ id ->
    s.db.subscriptions.get id = none

structure StartsFree (userId : Int) (s : Store coverAI) : Prop
    extends Subscriber userId s where
  free : forall user, s.db.users.get userId = some user -> user.plan = .free
  unsubscribed : forall id row, s.db.subscriptions.get id = some row ->
    row.userId ≠ userId

theorem StartsFree.agrees {userId : Int} {s : Store coverAI}
    (h : StartsFree userId s) : PlanAgrees userId s.db := by
  have hnone : forall id row, ¬ ActiveRow userId s.db id row :=
    fun id row hactive => h.unsubscribed id row hactive.stored hactive.owner
  constructor
  · intro user hget
    exact iff_of_true (h.free user hget) hnone
  · intro _ _ id row hactive
    exact absurd hactive (hnone id row)

/-!
# Active rows after an activation
-/

theorem not_mem_paidPlans_free : Plan.free ∉ paidPlans := by
  decide

theorem get_activated_user (userId k id : Int) (plan : Plan) (now : Instant)
    (db : Db) :
    (activated userId plan now id db).users.get k =
      if k = userId then (db.users.get k).map (User.withPlan plan)
      else db.users.get k := by
  unfold activated
  rw [get_setPlan]
  simp only [endOtherPlan_users]

theorem get_activated_subscription {userId k id : Int} {plan : Plan}
    {now : Instant} {db : Db} (hfresh : db.subscriptions.get id = none) :
    (activated userId plan now id db).subscriptions.get k =
      if k = id then
        some (newPeriod userId plan
          (startOfPeriod (latestActive userId db) plan now))
      else
        (db.subscriptions.get k).map fun r =>
          if latestActive userId db = some (k, r) ∧ r.plan ≠ plan then r.ended
          else r := by
  unfold activated
  rw [setPlan_subscriptions]
  simp only
  by_cases hk : k = id
  · rw [if_pos hk, hk, Table.get_insert_self _ rfl]
    rw [get_endOtherPlan, hfresh]
    rfl
  · rw [if_neg hk, Table.get_insert_of_ne _ hk, get_endOtherPlan]

/-- The row that ends is the current one, unless it is renewed. -/
theorem activeRow_activated {userId owner id k : Int} {plan : Plan}
    {now : Instant} {row : Subscription} {db : Db}
    (hfresh : db.subscriptions.get id = none) :
    ActiveRow userId (activated owner plan now id db) k row <->
      (k = id ∧ owner = userId ∧
        row = newPeriod owner plan
          (startOfPeriod (latestActive owner db) plan now)) ∨
      (ActiveRow userId db k row ∧
        ¬ (latestActive owner db = some (k, row) ∧ row.plan ≠ plan)) := by
  have hget := @get_activated_subscription owner k id plan now db hfresh
  constructor
  · intro h
    have hstored := h.stored
    rw [hget] at hstored
    by_cases hk : k = id
    · rw [if_pos hk] at hstored
      cases hstored
      exact Or.inl ⟨hk, h.owner, rfl⟩
    · rw [if_neg hk] at hstored
      rcases Option.map_eq_some_iff.mp hstored with ⟨r, hr, hrow⟩
      by_cases hends : latestActive owner db = some (k, r) ∧ r.plan ≠ plan
      · rw [if_pos hends] at hrow
        have hactive := h.active
        rw [← hrow] at hactive
        cases hactive
      · rw [if_neg hends] at hrow
        rw [hrow] at hr hends
        exact Or.inr ⟨⟨hr, h.owner, h.active⟩, hends⟩
  · intro h
    rcases h with ⟨hk, howner, hrow⟩ | ⟨hactive, hends⟩
    · refine ⟨?_, ?_, ?_⟩
      · rw [hget, if_pos hk, hrow]
      · rw [hrow]
        exact howner
      · rw [hrow]
        rfl
    · have hk : k ≠ id := by
        intro hk
        have hstored := hactive.stored
        rw [hk, hfresh] at hstored
        cases hstored
      refine ⟨?_, hactive.owner, hactive.active⟩
      rw [hget, if_neg hk, hactive.stored, Option.map_some, if_neg hends]

theorem PlanAgrees.congr {userId : Int} {db d : Db} (h : PlanAgrees userId db)
    (huser : d.users.get userId = db.users.get userId)
    (hrows : forall id row,
      ActiveRow userId d id row <-> ActiveRow userId db id row) :
    PlanAgrees userId d := by
  constructor
  · intro user hget
    rw [huser] at hget
    simpa only [hrows] using h.free user hget
  · intro user hget id row hactive
    rw [huser] at hget
    exact h.same user hget id row ((hrows id row).mp hactive)

theorem planAgrees_activated_iff {userId id : Int} {plan : Plan} {user : User}
    {now : Instant} {db : Db} (hplan : plan ∈ paidPlans)
    (huser : db.users.get userId = some user)
    (hfresh : db.subscriptions.get id = none) :
    PlanAgrees userId (activated userId plan now id db) <->
      forall k row, ActiveRow userId db k row ->
        ¬ (latestActive userId db = some (k, row) ∧ row.plan ≠ plan) ->
          row.plan = plan := by
  have hget : (activated userId plan now id db).users.get userId =
      some (user.withPlan plan) := by
    rw [get_activated_user, if_pos rfl, huser]
    rfl
  constructor
  · intro h k row hactive hends
    exact h.same _ hget k row
      ((activeRow_activated hfresh).mpr (Or.inr ⟨hactive, hends⟩))
  · intro h
    constructor
    · intro user' hget'
      cases hget.symm.trans hget'
      apply iff_of_false
      · intro hfree
        have hpaid : plan = .free := hfree
        rw [hpaid] at hplan
        exact not_mem_paidPlans_free hplan
      · intro hnone
        exact hnone id _
          ((activeRow_activated hfresh).mpr (Or.inl ⟨rfl, rfl, rfl⟩))
    · intro user' hget' k row hactive
      cases hget.symm.trans hget'
      rcases (activeRow_activated hfresh).mp hactive with
        ⟨_, _, hrow⟩ | ⟨hold, hends⟩
      · rw [hrow]
        rfl
      · exact h k row hold hends

theorem PlanAgrees.activated_iff {userId id : Int} {plan : Plan} {user : User}
    {now : Instant} {db : Db} (h : PlanAgrees userId db)
    (hplan : plan ∈ paidPlans) (huser : db.users.get userId = some user)
    (hfresh : db.subscriptions.get id = none) :
    PlanAgrees userId (activated userId plan now id db) <->
      forall k row, ActiveRow userId db k row -> row.plan ≠ plan ->
        forall other r, ActiveRow userId db other r -> other = k := by
  rw [planAgrees_activated_iff hplan huser hfresh]
  constructor
  · intro hkept k row hactive hne
    have hother : forall c r, ActiveRow userId db c r ->
        exists crow, latestActive userId db = some (c, crow) := by
      intro c r hr
      have hr_plan : r.plan ≠ plan := by
        rw [h.same user huser c r hr, <- h.same user huser k row hactive]
        exact hne
      by_contra hlatest
      exact hr_plan (hkept c r hr fun hends => hlatest ⟨r, hends.left⟩)
    intro other r hr
    rcases hother k row hactive with ⟨_, hk⟩
    rcases hother other r hr with ⟨_, hr'⟩
    cases hk.symm.trans hr'
    rfl
  · intro hsingle k row hactive hends
    by_contra hne
    cases hlatest : latestActive userId db with
    | none => exact latestActive_none hlatest k row hactive
    | some entry =>
        rcases entry with ⟨c, crow⟩
        have hcurrent := latestActive_active hlatest
        have hck := hsingle k row hactive hne c crow hcurrent
        apply hends
        rw [hlatest, hck]
        have hrow := hcurrent.stored
        rw [hck, hactive.stored] at hrow
        cases hrow
        exact ⟨rfl, hne⟩

/-!
# Active rows after a sweep
-/

theorem activeRow_expiries {userId k : Int} {now : Instant}
    {row : Subscription} {db : Db} :
    ActiveRow userId (expiries (expiredBefore now db) db) k row <->
      ActiveRow userId db k row ∧ ¬ row.expiresAt < now := by
  have hget := get_expiries_subscription (expiredBefore now db) db k
  constructor
  · intro h
    have hstored := h.stored
    rw [hget] at hstored
    by_cases hk : k ∈ (expiredBefore now db).map Prod.fst
    · rw [if_pos hk] at hstored
      rcases Option.map_eq_some_iff.mp hstored with ⟨r, _, hrow⟩
      have hactive := h.active
      rw [← hrow] at hactive
      cases hactive
    · rw [if_neg hk] at hstored
      refine ⟨⟨hstored, h.owner, h.active⟩, ?_⟩
      intro hover
      apply hk
      exact List.mem_map.mpr
        ⟨(k, row), mem_expiredBefore.mpr ⟨hstored, h.active, hover⟩, rfl⟩
  · intro h
    rcases h with ⟨hactive, hlive⟩
    refine ⟨?_, hactive.owner, hactive.active⟩
    rw [hget, if_neg]
    · exact hactive.stored
    · intro hk
      rcases List.mem_map.mp hk with ⟨entry, hentry, hfst⟩
      rcases entry with ⟨id, r⟩
      cases hfst
      rcases mem_expiredBefore.mp hentry with ⟨hr, _, hover⟩
      cases hactive.stored.symm.trans hr
      exact hlive hover

theorem mem_expired_owners {userId : Int} {now : Instant} {db : Db} :
    userId ∈ (expiredBefore now db).map (fun entry => entry.2.userId) <->
      exists id row, ActiveRow userId db id row ∧ row.expiresAt < now := by
  rw [List.mem_map]
  constructor
  · intro h
    rcases h with ⟨⟨id, row⟩, hentry, howner⟩
    rcases mem_expiredBefore.mp hentry with ⟨hstored, hactive, hover⟩
    exact ⟨id, row, ⟨hstored, howner, hactive⟩, hover⟩
  · intro h
    rcases h with ⟨id, row, hactive, hover⟩
    exact ⟨(id, row),
      mem_expiredBefore.mpr ⟨hactive.stored, hactive.active, hover⟩,
      hactive.owner⟩

theorem PlanAgrees.expiries_iff {userId : Int} {user : User} {now : Instant}
    {db : Db} (h : PlanAgrees userId db)
    (huser : db.users.get userId = some user) :
    PlanAgrees userId (expiries (expiredBefore now db) db) <->
      forall id row, ActiveRow userId db id row -> row.expiresAt < now ->
        forall other r, ActiveRow userId db other r -> r.expiresAt < now := by
  have hget := get_expiries_user (expiredBefore now db) db userId
  by_cases hover : exists id row,
      ActiveRow userId db id row ∧ row.expiresAt < now
  · rw [if_pos (mem_expired_owners.mpr hover), huser] at hget
    constructor
    · intro hkept _ _ _ _ other r hr
      by_contra hlive
      exact (hkept.free _ hget).mp rfl other r
        (activeRow_expiries.mpr ⟨hr, hlive⟩)
    · intro hall
      rcases hover with ⟨id, row, hactive, hrow⟩
      have hnone : forall k r,
          ¬ ActiveRow userId (expiries (expiredBefore now db) db) k r := by
        intro k r hr
        rcases activeRow_expiries.mp hr with ⟨hold, hlive⟩
        exact hlive (hall id row hactive hrow k r hold)
      constructor
      · intro user' hget'
        cases hget.symm.trans hget'
        exact iff_of_true rfl hnone
      · intro _ _ k r hr
        exact absurd hr (hnone k r)
  · rw [if_neg (fun hmem => hover (mem_expired_owners.mp hmem))] at hget
    apply iff_of_true
    · apply h.congr hget
      intro id row
      rw [activeRow_expiries, and_iff_left_iff_imp]
      exact fun hactive hrow => hover ⟨id, row, hactive, hrow⟩
    · intro id row hactive hrow
      exact absurd ⟨id, row, hactive, hrow⟩ hover

/-!
# Runs
-/

theorem Subscriber.fresh_next {userId : Int} {s : Store coverAI}
    (h : Subscriber userId s) :
    s.db.subscriptions.get (s.seq SeqName.subscriptions) = none :=
  h.fresh _ (Int.le_refl _)

theorem transact_activateSubscription {userId : Int} {plan : Plan}
    {user : User} {s : Store coverAI} (now : Instant)
    (hplan : plan ∈ paidPlans) (huser : s.db.users.get userId = some user)
    (hfresh : s.db.subscriptions.get (s.seq SeqName.subscriptions) = none) :
    ((SubscriptionRequest.activate userId plan now).session.transact s).2 =
      (s.draw SeqName.subscriptions).setDb
        (activated userId plan now (s.seq SeqName.subscriptions) s.db) := by
  rw [SubscriptionRequest.session, transact_void,
    transact_of_ok (run_activateSubscription now hplan huser hfresh)]

theorem transact_expireSubscriptions (now : Instant) (s : Store coverAI) :
    ((SubscriptionRequest.expire now).session.transact s).2 =
      s.setDb (expiries (expiredBefore now s.db) s.db) := by
  rw [SubscriptionRequest.session, transact_void,
    transact_of_ok (run_expireSubscriptions now s)]

/-- An activation is carried out, or it leaves the database as it is. -/
theorem activate_cases {userId : Int} {s : Store coverAI}
    (hsub : Subscriber userId s) (owner : Int) (plan : Plan) (now : Instant) :
    ((SubscriptionRequest.activate owner plan now).session.transact s).2.db =
        s.db ∧ ¬ (owner = userId ∧ plan ∈ paidPlans) ∨
      plan ∈ paidPlans ∧
        ((SubscriptionRequest.activate owner plan now).session.transact s).2 =
          (s.draw SeqName.subscriptions).setDb
            (activated owner plan now (s.seq SeqName.subscriptions) s.db) := by
  by_cases hdone : plan ∈ paidPlans ∧
      exists user, s.db.users.get owner = some user
  · rcases hdone with ⟨hplan, user, huser⟩
    exact Or.inr ⟨hplan,
      transact_activateSubscription now hplan huser hsub.fresh_next⟩
  · left
    rw [SubscriptionRequest.session, transact_void]
    constructor
    · exact (transact_activateSubscription_db owner plan now s).resolve_right
        hdone
    · intro h
      rcases h with ⟨howner, hplan⟩
      rw [howner] at hdone
      exact hdone ⟨hplan, hsub.user⟩

theorem Subscriber.transact {userId : Int} (s : Store coverAI)
    (request : SubscriptionRequest) (h : Subscriber userId s) :
    Subscriber userId (request.session.transact s).2 := by
  have hadvances := transact_advances request.session s
  rcases h.user with ⟨user, huser⟩
  cases request with
  | activate owner plan now =>
      rcases activate_cases h owner plan now with ⟨hsame, _⟩ | ⟨hplan, hdone⟩
      · constructor
        · rw [hsame]
          exact h.user
        · intro id hid
          rw [hsame]
          exact h.fresh id (Int.le_trans (hadvances.seq _) hid)
      · rw [hdone]
        constructor
        · rw [Store.setDb_db, get_activated_user, huser]
          split
          · exact ⟨_, rfl⟩
          · exact ⟨_, rfl⟩
        · intro id hid
          rw [Store.setDb_seq, Store.draw_seq, if_pos rfl] at hid
          rw [Store.setDb_db, get_activated_subscription h.fresh_next,
            if_neg (by omega), h.fresh id (by omega)]
          rfl
  | expire now =>
      rw [transact_expireSubscriptions]
      constructor
      · rw [Store.setDb_db, get_expiries_user, huser]
        split
        · exact ⟨_, rfl⟩
        · exact ⟨_, rfl⟩
      · intro id hid
        rw [Store.setDb_db, get_expiries_subscription, h.fresh id hid]
        split
        · rfl
        · rfl

/-- What a request does to the agreement of one user's plan. -/
theorem PlanAgrees.transact_iff {userId : Int} (s : Store coverAI)
    (request : SubscriptionRequest) (hsub : Subscriber userId s)
    (h : PlanAgrees userId s.db) :
    PlanAgrees userId (request.session.transact s).2.db <->
      EndsAllOrNone userId s.db request := by
  rcases hsub.user with ⟨user, huser⟩
  cases request with
  | activate owner plan now =>
      rcases activate_cases hsub owner plan now with
        ⟨hsame, hrefused⟩ | ⟨hplan, hdone⟩
      · rw [hsame]
        exact iff_of_true h fun howner hplan =>
          absurd ⟨howner, hplan⟩ hrefused
      · rw [hdone, Store.setDb_db]
        by_cases howner : owner = userId
        · rw [howner, h.activated_iff hplan huser hsub.fresh_next]
          constructor
          · exact fun hall _ _ => hall
          · exact fun hall => hall rfl hplan
        · apply iff_of_true
          · apply h.congr
            · rw [get_activated_user, if_neg (Ne.symm howner)]
            · intro id row
              rw [activeRow_activated hsub.fresh_next]
              constructor
              · intro hrow
                rcases hrow with ⟨_, heq, _⟩ | ⟨hactive, _⟩
                · exact absurd heq howner
                · exact hactive
              · intro hactive
                refine Or.inr ⟨hactive, fun hends => howner ?_⟩
                have hcurrent := (latestActive_active hends.left).owner
                exact hcurrent.symm.trans hactive.owner
          · exact fun heq => absurd heq howner
  | expire now =>
      rw [transact_expireSubscriptions, Store.setDb_db]
      exact h.expiries_iff huser

/-- Plan and rows agree in every state of a run exactly when no request of the
run ends some of the user's active rows and leaves others. -/
theorem plan_agrees_iff {userId : Int} {s₀ : Store coverAI}
    (hstart : StartsFree userId s₀) (requests : List SubscriptionRequest) :
    (forall done, done <+: requests ->
      PlanAgrees userId (afterSubscriptions s₀ done).db) <->
        forall done next, done ++ [next] <+: requests ->
          EndsAllOrNone userId (afterSubscriptions s₀ done).db next :=
  @transactAll_holds_iff coverAI SubscriptionRequest
    SubscriptionRequest.session (Subscriber userId)
    (fun s => PlanAgrees userId s.db)
    (fun s => EndsAllOrNone userId s.db) Subscriber.transact
    PlanAgrees.transact_iff s₀ hstart.toSubscriber hstart.agrees requests

/-!
# A renewal and an upgrade
-/

theorem registeredStore_startsFree : StartsFree 1 registeredStore := by
  have huser : registeredStore.db.users.get 1 = some sampleUser := rfl
  have hrows : registeredStore.db.subscriptions = Table.empty := rfl
  refine ⟨⟨⟨sampleUser, huser⟩, ?_⟩, ?_, ?_⟩
  · intro id _
    rw [hrows]
    rfl
  · intro user hget
    cases huser.symm.trans hget
    rfl
  · intro id row hget
    rw [hrows] at hget
    cases hget

def planAfter (requests : List SubscriptionRequest) : Option Plan :=
  ((afterSubscriptions registeredStore requests).db.users.get 1).map User.plan

def rowAfter (id : Int) (requests : List SubscriptionRequest) :
    Option (Plan × SubscriptionStatus × Instant) :=
  ((afterSubscriptions registeredStore requests).db.subscriptions.get id).map
    fun row => (row.plan, row.status, row.expiresAt)

/-- A subscription renewed before it is over, and a sweep after the first
period. -/
def renewal : List SubscriptionRequest :=
  [.activate 1 .standard 0, .activate 1 .standard 1,
    .expire (paidSubscriptionDuration + 1)]

/-- A renewed subscription that is upgraded. -/
def upgrade : List SubscriptionRequest :=
  [.activate 1 .standard 0, .activate 1 .standard 1, .activate 1 .pro 2]

/-- The sweep frees a user whose second period has just begun. -/
theorem sweep_frees_renewed_user :
    StartsFree 1 registeredStore ∧
      (renewal.map SubscriptionRequest.instant).Pairwise (· ≤ ·) ∧
      planAfter renewal = some .free ∧
      rowAfter 2 renewal =
        some (.standard, .active, 2 * paidSubscriptionDuration) ∧
      ¬ PlanAgrees 1 (afterSubscriptions registeredStore renewal).db := by
  refine ⟨registeredStore_startsFree, by decide, rfl, rfl, ?_⟩
  intro h
  have hget : (afterSubscriptions registeredStore renewal).db.users.get 1 =
      some sampleUser := rfl
  exact (h.free sampleUser hget).mp rfl 2
    (newPeriod 1 .standard paidSubscriptionDuration) ⟨rfl, rfl, rfl⟩

/-- The upgrade ends the later row and leaves the first one active. -/
example : planAfter upgrade = some .pro ∧
    rowAfter 1 upgrade =
      some (.standard, .active, paidSubscriptionDuration) := by
  decide

def activeSubscriptions (userId : Int) (db : Db) : List Subscription :=
  (db.subscriptions.rows.map Prod.snd).filter fun row =>
    row.userId = userId && row.status = .active

theorem ActiveRow.mem_activeSubscriptions {userId id : Int} {db : Db}
    {row : Subscription} (h : ActiveRow userId db id row) :
    row ∈ activeSubscriptions userId db := by
  apply List.mem_filter.mpr
  constructor
  · exact List.mem_map.mpr ⟨_, Table.mem_of_get h.stored, rfl⟩
  · simp [h.owner, h.active]

theorem endsAllOrNone_of_renewal {userId : Int} {db : Db} {plan : Plan}
    (hall : forall row, row ∈ activeSubscriptions userId db -> row.plan = plan)
    (owner : Int) (now : Instant) :
    EndsAllOrNone userId db (.activate owner plan now) := by
  intro _ _ id row hactive hother
  exact absurd (hall row hactive.mem_activeSubscriptions) hother

theorem endsAllOrNone_of_none {userId : Int} {db : Db} {now : Instant}
    (hnone : forall row, row ∈ activeSubscriptions userId db ->
      ¬ row.expiresAt < now) :
    EndsAllOrNone userId db (.expire now) := by
  intro id row hactive hover
  exact absurd hover (hnone row hactive.mem_activeSubscriptions)

theorem endsAllOrNone_of_all {userId : Int} {db : Db} {now : Instant}
    (hall : forall row, row ∈ activeSubscriptions userId db ->
      row.expiresAt < now) :
    EndsAllOrNone userId db (.expire now) := by
  intro _ _ _ _ other r hactive
  exact hall r hactive.mem_activeSubscriptions

/-- A subscription is renewed, swept while it runs and swept when both periods
are over. -/
def renewedOnce : List SubscriptionRequest :=
  [.activate 1 .standard 0, .activate 1 .standard 1, .expire 2,
    .expire (3 * paidSubscriptionDuration)]

theorem plan_agrees_after_renewal :
    (forall done, done <+: renewedOnce ->
      PlanAgrees 1 (afterSubscriptions registeredStore done).db) ∧
      planAfter (renewedOnce.take 3) = some .standard ∧
      rowAfter 2 (renewedOnce.take 3) =
        some (.standard, .active, 2 * paidSubscriptionDuration) ∧
      planAfter renewedOnce = some .free := by
  refine ⟨?_, rfl, rfl, rfl⟩
  apply (plan_agrees_iff registeredStore_startsFree renewedOnce).mpr
  simp only [renewedOnce, forall_steps_cons]
  refine ⟨endsAllOrNone_of_renewal ?_ _ _, endsAllOrNone_of_renewal ?_ _ _,
    endsAllOrNone_of_none ?_, endsAllOrNone_of_all ?_, forall_steps_nil⟩
  · decide
  · decide
  · decide
  · decide

end CoverAI
