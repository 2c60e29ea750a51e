import CoverAI.Billing.PlanAgreement
import CoverAI.Api.Admin

/-!
# Expiry by an administrator

The request ends the active row with the latest end.  A renewed user has several
active rows, and the ones that are left are found again by the next activation.
-/

namespace CoverAI

open Txn Program

/-!
# The request
-/

def activeRows (userId : Int) (db : Db) : List (Int × Subscription) :=
  db.subscriptions.rows.filter fun entry =>
    entry.2.userId = userId && entry.2.status = .active

def endFirst (order : LatestFirst) (userId : Int) (db : Db) : Db :=
  match order.first (activeRows userId db) with
  | none => db
  | some entry => endSubscription entry.1 db

def adminExpiry (order : LatestFirst) (userId : Int) (db : Db) : Db :=
  setPlan userId .free (endFirst order userId db)

theorem LatestFirst.first_active {order : LatestFirst} {userId id : Int}
    {row : Subscription} {db : Db}
    (h : order.first (activeRows userId db) = some (id, row)) :
    ActiveRow userId db id row :=
  mem_active_iff.mp (order.mem _ _ h)

theorem LatestFirst.first_none {order : LatestFirst} {userId : Int} {db : Db}
    (h : order.first (activeRows userId db) = none) (id : Int)
    (row : Subscription) : ¬ ActiveRow userId db id row := by
  intro hactive
  refine order.exists_first (activeRows userId db) ?_ h
  exact List.ne_nil_of_mem (mem_active_iff.mpr hactive)

theorem endFirst_users (order : LatestFirst) (userId : Int) (db : Db) :
    (endFirst order userId db).users = db.users := by
  unfold endFirst
  split
  · rfl
  · rfl

theorem get_adminExpiry_user (order : LatestFirst) (userId k : Int) (db : Db) :
    (adminExpiry order userId db).users.get k =
      if k = userId then (db.users.get k).map (User.withPlan .free)
      else db.users.get k := by
  rw [adminExpiry, get_setPlan, endFirst_users]

/-- Only the row that the query puts first changes. -/
theorem get_adminExpiry_subscription (order : LatestFirst) (userId k : Int)
    (db : Db) :
    (adminExpiry order userId db).subscriptions.get k =
      (db.subscriptions.get k).map fun r =>
        if order.first (activeRows userId db) = some (k, r) then r.ended
        else r := by
  rw [adminExpiry, setPlan_subscriptions, endFirst]
  cases hfirst : order.first (activeRows userId db) with
  | none => simp
  | some entry =>
      rcases entry with ⟨id, row⟩
      have hrow := (LatestFirst.first_active hfirst).stored
      simp only [get_endSubscription]
      split
      · rename_i hk
        rw [hk, hrow, Option.map_some, Option.map_some, if_pos rfl]
      · rename_i hk
        cases hget : db.subscriptions.get k with
        | none => rfl
        | some r =>
            rw [Option.map_some, if_neg]
            intro h
            cases h
            exact hk rfl

theorem activeRow_adminExpiry {order : LatestFirst} {userId owner k : Int}
    {row : Subscription} {db : Db} :
    ActiveRow owner (adminExpiry order userId db) k row <->
      ActiveRow owner db k row ∧
        order.first (activeRows userId db) ≠ some (k, row) := by
  have hget := get_adminExpiry_subscription order userId k db
  constructor
  · intro h
    have hstored := h.stored
    rw [hget] at hstored
    rcases Option.map_eq_some_iff.mp hstored with ⟨r, hr, hrow⟩
    by_cases hends : order.first (activeRows userId db) = some (k, r)
    · rw [if_pos hends] at hrow
      have hactive := h.active
      rw [← hrow] at hactive
      cases hactive
    · rw [if_neg hends] at hrow
      rw [hrow] at hr hends
      exact ⟨⟨hr, h.owner, h.active⟩, hends⟩
  · intro hafter
    rcases hafter with ⟨hactive, hkept⟩
    refine ⟨?_, hactive.owner, hactive.active⟩
    rw [hget, hactive.stored, Option.map_some, if_neg hkept]

theorem attempt_expireRow {id : Int} {row : Subscription} {db : Db}
    (hget : db.subscriptions.get id = some row) :
    Write.attempt [expireRow (id, row)] db = .ok (endSubscription id db) := by
  rw [expireRow, attempt_updateSubscription hget, Write.attempt_nil]

theorem run_userById_held {adminId userId : Int} {admin user : User}
    {s : Store coverAI} (hadmin : s.db.users.get adminId = some admin)
    (huser : s.db.users.get userId = some user) :
    (userById (if userId = adminId then some admin else none) userId).run s =
      (.ok (some user), s) := by
  by_cases hself : userId = adminId
  · rw [hself, hadmin] at huser
    cases huser
    rw [if_pos hself]
    rfl
  · rw [if_neg hself]
    simp only [userById, select, ask, run]
    rw [huser]

theorem run_expireSubscription {order : LatestFirst} {adminId userId : Int}
    {admin user : User} {s : Store coverAI}
    (hadmin : s.db.users.get adminId = some admin)
    (hrole : admin.role = .admin)
    (huser : s.db.users.get userId = some user) :
    (expireSubscription order adminId userId).run s =
      (.ok { userId := userId, plan := .free, subscriptionStatus := .expired },
        s.setDb (adminExpiry order userId s.db)) := by
  have hcaller : (adminUser adminId).run s = (.ok admin, s) := by
    simp only [adminUser, currentUser, select, ask, bind_eq, read_bind,
      ret_bind, run, hadmin, hrole]
    rfl
  have hcurrent : activeSubscription order userId =
      select fun db => order.first (activeRows userId db) := rfl
  have hwrites : Write.attempt
      (updateUser userId user { user with plan := .free } ::
        (order.first (activeRows userId s.db)).toList.map expireRow) s.db =
      .ok (adminExpiry order userId s.db) := by
    rw [attempt_updateUser_plan huser, adminExpiry, endFirst]
    cases hfirst : order.first (activeRows userId s.db) with
    | none => rfl
    | some entry =>
        have hrow := (LatestFirst.first_active hfirst).stored
        exact @attempt_expireRow entry.1 entry.2 (setPlan userId .free s.db)
          hrow
  unfold expireSubscription
  rw [bind_eq, run_bind, hcaller]
  simp only
  rw [bind_eq, run_bind, run_userById_held hadmin huser]
  simp only [hcurrent, select, ask, flushUnit, bind_eq, read_bind, ret_bind,
    flush_bind, run]
  rw [hwrites]
  rfl

/-!
# What the request is for
-/

/-- An administrator and a user, in a store whose sequence is ahead of the
subscription rows. -/
structure Administers (adminId userId : Int) (s : Store coverAI) : Prop
    extends Subscriber userId s where
  admin : exists admin, s.db.users.get adminId = some admin ∧
    admin.role = .admin

/-- A sweep, or an activation for somebody else. -/
def SubscriptionRequest.Spares (userId : Int) : SubscriptionRequest -> Prop
  | .activate owner _ _ => owner ≠ userId
  | .expire _ => True

/-- The next activation of the user starts at its own instant, whatever is
requested for other users before it. -/
def StartsAnew (userId : Int) (s : Store coverAI) : Prop :=
  forall between, (forall r, r ∈ between -> r.Spares userId) ->
    forall plan, plan ∈ paidPlans -> forall now, exists subscription,
      ((activateSubscription userId plan now).transact
          (afterSubscriptions s between)).1 = .ok subscription ∧
        subscription.2.startsAt = now

structure EndsSubscription (userId : Int) (before after : Store coverAI) :
    Prop where
  plan : exists user, after.db.users.get userId = some user ∧ user.plan = .free
  ended : forall id row, ¬ ActiveRow userId after.db id row
  credits : (after.db.users.get userId).map User.credits =
    (before.db.users.get userId).map User.credits
  users : forall k, k ≠ userId ->
    after.db.users.get k = before.db.users.get k
  rows : forall k row, before.db.subscriptions.get k = some row ->
    row.userId ≠ userId -> after.db.subscriptions.get k = some row
  rest : after.db = { before.db with
    users := after.db.users
    subscriptions := after.db.subscriptions }
  anew : StartsAnew userId after

def AtMostOneActive (userId : Int) (db : Db) : Prop :=
  forall k row other r, ActiveRow userId db k row ->
    ActiveRow userId db other r -> other = k

theorem atMostOneActive_iff {order : LatestFirst} {userId : Int} {db : Db} :
    (forall k row, ¬ ActiveRow userId (adminExpiry order userId db) k row) <->
      AtMostOneActive userId db := by
  constructor
  · intro h k row other r hrow hr
    have hends : forall c crow, ActiveRow userId db c crow ->
        order.first (activeRows userId db) = some (c, crow) := by
      intro c crow hc
      by_contra hkept
      exact h c crow (activeRow_adminExpiry.mpr ⟨hc, hkept⟩)
    cases (hends other r hr).symm.trans (hends k row hrow)
    rfl
  · intro hsingle k row hactive
    rcases activeRow_adminExpiry.mp hactive with ⟨hrow, hkept⟩
    cases hfirst : order.first (activeRows userId db) with
    | none => exact LatestFirst.first_none hfirst k row hrow
    | some entry =>
        rcases entry with ⟨c, crow⟩
        have hc := LatestFirst.first_active hfirst
        have hck := hsingle k row c crow hrow hc
        rw [hck] at hc
        cases hc.stored.symm.trans hrow.stored
        rw [hck] at hfirst
        exact hkept hfirst

/-!
# Later activations
-/

/-- A user without an active row stays without one until the next activation
of that user. -/
theorem noActive_transact {userId : Int} {s : Store coverAI}
    {request : SubscriptionRequest} (hsub : Subscriber userId s)
    (hspares : request.Spares userId)
    (hnone : forall id row, ¬ ActiveRow userId s.db id row) (id : Int)
    (row : Subscription) :
    ¬ ActiveRow userId (request.session.transact s).2.db id row := by
  cases request with
  | activate owner plan now =>
      rcases activate_cases hsub owner plan now with ⟨hsame, _⟩ | ⟨_, hdone⟩
      · rw [hsame]
        exact hnone id row
      · rw [hdone, Store.setDb_db, activeRow_activated hsub.fresh_next]
        intro hafter
        rcases hafter with ⟨_, howner, _⟩ | ⟨hactive, _⟩
        · exact hspares howner
        · exact hnone id row hactive
  | expire now =>
      rw [transact_expireSubscriptions, Store.setDb_db, activeRow_expiries]
      exact fun h => hnone id row h.left

theorem startsAnew_of_noActive {userId : Int} {s : Store coverAI}
    (hsub : Subscriber userId s)
    (hnone : forall id row, ¬ ActiveRow userId s.db id row) :
    StartsAnew userId s := by
  intro between
  induction between generalizing s with
  | nil =>
      intro _ plan hplan now
      rcases hsub.user with ⟨user, huser⟩
      refine ⟨_, congrArg Prod.fst (transact_of_ok
        (run_activateSubscription now hplan huser hsub.fresh_next)), ?_⟩
      cases hcurrent : latestActive userId s.db with
      | none => rfl
      | some entry =>
          exact absurd (latestActive_active hcurrent) (hnone entry.1 entry.2)
  | cons request rest ih =>
      intro hspares
      rcases List.forall_mem_cons.mp hspares with ⟨hfirst, hrest⟩
      exact ih (hsub.transact s request)
        (noActive_transact hsub hfirst hnone) hrest

/-!
# Runs
-/

theorem get_user_transact {userId k : Int} {s : Store coverAI} {user : User}
    (hsub : Subscriber userId s) (request : SubscriptionRequest)
    (hget : s.db.users.get k = some user) :
    exists plan, (request.session.transact s).2.db.users.get k =
      some (user.withPlan plan) := by
  cases request with
  | activate owner plan now =>
      rcases activate_cases hsub owner plan now with ⟨hsame, _⟩ | ⟨_, hdone⟩
      · rw [hsame]
        exact ⟨user.plan, hget⟩
      · rw [hdone, Store.setDb_db, get_activated_user, hget]
        split
        · exact ⟨plan, rfl⟩
        · exact ⟨user.plan, rfl⟩
  | expire now =>
      rw [transact_expireSubscriptions, Store.setDb_db, get_expiries_user, hget]
      split
      · exact ⟨.free, rfl⟩
      · exact ⟨user.plan, rfl⟩

theorem Administers.transact {adminId userId : Int} {s : Store coverAI}
    (h : Administers adminId userId s) (request : SubscriptionRequest) :
    Administers adminId userId (request.session.transact s).2 := by
  refine ⟨h.toSubscriber.transact s request, ?_⟩
  rcases h.admin with ⟨admin, hadmin, hrole⟩
  rcases get_user_transact h.toSubscriber request hadmin with ⟨plan, hget⟩
  exact ⟨admin.withPlan plan, hget, hrole⟩

theorem Administers.afterSubscriptions {adminId userId : Int}
    {s : Store coverAI} (h : Administers adminId userId s)
    (requests : List SubscriptionRequest) :
    Administers adminId userId (afterSubscriptions s requests) := by
  induction requests generalizing s with
  | nil => exact h
  | cons request rest ih => exact ih (h.transact request)

theorem Administers.expire_iff {adminId userId : Int} {s : Store coverAI}
    (h : Administers adminId userId s) (order : LatestFirst) :
    EndsSubscription userId s
        ((expireSubscription order adminId userId).transact s).2 <->
      AtMostOneActive userId s.db := by
  rcases h.admin with ⟨admin, hadmin, hrole⟩
  rcases h.user with ⟨user, huser⟩
  have hdone : ((expireSubscription order adminId userId).transact s).2 =
      s.setDb (adminExpiry order userId s.db) := by
    rw [transact_of_ok (run_expireSubscription hadmin hrole huser)]
  have hget : (adminExpiry order userId s.db).users.get userId =
      some (user.withPlan .free) := by
    rw [get_adminExpiry_user, if_pos rfl, huser]
    rfl
  rw [hdone]
  constructor
  · intro hends
    exact atMostOneActive_iff.mp hends.ended
  · intro hsingle
    have hended := (@atMostOneActive_iff order userId s.db).mpr hsingle
    have hsub : Subscriber userId
        (s.setDb (adminExpiry order userId s.db)) := by
      refine ⟨⟨_, hget⟩, ?_⟩
      intro id hid
      rw [Store.setDb_db, get_adminExpiry_subscription, h.fresh id hid]
      rfl
    refine ⟨⟨_, hget, rfl⟩, hended, ?_, ?_, ?_, ?_, ?_⟩
    · rw [Store.setDb_db, hget, huser]
      rfl
    · intro k hk
      rw [Store.setDb_db, get_adminExpiry_user, if_neg hk]
    · intro k row hrow hother
      rw [Store.setDb_db, get_adminExpiry_subscription, hrow, Option.map_some,
        if_neg]
      intro hfirst
      exact hother (LatestFirst.first_active hfirst).owner
    · rw [Store.setDb_db, adminExpiry, endFirst]
      split
      · rfl
      · rfl
    · exact startsAnew_of_noActive hsub hended

/-- The request ends the subscription completely exactly when the user has at
most one active row. -/
theorem expire_subscription_iff {adminId userId : Int} {s₀ : Store coverAI}
    (h : Administers adminId userId s₀) (order : LatestFirst)
    (requests : List SubscriptionRequest) :
    EndsSubscription userId (afterSubscriptions s₀ requests)
        ((expireSubscription order adminId userId).transact
          (afterSubscriptions s₀ requests)).2 <->
      AtMostOneActive userId (afterSubscriptions s₀ requests).db :=
  (h.afterSubscriptions requests).expire_iff order

/-!
# One period and a renewed one
-/

/-- Among rows that expire together the newest comes first. -/
def newestFirst : LatestFirst where
  first rows := rows.foldl laterSubscription none
  mem := by
    intro rows entry h
    rcases foldl_laterSubscription_mem h with hnone | hmem
    · cases hnone
    · exact hmem
  latest _ _ h := (foldl_laterSubscription_expiresAt h).right
  exists_first := by
    intro rows hrows h
    exact hrows (foldl_laterSubscription_none h).right

def administratedStore : Store coverAI :=
  ((createUser { sampleUser with
      email := some "admin@example.com"
      role := .admin }).transact registeredStore).2

theorem administratedStore_administers : Administers 2 1 administratedStore := by
  have huser : administratedStore.db.users.get 1 = some sampleUser := rfl
  have hrows : administratedStore.db.subscriptions = Table.empty := rfl
  refine ⟨⟨⟨sampleUser, huser⟩, ?_⟩, ⟨_, rfl, rfl⟩⟩
  intro id _
  rw [hrows]
  rfl

theorem expire_subscription_once :
    EndsSubscription 1
      (afterSubscriptions administratedStore [.activate 1 .standard 0])
      ((expireSubscription newestFirst 2 1).transact
        (afterSubscriptions administratedStore [.activate 1 .standard 0])).2 := by
  apply (expire_subscription_iff administratedStore_administers newestFirst
    [.activate 1 .standard 0]).mpr
  have hrows : forall k row,
      ActiveRow 1
        (afterSubscriptions administratedStore [.activate 1 .standard 0]).db
        k row -> k = 1 := by
    intro k row hactive
    have hmem := Table.mem_of_get hactive.stored
    have hall : (afterSubscriptions administratedStore
        [.activate 1 .standard 0]).db.subscriptions.rows =
          [(1, newPeriod 1 .standard 0)] := rfl
    rw [hall] at hmem
    cases List.mem_singleton.mp hmem
    rfl
  intro k row other r hrow hr
  rw [hrows k row hrow, hrows other r hr]

def renewedStore : Store coverAI :=
  afterSubscriptions administratedStore
    [.activate 1 .standard 0, .activate 1 .standard 1]

def expiredStore : Store coverAI :=
  ((expireSubscription newestFirst 2 1).transact renewedStore).2

/-- The first period of a renewed user outlives the request, and what is bought
next starts when it ends. -/
theorem expire_subscription_leaves_first_period :
    Administers 2 1 administratedStore ∧
      (expiredStore.db.users.get 1).map User.plan = some .free ∧
      ActiveRow 1 expiredStore.db 1 (newPeriod 1 .standard 0) ∧
      ((activateSubscription 1 .standard 2).transact expiredStore).1 =
        .ok (3, newPeriod 1 .standard paidSubscriptionDuration) ∧
      ¬ EndsSubscription 1 renewedStore expiredStore := by
  have hactive : ActiveRow 1 expiredStore.db 1 (newPeriod 1 .standard 0) :=
    ⟨rfl, rfl, rfl⟩
  refine ⟨administratedStore_administers, rfl, hactive, rfl, ?_⟩
  intro h
  exact h.ended 1 _ hactive

end CoverAI
