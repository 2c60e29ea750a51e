import CoverAI.Billing.PlanAgreement
import Mathlib.Data.Int.ConditionallyCompleteOrder
import Mathlib.Data.List.Induction
import Mathlib.Order.CompletePartialOrder
import Mathlib.Order.Interval.Set.Disjoint

/-!
# Paid periods

A renewal starts where the current row ends, and a row stays active after its
period until a sweep ends it.  This module follows a user who activates one
plan again and again without a sweep.
-/

namespace CoverAI

open Txn Program

def Subscription.interval (r : Subscription) : Set Instant :=
  Set.Ico r.startsAt r.expiresAt

/-- A call of the service that created a period. -/
structure Purchase where
  instant : Instant
  period : Subscription

structure Renewals where
  store : Store coverAI
  purchases : List Purchase

def Renewals.call (userId : Int) (plan : Plan) (r : Renewals)
    (now : Instant) : Renewals :=
  match (activateSubscription userId plan now).transact r.store with
  | (.ok subscription, s) => ⟨s, r.purchases ++ [⟨now, subscription.2⟩]⟩
  | (.error _, s) => ⟨s, r.purchases⟩

def renewals (userId : Int) (plan : Plan) (s : Store coverAI)
    (instants : List Instant) : Renewals :=
  instants.foldl (Renewals.call userId plan) ⟨s, []⟩

/-- The periods are pairwise disjoint, and none ends earlier than a full period
after the call that created it. -/
structure FullPeriods (purchases : List Purchase) : Prop where
  disjoint : purchases.Pairwise fun p q =>
    Disjoint p.period.interval q.period.interval
  full : forall p, p ∈ purchases ->
    p.instant + paidSubscriptionDuration ≤ p.period.expiresAt

/-- The current row is one of the plan that is not over yet, or it is one of
another plan and the periods that were bought are over. -/
def ExtendsCurrent (userId : Int) (plan : Plan) (r : Renewals)
    (now : Instant) : Prop :=
  forall id row, latestActive userId r.store.db = some (id, row) ->
    if row.plan = plan then now ≤ row.expiresAt
    else forall p, p ∈ r.purchases -> p.period.expiresAt ≤ now

theorem lt_add_duration (start : Instant) :
    start < start + paidSubscriptionDuration :=
  Int.lt_add_of_pos_right start (by decide)

theorem disjoint_of_over {r later : Subscription}
    (h : r.expiresAt ≤ later.startsAt) :
    Disjoint r.interval later.interval := by
  apply Set.Ico_disjoint_Ico.mpr
  exact (min_le_left _ _).trans (h.trans (le_max_right _ _))

theorem over_of_disjoint {r later : Subscription}
    (h : Disjoint r.interval later.interval)
    (hstart : r.startsAt ≤ later.startsAt)
    (hlater : later.startsAt < later.expiresAt) :
    r.expiresAt ≤ later.startsAt := by
  have hmin := Set.Ico_disjoint_Ico.mp h
  rw [max_eq_right hstart] at hmin
  rcases min_le_iff.mp hmin with hover | hempty
  · exact hover
  · exact absurd hempty (not_le.mpr hlater)

/-!
# One call
-/

theorem Renewals.call_of_paid {userId : Int} {plan : Plan} {r : Renewals}
    (now : Instant) (hplan : plan ∈ paidPlans)
    (hsub : Subscriber userId r.store) :
    r.call userId plan now =
      { store := (r.store.draw SeqName.subscriptions).setDb
          (activated userId plan now (r.store.seq SeqName.subscriptions)
            r.store.db)
        purchases := r.purchases ++ [{
          instant := now
          period := newPeriod userId plan
            (startOfPeriod (latestActive userId r.store.db) plan now) }] } := by
  rcases hsub.user with ⟨user, huser⟩
  rw [Renewals.call, transact_of_ok
    (run_activateSubscription now hplan huser hsub.fresh_next)]

theorem Renewals.call_of_not_paid {userId : Int} {plan : Plan}
    (r : Renewals) (now : Instant) (hplan : plan ∉ paidPlans) :
    (r.call userId plan now).purchases = r.purchases := by
  rw [Renewals.call, activateSubscription, if_pos hplan]
  rfl

/-- Every period that was bought is an active row.  As long as the current row
is of another plan, each of them began when it was bought. -/
structure Bought (userId : Int) (plan : Plan) (r : Renewals) : Prop
    extends Subscriber userId r.store where
  rows : forall p, p ∈ r.purchases ->
    exists id, ActiveRow userId r.store.db id p.period
  plans : forall p, p ∈ r.purchases -> p.period.plan = plan
  began : forall id row, latestActive userId r.store.db = some (id, row) ->
    row.plan ≠ plan ->
      forall p, p ∈ r.purchases -> p.period.startsAt = p.instant

theorem Bought.start {userId : Int} (plan : Plan) {s : Store coverAI}
    (hsub : Subscriber userId s) : Bought userId plan ⟨s, []⟩ :=
  ⟨hsub, List.forall_mem_nil _, List.forall_mem_nil _,
    fun _ _ _ _ => List.forall_mem_nil _⟩

theorem Bought.purchases_nil {userId : Int} {plan : Plan} {r : Renewals}
    (h : Bought userId plan r) (hnone : latestActive userId r.store.db = none) :
    r.purchases = [] := by
  apply List.eq_nil_iff_forall_not_mem.mpr
  intro p hp
  rcases h.rows p hp with ⟨id, hrow⟩
  exact latestActive_none hnone id p.period hrow

/-- A renewal is the latest row. -/
theorem latestActive_renewed {userId id k c : Int} {plan : Plan}
    {now : Instant} {current row : Subscription} {db : Db}
    (hfresh : db.subscriptions.get id = none)
    (hcurrent : latestActive userId db = some (c, current))
    (hsame : current.plan = plan)
    (h : latestActive userId (activated userId plan now id db) =
      some (k, row)) : row.plan = plan := by
  have hstart : startOfPeriod (latestActive userId db) plan now =
      current.expiresAt := by
    rw [hcurrent, startOfPeriod, if_pos hsame]
  rcases (activeRow_activated hfresh).mp (latestActive_active h) with
    ⟨_, _, hrow⟩ | ⟨hold, _⟩
  · rw [hrow]
    rfl
  · have hnew : ActiveRow userId (activated userId plan now id db) id
        (newPeriod userId plan current.expiresAt) := by
      apply (activeRow_activated hfresh).mpr
      rw [hstart]
      exact Or.inl ⟨rfl, rfl, rfl⟩
    have hlater : current.expiresAt + paidSubscriptionDuration ≤
        row.expiresAt := latestActive_latest h hnew
    have hearlier : row.expiresAt ≤ current.expiresAt :=
      latestActive_latest hcurrent hold
    have hperiod := lt_add_duration current.expiresAt
    exact absurd (Int.le_trans hlater hearlier) (Int.not_le.mpr hperiod)

theorem Bought.call {userId : Int} {plan : Plan} {r : Renewals}
    (h : Bought userId plan r) (now : Instant) (hplan : plan ∈ paidPlans) :
    Bought userId plan (r.call userId plan now) := by
  have hfresh := h.toSubscriber.fresh_next
  have hsub : Subscriber userId (r.call userId plan now).store := by
    rw [Renewals.call_of_paid now hplan h.toSubscriber]
    have hrest := h.toSubscriber.transact r.store (.activate userId plan now)
    rcases h.toSubscriber.user with ⟨user, huser⟩
    rwa [transact_activateSubscription now hplan huser hfresh] at hrest
  refine ⟨hsub, ?_, ?_, ?_⟩
  · rw [Renewals.call_of_paid now hplan h.toSubscriber]
    intro p hp
    rcases List.mem_append.mp hp with hold | hnew
    · rcases h.rows p hold with ⟨id, hrow⟩
      refine ⟨id, (activeRow_activated hfresh).mpr (Or.inr ⟨hrow, ?_⟩)⟩
      exact fun hends => hends.right (h.plans p hold)
    · rw [List.mem_singleton.mp hnew]
      exact ⟨_, (activeRow_activated hfresh).mpr (Or.inl ⟨rfl, rfl, rfl⟩)⟩
  · rw [Renewals.call_of_paid now hplan h.toSubscriber]
    intro p hp
    rcases List.mem_append.mp hp with hold | hnew
    · exact h.plans p hold
    · rw [List.mem_singleton.mp hnew]
      rfl
  · rw [Renewals.call_of_paid now hplan h.toSubscriber]
    intro k row hlatest hother p hp
    cases hcurrent : latestActive userId r.store.db with
    | none =>
        rw [h.purchases_nil hcurrent, hcurrent] at hp
        rw [List.mem_singleton.mp hp]
        rfl
    | some entry =>
        rcases entry with ⟨c, current⟩
        by_cases hsame : current.plan = plan
        · exact absurd (latestActive_renewed hfresh hcurrent hsame hlatest)
            hother
        · rcases List.mem_append.mp hp with hold | hnew
          · exact h.began c current hcurrent hsame p hold
          · rw [hcurrent, startOfPeriod, if_neg hsame] at hnew
            rw [List.mem_singleton.mp hnew]
            rfl

/-!
# The periods of a run
-/

theorem fullPeriods_nil : FullPeriods [] :=
  ⟨List.Pairwise.nil, List.forall_mem_nil _⟩

theorem fullPeriods_snoc_iff {purchases : List Purchase} {p : Purchase} :
    FullPeriods (purchases ++ [p]) <->
      FullPeriods purchases ∧
        p.instant + paidSubscriptionDuration ≤ p.period.expiresAt ∧
        forall q, q ∈ purchases ->
          Disjoint q.period.interval p.period.interval := by
  constructor
  · intro h
    rcases List.pairwise_append.mp h.disjoint with ⟨hold, _, hnew⟩
    refine ⟨⟨hold, ?_⟩, ?_, ?_⟩
    · exact fun q hq => h.full q (List.mem_append_left _ hq)
    · exact h.full p (List.mem_append_right _ List.mem_cons_self)
    · exact fun q hq => hnew q hq p List.mem_cons_self
  · intro hparts
    rcases hparts with ⟨hold, hfull, hnew⟩
    constructor
    · refine List.pairwise_append.mpr
        ⟨hold.disjoint, List.pairwise_singleton _ _, ?_⟩
      intro q hq p' hp'
      rw [List.mem_singleton.mp hp']
      exact hnew q hq
    · intro q hq
      rcases List.mem_append.mp hq with hq | hq
      · exact hold.full q hq
      · rw [List.mem_singleton.mp hq]
        exact hfull

/-- A call buys a full period beside the earlier ones exactly when it extends
the current row. -/
theorem Bought.extends_iff {userId : Int} {plan : Plan} {r : Renewals}
    {now : Instant} (h : Bought userId plan r)
    (hearlier : forall p, p ∈ r.purchases -> p.instant ≤ now) :
    (now + paidSubscriptionDuration ≤
        (newPeriod userId plan
          (startOfPeriod (latestActive userId r.store.db) plan now)).expiresAt ∧
      forall q, q ∈ r.purchases ->
        Disjoint q.period.interval
          (newPeriod userId plan
            (startOfPeriod (latestActive userId r.store.db) plan now)).interval)
      <-> ExtendsCurrent userId plan r now := by
  cases hcurrent : latestActive userId r.store.db with
  | none =>
      apply iff_of_true
      · rw [h.purchases_nil hcurrent]
        exact ⟨Int.le_refl _, List.forall_mem_nil _⟩
      · intro id row hrow
        cases hcurrent.symm.trans hrow
  | some entry =>
      rcases entry with ⟨c, current⟩
      have hextends : ExtendsCurrent userId plan r now <->
          if current.plan = plan then now ≤ current.expiresAt
          else forall p, p ∈ r.purchases -> p.period.expiresAt ≤ now := by
        constructor
        · exact fun hall => hall c current hcurrent
        · intro hcase id row hrow
          cases hcurrent.symm.trans hrow
          exact hcase
      rw [hextends, startOfPeriod]
      by_cases hsame : current.plan = plan
      · rw [if_pos hsame, if_pos hsame]
        constructor
        · exact fun hfull => le_of_add_le_add_right hfull.left
        · intro hlive
          refine ⟨add_le_add_left hlive paidSubscriptionDuration, ?_⟩
          intro q hq
          rcases h.rows q hq with ⟨id, hrow⟩
          exact disjoint_of_over (latestActive_latest hcurrent hrow)
      · rw [if_neg hsame, if_neg hsame]
        constructor
        · intro hparts q hq
          rcases hparts with ⟨_, hdisjoint⟩
          have hbegan := h.began c current hcurrent hsame q hq
          exact over_of_disjoint (hdisjoint q hq)
            (hbegan.trans_le (hearlier q hq)) (lt_add_duration now)
        · intro hover
          exact ⟨Int.le_refl _, fun q hq => disjoint_of_over (hover q hq)⟩

/-!
# Runs
-/

theorem renewals_snoc (userId : Int) (plan : Plan) (s : Store coverAI)
    (instants : List Instant) (now : Instant) :
    renewals userId plan s (instants ++ [now]) =
      (renewals userId plan s instants).call userId plan now := by
  rw [renewals, List.foldl_append]
  rfl

theorem renewals_bought {userId : Int} {plan : Plan} {s : Store coverAI}
    (hsub : Subscriber userId s) (hplan : plan ∈ paidPlans)
    (instants : List Instant) :
    Bought userId plan (renewals userId plan s instants) := by
  induction instants using List.reverseRecOn with
  | nil => exact Bought.start plan hsub
  | append_singleton earlier now ih =>
      rw [renewals_snoc]
      exact ih.call now hplan

theorem renewals_instants {userId : Int} {plan : Plan} {s : Store coverAI}
    (hsub : Subscriber userId s) (hplan : plan ∈ paidPlans)
    (instants : List Instant) :
    (renewals userId plan s instants).purchases.map Purchase.instant =
      instants := by
  induction instants using List.reverseRecOn with
  | nil => rfl
  | append_singleton earlier now ih =>
      rw [renewals_snoc, Renewals.call_of_paid now hplan
        (renewals_bought hsub hplan earlier).toSubscriber, List.map_append, ih]
      rfl

theorem renewals_of_not_paid {userId : Int} {plan : Plan} {s : Store coverAI}
    (hplan : plan ∉ paidPlans) (instants : List Instant) :
    (renewals userId plan s instants).purchases = [] := by
  induction instants using List.reverseRecOn with
  | nil => rfl
  | append_singleton earlier now ih =>
      rw [renewals_snoc, Renewals.call_of_not_paid _ now hplan, ih]

/-- The calls buy full periods exactly when each of them extends the current
row. -/
theorem full_periods_iff {userId : Int} {s : Store coverAI}
    (hsub : Subscriber userId s) (plan : Plan) (instants : List Instant)
    (hsorted : instants.Pairwise (· ≤ ·)) :
    FullPeriods (renewals userId plan s instants).purchases <->
      (plan ∈ paidPlans -> forall done now, done ++ [now] <+: instants ->
        ExtendsCurrent userId plan (renewals userId plan s done) now) := by
  by_cases hplan : plan ∈ paidPlans
  · induction instants using List.reverseRecOn with
    | nil =>
        apply iff_of_true fullPeriods_nil
        intro _ done now hdone
        simp at hdone
    | append_singleton earlier last ih =>
        rcases List.pairwise_append.mp hsorted with ⟨hsorted', _, hlast⟩
        have hbought := renewals_bought hsub hplan earlier
        have hearlier : forall p,
            p ∈ (renewals userId plan s earlier).purchases ->
              p.instant ≤ last := by
          intro p hp
          have hmem := List.mem_map_of_mem (f := Purchase.instant) hp
          rw [renewals_instants hsub hplan] at hmem
          exact hlast p.instant hmem last List.mem_cons_self
        rw [renewals_snoc, Renewals.call_of_paid last hplan
          hbought.toSubscriber, fullPeriods_snoc_iff, ih hsorted',
          hbought.extends_iff hearlier]
        constructor
        · intro hparts _ done now hdone
          rcases hparts with ⟨hall, hextends⟩
          rcases List.prefix_concat_iff.mp hdone with heq | hbefore
          · rcases List.append_inj' heq rfl with ⟨rfl, hnow⟩
            cases hnow
            exact hextends
          · exact hall hplan done now hbefore
        · intro hall
          constructor
          · intro _ done now hdone
            exact hall hplan done now
              (hdone.trans (List.prefix_append _ _))
          · exact hall hplan earlier last List.prefix_rfl
  · rw [renewals_of_not_paid hplan]
    exact iff_of_true fullPeriods_nil fun hpaid => absurd hpaid hplan

/-!
# A renewal in time and a late one
-/

def days (n : Int) : Instant :=
  n * 86400 * 1000000

/-- A renewal ten days before the end. -/
theorem full_periods_renewed_in_time :
    FullPeriods
      (renewals 1 .standard registeredStore [0, days 20]).purchases := by
  have hsub : Subscriber 1 registeredStore :=
    registeredStore_startsFree.toSubscriber
  refine (full_periods_iff hsub .standard [0, days 20] (by decide)).mpr ?_
  intro _
  simp only [forall_steps_cons]
  refine ⟨?_, ?_, forall_steps_nil⟩
  · intro id row hrow
    have hnone : latestActive 1 registeredStore.db = none := rfl
    cases hnone.symm.trans hrow
  · intro id row hrow
    have hfirst : latestActive 1
        (renewals 1 .standard registeredStore [0]).store.db =
          some (1, newPeriod 1 .standard 0) := rfl
    cases hfirst.symm.trans hrow
    rw [if_pos (show (newPeriod 1 .standard 0).plan = .standard from rfl)]
    decide

/-- The plan is bought again ten days after the first period: the second one
ends twenty days after the payment. -/
theorem late_renewal_loses_days :
    Subscriber 1 registeredStore ∧
      [0, days 40].Pairwise (· ≤ ·) ∧
      (renewals 1 .standard registeredStore [0, days 40]).purchases.map
          (fun p => (p.instant, p.period.startsAt, p.period.expiresAt)) =
        [(0, 0, days 30), (days 40, days 30, days 60)] ∧
      ¬ FullPeriods
        (renewals 1 .standard registeredStore [0, days 40]).purchases := by
  refine ⟨registeredStore_startsFree.toSubscriber, by decide, by decide, ?_⟩
  intro h
  have hfull := h.full ⟨days 40, newPeriod 1 .standard (days 30)⟩
    (List.mem_cons_of_mem _ List.mem_cons_self)
  exact absurd hfull (by decide)

end CoverAI
