import CoverAI.Billing.Books
import CoverAI.Promo.Redemption

/-!
# The limits of a promo code

Redemption attempts are executed one at a time, through either channel, by any
user and at any instant.  The API validates the promo code before it redeems
it.  The bot does not, so the limits hold in the runs whose bot attempts are
made while the promo code is valid.
-/

namespace CoverAI

open Txn Program

/-!
# Attempts
-/

/-- The bot's use case takes no instant; `now` is when it is called. -/
inductive RedemptionAttempt where
  | redeemPromo (userId : Int) (code : String) (now : Instant)
  | redeemPromoCode (userId : Int) (code : String) (now : Instant)

namespace RedemptionAttempt

def session (env : Env) : RedemptionAttempt -> Session Unit
  | redeemPromo userId code now =>
      (CoverAI.redeemPromo env userId code now).void
  | redeemPromoCode userId code _ =>
      (CoverAI.redeemPromoCode env userId code).void

def instant : RedemptionAttempt -> Instant
  | redeemPromo _ _ now | redeemPromoCode _ _ now => now

end RedemptionAttempt

structure RedemptionEvent where
  userId : Int
  promo : Option PromoCode
  instant : Instant

def redemptionEvents (promoId : Int) (instant : Instant) (db d : Db) :
    List RedemptionEvent :=
  ((redemptionsOf promoId d).drop (redemptionsOf promoId db).length).map
    fun r => {
      userId := r.userId
      promo := db.promoCodes.get promoId
      instant := instant }

/-- Serial runs of attempts, with the redemptions of one code made so far. -/
inductive RedemptionRun (env : Env) (allowed : Db -> RedemptionAttempt -> Prop)
    (promoId : Int) (s₀ : Store coverAI) :
    List RedemptionEvent -> Store coverAI -> Prop where
  | start : RedemptionRun env allowed promoId s₀ [] s₀
  | attempt {events : List RedemptionEvent} {s : Store coverAI}
      (a : RedemptionAttempt)
      (h : RedemptionRun env allowed promoId s₀ events s)
      (hallowed : allowed s.db a) :
      RedemptionRun env allowed promoId s₀
        (events ++ redemptionEvents promoId a.instant s.db
          ((a.session env).transact s).2.db)
        ((a.session env).transact s).2

/-- An attempt of the bot that goes through is made while the promo code is
active, not expired and below its limit. -/
def RedeemsValid (env : Env) (promoId : Int) (db : Db) :
    RedemptionAttempt -> Prop
  | .redeemPromo _ _ _ => True
  | .redeemPromoCode userId code now =>
      forall promo user,
        promoOfKey (promoKey env code) db = some (promoId, promo) ->
        { promoCodeId := promoId, userId := userId } ∉ db.promoRedemptions ->
        db.users.get userId = some user ->
        userChecks (user.redeemedInBot promo) = true ->
        validatePromo promo now = .ok ()

theorem validatePromo_ok {promo : PromoCode} {now : Instant} :
    validatePromo promo now = .ok () <->
      promo.isActive = true ∧ now ≤ promo.validUntil ∧
        promo.activationsCount < promo.maxActivations := by
  unfold validatePromo
  split
  · simp_all
  · split
    · simp_all
    · split
      · simp_all
      · simp_all

theorem RedemptionAttempt.transact_redeems (env : Env) (a : RedemptionAttempt)
    (s : Store coverAI) :
    ((a.session env).transact s).2.db = s.db ∨
      exists key userId promoId promo user edited,
        Redeems key userId promoId promo user edited s.db
            ((a.session env).transact s).2.db ∧
          forall id, RedeemsValid env id s.db a -> promoId = id ->
            validatePromo promo a.instant = .ok () := by
  cases a with
  | redeemPromo userId code now =>
      have h := ensures_void (redeemPromo_redeems (s := s) env userId code now)
      rcases ensures_transact h with
        ⟨_, _, promoId, promo, user, hvalid, hredeems⟩ | ⟨_, _, hdb⟩
      · exact Or.inr ⟨_, _, _, _, _, _, hredeems, fun _ _ _ => hvalid⟩
      · exact Or.inl hdb
  | redeemPromoCode userId code now =>
      have h := ensures_void (redeemPromoCode_redeems (s := s) env userId code)
      rcases ensures_transact h with
        ⟨_, _, hsame | ⟨promoId, promo, user, hredeems⟩⟩ | ⟨_, _, hdb⟩
      · exact Or.inl hsame
      · refine Or.inr ⟨_, _, _, _, _, _, hredeems, ?_⟩
        intro id hallowed hid
        subst hid
        exact hallowed promo user hredeems.found hredeems.new
          hredeems.registered hredeems.checked
      · exact Or.inl hdb

/-!
# The limits
-/

/-- The count of the promo row is the number of redemptions, at most
`m`; no user has redeemed the code twice; every redemption was made while
the code was active and not expired. -/
structure WithinLimits (promoId m : Int) (events : List RedemptionEvent)
    (db : Db) : Prop where
  counted : exists promo, db.promoCodes.get promoId = some promo ∧
    promo.activationsCount = (redemptionsOf promoId db).length
  limited : (redemptionsOf promoId db).length ≤ m
  once : (redemptionsOf promoId db).Nodup
  logged : (redemptionsOf promoId db).map PromoRedemption.userId =
    events.map RedemptionEvent.userId
  valid : forall e, e ∈ events -> exists promo, e.promo = some promo ∧
    promo.isActive = true ∧ e.instant ≤ promo.validUntil

structure PromoKept (promoId : Int) (promo : PromoCode)
    (events : List RedemptionEvent) (db : Db) : Prop where
  row : db.promoCodes.get promoId = some
    { promo with activationsCount := (redemptionsOf promoId db).length }
  within : WithinLimits promoId promo.maxActivations events db

theorem redemptionEvents_of_eq {promoId : Int} {instant : Instant} {db d : Db}
    (h : redemptionsOf promoId d = redemptionsOf promoId db) :
    redemptionEvents promoId instant db d = [] := by
  rw [redemptionEvents, h, List.drop_length, List.map_nil]

theorem PromoKept.other {promoId : Int} {promo : PromoCode}
    {events : List RedemptionEvent} {db d : Db}
    (h : PromoKept promoId promo events db)
    (hget : d.promoCodes.get promoId = db.promoCodes.get promoId)
    (hrows : redemptionsOf promoId d = redemptionsOf promoId db)
    (instant : Instant) :
    PromoKept promoId promo
      (events ++ redemptionEvents promoId instant db d) d := by
  rw [redemptionEvents_of_eq hrows, List.append_nil]
  have hwithin := h.within
  refine ⟨?_, ⟨?_, ?_, ?_, ?_, hwithin.valid⟩⟩
  · rw [hget, hrows]
    exact h.row
  · rw [hget, hrows]
    exact hwithin.counted
  · rw [hrows]
    exact hwithin.limited
  · rw [hrows]
    exact hwithin.once
  · rw [hrows]
    exact hwithin.logged

theorem PromoKept.redeemed {promoId userId : Int} {promo stored : PromoCode}
    {events : List RedemptionEvent} {key : String} {user edited : User}
    {db d : Db} (h : PromoKept promoId promo events db)
    (hredeems : Redeems key userId promoId stored user edited db d)
    {instant : Instant} (hvalid : validatePromo stored instant = .ok ()) :
    PromoKept promoId promo
      (events ++ redemptionEvents promoId instant db d) d := by
  have hget := Table.get_of_first? hredeems.found
  have hstored := Option.some.inj (hget.symm.trans h.row)
  have hrows := redemptionsOf_append hredeems.redemptions promoId
  rw [if_pos rfl] at hrows
  have hrow : d.promoCodes.get promoId = some
      { promo with activationsCount := (redemptionsOf promoId d).length } := by
    rw [hredeems.get_promo, if_pos rfl, hstored, hrows, List.length_append]
    rfl
  have hevents : redemptionEvents promoId instant db d =
      [{ userId := userId, promo := some stored, instant := instant }] := by
    rw [redemptionEvents, hrows, List.drop_left, hget, List.map_singleton]
  rcases validatePromo_ok.mp hvalid with ⟨hactive, huntil, hbelow⟩
  refine ⟨hrow, ⟨⟨_, hrow, rfl⟩, ?_, ?_, ?_, ?_⟩⟩
  · rw [hstored] at hbelow
    rw [hrows, List.length_append, List.length_singleton]
    exact hbelow
  · rw [hrows]
    refine List.nodup_append.mpr
      ⟨h.within.once, List.nodup_singleton _, ?_⟩
    intro r hr r' hr' heq
    rw [List.mem_singleton] at hr'
    rw [heq, hr'] at hr
    exact hredeems.new (mem_redemptionsOf.mp hr).left
  · rw [hrows, hevents, List.map_append, List.map_append, h.within.logged]
    rfl
  · intro e he
    rw [hevents] at he
    rcases List.mem_append.mp he with hold | hnew
    · exact h.within.valid e hold
    · rw [List.mem_singleton.mp hnew]
      exact ⟨stored, rfl, hactive, huntil⟩

theorem PromoKept.attempt {env : Env} {promoId : Int} {promo : PromoCode}
    {events : List RedemptionEvent} {s : Store coverAI}
    (h : PromoKept promoId promo events s.db) (a : RedemptionAttempt)
    (hallowed : RedeemsValid env promoId s.db a) :
    PromoKept promoId promo
      (events ++ redemptionEvents promoId a.instant s.db
        ((a.session env).transact s).2.db)
      ((a.session env).transact s).2.db := by
  rcases a.transact_redeems env s with hsame |
    ⟨key, userId, id, stored, user, edited, hredeems, hvalid⟩
  · rw [hsame]
    exact h.other rfl rfl a.instant
  · by_cases hid : id = promoId
    · subst hid
      exact h.redeemed hredeems (hvalid id hallowed rfl)
    · apply h.other
      · rw [hredeems.get_promo, if_neg (Ne.symm hid)]
      · rw [redemptionsOf_append hredeems.redemptions, if_neg hid,
          List.append_nil]

theorem RedemptionRun.kept {env : Env} {promoId : Int} {promo : PromoCode}
    {events : List RedemptionEvent} {s₀ s : Store coverAI}
    (h : RedemptionRun env (RedeemsValid env promoId) promoId s₀ events s)
    (h₀ : PromoKept promoId promo [] s₀.db) :
    PromoKept promoId promo events s.db := by
  induction h with
  | start => exact h₀
  | attempt a _ hallowed ih => exact ih.attempt a hallowed

/-- A promo code as it is created, without redemptions. -/
structure FreshPromo (promoId m : Int) (db : Db) : Prop where
  unused : exists promo, db.promoCodes.get promoId = some promo ∧
    promo.maxActivations = m ∧ promo.activationsCount = 0
  unredeemed : redemptionsOf promoId db = []

theorem FreshPromo.kept {promoId m : Int} {db : Db}
    (h : FreshPromo promoId m db) :
    exists promo, promo.maxActivations = m ∧ PromoKept promoId promo [] db := by
  rcases h.unused with ⟨promo, hget, hmax, hcount⟩
  have hpos := (promoCodeChecks_iff promo).mp (Table.check_of_get hget)
  refine ⟨promo, hmax, ?_, ⟨⟨promo, hget, ?_⟩, ?_, ?_, ?_, ?_⟩⟩
  · rw [hget, h.unredeemed, List.length_nil, Int.natCast_zero, ← hcount]
  · rw [h.unredeemed, hcount]
    rfl
  · rw [h.unredeemed]
    exact Int.le_of_lt hpos.right.left
  · rw [h.unredeemed]
    exact List.nodup_nil
  · rw [h.unredeemed]
    rfl
  · intro e he
    cases he

/-- If every bot attempt that goes through is made while the promo code is
valid, the limits of the code hold in every reachable state. -/
theorem promo_limits_hold {env : Env} {promoId m : Int}
    {events : List RedemptionEvent} {s₀ s : Store coverAI}
    (hfresh : FreshPromo promoId m s₀.db)
    (hrun : RedemptionRun env (RedeemsValid env promoId) promoId s₀ events s) :
    WithinLimits promoId m events s.db := by
  rcases hfresh.kept with ⟨promo, hmax, hkept⟩
  rw [← hmax]
  exact (hrun.kept hkept).within

/-!
# A promo code for one activation
-/

def singlePromo : PromoCode where
  code := "ONCE"
  type := .fixedCredits
  value := 10
  validUntil := 10
  maxActivations := 1
  activationsCount := 0
  isActive := true

def twoUserStore : Store coverAI :=
  ((createUser { sampleUser with email := some "other@example.com" }).transact
    registeredStore).2

def singlePromoStore : Store coverAI :=
  twoUserStore.setDb { twoUserStore.db with
    promoCodes := twoUserStore.db.promoCodes.insert 1 singlePromo }

theorem singlePromoStore_fresh : FreshPromo 1 1 singlePromoStore.db :=
  ⟨⟨singlePromo, rfl, rfl, rfl⟩, rfl⟩

/-- The first user redeems the code in time; the second one redeems it through
the bot after it has expired, above the limit of one activation. -/
theorem bot_exceeds_promo_limits :
    exists events s,
      RedemptionRun sampleEnv (fun _ _ => True) 1 singlePromoStore events s ∧
        (redemptionsOf 1 s.db).length = 2 ∧
        (exists e, e ∈ events ∧ e.userId = 2 ∧ e.promo.map
          (fun promo => decide (promo.validUntil < e.instant)) = some true) ∧
        ¬ WithinLimits 1 1 events s.db := by
  have hstart : RedemptionRun sampleEnv (fun _ _ => True) 1 singlePromoStore []
      singlePromoStore := RedemptionRun.start
  have hrun := (hstart.attempt (.redeemPromo 1 "ONCE" 5) trivial).attempt
    (.redeemPromoCode 2 "ONCE" 20) trivial
  refine ⟨_, _, hrun, rfl, ⟨_, List.mem_cons_of_mem _ List.mem_cons_self, rfl,
    rfl⟩, ?_⟩
  intro h
  have hle := h.limited
  revert hle
  decide

theorem promo_limits_hold_single :
    exists events s,
      RedemptionRun sampleEnv (RedeemsValid sampleEnv 1) 1 singlePromoStore
          events s ∧
        (redemptionsOf 1 s.db).length = 1 ∧ WithinLimits 1 1 events s.db := by
  have hstart : RedemptionRun sampleEnv (RedeemsValid sampleEnv 1) 1
      singlePromoStore [] singlePromoStore := RedemptionRun.start
  have hvalid : RedeemsValid sampleEnv 1 singlePromoStore.db
      (.redeemPromoCode 1 "ONCE" 5) := by
    intro promo user hfound _ _ _
    have hpromo : promoOfKey (promoKey sampleEnv "ONCE") singlePromoStore.db =
        some (1, singlePromo) := by
      rfl
    cases hpromo.symm.trans hfound
    decide
  have hrun := (hstart.attempt (.redeemPromoCode 1 "ONCE" 5) hvalid).attempt
    (.redeemPromo 2 "ONCE" 5) trivial
  exact ⟨_, _, hrun, rfl, promo_limits_hold singlePromoStore_fresh hrun⟩

end CoverAI
