import CoverAI.Api.Promocodes
import CoverAI.Billing.Books
import CoverAI.Promo.Redemption

/-!
# Promo codes an administrator may create

The request and the table of promo codes only ask for a positive value.  The
table of users bounds the percent of a discount, and a redemption writes the
value of a discount code there.
-/

namespace CoverAI

open Txn Program

/-!
# The stored code
-/

theorem ensures_adminUser_bind {α : Type} {R : α -> Store coverAI -> Prop}
    {s : Store coverAI} (adminId : Int) (f : User -> Session α)
    (h : forall user, (f user).Ensures R s) :
    ((adminUser adminId).bind f).Ensures R s := by
  simp only [adminUser, bind_eq, bind_assoc, ensures_currentUser_bind]
  intro user _
  split
  · exact ensures_raise _ _
  · exact h user

theorem ensures_promoInsert_bind {α : Type} {R : α -> Store coverAI -> Prop}
    {s : Store coverAI} (rs : List LockName) (ws : List (Write coverAI))
    (f : Unit -> Session α)
    (h : forall d, Write.attempt ws s.db = .ok d ->
      (f ()).Ensures R (s.setDb d)) :
    (((flushUnit rs ws).tryCatch promoExists).bind f).Ensures R s := by
  simp only [flushUnit, Program.tryCatch, flush_bind, Ensures, exits_flush]
  cases hattempt : Write.attempt ws s.db with
  | ok d => exact h d hattempt
  | error e =>
      have hraises : exists e', promoExists e = raise e' := by
        cases e <;> exact ⟨_, rfl⟩
      rcases hraises with ⟨e', he'⟩
      simp only [he', raise_bind]
      exact ensures_raise e' s

theorem insertPromoCode_free {id : Int} {p : PromoCode} {db : Db}
    (h : (insertPromoCode id p).violation db = none) :
    db.promoCodes.first? (fun r => r.code = p.code) = none ∧
      db.promoCodes.get id = none ∧ promoCodeChecks p = true := by
  unfold insertPromoCode at h
  simp only at h
  split at h
  · rename_i hfree
    exact ⟨hfree, violation_insertInto.mp h⟩
  · cases h

theorem createPromo_stores (env : Env) (adminId : Int)
    (payload : PromoCreateRequest) (s : Store coverAI) :
    (createPromo env adminId payload).Ensures
      (fun _ s' => exists promoId,
        promoOfKey (promoKey env payload.code) s'.db =
          some (promoId, newPromo env payload)) s := by
  simp only [createPromo, bind_eq]
  apply ensures_adminUser_bind
  intro _
  rw [ensures_draw_bind]
  apply ensures_promoInsert_bind
  intro d hd
  rcases Write.attempt_cons_eq_ok.mp hd with ⟨hviolation, hdone⟩
  cases hdone
  rcases insertPromoCode_free hviolation with ⟨hfree, hnew, hcheck⟩
  rw [pure_eq, ensures_ret]
  exists s.seq SeqName.promoCodes
  exact Table.first?_insert_of_none hfree hnew hcheck (decide_eq_true rfl)

/-!
# Redemption of the stored code
-/

def storedPromo (env : Env) (payload : PromoCreateRequest) (count : Int) :
    PromoCode :=
  { newPromo env payload with activationsCount := count }

/-- A user who may redeem the created code: it is found under the text the user
sends, activations are left, it is not too late and not the second time. -/
structure MayRedeem (env : Env) (payload : PromoCreateRequest) (promoId : Int)
    (count : Int) (userId : Int) (code : String) (now : Instant)
    (s : Store coverAI) : Prop where
  found : promoOfKey (promoKey env code) s.db =
    some (promoId, storedPromo env payload count)
  left : count < payload.maxActivations
  inTime : now ≤ payload.validUntil
  registered : exists user, s.db.users.get userId = some user
  new : { promoCodeId := promoId, userId := userId } ∉ s.db.promoRedemptions

def RedeemsOnce (env : Env) (promoId count userId : Int) (code : String)
    (now : Instant) (s : Store coverAI) : Prop :=
  exists response s',
    (redeemPromo env userId code now).transact s = (.ok response, s') ∧
      exists promo, s'.db.promoCodes.get promoId = some promo ∧
        promo.activationsCount = count + 1

section Redemption

variable {env : Env} {payload : PromoCreateRequest}
  {promoId count userId : Int} {code : String} {now : Instant}
  {s : Store coverAI}

/-- A percent that the table of users admits. -/
def RedeemableValue (payload : PromoCreateRequest) : Prop :=
  payload.type = .fixedCredits ∨ payload.value ≤ 100

theorem userChecks_redeemed_iff {user : User}
    (hchecks : userChecks user = true) :
    userChecks (user.redeemed promoId (storedPromo env payload count)) = true <->
      RedeemableValue payload := by
  have hbounds := (userChecks_iff user).mp hchecks
  have hpositive := payload.value_pos
  have htype : (storedPromo env payload count).type = payload.type := rfl
  rw [User.redeemed, htype, RedeemableValue]
  cases payload.type with
  | fixedCredits =>
      rw [userChecks_iff]
      constructor
      · intro _
        exact Or.inl rfl
      · intro _
        refine ⟨?_, hbounds.right⟩
        change 0 ≤ user.credits + payload.value
        omega
  | topUpDiscount =>
      rw [userChecks_iff]
      constructor
      · intro h
        exact Or.inr h.right.right
      · intro h
        rcases h with htype | hvalue
        · cases htype
        · exact ⟨hbounds.left, Int.le_of_lt hpositive, hvalue⟩

/-- The unit of work of a redemption passes the constraints exactly when the
edited users row does. -/
theorem attempt_redemptionWrites_iff {promo : PromoCode} {user : User}
    {db d : Db} (hpromo : db.promoCodes.get promoId = some promo)
    (huser : db.users.get userId = some user)
    (hnew : { promoCodeId := promoId, userId := userId } ∉
      db.promoRedemptions) :
    Write.attempt (redemptionWrites userId promoId promo user) db = .ok d <->
      userChecks (user.redeemed promoId promo) = true ∧
        d = Write.applyAll (redemptionWrites userId promoId promo user) db := by
  have hactivate : (updatePromoCode promoId promo promo.activate).violation
      db = none := by
    apply violation_updateIn.mpr
    intro stored hstored
    rw [hpromo] at hstored
    cases hstored
    rw [PromoCode.write_activate]
    exact promoCodeChecks_activate (Table.check_of_get hpromo)
  constructor
  · intro h
    have hd := Write.applyAll_of_attempt h
    rcases Write.attempt_cons_eq_ok.mp h with ⟨_, hrest⟩
    rcases Write.attempt_cons_eq_ok.mp hrest with ⟨hviolation, _⟩
    exact ⟨userChecks_of_violation huser hviolation, hd⟩
  · intro h
    rcases h with ⟨hcheck, rfl⟩
    have hupdate : (updateUser userId user
        (user.redeemed promoId promo)).violation
        ((updatePromoCode promoId promo promo.activate).apply db) = none :=
      updateUser_violation huser hcheck
    have hinsert : (insertPromoRedemption
        { promoCodeId := promoId, userId := userId }).violation
        ((updateUser userId user (user.redeemed promoId promo)).apply
          ((updatePromoCode promoId promo promo.activate).apply db)) = none :=
      if_neg hnew
    have hledger : forall (ts : List CreditTransaction) (v : Db),
        Write.attempt (ts.map insertCreditTransaction) v =
          .ok (Write.applyAll (ts.map insertCreditTransaction) v) := by
      intro ts
      induction ts with
      | nil => exact fun _ => rfl
      | cons t ts ih => exact fun v => ih _
    rw [redemptionWrites, Write.attempt_cons_of_none hactivate,
      Write.attempt_cons_of_none hupdate, Write.attempt_cons_of_none hinsert,
      hledger]
    rfl

theorem redeemPromo_run {promo : PromoCode} {user : User}
    (hfound : promoOfKey (promoKey env code) s.db = some (promoId, promo))
    (huser : s.db.users.get userId = some user)
    (hnew : { promoCodeId := promoId, userId := userId } ∉
      s.db.promoRedemptions)
    (hvalid : validatePromo promo now = .ok ()) :
    (redeemPromo env userId code now).run s =
      ((flushUnit
          [LockName.promoCode promoId, LockName.user userId,
            LockName.promoRedemption promoId userId]
          (redemptionWrites userId promoId promo user)).bind fun _ =>
            ret (redemptionResponse promo)).run s := by
  have hget := Table.get_of_first? hfound
  rw [promoOfKey] at hfound
  have hlock : (lockPromo (promoKey env code)).run s =
      (.ok (some (promoId, promo)), s) := by
    simp only [lockPromo, select, ask, selectForUpdate, forUpdate, read_bind,
      ret_bind, run, hfound, hget, Option.map_some]
  have hstored : (redeemStored userId user now promoId promo).run s =
      (redeemLocked userId user promoId promo).run s := by
    simp only [redeemStored, promoWasRedeemed, select, ask, read_bind, ret_bind,
      bind_eq, run, decide_eq_false hnew, Bool.false_eq_true, if_false, hvalid]
  rw [redeemPromo_eq]
  simp only [currentUser, select, ask, read_bind, ret_bind, run, huser]
  rw [run_bind, hlock]
  change (redeemStored userId user now promoId promo).run s = _
  rw [hstored, redeemLocked_eq]
  simp only [lockedUser, selectForUpdate, forUpdate, lock_bind, ret_bind, run,
    huser, Option.getD_some]

theorem redeemsOnce_iff (h : MayRedeem env payload promoId count userId code
    now s) :
    RedeemsOnce env promoId count userId code now s <->
      RedeemableValue payload := by
  rcases h.registered with ⟨user, huser⟩
  have hget := Table.get_of_first? h.found
  have hvalid : validatePromo (storedPromo env payload count) now = .ok () := by
    have hactive : ¬ (storedPromo env payload count).isActive = false :=
      Bool.noConfusion
    have hlate : ¬ (storedPromo env payload count).validUntil < now :=
      Int.not_lt.mpr h.inTime
    have hfull : ¬ (storedPromo env payload count).activationsCount ≥
        (storedPromo env payload count).maxActivations :=
      Int.not_le.mpr h.left
    rw [validatePromo, if_neg hactive, if_neg hlate, if_neg hfull]
  have hrun := redeemPromo_run h.found huser h.new hvalid
  rw [<- @userChecks_redeemed_iff env payload promoId count _
    (Table.check_of_get huser)]
  constructor
  · intro honce
    rcases honce with ⟨response, s', htransact, _⟩
    have hends := run_of_transact_ok htransact
    rw [hrun, flushUnit, flush_bind, run] at hends
    cases hattempt : Write.attempt (redemptionWrites userId promoId
      (storedPromo env payload count) user) s.db with
    | error e =>
        rw [hattempt] at hends
        cases hends
    | ok d =>
        exact ((attempt_redemptionWrites_iff hget huser h.new).mp hattempt).left
  · intro hchecks
    have hattempt := (attempt_redemptionWrites_iff hget huser h.new).mpr
      ⟨hchecks, rfl⟩
    have hends : (redeemPromo env userId code now).run s =
        (.ok (redemptionResponse (storedPromo env payload count)),
          s.setDb (Write.applyAll (redemptionWrites userId promoId
            (storedPromo env payload count) user) s.db)) := by
      rw [hrun, flushUnit, flush_bind, run, hattempt]
      rfl
    refine ⟨_, _, transact_of_ok hends, (storedPromo env payload count).activate,
      ?_, rfl⟩
    rw [applyAll_redemptionWrites]
    exact (get_activated hget rfl promoId).trans (if_pos rfl)

end Redemption

theorem created_promo_redeemable_iff {env : Env} {adminId : Int}
    {payload : PromoCreateRequest} {s s' : Store coverAI}
    {response : PromoResponse}
    (hcreate : (createPromo env adminId payload).transact s =
      (.ok response, s')) :
    exists promoId,
      promoOfKey (promoKey env payload.code) s'.db =
          some (promoId, newPromo env payload) ∧
        forall count userId code now t,
          MayRedeem env payload promoId count userId code now t ->
            (RedeemsOnce env promoId count userId code now t <->
              payload.type = .fixedCredits ∨ payload.value ≤ 100) := by
  rcases ensures_of_run (createPromo_stores env adminId payload s)
    (run_of_transact_ok hcreate) with ⟨promoId, hstored⟩
  exists promoId
  exact ⟨hstored, fun _ _ _ _ _ h => redeemsOnce_iff h⟩

def adminStore : Store coverAI where
  db := { Db.empty with
    users := (Table.empty.insert 1 { sampleUser with role := .admin }).insert 2
      { sampleUser with email := none } }
  seq := fun _ => 3
  out := []

def discountRequest (value : Int) (h : 0 < value) : PromoCreateRequest where
  code := "SALE"
  type := .topUpDiscount
  value := value
  validUntil := 100
  maxActivations := 1
  value_pos := h
  maxActivations_pos := by decide

def storeWithDiscount (value : Int) (h : 0 < value) : Store coverAI :=
  ((createPromo sampleEnv 1 (discountRequest value h)).transact adminStore).2

theorem created_discount_redeemable :
    RedeemsOnce sampleEnv 3 0 2 "SALE" 0 (storeWithDiscount 20 (by decide)) := by
  have hcreate : (createPromo sampleEnv 1
      (discountRequest 20 (by decide))).transact adminStore =
        (.ok _, storeWithDiscount 20 (by decide)) := rfl
  rcases created_promo_redeemable_iff hcreate with ⟨promoId, hstored, hiff⟩
  have hpromo : promoOfKey (promoKey sampleEnv "SALE")
      (storeWithDiscount 20 (by decide)).db =
        some (3, newPromo sampleEnv (discountRequest 20 (by decide))) := rfl
  cases hstored.symm.trans hpromo
  have hmay : MayRedeem sampleEnv (discountRequest 20 (by decide)) 3 0 2 "SALE"
      0 (storeWithDiscount 20 (by decide)) :=
    ⟨hpromo, by decide, by decide, ⟨_, rfl⟩, fun h => nomatch h⟩
  exact (hiff 0 2 "SALE" 0 _ hmay).mpr (Or.inr (by decide))

/-- A code of 150 percent is created, and its redemption violates the
constraint of the users table. -/
theorem oversized_discount_not_redeemable :
    ((createPromo sampleEnv 1 (discountRequest 150 (by decide))).transact
        adminStore).1 =
      .ok {
        code := "SALE"
        type := .topUpDiscount
        value := 150
        message := "Promo code created by user 1" } ∧
      MayRedeem sampleEnv (discountRequest 150 (by decide)) 3 0 2 "SALE" 0
        (storeWithDiscount 150 (by decide)) ∧
      ((redeemPromo sampleEnv 2 "SALE" 0).transact
        (storeWithDiscount 150 (by decide))).1 = .error Exc.integrityError := by
  refine ⟨rfl, ?_, rfl⟩
  exact ⟨rfl, by decide, by decide, ⟨_, rfl⟩, fun h => nomatch h⟩

end CoverAI
