import CoverAI.Billing.Posting

/-!
# What a redemption writes

Both channels look up the promo code, refuse a second redemption by the same
user, and write the promo row, the users row and the redemption in one unit of
work.  They differ in what they check of the promo code and in what they make
of the users row.
-/

namespace CoverAI

open Txn Program

def promoKey (env : Env) (code : String) : String :=
  env.upper (strip code)

def promoOfKey (key : String) (db : Db) : Option (Int × PromoCode) :=
  db.promoCodes.first? fun p => p.code = key

def redemptionsOf (promoId : Int) (db : Db) : List PromoRedemption :=
  db.promoRedemptions.filter fun r => r.promoCodeId = promoId

/-- The users row after a redemption through the API. -/
def User.redeemed (user : User) (promoId : Int) (promo : PromoCode) : User :=
  match promo.type with
  | .fixedCredits => { user with credits := user.credits + promo.value }
  | .topUpDiscount =>
      { user with
        pendingTopUpDiscountPercent := promo.value
        pendingTopUpDiscountValidUntil := some promo.validUntil
        pendingTopUpDiscountPromoCodeId := some promoId }

/-- The users row after a redemption through the bot: of the pending discount
it writes the percent alone. -/
def User.redeemedInBot (user : User) (promo : PromoCode) : User :=
  match promo.type with
  | .fixedCredits => { user with credits := user.credits + promo.value }
  | .topUpDiscount => { user with pendingTopUpDiscountPercent := promo.value }

/-- A user redeems a promo code: where that is possible and what is written. -/
structure Redeems (key : String) (userId promoId : Int) (promo : PromoCode)
    (user edited : User) (db d : Db) : Prop where
  found : promoOfKey key db = some (promoId, promo)
  new : { promoCodeId := promoId, userId := userId } ∉ db.promoRedemptions
  registered : db.users.get userId = some user
  checked : userChecks edited = true
  promoCodes : d.promoCodes =
    db.promoCodes.modify promoId (PromoCode.write promo promo.activate)
  users : d.users = db.users.modify userId (User.write user edited)
  redemptions : d.promoRedemptions =
    db.promoRedemptions ++ [{ promoCodeId := promoId, userId := userId }]
  intents : d.paymentIntents = db.paymentIntents

/-!
# The unit of work of the API
-/

section UnitOfWork

variable (userId promoId : Int) (promo : PromoCode)

def redemptionRows (user : User) : List CreditTransaction :=
  match promo.type with
  | .fixedCredits =>
      [promoRow userId promoId promo (user.credits + promo.value)
        ("Promo code " ++ promo.code)]
  | .topUpDiscount => []

def redemptionWrites (user : User) : List (Write coverAI) :=
  updatePromoCode promoId promo promo.activate ::
    updateUser userId user (user.redeemed promoId promo) ::
    insertPromoRedemption { promoCodeId := promoId, userId := userId } ::
    (redemptionRows userId promoId promo user).map insertCreditTransaction

def redemptionResponse : PromoResponse :=
  match promo.type with
  | .fixedCredits =>
      promoResponse promo ("Added " ++ toString promo.value ++ " credits")
  | .topUpDiscount =>
      promoResponse promo
        ("Next top-up discount is " ++ toString promo.value ++ "%")

/-- Both kinds of promo code are redeemed in one unit of work. -/
theorem redeemLocked_eq (user : User) :
    redeemLocked userId user promoId promo =
      (lockedUser (some user) userId).bind fun locked =>
        (flushUnit
          [LockName.promoCode promoId, LockName.user userId,
            LockName.promoRedemption promoId userId]
          (redemptionWrites userId promoId promo locked)).bind fun _ =>
            ret (redemptionResponse promo) := by
  simp only [redeemLocked, redemptionWrites, redemptionRows,
    redemptionResponse, User.redeemed]
  cases promo.type with
  | fixedCredits => rfl
  | topUpDiscount => rfl

/-- Ledger rows that are entered one after another. -/
theorem applyAll_insertCreditTransaction (ts : List CreditTransaction)
    (db : Db) :
    Write.applyAll (ts.map insertCreditTransaction) db =
      { db with creditTransactions := db.creditTransactions ++ ts } := by
  induction ts generalizing db with
  | nil => simp
  | cons t ts ih =>
      rw [List.map_cons, Write.applyAll_cons, ih]
      simp

theorem applyAll_redemptionWrites (user : User) (db : Db) :
    Write.applyAll (redemptionWrites userId promoId promo user) db =
      { db with
        promoCodes :=
          db.promoCodes.modify promoId (PromoCode.write promo promo.activate)
        users := db.users.modify userId
          (User.write user (user.redeemed promoId promo))
        promoRedemptions := db.promoRedemptions ++
          [{ promoCodeId := promoId, userId := userId }]
        creditTransactions := db.creditTransactions ++
          redemptionRows userId promoId promo user } := by
  rw [redemptionWrites, Write.applyAll_cons, Write.applyAll_cons,
    Write.applyAll_cons, applyAll_insertCreditTransaction]
  rfl

end UnitOfWork

/-!
# The parts of the API request
-/

/-- The part of a request that has locked a promo code. -/
def redeemStored (userId : Int) (user : User) (now : Instant) (promoId : Int)
    (promo : PromoCode) : Session PromoResponse := do
  if ← promoWasRedeemed promoId userId then
    raise (Exc.httpException 409 "Promo code already redeemed")
  else
    match validatePromo promo now with
    | .error e => raise e
    | .ok () => redeemLocked userId user promoId promo

def redeemFound (userId : Int) (user : User) (now : Instant) :
    Option (Int × PromoCode) -> Session PromoResponse
  | none => raise (Exc.httpException 404 "Promo code not found")
  | some (promoId, promo) => redeemStored userId user now promoId promo

theorem redeemPromo_eq (env : Env) (userId : Int) (code : String)
    (now : Instant) :
    redeemPromo env userId code now =
      (currentUser userId).bind fun user =>
        (lockPromo (promoKey env code)).bind
          (redeemFound userId user now) := rfl

/-!
# The two channels
-/

section Channels

variable {α : Type} {R : α -> Store coverAI -> Prop} {s : Store coverAI}

/-- Alone, a session finds the promo it locks as it was before. -/
theorem ensures_lockPromo_bind_iff (key : String)
    (f : Option (Int × PromoCode) -> Session α) :
    ((lockPromo key).bind f).Ensures R s <->
      (f (promoOfKey key s.db)).Ensures R s := by
  rw [lockPromo, bind_assoc, ensures_select_bind]
  cases hfirst : promoOfKey key s.db with
  | none =>
      rw [promoOfKey] at hfirst
      rw [hfirst]
      exact Iff.rfl
  | some entry =>
      have hget := Table.get_of_first? hfirst
      rw [promoOfKey] at hfirst
      rw [hfirst]
      simp only [ensures_selectForUpdate_bind, hget, Option.map_some]

/-- The unit of work of a redemption, with the ledger rows it enters. -/
theorem redeems_of_attempt {db d : Db} {key : String} {userId promoId : Int}
    {promo : PromoCode} {user edited : User} (ts : List CreditTransaction)
    (hfound : promoOfKey key db = some (promoId, promo))
    (hnew : { promoCodeId := promoId, userId := userId } ∉ db.promoRedemptions)
    (hget : db.users.get userId = some user)
    (hd : Write.attempt
      (updatePromoCode promoId promo promo.activate ::
        updateUser userId user edited ::
        insertPromoRedemption { promoCodeId := promoId, userId := userId } ::
        ts.map insertCreditTransaction) db = .ok d) :
    Redeems key userId promoId promo user edited db d := by
  rcases Write.attempt_cons_eq_ok.mp hd with ⟨_, hrest⟩
  rcases Write.attempt_cons_eq_ok.mp hrest with ⟨huser, _⟩
  have hcheck := userChecks_of_violation hget huser
  rw [Write.applyAll_of_attempt hd, Write.applyAll_cons, Write.applyAll_cons,
    Write.applyAll_cons, applyAll_insertCreditTransaction]
  exact ⟨hfound, hnew, hget, hcheck, rfl, rfl, rfl, rfl⟩

theorem redeemLocked_redeems {key : String} {userId promoId : Int}
    {user : User} {promo : PromoCode}
    (hfound : promoOfKey key s.db = some (promoId, promo))
    (hnew : { promoCodeId := promoId, userId := userId } ∉
      s.db.promoRedemptions)
    (hget : s.db.users.get userId = some user) :
    (redeemLocked userId user promoId promo).Ensures
      (fun _ s' => Redeems key userId promoId promo user
        (user.redeemed promoId promo) s.db s'.db) s := by
  simp only [redeemLocked_eq, ensures_lockedUser_bind, Option.getD_some,
    ensures_flushUnit_bind, ensures_ret]
  intro _ _ d hd
  exact redeems_of_attempt _ hfound hnew hget hd

theorem redeemPromo_redeems (env : Env) (userId : Int) (code : String)
    (now : Instant) :
    (redeemPromo env userId code now).Ensures
      (fun _ s' => exists promoId promo user,
        validatePromo promo now = .ok () ∧
          Redeems (promoKey env code) userId promoId promo user
            (user.redeemed promoId promo) s.db s'.db) s := by
  rw [redeemPromo_eq, ensures_currentUser_bind]
  intro user hget
  rw [ensures_lockPromo_bind_iff]
  cases hfound : promoOfKey (promoKey env code) s.db with
  | none => exact ensures_raise _ _
  | some entry =>
      rcases entry with ⟨promoId, promo⟩
      simp only [redeemFound, redeemStored, promoWasRedeemed, bind_eq,
        ensures_select_bind]
      split
      · exact ensures_raise _ _
      · rename_i hnew
        split
        · exact ensures_raise _ _
        · rename_i hvalid
          rw [decide_eq_true_eq] at hnew
          exact ensures_mono (redeemLocked_redeems hfound hnew hget)
            fun _ _ h => ⟨promoId, promo, user, hvalid, h⟩

/-- The bot answers a request it refuses, and commits nothing. -/
theorem redeemPromoCode_redeems (env : Env) (userId : Int) (code : String) :
    (redeemPromoCode env userId code).Ensures
      (fun _ s' => s'.db = s.db ∨ exists promoId promo user,
        Redeems (promoKey env code) userId promoId promo user
          (user.redeemedInBot promo) s.db s'.db) s := by
  simp only [redeemPromoCode, bind_eq]
  rw [ensures_lockPromo_bind_iff]
  cases hfound : promoOfKey (env.upper (strip code)) s.db with
  | none => exact (ensures_ret _ _).mpr (Or.inl rfl)
  | some entry =>
      rcases entry with ⟨promoId, promo⟩
      simp only [promoWasRedeemed, ensures_select_bind]
      split
      · exact (ensures_ret _ _).mpr (Or.inl rfl)
      · rename_i hnew
        rw [decide_eq_true_eq] at hnew
        simp only [userForUpdate, ensures_selectForUpdate_bind]
        split
        · exact (ensures_ret _ _).mpr (Or.inl rfl)
        · rename_i user hget
          cases htype : promo.type with
          | fixedCredits =>
              simp only [ensures_flushUnit_bind, pure_eq, ensures_ret]
              intro d hd
              refine Or.inr ⟨promoId, promo, user, ?_⟩
              rw [User.redeemedInBot, htype]
              exact redeems_of_attempt [_] hfound hnew hget hd
          | topUpDiscount =>
              simp only [ensures_flushUnit_bind, pure_eq, ensures_ret]
              intro d hd
              refine Or.inr ⟨promoId, promo, user, ?_⟩
              rw [User.redeemedInBot, htype]
              exact redeems_of_attempt [] hfound hnew hget hd

end Channels

/-!
# What a redemption leaves
-/

section Effects

variable {key : String} {userId promoId : Int} {promo : PromoCode}
  {user edited : User} {db d : Db}

theorem PromoCode.write_activate (promo : PromoCode) :
    promo.write promo.activate promo = promo.activate := by
  simp [PromoCode.write, PromoCode.activate]

theorem promoCodeChecks_activate {promo : PromoCode}
    (h : promoCodeChecks promo = true) :
    promoCodeChecks promo.activate = true := by
  rcases (promoCodeChecks_iff promo).mp h with ⟨hvalue, hmax, hcount⟩
  exact (promoCodeChecks_iff _).mpr
    ⟨hvalue, hmax, Int.le_add_one hcount⟩

theorem get_activated {T T' : Table PromoCode promoCodeChecks}
    (hget : T.get promoId = some promo)
    (hmodify : T' = T.modify promoId (PromoCode.write promo promo.activate))
    (id : Int) :
    T'.get id = if id = promoId then some promo.activate else T.get id := by
  have hcheck := promoCodeChecks_activate (Table.check_of_get hget)
  rw [← PromoCode.write_activate] at hcheck
  rw [hmodify, Table.get_modify, hget, Option.map_some,
    Table.checkedUpdate_of_check hcheck, PromoCode.write_activate]

theorem Redeems.get_promo (h : Redeems key userId promoId promo user edited db d)
    (id : Int) :
    d.promoCodes.get id =
      if id = promoId then some promo.activate else db.promoCodes.get id :=
  get_activated (Table.get_of_first? h.found) h.promoCodes id

theorem redemptionsOf_append {db d : Db} {r : PromoRedemption}
    (h : d.promoRedemptions = db.promoRedemptions ++ [r]) (id : Int) :
    redemptionsOf id d =
      redemptionsOf id db ++ if r.promoCodeId = id then [r] else [] := by
  rw [redemptionsOf, redemptionsOf, h, List.filter_append]
  by_cases hid : r.promoCodeId = id
  · simp [hid]
  · simp [hid]

theorem mem_redemptionsOf {r : PromoRedemption} {id : Int} {db : Db} :
    r ∈ redemptionsOf id db <->
      r ∈ db.promoRedemptions ∧ r.promoCodeId = id := by
  simp [redemptionsOf]

end Effects

end CoverAI
