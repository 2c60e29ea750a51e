import CoverAI.Api.Admin

/-!
# Promo code routes
-/

namespace CoverAI

open Txn Program

structure PromoResponse where
  code : String
  type : PromoCodeType
  value : Int
  message : String
  deriving DecidableEq

def promoRow (userId promoId : Int) (promo : PromoCode) (balance : Int)
    (description : String) : CreditTransaction where
  userId := userId
  type := .promo
  amount := promo.value
  balanceAfter := balance
  description := description
  promoCodeId := some promoId

def PromoCode.activate (promo : PromoCode) : PromoCode :=
  { promo with activationsCount := promo.activationsCount + 1 }

def promoResponse (promo : PromoCode) (message : String) : PromoResponse where
  code := promo.code
  type := promo.type
  value := promo.value
  message := message

/-!
# Creation
-/

/-- The schema refuses a value and a limit that are not positive. -/
structure PromoCreateRequest where
  code : String
  type : PromoCodeType
  value : Int
  validUntil : Instant
  maxActivations : Int
  value_pos : 0 < value
  maxActivations_pos : 0 < maxActivations

/-- The count and the flag are defaults of the table. -/
def newPromo (env : Env) (payload : PromoCreateRequest) : PromoCode where
  code := env.upper (strip payload.code)
  type := payload.type
  value := payload.value
  validUntil := payload.validUntil
  maxActivations := payload.maxActivations
  activationsCount := 0
  isActive := true

def promoExists : Exc -> Session Unit
  | .integrityError => raise (Exc.httpException 409 "Promo code exists")
  | e => raise e

def createPromo (env : Env) (adminId : Int) (payload : PromoCreateRequest) :
    Session PromoResponse := do
  let _ ← adminUser adminId
  let promo := newPromo env payload
  let id ← draw SeqName.promoCodes
  (flushUnit [LockName.promoCodeKey promo.code]
    [insertPromoCode id promo]).tryCatch promoExists
  return promoResponse promo
    ("Promo code created by user " ++ toString adminId)

/-!
# Redemption
-/

/-- The session still references the row `current_user` loaded, so the
locking SELECT returns that row and not the one it has just locked. -/
def redeemLocked (userId : Int) (user : User) (promoId : Int)
    (promo : PromoCode) : Session PromoResponse := do
  let locked ← lockedUser (some user) userId
  let redemption : PromoRedemption := { promoCodeId := promoId, userId := userId }
  let locks : List LockName :=
    [.promoCode promoId, .user userId, .promoRedemption promoId userId]
  match promo.type with
  | .fixedCredits => do
      let credits := locked.credits + promo.value
      flushUnit locks
        [updatePromoCode promoId promo promo.activate,
          updateUser userId locked { locked with credits := credits },
          insertPromoRedemption redemption,
          insertCreditTransaction
            (promoRow userId promoId promo credits
              ("Promo code " ++ promo.code))]
      return promoResponse promo ("Added " ++ toString promo.value ++ " credits")
  | .topUpDiscount => do
      let edited :=
        { locked with
          pendingTopUpDiscountPercent := promo.value
          pendingTopUpDiscountValidUntil := some promo.validUntil
          pendingTopUpDiscountPromoCodeId := some promoId }
      flushUnit locks
        [updatePromoCode promoId promo promo.activate,
          updateUser userId locked edited, insertPromoRedemption redemption]
      return promoResponse promo
        ("Next top-up discount is " ++ toString promo.value ++ "%")

def redeemPromo (env : Env) (userId : Int) (code : String) (now : Instant) :
    Session PromoResponse := do
  let user ← currentUser userId
  match ← promoByCode env code with
  | none => raise (Exc.httpException 404 "Promo code not found")
  | some (promoId, promo) => do
      if ← promoWasRedeemed promoId userId then
        raise (Exc.httpException 409 "Promo code already redeemed")
      else
        match validatePromo promo now with
        | .error e => raise e
        | .ok () => redeemLocked userId user promoId promo

end CoverAI
