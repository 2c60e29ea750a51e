import CoverAI.Api.Promocodes
import CoverAI.Repos.CreditLedger
import CoverAI.Repos.Generation

/-!
# Use cases of the bot

The bot's answers are texts.  A change that is pending when the block ends is
flushed by the commit.
-/

namespace CoverAI

open Txn Program

def redeemPromoCode (env : Env) (userId : Int) (code : String) :
    Session String := do
  match ← lockPromo (env.upper (strip code)) with
  | none => return "Промокод не найден."
  | some (promoId, promo) => do
      if ← promoWasRedeemed promoId userId then
        return "Вы уже активировали этот промокод."
      else
        match ← userForUpdate userId with
        | none => return "Пользователь не найден."
        | some user => do
            let redemption : PromoRedemption :=
              { promoCodeId := promoId, userId := userId }
            let locks : List LockName :=
              [.promoCode promoId, .user userId,
                .promoRedemption promoId userId]
            match promo.type with
            | .fixedCredits => do
                let credits := user.credits + promo.value
                flushUnit locks
                  [updatePromoCode promoId promo promo.activate,
                    updateUser userId user { user with credits := credits },
                    insertPromoRedemption redemption,
                    insertCreditTransaction
                      (promoRow userId promoId promo credits
                        ("Telegram promo " ++ promo.code))]
                return "Промокод активирован. Баланс: " ++ toString credits ++
                  " кредитов."
            | .topUpDiscount => do
                flushUnit locks
                  [updatePromoCode promoId promo promo.activate,
                    updateUser userId user
                      { user with pendingTopUpDiscountPercent := promo.value },
                    insertPromoRedemption redemption]
                return "Скидка " ++ toString promo.value ++
                  "% применится к следующему пополнению."

def mockTopUpIntent (env : Env) (userId creditsAmount discount : Int) :
    PaymentIntent where
  userId := userId
  creditsAmount := creditsAmount
  amountRub := creditsAmount * env.creditPriceRub * (100 - discount) / 100
  discountPercent := discount
  status := .succeeded
  provider := "telegram_mock"
  externalId :=
    "telegram_mock_" ++ toString userId ++ "_" ++ toString creditsAmount
  confirmedAt := none

def mockTopUpRow (userId creditsAmount balance paymentId : Int) :
    CreditTransaction where
  userId := userId
  type := .topUp
  amount := creditsAmount
  balanceAfter := balance
  description := "Telegram mock top-up"
  paymentIntentId := some paymentId

def createMockTopUp (env : Env) (userId creditsAmount : Int) :
    Session String := do
  match ← userForUpdate userId with
  | none => return "Пользователь не найден."
  | some user => do
      let credits := user.credits + creditsAmount
      let intent :=
        mockTopUpIntent env userId creditsAmount user.pendingTopUpDiscountPercent
      let paymentId ← draw SeqName.paymentIntents
      flushUnit [LockName.user userId]
        [updateUser userId user
            { user with
              credits := credits
              pendingTopUpDiscountPercent := 0 },
          insertPaymentIntent paymentId intent]
      flushUnit []
        [insertCreditTransaction
          (mockTopUpRow userId creditsAmount credits paymentId)]
      return "Баланс пополнен на " ++ toString creditsAmount ++ " кредитов.\n" ++
        "Списано по mock-платежу: " ++ toString intent.amountRub ++ " ₽.\n" ++
        "Текущий баланс: " ++ toString credits ++ " кредитов."

/-!
# Queueing from the bot
-/

def utcDayStart (now : Instant) : Instant :=
  now - now % (86400 * 1000000)

def botJob (env : Env) (userId : Int) (vacancyUrl : String) (tone : Tone) :
    Job where
  userId := userId
  vacancyUrl := vacancyUrl
  tone := tone.value
  notifyTelegram := true
  chargeCredits := true
  costCredits := env.predictionCostCredits
  generationRequestId := none

/-- The job is pushed after the session has ended; the session only reads. -/
def botEnqueueGeneration (env : Env) (userId : Int) (vacancyUrl : String)
    (tone : Tone) (now : Instant) : Session Unit := do
  match ← select fun db => db.users.get userId with
  | none => raise Exc.insufficientCredits
  | some user =>
      if user.credits < env.predictionCostCredits then
        raise Exc.insufficientCredits
      else do
        let existingRequests ← countByUserStatusesSince userId
          [.pending, .succeeded] (utcDayStart now)
        if user.plan = .free ∧ 1 ≤ existingRequests then
          raise Exc.quotaExceeded
        else send (botJob env userId vacancyUrl tone)

end CoverAI
