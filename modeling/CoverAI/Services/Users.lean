import CoverAI.Repos.CreditLedger

/-!
# User registration service
-/

namespace CoverAI

open Txn Program

def newTelegramUser (telegramId : Int) : User where
  telegramId := some telegramId
  email := none
  role := .user
  credits := 0
  pendingTopUpDiscountPercent := 0
  pendingTopUpDiscountValidUntil := none
  pendingTopUpDiscountPromoCodeId := none
  plan := .free

def newApiUser (email : String) : User where
  telegramId := none
  email := some email
  role := .user
  credits := 0
  pendingTopUpDiscountPercent := 0
  pendingTopUpDiscountValidUntil := none
  pendingTopUpDiscountPromoCodeId := none
  plan := .free

/-- The bonus of a user that was created in this session. -/
def grantBonusTo (welcomeCredits userId : Int) (user : User) :
    Session (Int × User) := do
  let transaction ← grantWelcomeBonus userId welcomeCredits
  return (userId, { user with credits := transaction.balanceAfter })

def registerApiUser (welcomeCredits : Int) (email : String) :
    Session (Int × User) := do
  match ← userByEmail email with
  | some _ => raise (Exc.other "UserAlreadyExistsError" "")
  | none => do
      let userId ← createUser (newApiUser email)
      grantBonusTo welcomeCredits userId (newApiUser email)

def getOrCreateTelegramUser (welcomeCredits telegramId : Int) :
    Session (Int × User) := do
  match ← userByTelegramId telegramId with
  | some existing => return existing
  | none => do
      let userId ← createUser (newTelegramUser telegramId)
      grantBonusTo welcomeCredits userId (newTelegramUser telegramId)

end CoverAI
