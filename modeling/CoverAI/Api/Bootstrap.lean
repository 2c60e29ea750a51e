import CoverAI.Repos.Users

/-!
# The administrator's account

It is made when the application starts, unless the email is taken.
-/

namespace CoverAI

open Txn Program

def newAdminUser (email : String) : User where
  telegramId := none
  email := some email
  role := .admin
  credits := 100
  pendingTopUpDiscountPercent := 0
  pendingTopUpDiscountValidUntil := none
  pendingTopUpDiscountPromoCodeId := none
  plan := .pro

/-- `email` is the normalized one of the settings. -/
def ensureAdminUser (email : String) : Session Unit := do
  match ← userByEmail email with
  | some _ => return ()
  | none => do
      let _ ← createUser (newAdminUser email)

end CoverAI
