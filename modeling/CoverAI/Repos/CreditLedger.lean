import CoverAI.Repos.Users

/-!
# Credit ledger repository
-/

namespace CoverAI

open Txn Program

/-- The locking SELECT of the repositories, of the bot and of the worker: no
row of the user is loaded before. -/
def userForUpdate (userId : Int) : Session (Option User) :=
  selectForUpdate (LockName.user userId) fun db => db.users.get userId

def welcomeBonusRow (userId amount balance : Int) (description : String) :
    CreditTransaction where
  userId := userId
  type := .welcomeBonus
  amount := amount
  balanceAfter := balance
  description := description

/-- The repository's insert-and-read-back; the row it returns is the ledger row
it wrote. -/
def grantWelcomeBonusRow (userId amount : Int) (description : String) :
    Session CreditTransaction := do
  match ← userForUpdate userId with
  | none => raise (Exc.lookupError "user not found")
  | some user => do
      let credits := user.credits + amount
      let row := welcomeBonusRow userId amount credits description
      flushUnit [LockName.user userId]
        [updateUser userId user { user with credits := credits },
          insertCreditTransaction row]
      return row

def welcomeBonusDescription : String :=
  "Welcome bonus"

/-- The service in front of the repository. -/
def grantWelcomeBonus (userId amount : Int) : Session CreditTransaction :=
  if amount ≤ 0 then
    raise (Exc.valueError "welcome bonus amount must be positive")
  else grantWelcomeBonusRow userId amount welcomeBonusDescription

end CoverAI
