import CoverAI.Api.Helpers
import CoverAI.Repos.Users

/-!
# Requests of an administrator

Balance adjustment and forced expiry of a subscription.
-/

namespace CoverAI

open Txn Program

structure BalanceResponse where
  userId : Int
  balanceCredits : Int
  deriving DecidableEq

def adminUser (adminId : Int) : Session User := do
  let user ← currentUser adminId
  if user.role ≠ .admin then
    raise (Exc.httpException 403 "Admin role required")
  else return user

def adjustmentRow (userId amount balance : Int) (reason : String)
    (adminId : Int) : CreditTransaction where
  userId := userId
  type := .adjustment
  amount := amount
  balanceAfter := balance
  description := reason
  metadataJson := some { reason := reason, adminId := adminId }

/-- An administrator who adjusts the own balance meets the row that
`current_user` loaded. -/
def adjustBalance (adminId userId amount : Int) (reason : String) :
    Session BalanceResponse := do
  let admin ← adminUser adminId
  let target ← lockedUser (if userId = adminId then some admin else none) userId
  let credits := target.credits + amount
  if credits < 0 then
    raise (Exc.httpException 409 "Balance cannot be negative")
  else do
    flushUnit [LockName.user userId]
      [updateUser userId target { target with credits := credits },
        insertCreditTransaction
          (adjustmentRow userId amount credits reason adminId)]
    return { userId := userId, balanceCredits := credits }

/-- A choice of the row that a query ordered by `expires_at` puts first.
The query does not say which one that is among rows that expire at the same
instant. -/
structure LatestFirst where
  first : List (Int × Subscription) -> Option (Int × Subscription)
  mem : forall rows entry, first rows = some entry -> entry ∈ rows
  latest : forall rows entry, first rows = some entry ->
    forall other, other ∈ rows -> other.2.expiresAt ≤ entry.2.expiresAt
  exists_first : forall rows, rows ≠ [] -> first rows ≠ none

def activeSubscription (order : LatestFirst) (userId : Int) :
    Session (Option (Int × Subscription)) :=
  select fun db =>
    order.first (db.subscriptions.rows.filter fun entry =>
      entry.2.userId = userId && entry.2.status = .active)

structure ExpiryResponse where
  userId : Int
  plan : Plan
  subscriptionStatus : SubscriptionStatus
  deriving DecidableEq

def expireRow (entry : Int × Subscription) : Write coverAI :=
  updateSubscription entry.1 entry.2 { entry.2 with status := .expired }

/-- The user and the subscription, if there is one, are sent in one flush. -/
def expireSubscription (order : LatestFirst) (adminId userId : Int) :
    Session ExpiryResponse := do
  let admin ← adminUser adminId
  match ← userById (if userId = adminId then some admin else none) userId with
  | none => raise (Exc.httpException 404 "User not found")
  | some target => do
      let subscription ← activeSubscription order userId
      flushUnit
        (LockName.user userId ::
          subscription.toList.map fun entry => LockName.subscription entry.1)
        (updateUser userId target { target with plan := .free } ::
          subscription.toList.map expireRow)
      return {
        userId := userId
        plan := .free
        subscriptionStatus := .expired }

end CoverAI
