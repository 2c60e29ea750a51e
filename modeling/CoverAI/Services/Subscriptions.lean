import CoverAI.Repos.Generation

/-!
# Billing service

Activation, renewal and expiry of paid subscriptions.
-/

namespace CoverAI

open Txn Program

def paidSubscriptionDuration : Int :=
  30 * 86400 * 1000000

def paidPlans : List Plan :=
  [.standard, .pro]

/-- The start of the new period: a renewal is appended to the current period, a
change of plan ends the current subscription. -/
def activationStart (current : Option (Int × Subscription)) (plan : Plan)
    (now : Instant) : Session Instant :=
  match current with
  | none => ret now
  | some (id, subscription) =>
      if subscription.plan = plan then ret subscription.expiresAt
      else do
        let _ ← updateSubscriptionStatus id .expired
        return now

def activateSubscription (userId : Int) (plan : Plan) (now : Instant) :
    Session (Int × Subscription) := do
  if plan ∉ paidPlans then raise (Exc.other "InvalidPaidPlanError" "")
  else
    match ← userById none userId with
    | none => raise Exc.userNotFound
    | some _ => do
        let current ← activeByUserId userId
        let activatedAt ← activationStart current plan now
        let subscription ← createSubscription {
          userId := userId
          plan := plan
          status := .active
          startsAt := activatedAt
          expiresAt := activatedAt + paidSubscriptionDuration }
        let _ ← updatePlan userId plan
        return subscription

def expireEntry (entry : Int × Subscription) : Session Unit := do
  let _ ← updateSubscriptionStatus entry.1 .expired
  let _ ← updatePlan entry.2.userId .free

def expireEach : List (Int × Subscription) -> Session Unit
  | [] => ret ()
  | entry :: rest => do
      expireEntry entry
      expireEach rest

def expireSubscriptions (now : Instant) : Session (List (Int × Subscription)) := do
  let expired ← listActiveExpiredBefore now
  expireEach expired
  return expired

end CoverAI
