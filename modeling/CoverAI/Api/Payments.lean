import CoverAI.Api.Helpers

/-!
# Payment routes

Every request takes one instant `now` for its calls of the clock.  The
part of a handler that follows the locking SELECT is a definition of its own:
at it the request waits for the users row, with the intent it read before.
-/

namespace CoverAI

open Txn Program

structure PaymentResponse where
  id : Int
  status : PaymentStatus
  creditsAmount : Int
  amountRub : Int
  discountPercent : Int
  externalId : String
  currency : String
  userId : Int
  paymentIntentId : Int
  deriving DecidableEq

def paymentResponse (id : Int) (intent : PaymentIntent) : PaymentResponse where
  id := id
  status := intent.status
  creditsAmount := intent.creditsAmount
  amountRub := intent.amountRub
  discountPercent := intent.discountPercent
  externalId := intent.externalId
  currency := "RUB"
  userId := intent.userId
  paymentIntentId := id

def discountExpired (validUntil : Option Instant) (now : Instant) : Bool :=
  match validUntil with
  | none => false
  | some validUntil => validUntil ≤ now

def User.clearDiscount (user : User) : User :=
  { user with
    pendingTopUpDiscountPercent := 0
    pendingTopUpDiscountValidUntil := none
    pendingTopUpDiscountPromoCodeId := none }

/-- `uuidHex` is the random part of the external id. -/
def createPayment (env : Env) (userId creditsAmount : Int) (uuidHex : String)
    (now : Instant) : Session PaymentResponse := do
  let user ← currentUser userId
  let expired := discountExpired user.pendingTopUpDiscountValidUntil now
  let edited := if expired then user.clearDiscount else user
  let discount := edited.pendingTopUpDiscountPercent
  let amount := creditsAmount * env.creditPriceRub
  let intent : PaymentIntent :=
    { userId := userId
      creditsAmount := creditsAmount
      amountRub := amount * (100 - discount) / 100
      discountPercent := discount
      status := .pending
      provider := "mock"
      externalId := "mock_" ++ uuidHex
      confirmedAt := none }
  let id ← draw SeqName.paymentIntents
  flushUnit (if expired then [LockName.user userId] else [])
    [updateUser userId user edited, insertPaymentIntent id intent]
  return paymentResponse id intent

/-!
# Confirmation
-/

def PaymentIntent.settle (intent : PaymentIntent) (status : PaymentStatus)
    (now : Instant) : PaymentIntent :=
  { intent with status := status, confirmedAt := some now }

def topUpRow (id : Int) (intent : PaymentIntent) (balance : Int) :
    CreditTransaction where
  userId := intent.userId
  type := .topUp
  amount := intent.creditsAmount
  balanceAfter := balance
  description := "Mock payment top-up"
  paymentIntentId := some id

def confirmLocked (id : Int) (intent : PaymentIntent) (now : Instant) :
    Session PaymentResponse := do
  let user ← lockedUser none intent.userId
  let credits := user.credits + intent.creditsAmount
  let settled := intent.settle .succeeded now
  flushUnit [LockName.user intent.userId, LockName.paymentIntent id]
    [updateUser intent.userId user { user.clearDiscount with credits := credits },
      updatePaymentIntent id intent settled,
      insertCreditTransaction (topUpRow id intent credits)]
  return paymentResponse id settled

def confirmPayment (externalId : String) (now : Instant) :
    Session PaymentResponse := do
  match ← paymentByExternalId externalId with
  | none => raise (Exc.httpException 404 "Payment not found")
  | some (id, intent) =>
      if intent.status = .succeeded then return paymentResponse id intent
      else confirmLocked id intent now

/-!
# Failure and cancellation
-/

/-- The common body of the two routes that end a pending intent. -/
def endPending (status : PaymentStatus) (externalId : String) (now : Instant) :
    Session PaymentResponse := do
  match ← paymentByExternalId externalId with
  | none => raise (Exc.httpException 404 "Payment not found")
  | some (id, intent) =>
      if intent.status = .pending then do
        let ended := intent.settle status now
        flushUnit [LockName.paymentIntent id]
          [updatePaymentIntent id intent ended]
        return paymentResponse id ended
      else return paymentResponse id intent

def failPayment (externalId : String) (now : Instant) :
    Session PaymentResponse :=
  endPending .failed externalId now

def cancelPayment (externalId : String) (now : Instant) :
    Session PaymentResponse :=
  endPending .canceled externalId now

/-!
# Refund
-/

def refundRow (id : Int) (intent : PaymentIntent) (balance : Int) :
    CreditTransaction where
  userId := intent.userId
  type := .refund
  amount := -intent.creditsAmount
  balanceAfter := balance
  description := "Mock payment refund"
  paymentIntentId := some id

def refundLocked (id : Int) (intent : PaymentIntent) (now : Instant) :
    Session PaymentResponse := do
  let locked ← lockedUser none intent.userId
  if locked.credits < intent.creditsAmount then do
    let review := { intent with status := .refundManualReview }
    flushUnit [LockName.paymentIntent id]
      [updatePaymentIntent id intent review]
    return paymentResponse id review
  else do
    let credits := locked.credits - intent.creditsAmount
    let refunded := intent.settle .refunded now
    flushUnit [LockName.user intent.userId, LockName.paymentIntent id]
      [updateUser intent.userId locked { locked with credits := credits },
        updatePaymentIntent id intent refunded,
        insertCreditTransaction (refundRow id intent credits)]
    return paymentResponse id refunded

def refundPayment (paymentId : Int) (now : Instant) :
    Session PaymentResponse := do
  match ← paymentById paymentId with
  | none => raise (Exc.httpException 404 "Payment not found")
  | some intent =>
      if intent.status ∉
          [PaymentStatus.succeeded, .refunded, .refundManualReview] then
        raise (Exc.httpException 409 "Payment is not refundable")
      else if intent.status ≠ .succeeded then
        return paymentResponse paymentId intent
      else refundLocked paymentId intent now

end CoverAI
