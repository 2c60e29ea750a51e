import CoverAI.Infra.Database
import CoverAI.Domain.Ports

/-!
# Helpers of the API routes

A session keeps the rows it has loaded: a second SELECT of a row that is still
referenced returns the loaded object and does not refresh it.  A helper that
may meet such a row takes it as `held`.
-/

namespace CoverAI

open Txn Program

/-- The authenticated caller; `userId` comes from the token. -/
def currentUser (userId : Int) : Session User :=
  (select fun db => db.users.get userId).bind fun
    | none => raise (Exc.httpException 401 "User not found")
    | some user => ret user

def lockedUser (held : Option User) (userId : Int) : Session User :=
  (selectForUpdate (LockName.user userId) fun db => db.users.get userId).bind fun
    | none => raise (Exc.httpException 404 "User not found")
    | some row => ret (held.getD row)

def paymentByExternalId (externalId : String) :
    Session (Option (Int × PaymentIntent)) :=
  select fun db => db.paymentIntents.first? fun i => i.externalId = externalId

def paymentById (paymentId : Int) : Session (Option PaymentIntent) :=
  select fun db => db.paymentIntents.get paymentId

/-- A locking SELECT finds the row first and reads it again once it holds the
lock; the code of a promo is never updated. -/
def lockPromo (code : String) : Session (Option (Int × PromoCode)) :=
  (select fun db => db.promoCodes.first? fun p => p.code = code).bind fun
    | none => ret none
    | some (promoId, _) =>
        selectForUpdate (LockName.promoCode promoId) fun db =>
          (db.promoCodes.get promoId).map fun promo => (promoId, promo)

def promoByCode (env : Env) (code : String) :
    Session (Option (Int × PromoCode)) :=
  lockPromo (env.upper (strip code))

def promoWasRedeemed (promoId userId : Int) : Session Bool :=
  select fun db =>
    decide ({ promoCodeId := promoId, userId := userId } ∈ db.promoRedemptions)

def validatePromo (promo : PromoCode) (now : Instant) : Except Exc Unit :=
  if promo.isActive = false then
    .error (Exc.httpException 400 "Promo code is inactive")
  else if promo.validUntil < now then
    .error (Exc.httpException 400 "Promo code expired")
  else if promo.activationsCount ≥ promo.maxActivations then
    .error (Exc.httpException 400 "Promo code activation limit reached")
  else .ok ()

end CoverAI
