import Mathlib.Algebra.Ring.Int.Defs
import CoverAI.Api.Helpers

/-!
# Usage analytics of the caller
-/

namespace CoverAI

open Txn Program

structure AnalyticsResponse where
  totalGenerations : Nat
  succeededGenerations : Nat
  failedGenerations : Nat
  creditsSpent : Nat
  deriving DecidableEq

def countRequests (userId : Int) (status : Option GenerationStatus) :
    Session Nat :=
  select fun db => db.generationRequests.count fun r =>
    r.userId = userId && status.all fun status => r.status = status

def sumTransactions (userId : Int) (type : CreditTransactionType) :
    Session Int :=
  select fun db =>
    ((db.creditTransactions.filter fun t =>
      t.userId = userId && t.type = type).map CreditTransaction.amount).sum

def analytics (userId : Int) : Session AnalyticsResponse := do
  let _ ← currentUser userId
  let total ← countRequests userId none
  let succeeded ← countRequests userId (some .succeeded)
  let failed ← countRequests userId (some .failed)
  let spent ← sumTransactions userId .spend
  return {
    totalGenerations := total
    succeededGenerations := succeeded
    failedGenerations := failed
    creditsSpent := spent.natAbs }

end CoverAI
