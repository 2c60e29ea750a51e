import CoverAI.Api.Helpers
import CoverAI.Services.Billing

/-!
# Billing routes

The listings show two columns of `credit_transactions` that nothing else
reads, the primary key and the creation instant.  The database fills them in; a
`Stamps` says what it has filled in for the n-th row of the table.
-/

namespace CoverAI

open Txn Program

structure Stamp where
  id : Int
  createdAt : Instant
  deriving DecidableEq

abbrev Stamps := Nat -> Stamp

structure RecentCreditTransactionResponse where
  id : Int
  type : CreditTransactionType
  amount : Int
  balanceAfter : Int
  description : String
  createdAt : Instant
  deriving DecidableEq

def stampedTransactions (stamps : Stamps) (db : Db) :
    List (Stamp × CreditTransaction) :=
  db.creditTransactions.mapIdx fun n row => (stamps n, row)

def transactionPayload (entry : Stamp × CreditTransaction) :
    RecentCreditTransactionResponse where
  id := entry.1.id
  type := entry.2.type
  amount := entry.2.amount
  balanceAfter := entry.2.balanceAfter
  description := entry.2.description
  createdAt := entry.1.createdAt

def newerTransaction (a b : Stamp × CreditTransaction) : Bool :=
  b.1.createdAt ≤ a.1.createdAt

/-- The query orders by the creation instant alone; rows of one instant come in
the order of the table. -/
def userTransactions (stamps : Stamps) (userId : Int) :
    Session (List (Stamp × CreditTransaction)) :=
  select fun db =>
    ((stampedTransactions stamps db).filter fun entry =>
      entry.2.userId = userId).mergeSort newerTransaction

def transactions (stamps : Stamps) (userId : Int) :
    Session (List RecentCreditTransactionResponse) := do
  let _ ← currentUser userId
  let rows ← userTransactions stamps userId
  return rows.map transactionPayload

structure PlanUsageResponse where
  plan : Plan
  used : Nat
  limit : Option Nat
  remaining : Option Nat
  period : Option String
  credits : Int
  generationCostCredits : Int
  recentTransactions : List RecentCreditTransactionResponse
  deriving DecidableEq

def balance (env : Env) (stamps : Stamps) (userId : Int) (now : Instant) :
    Session PlanUsageResponse := do
  let user ← currentUser userId
  let usage ← getPlanUsage (some user) userId now
  let rows ← userTransactions stamps userId
  return {
    plan := usage.plan
    used := usage.used
    limit := usage.limit
    remaining := usage.remaining
    period := usage.period
    credits := user.credits
    generationCostCredits := env.predictionCostCredits
    recentTransactions := (rows.take 5).map transactionPayload }

end CoverAI
