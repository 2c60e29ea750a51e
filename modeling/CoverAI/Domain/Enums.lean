/-!
# Enumerations of the domain

Each enumeration is a string enumeration in the source; `value` is the
string the database column and the job payload carry.
-/

namespace CoverAI

inductive Plan where
  | free
  | standard
  | pro
  deriving DecidableEq, Repr

inductive UserRole where
  | user
  | admin
  deriving DecidableEq, Repr

inductive Tone where
  | formal
  | confident
  | concise
  deriving DecidableEq, Repr

inductive GenerationStatus where
  | pending
  | succeeded
  | failed
  deriving DecidableEq, Repr

inductive SubscriptionStatus where
  | active
  | expired
  deriving DecidableEq, Repr

inductive CreditTransactionType where
  | welcomeBonus
  | topUp
  | promo
  | spend
  | adjustment
  | refund
  deriving DecidableEq, Repr

inductive PaymentStatus where
  | pending
  | succeeded
  | failed
  | canceled
  | refunded
  | refundManualReview
  deriving DecidableEq, Repr

inductive PromoCodeType where
  | fixedCredits
  | topUpDiscount
  deriving DecidableEq, Repr

namespace Tone

def value : Tone -> String
  | formal => "formal"
  | confident => "confident"
  | concise => "concise"

/-- The enumeration called on a string; `none` is its `ValueError`. -/
def ofValue (s : String) : Option Tone :=
  if s = "formal" then some formal
  else if s = "confident" then some confident
  else if s = "concise" then some concise
  else none

@[simp] theorem ofValue_value (t : Tone) : ofValue t.value = some t := by
  cases t <;> decide

end Tone

end CoverAI
