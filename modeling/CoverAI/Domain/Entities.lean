import CoverAI.Domain.Enums
import Mathlib.Data.Rat.Defs

/-!
# Rows and payloads

A row of a table carries the columns some operation reads or writes; the
primary key is the key of the table.  Instants are microseconds since the epoch
in UTC, the resolution of the source's timestamps.
-/

namespace CoverAI

abbrev Instant := Int

/-- A JSON-like Python value; a float that is not finite is `none`. -/
inductive PyObject where
  | none
  | bool (b : Bool)
  | int (n : Int)
  | float (q : Option Rat)
  | str (s : String)
  | list (items : List PyObject)
  | dict (items : List (String × PyObject))

/-!
# Rows
-/

structure User where
  telegramId : Option Int
  email : Option String
  role : UserRole
  credits : Int
  pendingTopUpDiscountPercent : Int
  pendingTopUpDiscountValidUntil : Option Instant
  pendingTopUpDiscountPromoCodeId : Option Int
  plan : Plan
  deriving DecidableEq

structure ResumeProfile where
  userId : Int
  title : String
  resumeText : String
  deriving DecidableEq

structure Employer where
  hhId : Int
  name : String
  url : Option String
  rawPayload : Option (List (String × PyObject))
  cachedAt : Option Instant

structure Vacancy where
  hhId : Int
  employerId : Int
  title : String
  url : Option String
  rawPayload : Option (List (String × PyObject))
  cachedAt : Option Instant

structure GenerationRequest where
  userId : Int
  profileId : Int
  vacancyId : Int
  status : GenerationStatus
  tone : Tone
  errorMessage : Option String
  snapshotProfileText : Option String
  snapshotVacancyText : Option String
  snapshotTone : Option Tone
  completedAt : Option Instant
  createdAt : Instant
  deriving DecidableEq

structure CoverLetter where
  generationRequestId : Int
  userId : Int
  profileId : Int
  vacancyId : Int
  employerId : Int
  vacancyTitle : String
  employerName : String
  tone : Tone
  text : String
  promptContext : String
  model : String
  generationMs : Int
  createdAt : Instant
  deriving DecidableEq

structure Subscription where
  userId : Int
  plan : Plan
  status : SubscriptionStatus
  startsAt : Instant
  expiresAt : Instant
  deriving DecidableEq

structure AdjustmentMetadata where
  reason : String
  adminId : Int
  deriving DecidableEq

structure CreditTransaction where
  userId : Int
  type : CreditTransactionType
  amount : Int
  balanceAfter : Int
  description : String
  generationRequestId : Option Int := none
  paymentIntentId : Option Int := none
  promoCodeId : Option Int := none
  metadataJson : Option AdjustmentMetadata := none
  deriving DecidableEq

structure PaymentIntent where
  userId : Int
  creditsAmount : Int
  amountRub : Int
  discountPercent : Int
  status : PaymentStatus
  provider : String
  externalId : String
  confirmedAt : Option Instant
  deriving DecidableEq

structure PromoCode where
  code : String
  type : PromoCodeType
  value : Int
  validUntil : Instant
  maxActivations : Int
  activationsCount : Int
  isActive : Bool
  deriving DecidableEq

structure PromoRedemption where
  promoCodeId : Int
  userId : Int
  deriving DecidableEq

/-!
# Payloads of the outside clients
-/

structure HHVacancyPayload where
  hhId : Int
  title : String
  employerHhId : Int
  employerName : String
  url : Option String
  archived : PyObject
  typeId : Option String
  rawPayload : List (String × PyObject)

structure HHEmployerPayload where
  hhId : Int
  name : String
  url : Option String
  rawPayload : List (String × PyObject)

structure LLMCompletion where
  text : String
  model : String
  generationMs : Int

/-- The arguments of a queued `generate_cover_letter` job. -/
structure Job where
  userId : Int
  vacancyUrl : String
  tone : String
  notifyTelegram : Bool
  chargeCredits : Bool
  costCredits : Int
  generationRequestId : Option Int
  deriving DecidableEq

/-!
# Exceptions
-/

inductive Exc where
  | httpException (statusCode : Nat) (detail : String)
  | integrityError
  | userNotFound
  | insufficientCredits
  | quotaExceeded
  | profileNotFound
  | forbiddenTone
  | generationRequestNotFound
  | emptyLLMResponse
  | invalidVacancyUrl
  | multipleVacancyUrls
  | vacancyClosed
  | hhClientError (message : String)
  | vacancyNotFound (message : String)
  | llmClientError (message : String)
  | telegramSenderError (message : String)
  | valueError (message : String)
  | lookupError (message : String)
  | runtimeError (message : String)
  /-- The session ends without a commit: a lost connection, a crash. -/
  | connectionLost
  | other (className message : String)
  deriving DecidableEq

namespace Exc

/-- `VacancyNotFoundError` is a subclass of `HHClientError`. -/
def isHHClientError : Exc -> Bool
  | hhClientError _ | vacancyNotFound _ => true
  | _ => false

def message : Exc -> String
  | httpException _ detail => detail
  | hhClientError m | vacancyNotFound m | llmClientError m
  | telegramSenderError m | valueError m | lookupError m | runtimeError m
  | other _ m => m
  | _ => ""

def className : Exc -> String
  | httpException _ _ => "HTTPException"
  | integrityError => "IntegrityError"
  | userNotFound => "UserNotFoundError"
  | insufficientCredits => "InsufficientCreditsError"
  | quotaExceeded => "QuotaExceededError"
  | profileNotFound => "ProfileNotFoundError"
  | forbiddenTone => "ForbiddenToneError"
  | generationRequestNotFound => "GenerationRequestNotFoundError"
  | emptyLLMResponse => "EmptyLLMResponseError"
  | invalidVacancyUrl => "InvalidVacancyUrlError"
  | multipleVacancyUrls => "MultipleVacancyUrlsError"
  | vacancyClosed => "VacancyClosedError"
  | hhClientError _ => "HHClientError"
  | vacancyNotFound _ => "VacancyNotFoundError"
  | llmClientError _ => "LLMClientError"
  | telegramSenderError _ => "TelegramSenderError"
  | valueError _ => "ValueError"
  | lookupError _ => "LookupError"
  | runtimeError _ => "RuntimeError"
  | connectionLost => "ConnectionError"
  | other name _ => name

end Exc
end CoverAI
