import CoverAI.Api.Helpers
import CoverAI.Services.Generation

/-!
# Generation route
-/

namespace CoverAI

open Txn Program

structure GenerationCreateResponse where
  queued : Bool
  userId : Int
  vacancyUrl : String
  tone : Tone
  costCredits : Int
  generationRequestId : Int
  status : GenerationStatus
  deriving DecidableEq

def generationError : Exc -> Exc
  | .profileNotFound => .httpException 409 "Profile required"
  | .insufficientCredits => .httpException 402 "Insufficient credits"
  | .forbiddenTone => .httpException 403 "Forbidden tone"
  | .quotaExceeded => .httpException 429 "Quota exceeded"
  | .invalidVacancyUrl | .multipleVacancyUrls =>
      .httpException 422 "Invalid vacancy URL"
  | e => e

/-- The session of the request still references the caller's row. -/
def createGeneration (env : Env) (userId : Int) (vacancyUrl : String)
    (tone : Tone) (now : Instant) : Session GenerationCreateResponse := do
  let user ← currentUser userId
  let (requestId, request) ←
    (enqueueGeneration env (some user) userId vacancyUrl tone now).tryCatch
      fun e => raise (generationError e)
  return {
    queued := true
    userId := userId
    vacancyUrl := vacancyUrl
    tone := tone
    costCredits := env.predictionCostCredits
    generationRequestId := requestId
    status := request.status }

end CoverAI
