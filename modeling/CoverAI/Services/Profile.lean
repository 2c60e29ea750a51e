import CoverAI.Domain.Ports
import CoverAI.Repos.Generation

/-!
# Profile service
-/

namespace CoverAI

open Txn Program

def maxProfileTitleLength : Nat :=
  255

def minResumeTextLength : Nat :=
  100

def maxResumeTextLength : Nat :=
  6000

structure NormalizedResumeText where
  text : String
  wasTruncated : Bool

def normalizeProfileTitle (title : String) : Except Exc String :=
  let normalized := strip title
  if normalized.length = 0 ∨ maxProfileTitleLength < normalized.length then
    .error (.other "InvalidProfileTitleError" "")
  else .ok normalized

def normalizeResumeText (resumeText : String) :
    Except Exc NormalizedResumeText :=
  let normalized := strip resumeText
  if normalized.length < minResumeTextLength then
    .error (.other "ResumeTextTooShortError" "")
  else if maxResumeTextLength < normalized.length then
    .ok {
      text := String.ofList (normalized.toList.take maxResumeTextLength)
      wasTruncated := true }
  else .ok { text := normalized, wasTruncated := false }

structure ProfileResult where
  profileId : Int
  profile : ResumeProfile
  wasTruncated : Bool

def createProfile (userId : Int) (title resumeText : String) :
    Session ProfileResult := do
  match ← profileByUserId userId with
  | some _ => raise (Exc.other "ProfileAlreadyExistsError" "")
  | none => do
      let normalizedTitle ← ofExcept (normalizeProfileTitle title)
      let normalizedText ← ofExcept (normalizeResumeText resumeText)
      let (profileId, profile) ← createResumeProfile {
        userId := userId
        title := normalizedTitle
        resumeText := normalizedText.text }
      return {
        profileId := profileId
        profile := profile
        wasTruncated := normalizedText.wasTruncated }

def getProfile (userId : Int) : Session ResumeProfile := do
  match ← profileByUserId userId with
  | none => raise Exc.profileNotFound
  | some (_, profile) => return profile

def updateProfile (userId : Int) (resumeText : String) :
    Session ProfileResult := do
  match ← profileByUserId userId with
  | none => raise Exc.profileNotFound
  | some (profileId, _) => do
      let normalizedText ← ofExcept (normalizeResumeText resumeText)
      match ← updateProfileText profileId normalizedText.text with
      | none => raise Exc.profileNotFound
      | some updated =>
          return {
            profileId := profileId
            profile := updated
            wasTruncated := normalizedText.wasTruncated }

end CoverAI
