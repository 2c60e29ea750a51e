import CoverAI.Api.Helpers
import CoverAI.Services.Profile

/-!
# Profile routes

The route and the two use cases of the bot that save a resume share the attempt
to create a profile and, where there is one, the update of its text.
-/

namespace CoverAI

open Txn Program

/-- The title counts only where the profile is created. -/
def createOrUpdateProfile (userId : Int) (title resumeText : String) :
    Session ProfileResult :=
  (createProfile userId title resumeText).tryCatch fun e =>
    if e = .other "ProfileAlreadyExistsError" "" then
      updateProfile userId resumeText
    else raise e

structure ProfileResponse where
  id : Int
  title : String
  resumeText : String
  wasTruncated : Bool
  deriving DecidableEq

def profileResponse (result : ProfileResult) : ProfileResponse where
  id := result.profileId
  title := result.profile.title
  resumeText := result.profile.resumeText
  wasTruncated := result.wasTruncated

def profileError (e : Exc) : Exc :=
  if e = .other "InvalidProfileTitleError" "" then
    .httpException 422 "Invalid profile title"
  else if e = .other "ResumeTextTooShortError" "" then
    .httpException 422 "Resume text is too short"
  else e

def saveProfile (userId : Int) (title resumeText : String) :
    Session ProfileResponse := do
  let _ ← currentUser userId
  let result ← (createOrUpdateProfile userId title resumeText).tryCatch
    fun e => raise (profileError e)
  return profileResponse result

/-- The route that reads the profile; the service has the same name. -/
def getProfileRoute (userId : Int) : Session ProfileResponse := do
  let _ ← currentUser userId
  match ← profileByUserId userId with
  | none => raise (Exc.httpException 404 "Profile not found")
  | some (profileId, profile) =>
      return {
        id := profileId
        title := profile.title
        resumeText := profile.resumeText
        wasTruncated := false }

end CoverAI
