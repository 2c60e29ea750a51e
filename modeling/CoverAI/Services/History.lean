import CoverAI.Repos.Generation

/-!
# History service
-/

namespace CoverAI

open Txn Program

def standardHistoryPeriod : Int :=
  30 * 86400 * 1000000

structure HistoryResult where
  letters : List (Int × CoverLetter)
  cutoff : Option Instant
  deriving DecidableEq

def historyCutoff (held : Option User) (userId : Int) (now : Instant) :
    Session (Option Instant) := do
  match ← userById held userId with
  | none => raise Exc.userNotFound
  | some user =>
      match user.plan with
      | .free => raise (Exc.other "HistoryAccessDeniedError" "")
      | .standard => return some (now - standardHistoryPeriod)
      | .pro => return none

def listHistory (held : Option User) (userId : Int) (now : Instant)
    (limit : Int) : Session HistoryResult := do
  let cutoff ← historyCutoff held userId now
  let letters ← listByUserIdSince userId cutoff limit
  return { letters := letters, cutoff := cutoff }

def beforeCutoff (cutoff : Option Instant) (letter : CoverLetter) : Bool :=
  match cutoff with
  | none => false
  | some cutoff => letter.createdAt < cutoff

/-- What the caller gets of the letter that was found. -/
def letterOf (userId : Int) (cutoff : Option Instant) :
    Option CoverLetter -> Session CoverLetter
  | none => raise (Exc.other "CoverLetterNotFoundError" "")
  | some letter =>
      if letter.userId ≠ userId then
        raise (Exc.other "CoverLetterNotFoundError" "")
      else if beforeCutoff cutoff letter then
        raise (Exc.other "CoverLetterNotFoundError" "")
      else ret letter

def getLetter (held : Option User) (userId letterId : Int) (now : Instant) :
    Session CoverLetter := do
  let cutoff ← historyCutoff held userId now
  let letter ← coverLetterById letterId
  letterOf userId cutoff letter

/-- A letter of another user is refused like one that is not there. -/
theorem letterOf_filter (userId : Int) (cutoff : Option Instant)
    (found : Option CoverLetter) :
    letterOf userId cutoff (found.filter fun l => l.userId = userId) =
      letterOf userId cutoff found := by
  cases found with
  | none => rfl
  | some letter =>
      by_cases howner : letter.userId = userId
      · simp only [Option.filter_some, howner, decide_true, if_true]
      · simp [letterOf, Option.filter_some, howner]

end CoverAI
