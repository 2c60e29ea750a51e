import CoverAI.Domain.Ports
import CoverAI.Repos.Generation

/-!
# Vacancy service
-/

namespace CoverAI

open Txn Program

structure VacancyResult where
  vacancyId : Int
  vacancy : Vacancy
  employerId : Int
  employer : Employer
  fromCache : Bool

def cacheTtl : Int :=
  3600 * 1000000

def isCacheFresh (cachedAt : Option Instant) (now : Instant) : Bool :=
  match cachedAt with
  | none => false
  | some cachedAt => now - cacheTtl ≤ cachedAt

/-- No character outside ASCII has a lower case among the letters of
`true`. -/
def isTruthy : PyObject -> Bool
  | .bool b => b
  | .str s => s.toLower = "true"
  | .none => false
  | .int n => n ≠ 0
  | .float (some q) => q ≠ 0
  | .float none => true
  | .list items => !items.isEmpty
  | .dict items => !items.isEmpty

def isOpen (payload : HHVacancyPayload) : Bool :=
  !(isTruthy payload.archived || payload.typeId ≠ some "open")

def cachedResult (hhId : Int) (now : Instant) :
    Session (Option VacancyResult) := do
  match ← vacancyByHhId hhId with
  | none => return none
  | some (vacancyId, vacancy) =>
      if isCacheFresh vacancy.cachedAt now then do
        match ← employerById vacancy.employerId with
        | none => return none
        | some employer =>
            if isCacheFresh employer.cachedAt now then
              return some {
                vacancyId := vacancyId
                vacancy := vacancy
                employerId := vacancy.employerId
                employer := employer
                fromCache := true }
            else return none
      else return none

def upsertEmployer (payload : HHEmployerPayload) (cachedAt : Instant) :
    Session (Int × Employer) := do
  match ← employerByHhId payload.hhId with
  | none =>
      createEmployer {
        hhId := payload.hhId
        name := payload.name
        url := payload.url
        rawPayload := some payload.rawPayload
        cachedAt := some cachedAt }
  | some (employerId, existing) => do
      let updated ← updateEmployerCache employerId payload.name payload.url
        (some payload.rawPayload) (some cachedAt)
      return (employerId, updated.getD existing)

def upsertVacancy (payload : HHVacancyPayload) (employerId : Int)
    (cachedAt : Instant) : Session (Int × Vacancy) := do
  match ← vacancyByHhId payload.hhId with
  | none =>
      createVacancy {
        hhId := payload.hhId
        employerId := employerId
        title := payload.title
        url := payload.url
        rawPayload := some payload.rawPayload
        cachedAt := some cachedAt }
  | some (vacancyId, existing) => do
      let updated ← updateVacancyCache vacancyId payload.title payload.url
        (some payload.rawPayload) (some cachedAt) employerId
      return (vacancyId, updated.getD existing)

def loadVacancy (clients : Clients) (hhId : Int) (now : Instant) :
    Session VacancyResult := do
  let vacancyPayload ← ofExcept (clients.getVacancy hhId)
  if isOpen vacancyPayload = false then raise Exc.vacancyClosed
  else do
    let employerPayload ←
      ofExcept (clients.getEmployer vacancyPayload.employerHhId)
    let (employerId, employer) ← upsertEmployer employerPayload now
    let (vacancyId, vacancy) ← upsertVacancy vacancyPayload employerId now
    return {
      vacancyId := vacancyId
      vacancy := vacancy
      employerId := employerId
      employer := employer
      fromCache := false }

def getOrLoadVacancy (env : Env) (clients : Clients) (messageText : String)
    (now : Instant) : Session VacancyResult := do
  let hhId ← ofExcept (env.parseHhVacancyId messageText)
  match ← cachedResult hhId now with
  | some result => return result
  | none => loadVacancy clients hhId now

end CoverAI
