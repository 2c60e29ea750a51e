import CoverAI.Clients.Hh

/-!
# Payloads of the hh.ru client

A payload carries the fields the services read and the object they come from.
The API answers with the object; for an HTML page the client makes one.
-/

namespace CoverAI

abbrev PyDict : Type :=
  List (String × PyObject)

def digitCount (n : Int) : Nat :=
  (Nat.toDigits 10 n.natAbs).length

/-- `str` refuses an integer of more than 4300 digits. -/
def strOfInt (n : Int) : Except Exc String :=
  if 4300 < digitCount n then
    .error (.valueError ("Exceeds the limit (4300 digits) for integer string " ++
      "conversion; use sys.set_int_max_str_digits() to increase the limit"))
  else .ok (toString n)

/-!
# Objects of an HTML page
-/

def hhHtmlBaseUrl : String :=
  "https://hh.ru"

def orNone : Option String -> PyObject
  | some value => .str value
  | none => .none

namespace ParsedHHHtmlVacancy

def typeId (p : ParsedHHHtmlVacancy) : String :=
  if p.archived then "closed" else "open"

def employerPayload (p : ParsedHHHtmlVacancy) (employerId : String) : PyDict :=
  [("id", .str employerId),
    ("name", .str p.employerName),
    ("alternate_url", orNone p.employerUrl),
    ("_source", .str "hh_html")]

def vacancyPayload (p : ParsedHHHtmlVacancy)
    (id vacancyUrl employerId : String) : PyDict :=
  [("id", .str id),
    ("name", .str p.title),
    ("alternate_url", .str vacancyUrl),
    ("archived", .bool p.archived),
    ("type", .dict [("id", .str p.typeId)]),
    ("employer", .dict (p.employerPayload employerId)),
    ("description", .str (p.description.getD "")),
    ("_source", .str "hh_html")]

def vacancyUrl (hhId : Int) (pageUrl : String) : Except Exc String :=
  if pageUrl = "" then do
    let id ← strOfInt hhId
    return hhHtmlBaseUrl ++ "/vacancy/" ++ id
  else return pageUrl

def toPayloads (p : ParsedHHHtmlVacancy) (hhId : Int) (pageUrl : String) :
    Except Exc (HHVacancyPayload × HHEmployerPayload) := do
  let vacancyUrl ← vacancyUrl hhId pageUrl
  let employerId ← strOfInt p.employerHhId
  let id ← strOfInt hhId
  return (
    { hhId := hhId
      title := p.title
      employerHhId := p.employerHhId
      employerName := p.employerName
      url := some vacancyUrl
      archived := .bool p.archived
      typeId := some p.typeId
      rawPayload := p.vacancyPayload id vacancyUrl employerId },
    { hhId := p.employerHhId
      name := p.employerName
      url := p.employerUrl
      rawPayload := p.employerPayload employerId })

end ParsedHHHtmlVacancy

/-!
# Fields of an object
-/

/-- `payload.get(field)` -/
def getField (payload : PyDict) (field : String) : PyObject :=
  (lookupLast field payload).getD .none

def requiredDict (payload : PyDict) (field : String) : Except Exc PyDict :=
  match getField payload field with
  | .dict value => return value
  | _ => .error (.hhClientError ("hh.ru response misses object field " ++ field))

def optionalDict (payload : PyDict) (field : String) :
    Except Exc (Option PyDict) :=
  match getField payload field with
  | .none => return none
  | .dict value => return some value
  | _ =>
      .error (.hhClientError ("hh.ru response has invalid object field " ++ field))

/-- `value.isdecimal()` -/
def isDecimal (lib : HtmlLibrary) (value : String) : Bool :=
  value ≠ "" && value.toList.all fun c => (lib.digitValue c).isSome

/-- The truth values are integers. -/
def requiredInt (lib : HtmlLibrary) (payload : PyDict) (field : String) :
    Except Exc Int :=
  let misses : Except Exc Int :=
    .error (.hhClientError ("hh.ru response misses integer field " ++ field))
  match getField payload field with
  | .bool value => return if value then 1 else 0
  | .int value => return value
  | .str value =>
      if isDecimal lib value then
        intOfDigits (value.toList.filterMap lib.digitValue)
      else misses
  | _ => misses

def requiredStr (payload : PyDict) (field : String) : Except Exc String :=
  let misses : Except Exc String :=
    .error (.hhClientError ("hh.ru response misses string field " ++ field))
  match getField payload field with
  | .str value => if value ≠ "" then return value else misses
  | _ => misses

def optionalStr (payload : PyDict) (field : String) : Option String :=
  match getField payload field with
  | .str value => truthy (some value)
  | _ => none

def vacancyPayloadFromJson (lib : HtmlLibrary) (payload : PyDict) :
    Except Exc HHVacancyPayload := do
  let employer ← requiredDict payload "employer"
  let vacancyType ← optionalDict payload "type"
  let hhId ← requiredInt lib payload "id"
  let title ← requiredStr payload "name"
  let employerHhId ← requiredInt lib employer "id"
  let employerName ← requiredStr employer "name"
  return {
    hhId := hhId
    title := title
    employerHhId := employerHhId
    employerName := employerName
    url := (optionalStr payload "alternate_url").or (optionalStr payload "url")
    archived := (lookupLast "archived" payload).getD (.bool false)
    typeId := vacancyType.bind fun fields => optionalStr fields "id"
    rawPayload := payload }

def employerPayloadFromJson (lib : HtmlLibrary) (payload : PyDict) :
    Except Exc HHEmployerPayload := do
  let hhId ← requiredInt lib payload "id"
  let name ← requiredStr payload "name"
  return {
    hhId := hhId
    name := name
    url := (optionalStr payload "alternate_url").or
      (optionalStr payload "site_url")
    rawPayload := payload }

end CoverAI
