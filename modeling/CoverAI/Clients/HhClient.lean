import CoverAI.Clients.HhPayloads
import Mathlib.Logic.Function.Basic

/-!
# The hh.ru client

The client asks the API, and if the API cannot be reached or turns it away, the
HTML pages.  A web is what the two sites answer during one call.
-/

namespace CoverAI

structure HttpResponse where
  statusCode : Int
  text : String
  url : String

/-- What a request raises: the two kinds the API source tells apart, the other
errors of `httpx`, and those it does not declare. -/
inductive HttpError where
  | timeout (message : String)
  | transport (message : String)
  | http (className message : String)
  | undeclared (e : Exc)

structure Web where
  api : String -> Except HttpError HttpResponse
  html : String -> Except HttpError HttpResponse

/-- What the client needs of `httpx` beyond the requests: the message of
`raise_for_status`, if it raises, and the JSON of a response. -/
structure HttpLibrary where
  html : HtmlLibrary
  statusError : HttpResponse -> Option String
  json : HttpResponse -> Except Exc PyObject

/-- `_HHFallbackAllowedError`, or any other error. -/
inductive HhError where
  | fallbackAllowed (message : String)
  | raised (e : Exc)

def raising {α : Type} (result : Except Exc α) : Except HhError α :=
  result.mapError HhError.raised

def clientError {α : Type} (message : String) : Except HhError α :=
  .error (.raised (.hhClientError message))

def vacancyNotFoundError {α : Type} : Except HhError α :=
  .error (.raised (.vacancyNotFound ""))

/-!
# The API
-/

def fallbackStatusCodes : List Int :=
  [403, 429]

def isFallbackStatus (statusCode : Int) : Bool :=
  statusCode ∈ fallbackStatusCodes || 500 ≤ statusCode

namespace HHApiVacancySource

/-- An error of no declared kind of `httpx` is not caught. -/
def onHttpError {α : Type} : HttpError -> Except HhError α
  | .timeout message =>
      .error (.fallbackAllowed
        (if message = "" then "hh.ru request timed out" else message))
  | .transport message => .error (.fallbackAllowed message)
  | .http className message => .error (.raised (.other className message))
  | .undeclared e => .error (.raised e)

def jsonObject (lib : HttpLibrary) (response : HttpResponse) :
    Except HhError PyDict :=
  match lib.json response with
  | .error (.valueError _) => clientError "hh.ru returned invalid JSON"
  | .error e => .error (.raised e)
  | .ok (.dict payload) => return payload
  | .ok _ => clientError "hh.ru returned non-object JSON"

def readResponse (lib : HttpLibrary) (response : HttpResponse) :
    Except HhError PyDict :=
  if response.statusCode = 404 then vacancyNotFoundError
  else if isFallbackStatus response.statusCode then
    .error (.fallbackAllowed ("hh.ru returned fallback-eligible status " ++
      toString response.statusCode))
  else
    match lib.statusError response with
    | some message => clientError message
    | none => jsonObject lib response

def getJson (lib : HttpLibrary) (web : Web) (path : String) :
    Except HhError PyDict :=
  match web.api path with
  | .error e => onHttpError e
  | .ok response => readResponse lib response

def getVacancy (lib : HttpLibrary) (web : Web) (hhId : Int) :
    Except HhError HHVacancyPayload := do
  let id ← raising (strOfInt hhId)
  let payload ← getJson lib web ("/vacancies/" ++ id)
  raising (vacancyPayloadFromJson lib.html payload)

def getEmployer (lib : HttpLibrary) (web : Web) (hhId : Int) :
    Except HhError HHEmployerPayload := do
  let id ← raising (strOfInt hhId)
  let payload ← getJson lib web ("/employers/" ++ id)
  raising (employerPayloadFromJson lib.html payload)

end HHApiVacancySource

/-!
# The HTML pages
-/

structure HHHtmlVacancySource where
  employersByHhId : Int -> Option HHEmployerPayload

namespace HHHtmlVacancySource

def start : HHHtmlVacancySource where
  employersByHhId := fun _ => none

def onHttpError {α : Type} : HttpError -> Except HhError α
  | .timeout message | .transport message | .http _ message =>
      clientError message
  | .undeclared e => .error (.raised e)

def get (lib : HttpLibrary) (web : Web) (path : String) :
    Except HhError HttpResponse :=
  match web.html path with
  | .error e => onHttpError e
  | .ok response =>
      if response.statusCode = 404 then vacancyNotFoundError
      else
        match lib.statusError response with
        | some message => clientError message
        | none => return response

/-- The payloads of a page. -/
def readPage (lib : HttpLibrary) (web : Web) (hhId : Int) :
    Except HhError (HHVacancyPayload × HHEmployerPayload) := do
  let id ← raising (strOfInt hhId)
  let response ← get lib web ("/vacancy/" ++ id)
  let parsed ← raising (parseHhVacancyHtml lib.html response.text response.url)
  raising (parsed.toPayloads hhId response.url)

def store (employer : HHEmployerPayload) (source : HHHtmlVacancySource) :
    HHHtmlVacancySource where
  employersByHhId :=
    Function.update source.employersByHhId employer.hhId (some employer)

def getVacancy (lib : HttpLibrary) (web : Web) (hhId : Int)
    (source : HHHtmlVacancySource) :
    Except HhError HHVacancyPayload × HHHtmlVacancySource :=
  match readPage lib web hhId with
  | .error e => (.error e, source)
  | .ok (vacancy, employer) => (.ok vacancy, source.store employer)

def getEmployer (hhId : Int) (source : HHHtmlVacancySource) :
    Except HhError HHEmployerPayload :=
  match source.employersByHhId hhId with
  | none => clientError "hh.ru HTML fallback has no employer data"
  | some employer => return employer

end HHHtmlVacancySource

/-!
# The client
-/

structure HttpxHHClient where
  htmlSource : Option HHHtmlVacancySource
  htmlFallbackEnabled : Bool
  vacancyHhIdByEmployerHhId : Int -> Option Int

inductive HhCall where
  | getVacancy (hhId : Int)
  | getEmployer (hhId : Int)

/-- What a call of the client returns or raises, the client it leaves, and the
calls of the HTML source it has made. -/
structure Outcome (α : Type) where
  result : Except HhError α
  client : HttpxHHClient
  htmlCalls : List HhCall

namespace HttpxHHClient

def start (htmlSource : Option HHHtmlVacancySource)
    (htmlFallbackEnabled : Bool) : HttpxHHClient where
  htmlSource := htmlSource
  htmlFallbackEnabled := htmlFallbackEnabled
  vacancyHhIdByEmployerHhId := fun _ => none

/-- The HTML source is made when it is first used. -/
def html (client : HttpxHHClient) : HHHtmlVacancySource :=
  client.htmlSource.getD .start

def withHtml (source : HHHtmlVacancySource) (client : HttpxHHClient) :
    HttpxHHClient :=
  { client with htmlSource := some source }

def remember (payload : HHVacancyPayload) (client : HttpxHHClient) :
    HttpxHHClient :=
  { client with
    vacancyHhIdByEmployerHhId :=
      Function.update client.vacancyHhIdByEmployerHhId payload.employerHhId
        (some payload.hhId) }

def getVacancyFromHtml (lib : HttpLibrary) (web : Web) (hhId : Int)
    (message : String) (client : HttpxHHClient) : Outcome HHVacancyPayload :=
  if client.htmlFallbackEnabled then
    let (result, source) := client.html.getVacancy lib web hhId
    { result := result
      client := client.withHtml source
      htmlCalls := [.getVacancy hhId] }
  else
    { result := .error (.fallbackAllowed message)
      client := client
      htmlCalls := [] }

def fetchVacancy (lib : HttpLibrary) (web : Web) (hhId : Int)
    (client : HttpxHHClient) : Outcome HHVacancyPayload :=
  match HHApiVacancySource.getVacancy lib web hhId with
  | .error (.fallbackAllowed message) =>
      getVacancyFromHtml lib web hhId message client
  | result => { result := result, client := client, htmlCalls := [] }

def getVacancy (lib : HttpLibrary) (web : Web) (hhId : Int)
    (client : HttpxHHClient) : Outcome HHVacancyPayload :=
  let fetched := fetchVacancy lib web hhId client
  match fetched.result with
  | .error _ => fetched
  | .ok payload => { fetched with client := fetched.client.remember payload }

def getEmployerFromHtml (lib : HttpLibrary) (web : Web) (hhId : Int)
    (client : HttpxHHClient) : Outcome HHEmployerPayload :=
  match client.vacancyHhIdByEmployerHhId hhId with
  | none =>
      { result := client.html.getEmployer hhId
        client := client.withHtml client.html
        htmlCalls := [.getEmployer hhId] }
  | some vacancyHhId =>
      match client.html.getVacancy lib web vacancyHhId with
      | (.error e, source) =>
          { result := .error e
            client := client.withHtml source
            htmlCalls := [.getVacancy vacancyHhId] }
      | (.ok _, source) =>
          { result := source.getEmployer hhId
            client := client.withHtml source
            htmlCalls := [.getVacancy vacancyHhId, .getEmployer hhId] }

def getEmployer (lib : HttpLibrary) (web : Web) (hhId : Int)
    (client : HttpxHHClient) : Outcome HHEmployerPayload :=
  match HHApiVacancySource.getEmployer lib web hhId with
  | .error (.fallbackAllowed message) =>
      if client.htmlFallbackEnabled then
        getEmployerFromHtml lib web hhId client
      else
        { result := .error (.fallbackAllowed message)
          client := client
          htmlCalls := [] }
  | result => { result := result, client := client, htmlCalls := [] }

/-!
# Runs
-/

inductive Answer where
  | vacancy (result : Except HhError HHVacancyPayload)
  | employer (result : Except HhError HHEmployerPayload)

def perform (lib : HttpLibrary) (client : HttpxHHClient) (web : Web) :
    HhCall -> Answer × HttpxHHClient
  | .getVacancy hhId =>
      let outcome := getVacancy lib web hhId client
      (.vacancy outcome.result, outcome.client)
  | .getEmployer hhId =>
      let outcome := getEmployer lib web hhId client
      (.employer outcome.result, outcome.client)

/-- The answers of the calls, in order, and the client after them. -/
def run (lib : HttpLibrary) (client : HttpxHHClient) :
    List (HhCall × Web) -> List Answer × HttpxHHClient
  | [] => ([], client)
  | (call, web) :: steps =>
      let (answer, client) := perform lib client web call
      let (answers, client) := run lib client steps
      (answer :: answers, client)

end HttpxHHClient
end CoverAI
