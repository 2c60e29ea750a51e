import CoverAI.Services.HhUrlParser

/-!
# The HTML fallback of the hh.ru client

A page is a sequence of parser events.  The fallback collects the texts of the
elements it knows by their `data-qa`, the meta values and the JSON-LD
scripts, and makes vacancy candidates of them.
-/

namespace CoverAI

/-- A value `json.loads` returns.  Of a repeated key the last value
counts. -/
inductive Json where
  | null
  | bool (value : Bool)
  | number (literal : String)
  | str (value : String)
  | arr (items : List Json)
  | obj (fields : List (String × Json))

abbrev JsonDict : Type :=
  List (String × Json)

abbrev HtmlAttrs : Type :=
  List (String × Option String)

inductive HtmlEvent where
  | startTag (tag : String) (attrs : HtmlAttrs)
  | endTag (tag : String)
  | data (text : String)

/-- What the client needs of the standard library and of the interpreter, whose
stack holds a bounded number of calls. -/
structure HtmlLibrary where
  feed : String -> List HtmlEvent
  unescape : String -> String
  lower : String -> String
  digitValue : Char -> Option Nat
  jsonLoads : String -> Except Exc Json
  urljoin : String -> String -> Except Exc String
  recursionLimit : Nat

/-!
# Texts
-/

/-- `re.sub(r"\s+", " ", value)`; the flag tells that the last character
was a space. -/
def collapseSpaces : Bool -> List Char -> List Char
  | _, [] => []
  | inRun, c :: text =>
      if isSpace c then
        if inRun then collapseSpaces true text
        else ' ' :: collapseSpaces true text
      else c :: collapseSpaces false text

def normalizeText (lib : HtmlLibrary) (value : String) : String :=
  strip (String.ofList (collapseSpaces false (lib.unescape value).toList))

/-- The text before the first separator, if there is one. -/
def splitBefore (separator : List Char) : List Char -> Option (List Char)
  | [] => none
  | c :: text =>
      if separator.isPrefixOf (c :: text) then some []
      else (splitBefore separator text).map fun front => c :: front

def normalizeTitleFromMeta (lib : HtmlLibrary) :
    Option String -> Option String
  | none => none
  | some value =>
      let title := normalizeText lib value
      match splitBefore " в компании ".toList title.toList with
      | some front => some (strip (String.ofList front))
      | none => some title

/-- `part in text` -/
def isPartOf (part : List Char) : List Char -> Bool
  | [] => part.isEmpty
  | c :: text => part.isPrefixOf (c :: text) || isPartOf part text

def isArchivedHtmlText (lib : HtmlLibrary) (value : String) : Bool :=
  let lowered := (lib.lower value).toList
  isPartOf "вакансия в архиве".toList lowered ||
    isPartOf "vacancy is archived".toList lowered

/-- `None` and the empty text are false. -/
def truthy : Option String -> Option String
  | some "" => none
  | value => value

/-!
# The page parser
-/

def dataQaTitle : String := "vacancy-title"

def dataQaCompany : String := "vacancy-company-name"

def dataQaDescription : String := "vacancy-description"

def dataQaFields : List String :=
  [dataQaTitle, dataQaCompany, dataQaDescription]

/-- Of a repeated name the last value counts. -/
def lookupLast {α : Type} (name : String) (entries : List (String × α)) :
    Option α :=
  (entries.reverse.find? fun entry => entry.1 = name).map Prod.snd

structure HtmlCapture where
  key : String
  depth : Int
  textParts : List String
  href : Option String
  deriving DecidableEq

structure HHVacancyHTMLParser where
  dataQaTexts : List (String × List String)
  dataQaHrefs : List (String × List String)
  jsonLdScripts : List String
  metaValues : List (String × String)
  captures : List HtmlCapture
  scriptParts : Option (List String)

/-- `values.setdefault(key, []).append(text)` -/
def appendValue (key text : String) :
    List (String × List String) -> List (String × List String)
  | [] => [(key, [text])]
  | (k, texts) :: rest =>
      if k = key then (k, texts ++ [text]) :: rest
      else (k, texts) :: appendValue key text rest

namespace HHVacancyHTMLParser

def start : HHVacancyHTMLParser where
  dataQaTexts := []
  dataQaHrefs := []
  jsonLdScripts := []
  metaValues := []
  captures := []
  scriptParts := none

def attrsByName (lib : HtmlLibrary) (attrs : HtmlAttrs) :
    List (String × String) :=
  attrs.map fun entry => (lib.lower entry.1, entry.2.getD "")

def attr (lib : HtmlLibrary) (attrs : HtmlAttrs) (name : String) :
    Option String :=
  lookupLast name (attrsByName lib attrs)

def captureMeta (lib : HtmlLibrary) (attrs : HtmlAttrs)
    (p : HHVacancyHTMLParser) : HHVacancyHTMLParser :=
  match (truthy (attr lib attrs "property")).or (attr lib attrs "name"),
    attr lib attrs "content" with
  | some key, some content =>
      if key ≠ "" ∧ content ≠ "" then
        { p with metaValues := p.metaValues ++ [(lib.lower key, content)] }
      else p
  | _, _ => p

def isJsonLd (lib : HtmlLibrary) (attrs : HtmlAttrs) : Bool :=
  lib.lower ((attr lib attrs "type").getD "") = "application/ld+json"

/-- A start tag inside an open capture. -/
def enter (href : Option String) (capture : HtmlCapture) : HtmlCapture :=
  { capture with
    depth := capture.depth + 1
    href := capture.href.or href }

def handleStarttag (lib : HtmlLibrary) (tag : String) (attrs : HtmlAttrs)
    (p : HHVacancyHTMLParser) : HHVacancyHTMLParser :=
  let tag := lib.lower tag
  let href := truthy (attr lib attrs "href")
  let p := if tag = "meta" then captureMeta lib attrs p else p
  let p :=
    if tag = "script" ∧ isJsonLd lib attrs then { p with scriptParts := some [] }
    else p
  let captures := p.captures.map (enter href)
  match attr lib attrs "data-qa" with
  | some key =>
      if key ∈ dataQaFields then
        { p with captures := captures ++
          [{ key := key, depth := 1, textParts := [], href := href }] }
      else { p with captures := captures }
  | none => { p with captures := captures }

def leave (capture : HtmlCapture) : HtmlCapture :=
  { capture with depth := capture.depth - 1 }

def joined (parts : List String) : String :=
  " ".intercalate parts

/-- A capture that is complete is recorded. -/
def record (lib : HtmlLibrary) (p : HHVacancyHTMLParser)
    (capture : HtmlCapture) : HHVacancyHTMLParser :=
  let text := normalizeText lib (joined capture.textParts)
  let p := { p with captures := p.captures.erase capture }
  let p :=
    if text ≠ "" then
      { p with dataQaTexts := appendValue capture.key text p.dataQaTexts }
    else p
  match truthy capture.href with
  | some href =>
      { p with dataQaHrefs := appendValue capture.key href p.dataQaHrefs }
  | none => p

/-- The end tag of a script ends the JSON-LD script that is being read. -/
def closeScript (lib : HtmlLibrary) (tag : String) (p : HHVacancyHTMLParser) :
    HHVacancyHTMLParser :=
  match p.scriptParts with
  | some parts =>
      if lib.lower tag = "script" then
        { p with
          jsonLdScripts := p.jsonLdScripts ++ ["".intercalate parts]
          scriptParts := none }
      else p
  | none => p

def handleEndtag (lib : HtmlLibrary) (tag : String)
    (p : HHVacancyHTMLParser) : HHVacancyHTMLParser :=
  let captures := p.captures.map leave
  let completed := captures.filter fun capture => capture.depth = 0
  completed.foldl (record lib) { closeScript lib tag p with captures := captures }

def addText (text : String) (capture : HtmlCapture) : HtmlCapture :=
  { capture with textParts := capture.textParts ++ [text] }

def handleData (text : String) (p : HHVacancyHTMLParser) :
    HHVacancyHTMLParser :=
  { p with
    scriptParts := p.scriptParts.map fun parts => parts ++ [text]
    captures := p.captures.map (addText text) }

def handle (lib : HtmlLibrary) (p : HHVacancyHTMLParser) :
    HtmlEvent -> HHVacancyHTMLParser
  | .startTag tag attrs => handleStarttag lib tag attrs p
  | .endTag tag => handleEndtag lib tag p
  | .data text => handleData text p

def feedEvents (lib : HtmlLibrary) (p : HHVacancyHTMLParser)
    (events : List HtmlEvent) : HHVacancyHTMLParser :=
  events.foldl (handle lib) p

end HHVacancyHTMLParser

/-!
# JSON-LD
-/

def recursionError : Exc :=
  .other "RecursionError" "maximum recursion depth exceeded"

/-- The number counts the calls the interpreter still allows. -/
def iterJsonDicts : Nat -> Json -> Except Exc (List JsonDict)
  | 0, _ => .error recursionError
  | calls + 1, .obj fields =>
      match lookupLast "@graph" fields with
      | some (.arr graph) => do
          let result ← iterJsonDicts calls (.arr graph)
          return fields :: result
      | _ => return [fields]
  | calls + 1, .arr items => do
      let results ← items.mapM (iterJsonDicts calls)
      return results.flatten
  | _ + 1, _ => return []

/-- The first item of a list that yields a dictionary ends the search. -/
def firstFound (parse : Json -> Except Exc (Option JsonDict)) :
    List Json -> Except Exc (Option JsonDict)
  | [] => return none
  | item :: items => do
      match ← parse item with
      | some fields => return some fields
      | none => firstFound parse items

def firstJsonDict : Nat -> Json -> Except Exc (Option JsonDict)
  | 0, _ => .error recursionError
  | _ + 1, .obj fields => return some fields
  | calls + 1, .arr items => firstFound (firstJsonDict calls) items
  | _ + 1, _ => return none

def hasType (lib : HtmlLibrary) (expectedType : String) : Json -> Bool
  | .str value => lib.lower value = lib.lower expectedType
  | _ => false

def hasJsonLdType (lib : HtmlLibrary) (item : JsonDict)
    (expectedType : String) : Bool :=
  match lookupLast "@type" item with
  | some (.str value) => hasType lib expectedType (.str value)
  | some (.arr values) => values.any (hasType lib expectedType)
  | _ => false

def jsonStr (lib : HtmlLibrary) (item : JsonDict) (key : String) :
    Option String :=
  match lookupLast key item with
  | some (.str value) => truthy (some (normalizeText lib value))
  | _ => none

/-!
# Candidates
-/

structure HtmlCandidate where
  title : Option String
  employerName : Option String
  employerUrl : Option String
  description : Option String
  archived : Bool
  deriving DecidableEq

structure ParsedHHHtmlVacancy where
  title : String
  employerHhId : Int
  employerName : String
  employerUrl : Option String
  description : Option String
  archived : Bool
  deriving DecidableEq

def absoluteUrl (lib : HtmlLibrary) (url : Option String) (pageUrl : String) :
    Except Exc (Option String) :=
  match truthy url with
  | none => return none
  | some url => do
      let joined ← lib.urljoin pageUrl url
      return some joined

/-- The digits of a match of `/employer/(\d+)` at the head of the text. -/
def matchEmployer (lib : HtmlLibrary) (text : List Char) :
    Option (List Nat) :=
  if "/employer/".toList.isPrefixOf text then
    let digits := (text.drop "/employer/".length).takeWhile fun c =>
      (lib.digitValue c).isSome
    if digits = [] then none else some (digits.filterMap lib.digitValue)
  else none

/-- `re.search` finds the first match. -/
def searchEmployer (lib : HtmlLibrary) : List Char -> Option (List Nat)
  | [] => none
  | c :: text => (matchEmployer lib (c :: text)).or (searchEmployer lib text)

def employerIdFromUrl (lib : HtmlLibrary) (url : Option String) :
    Except Exc (Option Int) :=
  match truthy url with
  | none => return none
  | some url =>
      match searchEmployer lib url.toList with
      | none => return none
      | some digits => do
          let id ← intOfDigits digits
          return some id

def firstText (lib : HtmlLibrary) (values : List (String × List String))
    (key : String) : Option String :=
  ((lookupLast key values).getD []).findSome? fun value =>
    truthy (some (normalizeText lib value))

def candidateFromDataQa (lib : HtmlLibrary) (parser : HHVacancyHTMLParser)
    (pageUrl : String) : Except Exc HtmlCandidate := do
  let title := firstText lib parser.dataQaTexts dataQaTitle
  let employerName := firstText lib parser.dataQaTexts dataQaCompany
  let employerUrl := firstText lib parser.dataQaHrefs dataQaCompany
  let description := firstText lib parser.dataQaTexts dataQaDescription
  let title := title.or
    (normalizeTitleFromMeta lib (lookupLast "og:title" parser.metaValues))
  let archivedText := " ".intercalate (parser.dataQaTexts.flatMap Prod.snd)
  let url ← absoluteUrl lib employerUrl pageUrl
  return {
    title := title
    employerName := employerName
    employerUrl := url
    description := description
    archived := isArchivedHtmlText lib archivedText }

def hiringOrganization (lib : HtmlLibrary) (item : JsonDict) :
    Except Exc (Option JsonDict) :=
  match lookupLast "hiringOrganization" item with
  | none => return none
  | some value => firstJsonDict lib.recursionLimit value

def employerLink (lib : HtmlLibrary) (employer : JsonDict) : Option String :=
  (jsonStr lib employer "sameAs").or (jsonStr lib employer "url")

def candidateFromItem (lib : HtmlLibrary) (pageUrl : String)
    (item : JsonDict) : Except Exc HtmlCandidate := do
  let employer ← hiringOrganization lib item
  let url ← absoluteUrl lib (employer.bind (employerLink lib)) pageUrl
  return {
    title := (jsonStr lib item "title").or (jsonStr lib item "name")
    employerName := employer.bind fun e => jsonStr lib e "name"
    employerUrl := url
    description := jsonStr lib item "description"
    archived := false }

/-- The scripts that hold no JSON are left out. -/
def candidatesFromScript (lib : HtmlLibrary) (pageUrl : String)
    (script : String) : Except Exc (List HtmlCandidate) :=
  match lib.jsonLoads script with
  | .error (.valueError _) => return []
  | .error e => .error e
  | .ok value => do
      let items ← iterJsonDicts lib.recursionLimit value
      (items.filter fun item => hasJsonLdType lib item "JobPosting").mapM
        (candidateFromItem lib pageUrl)

def candidatesFromJsonLd (lib : HtmlLibrary) (parser : HHVacancyHTMLParser)
    (pageUrl : String) : Except Exc (List HtmlCandidate) := do
  let candidates ← parser.jsonLdScripts.mapM (candidatesFromScript lib pageUrl)
  return candidates.flatten

def completeHtmlCandidate (lib : HtmlLibrary) (candidate : HtmlCandidate)
    (pageUrl : String) : Except Exc (Option ParsedHHHtmlVacancy) := do
  let title := normalizeText lib (candidate.title.getD "")
  let employerName := normalizeText lib (candidate.employerName.getD "")
  match ← employerIdFromUrl lib candidate.employerUrl with
  | none => return none
  | some employerHhId =>
      if title = "" ∨ employerName = "" then return none
      else do
        let employerUrl ← absoluteUrl lib candidate.employerUrl pageUrl
        return some {
          title := title
          employerHhId := employerHhId
          employerName := employerName
          employerUrl := employerUrl
          description := candidate.description
          archived := candidate.archived ||
            isArchivedHtmlText lib (candidate.title.getD "") }

def mergeCandidates (first fallback : HtmlCandidate) : HtmlCandidate where
  title := (truthy first.title).or fallback.title
  employerName := (truthy first.employerName).or fallback.employerName
  employerUrl := (truthy first.employerUrl).or fallback.employerUrl
  description := (truthy first.description).or fallback.description
  archived := first.archived || fallback.archived

/-- The first candidate that is complete with the data of the page, or else
the page alone. -/
def completeFirst (lib : HtmlLibrary) (pageUrl : String)
    (dataQa : HtmlCandidate) :
    List HtmlCandidate -> Except Exc ParsedHHHtmlVacancy
  | [] => do
      match ← completeHtmlCandidate lib dataQa pageUrl with
      | some parsed => return parsed
      | none =>
          .error (.hhClientError "hh.ru HTML page did not contain vacancy data")
  | candidate :: candidates => do
      let merged := mergeCandidates candidate dataQa
      match ← completeHtmlCandidate lib merged pageUrl with
      | some parsed => return parsed
      | none => completeFirst lib pageUrl dataQa candidates

def parseHhVacancyHtml (lib : HtmlLibrary) (html pageUrl : String) :
    Except Exc ParsedHHHtmlVacancy := do
  let parser := HHVacancyHTMLParser.start.feedEvents lib (lib.feed html)
  let dataQa ← candidateFromDataQa lib parser pageUrl
  let candidates ← candidatesFromJsonLd lib parser pageUrl
  completeFirst lib pageUrl dataQa candidates

end CoverAI
