import CoverAI.Text.Fallible
import CoverAI.Text.Scan
import CoverAI.Vacancy.HtmlCapture

/-!
# Outcomes of the HTML fallback

The worker expects a vacancy of the fallback, or the error of the client.  The
page decides on both through its links, its employer numbers and its JSON.
-/

namespace CoverAI

open Fallible

/-- The library functions that may fail raise `ValueError` only. -/
structure HtmlLibrary.RaisesValueErrors (lib : HtmlLibrary) : Prop where
  jsonLoads : forall script e, lib.jsonLoads script = .error e ->
    exists message, e = .valueError message
  urljoin : forall base url e, lib.urljoin base url = .error e ->
    exists message, e = .valueError message

section Links

variable {lib : HtmlLibrary} {pageUrl : String}

end Links

/-!
# How deep the JSON is nested
-/

section Nesting

section Graph

variable {fields : JsonDict}

end Graph

mutual
/-- The first dictionary of a value. -/
def firstDict : Json -> Option JsonDict
  | .obj fields => some fields
  | .arr items => firstDictOf items
  | .null | .bool _ | .number _ | .str _ => none

def firstDictOf : List Json -> Option JsonDict
  | [] => none
  | item :: items => (firstDict item).or (firstDictOf items)
end

mutual
/-- How deep the lists are nested that are searched for it. -/
def firstDepth : Json -> Nat
  | .arr items => firstDepthOf items + 1
  | .obj _ | .null | .bool _ | .number _ | .str _ => 1

def firstDepthOf : List Json -> Nat
  | [] => 0
  | item :: items =>
      match firstDict item with
      | some _ => firstDepth item
      | none => max (firstDepth item) (firstDepthOf items)
end

end Nesting

/-!
# JSON-LD
-/

section JsonLd

variable {lib : HtmlLibrary} {pageUrl : String}

end JsonLd

/-!
# Completion of a candidate
-/

section Completion

variable {lib : HtmlLibrary} {pageUrl : String} {c : HtmlCandidate}

/-- The digits of the employer's number in the link of the candidate. -/
def employerDigits (lib : HtmlLibrary) (url : Option String) :
    Option (List Nat) :=
  (truthy url).bind fun u => searchEmployer lib u.toList

/-- The interpreter makes a number of the digits. -/
def ShortNumber (lib : HtmlLibrary) (c : HtmlCandidate) : Prop :=
  forall digits, employerDigits lib c.employerUrl = some digits ->
    digits.length ≤ 4300

structure Complete (lib : HtmlLibrary) (c : HtmlCandidate) : Prop where
  title : normalizeText lib (c.title.getD "") ≠ ""
  employerName : normalizeText lib (c.employerName.getD "") ≠ ""
  employer : (employerDigits lib c.employerUrl).isSome = true

/-- The vacancy that is made of a complete candidate. -/
def completion (lib : HtmlLibrary) (c : HtmlCandidate) (id : Int)
    (url : Option String) : ParsedHHHtmlVacancy where
  title := normalizeText lib (c.title.getD "")
  employerHhId := id
  employerName := normalizeText lib (c.employerName.getD "")
  employerUrl := url
  description := c.description
  archived := c.archived || isArchivedHtmlText lib (c.title.getD "")

theorem employerIdFromUrl_eq (url : Option String) :
    employerIdFromUrl lib url =
      (employerDigits lib url).elim (.ok none)
        fun digits => (intOfDigits digits).map some := by
  unfold employerIdFromUrl employerDigits
  cases truthy url with
  | none => rfl
  | some u =>
      simp only [Option.bind_some]
      cases searchEmployer lib u.toList with
      | none => rfl
      | some digits =>
          change (intOfDigits digits).bind _ = (intOfDigits digits).map some
          cases intOfDigits digits <;> rfl

theorem employerIdFromUrl_of_short (h : ShortNumber lib c) :
    employerIdFromUrl lib c.employerUrl =
      .ok ((employerDigits lib c.employerUrl).map
        fun digits => (numberOf digits : Int)) := by
  rw [employerIdFromUrl_eq]
  cases hdigits : employerDigits lib c.employerUrl with
  | none => rfl
  | some digits =>
      rw [Option.elim_some, intOfDigits,
        if_neg (Nat.not_lt.mpr (h digits hdigits))]
      rfl

theorem employerIdFromUrl_of_not_short (h : ¬ ShortNumber lib c) :
    exists message, employerIdFromUrl lib c.employerUrl =
      .error (.valueError message) := by
  rw [employerIdFromUrl_eq]
  cases hdigits : employerDigits lib c.employerUrl with
  | none =>
      refine (h ?_).elim
      intro digits hsome
      rw [hdigits] at hsome
      cases hsome
  | some digits =>
      have hlong : 4300 < digits.length := by
        rw [← Nat.not_le]
        intro hshort
        apply h
        intro digits' hsome
        rw [hdigits] at hsome
        cases hsome
        exact hshort
      rw [Option.elim_some, intOfDigits, if_pos hlong]
      exact ⟨_, rfl⟩

theorem completeHtmlCandidate_of_not_short (h : ¬ ShortNumber lib c) :
    exists message, completeHtmlCandidate lib c pageUrl =
      .error (.valueError message) := by
  rcases employerIdFromUrl_of_not_short h with ⟨message, herror⟩
  refine ⟨message, ?_⟩
  rw [completeHtmlCandidate, herror]
  rfl

theorem completeHtmlCandidate_of_not_complete (hshort : ShortNumber lib c)
    (h : ¬ Complete lib c) :
    completeHtmlCandidate lib c pageUrl = .ok none := by
  rw [completeHtmlCandidate, employerIdFromUrl_of_short hshort]
  cases hdigits : employerDigits lib c.employerUrl with
  | none => rfl
  | some digits =>
      have hempty : normalizeText lib (c.title.getD "") = "" ∨
          normalizeText lib (c.employerName.getD "") = "" := by
        by_contra hboth
        rw [not_or] at hboth
        exact h ⟨hboth.left, hboth.right, by rw [hdigits]; rfl⟩
      simp only [Option.map_some, Bind.bind, Except.bind]
      rw [if_pos hempty]
      rfl

theorem completeHtmlCandidate_of_complete (hshort : ShortNumber lib c)
    (h : Complete lib c) :
    exists id, employerIdFromUrl lib c.employerUrl = .ok (some id) ∧
      completeHtmlCandidate lib c pageUrl =
        (absoluteUrl lib c.employerUrl pageUrl).map
          fun url => some (completion lib c id url) := by
  rcases Option.isSome_iff_exists.mp h.employer with ⟨digits, hdigits⟩
  have hid := employerIdFromUrl_of_short hshort
  rw [hdigits, Option.map_some] at hid
  refine ⟨_, hid, ?_⟩
  have hfull : ¬ (normalizeText lib (c.title.getD "") = "" ∨
      normalizeText lib (c.employerName.getD "") = "") :=
    not_or.mpr ⟨h.title, h.employerName⟩
  rw [completeHtmlCandidate, hid]
  simp only [Bind.bind, Except.bind]
  rw [if_neg hfull]
  cases absoluteUrl lib c.employerUrl pageUrl <;> rfl

end Completion

/-!
# The candidates of a page
-/

section Candidates

variable {lib : HtmlLibrary} {pageUrl : String}

/-- The candidates in the order they are tried. -/
def pageCandidates (dataQa : HtmlCandidate) (candidates : List HtmlCandidate) :
    List HtmlCandidate :=
  candidates.map (fun c => mergeCandidates c dataQa) ++ [dataQa]

def firstCompletion (lib : HtmlLibrary) (pageUrl : String) :
    List HtmlCandidate -> Except Exc (Option ParsedHHHtmlVacancy)
  | [] => .ok none
  | c :: rest =>
      (completeHtmlCandidate lib c pageUrl).bind fun parsed =>
        if parsed.isSome then .ok parsed else firstCompletion lib pageUrl rest

def orNoVacancyData :
    Option ParsedHHHtmlVacancy -> Except Exc ParsedHHHtmlVacancy
  | some parsed => .ok parsed
  | none =>
      .error (.hhClientError "hh.ru HTML page did not contain vacancy data")

theorem completeFirst_eq (dataQa : HtmlCandidate)
    (candidates : List HtmlCandidate) :
    completeFirst lib pageUrl dataQa candidates =
      (firstCompletion lib pageUrl (pageCandidates dataQa candidates)).bind
        orNoVacancyData := by
  induction candidates with
  | nil =>
      rw [completeFirst]
      change _ = Except.bind (Except.bind _ _) _
      rcases completeHtmlCandidate lib dataQa pageUrl with e | _ | parsed <;> rfl
  | cons c rest ih =>
      rw [completeFirst]
      change _ = Except.bind (Except.bind
        (completeHtmlCandidate lib (mergeCandidates c dataQa) pageUrl) _) _
      rcases completeHtmlCandidate lib (mergeCandidates c dataQa) pageUrl
        with e | _ | parsed
      · rfl
      · exact ih
      · rfl

end Candidates

/-!
# Every page
-/

section Pages

variable {lib : HtmlLibrary} {pageUrl : String}

def pageParser (lib : HtmlLibrary) (html : String) : HHVacancyHTMLParser :=
  HHVacancyHTMLParser.start.feedEvents lib (lib.feed html)

theorem parseHhVacancyHtml_eq (html : String) :
    parseHhVacancyHtml lib html pageUrl =
      (candidateFromDataQa lib (pageParser lib html) pageUrl).bind fun dataQa =>
        (candidatesFromJsonLd lib (pageParser lib html) pageUrl).bind
          (completeFirst lib pageUrl dataQa) :=
  rfl

end Pages

/-!
# The data of the page and JSON-LD
-/

section Merging

variable {lib : HtmlLibrary} {pageUrl : String} {dataQa : HtmlCandidate}

/-- The vacancy is made of the first candidate that is complete with the data
of the page, or of the page alone. -/
def FromFirstComplete (lib : HtmlLibrary) (pageUrl : String)
    (dataQa : HtmlCandidate) (candidates : List HtmlCandidate)
    (parsed : ParsedHHHtmlVacancy) : Prop :=
  (exists before c after, candidates = before ++ c :: after ∧
    (forall b, b ∈ before ->
      completeHtmlCandidate lib (mergeCandidates b dataQa) pageUrl =
        .ok none) ∧
    completeHtmlCandidate lib (mergeCandidates c dataQa) pageUrl =
      .ok (some parsed)) ∨
  ((forall c, c ∈ candidates ->
      completeHtmlCandidate lib (mergeCandidates c dataQa) pageUrl =
        .ok none) ∧
    completeHtmlCandidate lib dataQa pageUrl = .ok (some parsed))

theorem FromFirstComplete.cons {c : HtmlCandidate}
    {candidates : List HtmlCandidate} {parsed : ParsedHHHtmlVacancy}
    (h : FromFirstComplete lib pageUrl dataQa candidates parsed)
    (hc : completeHtmlCandidate lib (mergeCandidates c dataQa) pageUrl =
      .ok none) :
    FromFirstComplete lib pageUrl dataQa (c :: candidates) parsed := by
  rcases h with ⟨before, d, after, rfl, hbefore, hd⟩ | ⟨hall, hdataQa⟩
  · exact Or.inl ⟨c :: before, d, after, rfl,
      List.forall_mem_cons.mpr ⟨hc, hbefore⟩, hd⟩
  · exact Or.inr ⟨List.forall_mem_cons.mpr ⟨hc, hall⟩, hdataQa⟩

theorem shortNumber_of_ok {c : HtmlCandidate}
    {result : Option ParsedHHHtmlVacancy}
    (h : completeHtmlCandidate lib c pageUrl = .ok result) :
    ShortNumber lib c := by
  by_contra hshort
  rcases @completeHtmlCandidate_of_not_short lib pageUrl c hshort with
    ⟨message, herror⟩
  rw [herror] at h
  cases h

theorem complete_of_some {c : HtmlCandidate} {parsed : ParsedHHHtmlVacancy}
    (h : completeHtmlCandidate lib c pageUrl = .ok (some parsed)) :
    Complete lib c := by
  by_contra hcomplete
  rw [completeHtmlCandidate_of_not_complete (shortNumber_of_ok h) hcomplete] at h
  cases h

end Merging

/-!
# Three pages
-/

def companyPage : String :=
  "<h1 data-qa=\"vacancy-title\">Prover</h1><a data-qa=\"vacancy-company-name\" href=\"https://hh.ru/employer/456\">Acme</a>"

def companyLink (href : String) : List HtmlEvent :=
  [.startTag "a"
      [("data-qa", some "vacancy-company-name"), ("href", some href)],
    .data "Acme", .endTag "a"]

def companyEvents : List HtmlEvent :=
  [.startTag "h1" titleAttrs, .data "Prover", .endTag "h1"] ++
    companyLink "https://hh.ru/employer/456"

/-- A library that reads a page as these events, and joins absolute links. -/
def pageLibrary (events : List HtmlEvent) : HtmlLibrary :=
  { plainLibrary with
    feed := fun _ => events
    urljoin := fun base url =>
      if base ≠ "" ∧ ¬ ('[' ∈ url.toList <-> ']' ∈ url.toList) then
        .error (.valueError "Invalid IPv6 URL")
      else .ok url }

def vacancyPageUrl : String :=
  "https://hh.ru/vacancy/123"

def acmeVacancy : ParsedHHHtmlVacancy where
  title := "Prover"
  employerHhId := 456
  employerName := "Acme"
  employerUrl := some "https://hh.ru/employer/456"
  description := none
  archived := false

theorem companyPage_parsed :
    parseHhVacancyHtml (pageLibrary companyEvents) companyPage vacancyPageUrl =
      .ok acmeVacancy :=
  rfl

theorem truthy_of_ne {s : String} (h : s ≠ "") : truthy (some s) = some s := by
  unfold truthy
  split
  · rename_i heq
    exact (h (Option.some.inj heq)).elim
  · rfl

end CoverAI
