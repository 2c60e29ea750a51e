import CoverAI.Clients.HhPayloads
import CoverAI.Text.Decimal
import CoverAI.Vacancy.HtmlFallback
import Mathlib.Data.Nat.Digits.Defs

/-!
# One format of payloads

The objects the client makes of an HTML page are read like the answers of the
API.  The parser leaves no name and no link empty and no number too long, so
nothing gets lost.
-/

namespace CoverAI

open Decimal

/-- The decimal digits of the library, and those of ASCII among them. -/
structure HtmlLibrary.ReadsDecimals (lib : HtmlLibrary) : Prop where
  bounded : forall c d, lib.digitValue c = some d -> d < 10
  ascii : forall c, c.isDigit = true ->
    lib.digitValue c = some (c.toNat - '0'.toNat)

/-- A link to an employer is not empty after it is joined. -/
def HtmlLibrary.KeepsLinks (lib : HtmlLibrary) : Prop :=
  forall base url joined, (searchEmployer lib url.toList).isSome = true ->
    lib.urljoin base url = .ok joined -> joined ≠ ""

/-!
# Numbers
-/

section Numbers

variable {lib : HtmlLibrary}

theorem matchEmployer_bounded (hlib : lib.ReadsDecimals) {text : List Char}
    {digits : List Nat} (h : matchEmployer lib text = some digits) :
    forall d, d ∈ digits -> d < 10 := by
  unfold matchEmployer at h
  split at h
  · simp only [Option.ite_none_left_eq_some, Option.some.injEq] at h
    intro d hd
    rw [← h.right, List.mem_filterMap] at hd
    rcases hd with ⟨c, _, hc⟩
    exact hlib.bounded c d hc
  · cases h

theorem searchEmployer_bounded (hlib : lib.ReadsDecimals) {text : List Char}
    {digits : List Nat} (h : searchEmployer lib text = some digits) :
    forall d, d ∈ digits -> d < 10 := by
  induction text with
  | nil => cases h
  | cons c text ih =>
      rw [searchEmployer, Option.or_eq_some_iff] at h
      rcases h with hhead | hrest
      · exact matchEmployer_bounded hlib hhead
      · exact ih hrest.right

theorem numberOf_lt {digits : List Nat}
    (h : forall d, d ∈ digits -> d < 10) :
    numberOf digits < 10 ^ digits.length := by
  have hreverse : numberOf digits = Nat.ofDigits 10 digits.reverse := by
    rw [numberOf, Nat.ofDigits_eq_foldr, List.foldr_reverse]
    congr
    funext n d
    exact Nat.add_comm _ _
  rw [hreverse, ← List.length_reverse]
  apply Nat.ofDigits_lt_base_pow_length (by decide)
  intro d hd
  exact h d (List.mem_reverse.mp hd)

theorem digitCount_natCast_le {n k : Nat} (hk : 0 < k) (h : n < 10 ^ k) :
    digitCount n ≤ k := by
  rw [digitCount, Int.natAbs_natCast]
  exact (Nat.length_toDigits_le_iff (by decide) hk).mpr h

theorem digitCount_numberOf_le {digits : List Nat} {k : Nat} (hk : 0 < k)
    (hbounded : forall d, d ∈ digits -> d < 10) (hlength : digits.length ≤ k) :
    digitCount (numberOf digits) ≤ k := by
  apply digitCount_natCast_le hk
  exact (numberOf_lt hbounded).trans_le
    (Nat.pow_le_pow_right (by decide) hlength)

theorem strOfInt_eq_ok_iff {n : Int} {s : String} :
    strOfInt n = .ok s <-> digitCount n ≤ 4300 ∧ s = toString n := by
  unfold strOfInt
  by_cases hlong : 4300 < digitCount n
  · rw [if_pos hlong]
    constructor
    · intro h
      cases h
    · intro h
      exact absurd h.left (Nat.not_le.mpr hlong)
  · rw [if_neg hlong]
    constructor
    · intro h
      cases h
      exact ⟨Nat.not_lt.mp hlong, rfl⟩
    · intro h
      rw [h.right]

theorem toString_ne_empty (n : Nat) : toString (n : Int) ≠ "" := by
  intro hempty
  have htext := congrArg String.toList hempty
  rw [toList_toString_natCast] at htext
  exact Nat.toDigits_ne_nil htext

theorem filterMap_digitValue (hlib : lib.ReadsDecimals) {text : List Char}
    (h : forall c, c ∈ text -> c.isDigit = true) :
    text.filterMap lib.digitValue =
      text.map fun c => c.toNat - '0'.toNat := by
  induction text with
  | nil => rfl
  | cons c text ih =>
      rw [List.forall_mem_cons] at h
      rw [List.filterMap_cons_some (hlib.ascii c h.left), List.map_cons,
        ih h.right]

theorem numberOf_map_toDigits (n : Nat) :
    numberOf ((Nat.toDigits 10 n).map fun c => c.toNat - '0'.toNat) = n := by
  rw [numberOf, List.foldl_map]
  exact Nat.ofDigitChars_ten_toDigits

theorem isDecimal_toString (hlib : lib.ReadsDecimals) (n : Nat) :
    isDecimal lib (toString (n : Int)) = true := by
  rw [isDecimal, Bool.and_eq_true, List.all_eq_true]
  constructor
  · exact decide_eq_true (toString_ne_empty n)
  · intro c hc
    rw [toList_toString_natCast] at hc
    rw [hlib.ascii c (isDigit_of_mem hc)]
    rfl

theorem intOfDigits_toString (hlib : lib.ReadsDecimals) {n : Nat}
    (h : digitCount n ≤ 4300) :
    intOfDigits ((toString (n : Int)).toList.filterMap lib.digitValue) =
      .ok (n : Int) := by
  rw [toList_toString_natCast,
    filterMap_digitValue hlib fun c hc => isDigit_of_mem hc]
  have hlength : ¬ 4300 < ((Nat.toDigits 10 n).map
      fun c => c.toNat - '0'.toNat).length := by
    rw [List.length_map, Nat.not_lt]
    exact h
  rw [intOfDigits, if_neg hlength]
  exact congrArg (fun m : Nat => Except.ok (m : Int)) (numberOf_map_toDigits n)

end Numbers

/-!
# Vacancies of the parser
-/

section Parsing

variable {lib : HtmlLibrary} {pageUrl : String}

/-- The vacancy leaves its reader nothing to refuse. -/
structure ParsedHHHtmlVacancy.Storable (p : ParsedHHHtmlVacancy) : Prop where
  title : p.title ≠ ""
  employerName : p.employerName ≠ ""
  employerHhId : exists n : Nat, p.employerHhId = n ∧ digitCount n ≤ 4300
  employerUrl : exists url, p.employerUrl = some url ∧ url ≠ ""


theorem absoluteUrl_of_truthy {value : Option String} {url : String}
    (h : truthy value = some url) :
    absoluteUrl lib value pageUrl = (lib.urljoin pageUrl url).map some := by
  rw [absoluteUrl, h]
  change (lib.urljoin pageUrl url).bind (fun joined => .ok (some joined)) = _
  cases lib.urljoin pageUrl url <;> rfl

theorem completion_of_map {c : HtmlCandidate} {id : Int}
    {link : Except Exc (Option String)} {p : ParsedHHHtmlVacancy}
    (h : (link.map fun url => some (completion lib c id url)) =
      .ok (some p)) :
    exists url, link = .ok url ∧ p = completion lib c id url := by
  cases link with
  | error e => cases h
  | ok url => exact ⟨url, rfl, (Option.some.inj (Except.ok.inj h)).symm⟩

theorem employerHhId_of_completion (hlib : lib.ReadsDecimals)
    {c : HtmlCandidate} {p : ParsedHHHtmlVacancy}
    (h : completeHtmlCandidate lib c pageUrl = .ok (some p)) :
    exists n : Nat, p.employerHhId = n ∧ digitCount n ≤ 4300 := by
  have hshort := shortNumber_of_ok h
  have hcomplete := complete_of_some h
  rcases Option.isSome_iff_exists.mp hcomplete.employer with ⟨digits, hdigits⟩
  rcases Option.bind_eq_some_iff.mp hdigits with ⟨url, _, hsearch⟩
  rcases @completeHtmlCandidate_of_complete lib pageUrl c hshort hcomplete with
    ⟨id, hid, hresult⟩
  rw [employerIdFromUrl_of_short hshort, hdigits, Option.map_some] at hid
  rcases completion_of_map (hresult.symm.trans h) with ⟨joined, _, rfl⟩
  have hnumber := Option.some.inj (Except.ok.inj hid)
  exact ⟨numberOf digits, hnumber.symm, digitCount_numberOf_le (by decide)
    (searchEmployer_bounded hlib hsearch) (hshort digits hdigits)⟩

theorem storable_of_completion (hlib : lib.ReadsDecimals)
    (hlinks : lib.KeepsLinks) {c : HtmlCandidate} {p : ParsedHHHtmlVacancy}
    (h : completeHtmlCandidate lib c pageUrl = .ok (some p)) : p.Storable := by
  have hcomplete := complete_of_some h
  have hemployer := employerHhId_of_completion hlib h
  rcases Option.isSome_iff_exists.mp hcomplete.employer with ⟨digits, hdigits⟩
  rcases Option.bind_eq_some_iff.mp hdigits with ⟨url, hurl, hsearch⟩
  rcases @completeHtmlCandidate_of_complete lib pageUrl c (shortNumber_of_ok h)
    hcomplete with ⟨id, _, hresult⟩
  rcases completion_of_map (hresult.symm.trans h) with ⟨link, hlink, rfl⟩
  rw [absoluteUrl_of_truthy hurl] at hlink
  cases hjoined : lib.urljoin pageUrl url with
  | error e =>
      rw [hjoined] at hlink
      cases hlink
  | ok joined =>
      rw [hjoined] at hlink
      cases hlink
      constructor
      · exact hcomplete.title
      · exact hcomplete.employerName
      · exact hemployer
      · refine ⟨joined, rfl, ?_⟩
        apply hlinks pageUrl url joined _ hjoined
        rw [hsearch]
        rfl

theorem completion_of_firstCompletion {candidates : List HtmlCandidate}
    {p : ParsedHHHtmlVacancy}
    (h : firstCompletion lib pageUrl candidates = .ok (some p)) :
    exists c, completeHtmlCandidate lib c pageUrl = .ok (some p) := by
  induction candidates with
  | nil => cases h
  | cons c candidates ih =>
      rcases Fallible.bind_eq_ok_iff.mp h with ⟨result, hresult, hrest⟩
      cases result with
      | none => exact ih hrest
      | some parsed =>
          cases hrest
          exact ⟨c, hresult⟩

theorem completion_of_parse {html : String} {p : ParsedHHHtmlVacancy}
    (h : parseHhVacancyHtml lib html pageUrl = .ok p) :
    exists c, completeHtmlCandidate lib c pageUrl = .ok (some p) := by
  rw [parseHhVacancyHtml_eq] at h
  rcases Fallible.bind_eq_ok_iff.mp h with ⟨dataQa, _, hrest⟩
  rcases Fallible.bind_eq_ok_iff.mp hrest with ⟨candidates, _, hfirst⟩
  rw [completeFirst_eq] at hfirst
  rcases Fallible.bind_eq_ok_iff.mp hfirst with ⟨found, hfound, hparsed⟩
  cases found with
  | none => cases hparsed
  | some parsed =>
      cases hparsed
      exact completion_of_firstCompletion hfound

theorem storable_of_parse (hlib : lib.ReadsDecimals) (hlinks : lib.KeepsLinks)
    {html : String} {p : ParsedHHHtmlVacancy}
    (h : parseHhVacancyHtml lib html pageUrl = .ok p) : p.Storable := by
  rcases completion_of_parse h with ⟨c, hcompletion⟩
  exact storable_of_completion hlib hlinks hcompletion

end Parsing

/-!
# Reading the objects back
-/

section Decoding

variable {lib : HtmlLibrary} {payload : PyDict} {field : String}

theorem requiredInt_of_str (hlib : lib.ReadsDecimals) {n : Nat}
    (hfield : getField payload field = .str (toString (n : Int)))
    (hshort : digitCount n ≤ 4300) :
    requiredInt lib payload field = .ok (n : Int) := by
  rw [requiredInt, hfield]
  simp only [isDecimal_toString hlib n, if_true]
  exact intOfDigits_toString hlib hshort

theorem requiredStr_of_str {value : String}
    (hfield : getField payload field = .str value) (hvalue : value ≠ "") :
    requiredStr payload field = .ok value := by
  rw [requiredStr, hfield]
  exact if_pos hvalue

theorem optionalStr_of_str {value : String}
    (hfield : getField payload field = .str value) (hvalue : value ≠ "") :
    optionalStr payload field = some value := by
  rw [optionalStr, hfield]
  exact truthy_of_ne hvalue

end Decoding

section Sharing

variable {lib : HtmlLibrary} {p : ParsedHHHtmlVacancy} {pageUrl : String}

namespace ParsedHHHtmlVacancy

def employerObject (p : ParsedHHHtmlVacancy) : PyDict :=
  p.employerPayload (toString p.employerHhId)

def employer (p : ParsedHHHtmlVacancy) : HHEmployerPayload where
  hhId := p.employerHhId
  name := p.employerName
  url := p.employerUrl
  rawPayload := p.employerObject

def vacancyObject (p : ParsedHHHtmlVacancy) (hhId : Int) (url : String) :
    PyDict :=
  p.vacancyPayload (toString hhId) url (toString p.employerHhId)

def vacancy (p : ParsedHHHtmlVacancy) (hhId : Int) (url : String) :
    HHVacancyPayload where
  hhId := hhId
  title := p.title
  employerHhId := p.employerHhId
  employerName := p.employerName
  url := some url
  archived := .bool p.archived
  typeId := some p.typeId
  rawPayload := p.vacancyObject hhId url

theorem typeId_ne_empty (p : ParsedHHHtmlVacancy) : p.typeId ≠ "" := by
  unfold typeId
  split <;> decide

theorem Storable.requiredInt_employerObject (hp : p.Storable)
    (hlib : lib.ReadsDecimals) :
    requiredInt lib p.employerObject "id" = .ok p.employerHhId := by
  rcases hp.employerHhId with ⟨n, hn, hshort⟩
  rw [hn]
  apply requiredInt_of_str hlib _ hshort
  rw [← hn]
  rfl

theorem Storable.requiredStr_employerObject (hp : p.Storable) :
    requiredStr p.employerObject "name" = .ok p.employerName :=
  requiredStr_of_str rfl hp.employerName

theorem Storable.optionalStr_employerObject (hp : p.Storable) :
    (optionalStr p.employerObject "alternate_url").or
      (optionalStr p.employerObject "site_url") = p.employerUrl := by
  rcases hp.employerUrl with ⟨url, hurl, hne⟩
  have hfield : getField p.employerObject "alternate_url" = .str url := by
    change orNone p.employerUrl = _
    rw [hurl]
    rfl
  rw [optionalStr_of_str hfield hne, Option.some_or, hurl]

theorem Storable.decodes_employer (hp : p.Storable)
    (hlib : lib.ReadsDecimals) :
    employerPayloadFromJson lib p.employerObject = .ok p.employer := by
  rw [employerPayloadFromJson, hp.requiredInt_employerObject hlib,
    hp.requiredStr_employerObject, hp.optionalStr_employerObject]
  rfl

theorem Storable.decodes_vacancy (hp : p.Storable) (hlib : lib.ReadsDecimals)
    {n : Nat} (hn : digitCount n ≤ 4300) {url : String} (hurl : url ≠ "") :
    vacancyPayloadFromJson lib (p.vacancyObject n url) =
      .ok (p.vacancy n url) := by
  have hid : requiredInt lib (p.vacancyObject n url) "id" = .ok (n : Int) :=
    requiredInt_of_str hlib rfl hn
  have htitle : requiredStr (p.vacancyObject n url) "name" = .ok p.title :=
    requiredStr_of_str rfl hp.title
  have hlink : optionalStr (p.vacancyObject n url) "alternate_url" =
      some url :=
    optionalStr_of_str rfl hurl
  have htype : optionalStr [("id", .str p.typeId)] "id" = some p.typeId :=
    optionalStr_of_str rfl p.typeId_ne_empty
  rw [vacancyPayloadFromJson]
  change (requiredInt lib _ "id").bind _ = _
  rw [hid]
  change (requiredStr _ "name").bind _ = _
  rw [htitle]
  change (requiredInt lib p.employerObject "id").bind _ = _
  rw [hp.requiredInt_employerObject hlib]
  change (requiredStr p.employerObject "name").bind _ = _
  rw [hp.requiredStr_employerObject]
  simp only [Except.bind, Option.bind_some, hlink, htype, Option.some_or]
  rfl

theorem vacancyUrl_eq (hhId : Int) (pageUrl : String) :
    vacancyUrl hhId pageUrl =
      if pageUrl = "" then
        (strOfInt hhId).map fun id => hhHtmlBaseUrl ++ "/vacancy/" ++ id
      else .ok pageUrl := by
  unfold vacancyUrl
  cases strOfInt hhId <;> rfl

theorem vacancyUrl_ne_empty {hhId : Int} {url : String}
    (h : vacancyUrl hhId pageUrl = .ok url) : url ≠ "" := by
  rw [vacancyUrl_eq] at h
  split at h
  · cases hid : strOfInt hhId with
    | error e =>
        rw [hid] at h
        cases h
    | ok id =>
        rw [hid] at h
        cases h
        intro hempty
        have htext := congrArg String.toList hempty
        rw [String.toList_append, String.toList_append] at htext
        cases htext
  · rename_i hpage
    cases h
    exact hpage

theorem Storable.digitCount_le (hp : p.Storable) :
    digitCount p.employerHhId ≤ 4300 := by
  rcases hp.employerHhId with ⟨n, hn, hshort⟩
  rw [hn]
  exact hshort

theorem vacancyUrl_returns {hhId : Int} (h : digitCount hhId ≤ 4300)
    (pageUrl : String) : exists url, vacancyUrl hhId pageUrl = .ok url := by
  rw [vacancyUrl_eq]
  split
  · rw [strOfInt_eq_ok_iff.mpr ⟨h, rfl⟩]
    exact ⟨_, rfl⟩
  · exact ⟨pageUrl, rfl⟩

/-- The fallback refuses no vacancy but those whose number is too long. -/
theorem Storable.toPayloads_eq_ok_iff (hp : p.Storable) {hhId : Int}
    {payloads : HHVacancyPayload × HHEmployerPayload} :
    p.toPayloads hhId pageUrl = .ok payloads <->
      digitCount hhId ≤ 4300 ∧
        exists url, vacancyUrl hhId pageUrl = .ok url ∧
          payloads = (p.vacancy hhId url, p.employer) := by
  change (vacancyUrl hhId pageUrl).bind (fun url =>
    (strOfInt p.employerHhId).bind fun employerId =>
      (strOfInt hhId).bind fun id => _) = _ <-> _
  rw [Fallible.bind_eq_ok_iff]
  constructor
  · intro h
    rcases h with ⟨url, hurl, hrest⟩
    rcases Fallible.bind_eq_ok_iff.mp hrest with ⟨employerId, hemployer, hrest⟩
    rcases Fallible.bind_eq_ok_iff.mp hrest with ⟨id, hid, hresult⟩
    rcases strOfInt_eq_ok_iff.mp hid with ⟨hshort, rfl⟩
    rcases strOfInt_eq_ok_iff.mp hemployer with ⟨_, rfl⟩
    cases hresult
    exact ⟨hshort, url, hurl, rfl⟩
  · intro h
    rcases h with ⟨hshort, url, hurl, rfl⟩
    refine ⟨url, hurl, ?_⟩
    rw [strOfInt_eq_ok_iff.mpr ⟨hp.digitCount_le, rfl⟩,
      strOfInt_eq_ok_iff.mpr ⟨hshort, rfl⟩]
    rfl

end ParsedHHHtmlVacancy

/-- What the fallback makes of a page is what a reader of the API's answers
makes of the stored objects. -/
theorem html_payloads_decode (hlib : lib.ReadsDecimals)
    (hlinks : lib.KeepsLinks) {html sourceUrl : String}
    {p : ParsedHHHtmlVacancy}
    (hparsed : parseHhVacancyHtml lib html sourceUrl = .ok p) {hhId : Int}
    (hnonneg : 0 ≤ hhId) (pageUrl : String) :
    ((exists payloads, p.toPayloads hhId pageUrl = .ok payloads) <->
      digitCount hhId ≤ 4300) ∧
    forall v e, p.toPayloads hhId pageUrl = .ok (v, e) ->
      vacancyPayloadFromJson lib v.rawPayload = .ok v ∧
      employerPayloadFromJson lib e.rawPayload = .ok e ∧
      exists employer, requiredDict v.rawPayload "employer" = .ok employer ∧
        employerPayloadFromJson lib employer = .ok e := by
  have hp := storable_of_parse hlib hlinks hparsed
  constructor
  · constructor
    · intro h
      rcases h with ⟨payloads, hpayloads⟩
      exact (hp.toPayloads_eq_ok_iff.mp hpayloads).left
    · intro hshort
      rcases ParsedHHHtmlVacancy.vacancyUrl_returns hshort pageUrl with
        ⟨url, hurl⟩
      exact ⟨_, hp.toPayloads_eq_ok_iff.mpr ⟨hshort, url, hurl, rfl⟩⟩
  · intro v e hpayloads
    rcases hp.toPayloads_eq_ok_iff.mp hpayloads with ⟨hshort, url, hurl, heq⟩
    rcases Int.eq_ofNat_of_zero_le hnonneg with ⟨n, rfl⟩
    cases heq
    have hemployer := hp.decodes_employer hlib
    constructor
    · exact hp.decodes_vacancy hlib hshort
        (ParsedHHHtmlVacancy.vacancyUrl_ne_empty hurl)
    · exact ⟨hemployer, p.employerObject, rfl, hemployer⟩

end Sharing

/-!
# A page
-/

theorem pageLibrary_readsDecimals (events : List HtmlEvent) :
    (pageLibrary events).ReadsDecimals where
  bounded := by
    intro c d h
    change (if _ then _ else _) = _ at h
    split at h
    · rename_i hdigit
      have hle := (Char.isDigit_iff_toNat.mp hdigit).right
      have hnine : '9'.toNat = '0'.toNat + 9 := rfl
      cases h
      omega
    · cases h
  ascii := fun c h => if_pos h

theorem pageLibrary_keepsLinks (events : List HtmlEvent) :
    (pageLibrary events).KeepsLinks := by
  intro base url joined hsearch hjoined hempty
  change (if _ then _ else _) = _ at hjoined
  split at hjoined
  · cases hjoined
  · cases hjoined
    rw [hempty] at hsearch
    cases hsearch

theorem html_payloads_decode_company :
    exists v e,
      acmeVacancy.toPayloads 123 vacancyPageUrl = .ok (v, e) ∧
      vacancyPayloadFromJson (pageLibrary companyEvents) v.rawPayload = .ok v ∧
      employerPayloadFromJson (pageLibrary companyEvents) e.rawPayload =
        .ok e := by
  have hdecode := html_payloads_decode
    (pageLibrary_readsDecimals companyEvents)
    (pageLibrary_keepsLinks companyEvents) companyPage_parsed
    (by decide : (0 : Int) ≤ 123) vacancyPageUrl
  rcases hdecode.left.mpr (by decide) with ⟨⟨v, e⟩, hpayloads⟩
  rcases hdecode.right v e hpayloads with ⟨hvacancy, hemployer, _⟩
  exact ⟨v, e, hpayloads, hvacancy, hemployer⟩

end CoverAI
