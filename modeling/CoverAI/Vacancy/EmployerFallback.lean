import CoverAI.Clients.HhClient
import CoverAI.Vacancy.HtmlPayloads

/-!
# Employers of the HTML fallback

The client remembers a vacancy of each employer it has seen.  When the API
turns an employer away, the page of that vacancy still names it.
-/

namespace CoverAI

open Fallible

/-- `json.loads` refuses an integer of more than 4300 digits. -/
def HttpLibrary.ShortIntegers (lib : HttpLibrary) : Prop :=
  forall response payload field n, lib.json response = .ok (.dict payload) ->
    (field, PyObject.int n) ∈ payload -> digitCount n ≤ 4300

/-!
# Answers
-/

section Answers

variable {lib : HttpLibrary} {web : Web}

theorem raising_eq_ok_iff {α : Type} {x : Except Exc α} {a : α} :
    raising x = .ok a <-> x = .ok a := by
  cases x with
  | error e =>
      constructor <;> intro h <;> cases h
  | ok b =>
      constructor <;> intro h <;> cases h <;> rfl

theorem mem_of_lookupLast {α : Type} {name : String}
    {entries : List (String × α)} {a : α}
    (h : lookupLast name entries = some a) : (name, a) ∈ entries := by
  rcases Option.map_eq_some_iff.mp h with ⟨entry, hfind, rfl⟩
  have hname := List.find?_some hfind
  have hmem := List.mem_reverse.mp (List.mem_of_find?_eq_some hfind)
  rw [← of_decide_eq_true hname]
  exact hmem

theorem mem_of_getField {payload : PyDict} {field : String} {n : Int}
    (h : getField payload field = .int n) : (field, .int n) ∈ payload := by
  rw [getField] at h
  cases hvalue : lookupLast field payload with
  | none =>
      rw [hvalue] at h
      cases h
  | some value =>
      rw [hvalue] at h
      cases h
      exact mem_of_lookupLast hvalue

theorem digitCount_of_intOfDigits {digits : List Nat} {n : Int}
    (hbounded : forall d, d ∈ digits -> d < 10)
    (h : intOfDigits digits = .ok n) : digitCount n ≤ 4300 := by
  unfold intOfDigits at h
  split at h
  · cases h
  · rename_i hshort
    rw [← Except.ok.inj h]
    exact digitCount_numberOf_le (by decide) hbounded (Nat.not_lt.mp hshort)

/-- The client can print the numbers it reads. -/
theorem digitCount_of_requiredInt (hlib : lib.html.ReadsDecimals)
    {payload : PyDict} {field : String} {n : Int}
    (hints : forall m, (field, PyObject.int m) ∈ payload ->
      digitCount m ≤ 4300)
    (h : requiredInt lib.html payload field = .ok n) :
    digitCount n ≤ 4300 := by
  unfold requiredInt at h
  split at h
  · cases h
    split <;> decide
  · rename_i hfield
    cases h
    exact hints _ (mem_of_getField hfield)
  · split at h
    · apply digitCount_of_intOfDigits _ h
      intro d hd
      rcases List.mem_filterMap.mp hd with ⟨c, _, hc⟩
      exact hlib.bounded c d hc
    · cases h
  · cases h

theorem jsonObject_eq_ok {response : HttpResponse} {payload : PyDict}
    (h : HHApiVacancySource.jsonObject lib response = .ok payload) :
    lib.json response = .ok (.dict payload) := by
  unfold HHApiVacancySource.jsonObject at h
  split at h
  · cases h
  · cases h
  · rename_i hjson
    cases h
    exact hjson
  · cases h

theorem getJson_eq_ok {path : String} {payload : PyDict}
    (h : HHApiVacancySource.getJson lib web path = .ok payload) :
    exists response, lib.json response = .ok (.dict payload) := by
  unfold HHApiVacancySource.getJson at h
  split at h
  · rename_i e _
    cases e <;> cases h
  · rename_i response _
    unfold HHApiVacancySource.readResponse at h
    split at h
    · cases h
    · split at h
      · cases h
      · split at h
        · cases h
        · exact ⟨response, jsonObject_eq_ok h⟩

theorem digitCount_of_api (hlib : lib.html.ReadsDecimals)
    (hints : lib.ShortIntegers) {hhId : Int} {payload : HHVacancyPayload}
    (h : HHApiVacancySource.getVacancy lib web hhId = .ok payload) :
    digitCount payload.hhId ≤ 4300 := by
  rcases bind_eq_ok_iff.mp h with ⟨id, _, hrest⟩
  rcases bind_eq_ok_iff.mp hrest with ⟨object, hobject, hpayload⟩
  rcases getJson_eq_ok hobject with ⟨response, hjson⟩
  rw [raising_eq_ok_iff] at hpayload
  rcases bind_eq_ok_iff.mp hpayload with ⟨employer, _, hrest⟩
  rcases bind_eq_ok_iff.mp hrest with ⟨vacancyType, _, hrest⟩
  rcases bind_eq_ok_iff.mp hrest with ⟨number, hnumber, hrest⟩
  rcases bind_eq_ok_iff.mp hrest with ⟨title, _, hrest⟩
  rcases bind_eq_ok_iff.mp hrest with ⟨employerHhId, _, hrest⟩
  rcases bind_eq_ok_iff.mp hrest with ⟨employerName, _, hresult⟩
  cases hresult
  apply digitCount_of_requiredInt hlib _ hnumber
  exact fun m hm => hints response object "id" m hjson hm

end Answers

/-!
# Pages
-/

section Pages

variable {lib : HttpLibrary} {web : Web}

/-- The page of the vacancy is served, and the parser reads it. -/
def Serves (lib : HttpLibrary) (web : Web) (vacancy : Int)
    (p : ParsedHHHtmlVacancy) : Prop :=
  exists response,
    HHHtmlVacancySource.get lib web ("/vacancy/" ++ toString vacancy) =
      .ok response ∧
    parseHhVacancyHtml lib.html response.text response.url = .ok p

theorem readPage_eq_ok {vacancy : Int} {v : HHVacancyPayload}
    {e : HHEmployerPayload}
    (h : HHHtmlVacancySource.readPage lib web vacancy = .ok (v, e)) :
    digitCount vacancy ≤ 4300 ∧ v.hhId = vacancy ∧ e.hhId = v.employerHhId ∧
      exists p, Serves lib web vacancy p ∧ v.employerHhId = p.employerHhId := by
  rcases bind_eq_ok_iff.mp h with ⟨id, hid, hrest⟩
  rcases bind_eq_ok_iff.mp hrest with ⟨response, hget, hrest⟩
  rcases bind_eq_ok_iff.mp hrest with ⟨p, hparsed, hpayloads⟩
  rw [raising_eq_ok_iff] at hid hparsed hpayloads
  rcases strOfInt_eq_ok_iff.mp hid with ⟨hshort, rfl⟩
  rcases bind_eq_ok_iff.mp hpayloads with ⟨url, _, hrest⟩
  rcases bind_eq_ok_iff.mp hrest with ⟨employerId, _, hrest⟩
  rcases bind_eq_ok_iff.mp hrest with ⟨id', _, hresult⟩
  cases hresult
  exact ⟨hshort, rfl, rfl, p, ⟨response, hget, hparsed⟩, rfl⟩

theorem readPage_of_serves (hlib : lib.html.ReadsDecimals) {vacancy : Int}
    {p : ParsedHHHtmlVacancy} (hserves : Serves lib web vacancy p)
    (hshort : digitCount vacancy ≤ 4300) :
    exists payloads,
      HHHtmlVacancySource.readPage lib web vacancy = .ok payloads ∧
        payloads.2.hhId = p.employerHhId := by
  rcases hserves with ⟨response, hget, hparsed⟩
  rcases completion_of_parse hparsed with ⟨c, hcompletion⟩
  rcases employerHhId_of_completion hlib hcompletion with ⟨n, hn, hnumber⟩
  have hemployer : strOfInt p.employerHhId = .ok (toString p.employerHhId) :=
    strOfInt_eq_ok_iff.mpr ⟨hn ▸ hnumber, rfl⟩
  have hid : strOfInt vacancy = .ok (toString vacancy) :=
    strOfInt_eq_ok_iff.mpr ⟨hshort, rfl⟩
  rcases ParsedHHHtmlVacancy.vacancyUrl_returns hshort response.url with
    ⟨url, hurl⟩
  have hpayloads : p.toPayloads vacancy response.url =
      .ok (p.vacancy vacancy url, p.employer) := by
    rw [ParsedHHHtmlVacancy.toPayloads, hurl, hemployer, hid]
    rfl
  refine ⟨(p.vacancy vacancy url, p.employer), ?_, rfl⟩
  rw [HHHtmlVacancySource.readPage, hid]
  change (HHHtmlVacancySource.get lib web _).bind _ = _
  rw [hget]
  change (raising (parseHhVacancyHtml lib.html _ _)).bind _ = _
  rw [hparsed]
  change raising (p.toPayloads vacancy response.url) = _
  rw [hpayloads]
  rfl

end Pages

/-!
# What the client remembers
-/

/-- During a call, the answers name the employer of each vacancy, and the pages
of the vacancies are served. -/
structure Web.Reports (lib : HttpLibrary) (emp : Int -> Option Int)
    (web : Web) : Prop where
  api : forall hhId v, HHApiVacancySource.getVacancy lib web hhId = .ok v ->
    emp v.hhId = some v.employerHhId
  html : forall vacancy p, Serves lib web vacancy p ->
    emp vacancy = some p.employerHhId
  served : forall vacancy, (emp vacancy).isSome = true ->
    exists p, Serves lib web vacancy p

def HHHtmlVacancySource.Keyed (source : HHHtmlVacancySource) : Prop :=
  forall e employer, source.employersByHhId e = some employer ->
    employer.hhId = e

/-- The two caches fit together: a vacancy is remembered under its own
employer, and can be asked for. -/
structure HttpxHHClient.Linked (emp : Int -> Option Int)
    (client : HttpxHHClient) : Prop where
  employer : forall e vacancy,
    client.vacancyHhIdByEmployerHhId e = some vacancy -> emp vacancy = some e
  printable : forall e vacancy,
    client.vacancyHhIdByEmployerHhId e = some vacancy ->
      digitCount vacancy ≤ 4300
  keyed : client.html.Keyed

/-- The client remembers a vacancy of the employer. -/
def HttpxHHClient.Knows (client : HttpxHHClient) (e : Int) : Prop :=
  (client.vacancyHhIdByEmployerHhId e).isSome = true

section Memory

variable {lib : HttpLibrary} {emp : Int -> Option Int} {web : Web}
  {client : HttpxHHClient}

theorem keyed_start : HHHtmlVacancySource.start.Keyed := by
  intro e employer h
  cases h

theorem getEmployer_store (source : HHHtmlVacancySource)
    (employer : HHEmployerPayload) :
    (source.store employer).getEmployer employer.hhId = .ok employer := by
  have hstored : (source.store employer).employersByHhId employer.hhId =
      some employer :=
    Function.update_self _ _ _
  rw [HHHtmlVacancySource.getEmployer, hstored]
  rfl

theorem HHHtmlVacancySource.Keyed.store {source : HHHtmlVacancySource}
    (h : source.Keyed) (employer : HHEmployerPayload) :
    (source.store employer).Keyed := by
  intro e employer' hstored
  change Function.update _ _ _ e = _ at hstored
  by_cases heq : e = employer.hhId
  · rw [heq, Function.update_self] at hstored
    cases hstored
    exact heq.symm
  · rw [Function.update_of_ne heq] at hstored
    exact h e employer' hstored

theorem HHHtmlVacancySource.Keyed.getVacancy {source : HHHtmlVacancySource}
    (h : source.Keyed) (hhId : Int) :
    (source.getVacancy lib web hhId).2.Keyed := by
  unfold HHHtmlVacancySource.getVacancy
  split
  · exact h
  · exact h.store _

theorem HttpxHHClient.Linked.withHtml (h : client.Linked emp)
    {source : HHHtmlVacancySource} (hsource : source.Keyed) :
    (client.withHtml source).Linked emp where
  employer := h.employer
  printable := h.printable
  keyed := hsource

theorem vacancyHhIdByEmployerHhId_remember (v : HHVacancyPayload) :
    (client.remember v).vacancyHhIdByEmployerHhId =
      Function.update client.vacancyHhIdByEmployerHhId v.employerHhId
        (some v.hhId) :=
  rfl

theorem HttpxHHClient.Linked.remember (h : client.Linked emp)
    {v : HHVacancyPayload} (hemp : emp v.hhId = some v.employerHhId)
    (hshort : digitCount v.hhId ≤ 4300) :
    (client.remember v).Linked emp := by
  have hcases : forall e vacancy,
      (client.remember v).vacancyHhIdByEmployerHhId e = some vacancy ->
        (e = v.employerHhId ∧ vacancy = v.hhId) ∨
          client.vacancyHhIdByEmployerHhId e = some vacancy := by
    intro e vacancy hremembered
    rw [vacancyHhIdByEmployerHhId_remember] at hremembered
    by_cases heq : e = v.employerHhId
    · rw [heq, Function.update_self] at hremembered
      exact Or.inl ⟨heq, (Option.some.inj hremembered).symm⟩
    · rw [Function.update_of_ne heq] at hremembered
      exact Or.inr hremembered
  constructor
  · intro e vacancy hremembered
    rcases hcases e vacancy hremembered with ⟨rfl, rfl⟩ | hold
    · exact hemp
    · exact h.employer e vacancy hold
  · intro e vacancy hremembered
    rcases hcases e vacancy hremembered with ⟨_, rfl⟩ | hold
    · exact hshort
    · exact h.printable e vacancy hold
  · exact h.keyed

theorem knows_remember (v : HHVacancyPayload) :
    (client.remember v).Knows v.employerHhId := by
  rw [HttpxHHClient.Knows, vacancyHhIdByEmployerHhId_remember,
    Function.update_self]
  rfl

theorem HttpxHHClient.Knows.remember {e : Int} (h : client.Knows e)
    (v : HHVacancyPayload) : (client.remember v).Knows e := by
  by_cases heq : e = v.employerHhId
  · rw [heq]
    exact knows_remember v
  · rw [HttpxHHClient.Knows, vacancyHhIdByEmployerHhId_remember,
      Function.update_of_ne heq]
    exact h

end Memory

/-!
# Calls
-/

section Calls

variable {lib : HttpLibrary} {emp : Int -> Option Int} {web : Web}
  {client : HttpxHHClient}

/-- What a call keeps: the caches fit together, the setting is the same, and
the employers the client knows stay known. -/
structure HttpxHHClient.Keeps (emp : Int -> Option Int)
    (client client' : HttpxHHClient) : Prop where
  linked : client'.Linked emp
  enabled : client'.htmlFallbackEnabled = client.htmlFallbackEnabled
  knows : forall e, client.Knows e -> client'.Knows e

theorem HttpxHHClient.Linked.keeps_refl (h : client.Linked emp) :
    client.Keeps emp client :=
  ⟨h, rfl, fun _ hknows => hknows⟩

theorem HttpxHHClient.Linked.keeps_withHtml (h : client.Linked emp)
    {source : HHHtmlVacancySource} (hsource : source.Keyed) :
    client.Keeps emp (client.withHtml source) :=
  ⟨h.withHtml hsource, rfl, fun _ hknows => hknows⟩

theorem HttpxHHClient.Keeps.trans {client' client'' : HttpxHHClient}
    (h : client.Keeps emp client') (h' : client'.Keeps emp client'') :
    client.Keeps emp client'' :=
  ⟨h'.linked, h'.enabled.trans h.enabled,
    fun e hknows => h'.knows e (h.knows e hknows)⟩

/-- An answer the client may remember. -/
def Memorable (emp : Int -> Option Int) (v : HHVacancyPayload) : Prop :=
  emp v.hhId = some v.employerHhId ∧ digitCount v.hhId ≤ 4300

theorem memorable_of_page (hweb : web.Reports lib emp) {hhId : Int}
    {v : HHVacancyPayload} {e : HHEmployerPayload}
    (h : HHHtmlVacancySource.readPage lib web hhId = .ok (v, e)) :
    Memorable emp v := by
  rcases readPage_eq_ok h with ⟨hshort, rfl, _, p, hserves, hp⟩
  constructor
  · rw [hp]
    exact hweb.html _ p hserves
  · exact hshort

theorem getVacancyFromHtml_spec (hweb : web.Reports lib emp)
    (h : client.Linked emp) (hhId : Int) (message : String) :
    client.Keeps emp
        (client.getVacancyFromHtml lib web hhId message).client ∧
      forall v, (client.getVacancyFromHtml lib web hhId message).result =
        .ok v -> Memorable emp v := by
  unfold HttpxHHClient.getVacancyFromHtml
  split
  · constructor
    · exact h.keeps_withHtml (h.keyed.getVacancy hhId)
    · intro v hresult
      change (HHHtmlVacancySource.getVacancy lib web hhId client.html).1 = _
        at hresult
      unfold HHHtmlVacancySource.getVacancy at hresult
      split at hresult
      · cases hresult
      · rename_i hpage
        cases hresult
        exact memorable_of_page hweb hpage
  · constructor
    · exact h.keeps_refl
    · intro v hresult
      cases hresult

theorem fetchVacancy_spec (hlib : lib.html.ReadsDecimals)
    (hints : lib.ShortIntegers) (hweb : web.Reports lib emp)
    (h : client.Linked emp) (hhId : Int) :
    client.Keeps emp (client.fetchVacancy lib web hhId).client ∧
      forall v, (client.fetchVacancy lib web hhId).result = .ok v ->
        Memorable emp v := by
  unfold HttpxHHClient.fetchVacancy
  cases hapi : HHApiVacancySource.getVacancy lib web hhId with
  | error e =>
      cases e with
      | fallbackAllowed message =>
          exact getVacancyFromHtml_spec hweb h hhId message
      | raised e =>
          constructor
          · exact h.keeps_refl
          · intro v hresult
            cases hresult
  | ok payload =>
      constructor
      · exact h.keeps_refl
      · intro v hresult
        cases hresult
        exact ⟨hweb.api hhId _ hapi, digitCount_of_api hlib hints hapi⟩

theorem getVacancy_spec (hlib : lib.html.ReadsDecimals)
    (hints : lib.ShortIntegers) (hweb : web.Reports lib emp)
    (h : client.Linked emp) (hhId : Int) :
    client.Keeps emp (client.getVacancy lib web hhId).client ∧
      forall v, (client.getVacancy lib web hhId).result = .ok v ->
        (client.getVacancy lib web hhId).client.Knows v.employerHhId := by
  have hfetched := fetchVacancy_spec hlib hints hweb h hhId
  unfold HttpxHHClient.getVacancy
  cases hresult : (client.fetchVacancy lib web hhId).result with
  | error e =>
      simp only [hresult]
      constructor
      · exact hfetched.left
      · intro v hv
        cases hv
  | ok payload =>
      simp only [hresult]
      have hmemorable := hfetched.right payload hresult
      constructor
      · apply hfetched.left.trans
        constructor
        · exact hfetched.left.linked.remember hmemorable.left hmemorable.right
        · rfl
        · exact fun e hknows => hknows.remember payload
      · intro v hv
        cases hv
        exact knows_remember payload

theorem getEmployerFromHtml_keeps (h : client.Linked emp) (hhId : Int) :
    client.Keeps emp (client.getEmployerFromHtml lib web hhId).client := by
  unfold HttpxHHClient.getEmployerFromHtml
  split
  · exact h.keeps_withHtml h.keyed
  · rename_i vacancyHhId _
    have hkeyed := @HHHtmlVacancySource.Keyed.getVacancy lib web client.html
      h.keyed vacancyHhId
    split
    · rename_i hpage
      rw [hpage] at hkeyed
      exact h.keeps_withHtml hkeyed
    · rename_i hpage
      rw [hpage] at hkeyed
      exact h.keeps_withHtml hkeyed

theorem getEmployer_keeps (h : client.Linked emp) (hhId : Int) :
    client.Keeps emp (client.getEmployer lib web hhId).client := by
  unfold HttpxHHClient.getEmployer
  split
  · split
    · exact getEmployerFromHtml_keeps h hhId
    · exact h.keeps_refl
  · exact h.keeps_refl

theorem perform_spec (hlib : lib.html.ReadsDecimals)
    (hints : lib.ShortIntegers) (hweb : web.Reports lib emp)
    (h : client.Linked emp) (call : HhCall) :
    client.Keeps emp (HttpxHHClient.perform lib client web call).2 ∧
      forall v, (HttpxHHClient.perform lib client web call).1 =
          .vacancy (.ok v) ->
        (HttpxHHClient.perform lib client web call).2.Knows v.employerHhId := by
  cases call with
  | getVacancy hhId =>
      have hspec := getVacancy_spec hlib hints hweb h hhId
      constructor
      · exact hspec.left
      · intro v hv
        exact hspec.right v (HttpxHHClient.Answer.vacancy.inj hv)
  | getEmployer hhId =>
      constructor
      · exact getEmployer_keeps h hhId
      · intro v hv
        cases hv

end Calls

/-!
# Runs
-/

section Runs

variable {lib : HttpLibrary} {emp : Int -> Option Int} {web : Web}
  {client : HttpxHHClient}

theorem linked_start {htmlSource : Option HHHtmlVacancySource}
    (hfresh : forall source, htmlSource = some source -> source = .start)
    (htmlFallbackEnabled : Bool) :
    (HttpxHHClient.start htmlSource htmlFallbackEnabled).Linked emp where
  employer := fun _ _ h => by cases h
  printable := fun _ _ h => by cases h
  keyed := by
    change (htmlSource.getD .start).Keyed
    cases htmlSource with
    | none => exact keyed_start
    | some source =>
        rw [hfresh source rfl]
        exact keyed_start

/-- Every employer an answer of the run has named is known in the end. -/
theorem run_spec (hlib : lib.html.ReadsDecimals) (hints : lib.ShortIntegers)
    {steps : List (HhCall × Web)}
    (hsteps : forall step, step ∈ steps -> step.2.Reports lib emp)
    (h : client.Linked emp) :
    client.Keeps emp (client.run lib steps).2 ∧
      forall v, .vacancy (.ok v) ∈ (client.run lib steps).1 ->
        (client.run lib steps).2.Knows v.employerHhId := by
  induction steps generalizing client with
  | nil =>
      constructor
      · exact h.keeps_refl
      · intro v hv
        cases hv
  | cons step steps ih =>
      rw [List.forall_mem_cons] at hsteps
      have hstep := perform_spec hlib hints hsteps.left h step.1
      have hrest := ih hsteps.right hstep.left.linked
      constructor
      · exact hstep.left.trans hrest.left
      · intro v hv
        rcases List.mem_cons.mp hv with hfirst | hlater
        · exact hrest.left.knows _ (hstep.right v hfirst.symm)
        · exact hrest.right v hlater

/-- The page of the remembered vacancy names the employer. -/
theorem getEmployerFromHtml_of_knows (hlib : lib.html.ReadsDecimals)
    (hweb : web.Reports lib emp) (h : client.Linked emp) {e : Int}
    (hknows : client.Knows e) :
    exists employer,
      (client.getEmployerFromHtml lib web e).result = .ok employer ∧
        employer.hhId = e := by
  rcases Option.isSome_iff_exists.mp hknows with ⟨vacancy, hvacancy⟩
  have hemp := h.employer e vacancy hvacancy
  have hserved := hweb.served vacancy (by rw [hemp]; rfl)
  rcases hserved with ⟨p, hserves⟩
  have hp : p.employerHhId = e :=
    Option.some.inj ((hweb.html vacancy p hserves).symm.trans hemp)
  rcases readPage_of_serves hlib hserves (h.printable e vacancy hvacancy) with
    ⟨⟨v, employer⟩, hpage, hemployer⟩
  have hkey : employer.hhId = e := hemployer.trans hp
  refine ⟨employer, ?_, hkey⟩
  rw [HttpxHHClient.getEmployerFromHtml, hvacancy]
  simp only [HHHtmlVacancySource.getVacancy, hpage]
  rw [← hkey]
  exact getEmployer_store client.html employer

/-- The errors of the API that let the client ask the HTML pages. -/
def HhError.IsFallbackAllowed : HhError -> Prop
  | .fallbackAllowed _ => True
  | .raised _ => False

/-- The API's error is raised, and the HTML source is neither called nor
made. -/
def RaisesApiError (lib : HttpLibrary) (web : Web) (client : HttpxHHClient)
    (e : Int) (error : HhError) : Prop :=
  client.getEmployer lib web e =
    { result := .error error, client := client, htmlCalls := [] }

theorem getEmployer_of_fallback {e : Int} {message : String}
    (hapi : HHApiVacancySource.getEmployer lib web e =
      .error (.fallbackAllowed message)) :
    client.getEmployer lib web e =
      if client.htmlFallbackEnabled then client.getEmployerFromHtml lib web e
      else
        { result := .error (.fallbackAllowed message)
          client := client
          htmlCalls := [] } := by
  rw [HttpxHHClient.getEmployer, hapi]

theorem raisesApiError {e : Int} {error : HhError}
    (hapi : HHApiVacancySource.getEmployer lib web e = .error error)
    (h : client.htmlFallbackEnabled = false ∨ ¬ error.IsFallbackAllowed) :
    RaisesApiError lib web client e error := by
  cases error with
  | fallbackAllowed message =>
      have hdisabled : client.htmlFallbackEnabled = false :=
        h.resolve_right fun hnot => hnot trivial
      rw [RaisesApiError, getEmployer_of_fallback hapi, hdisabled]
      rfl
  | raised exc => rw [RaisesApiError, HttpxHHClient.getEmployer, hapi]

theorem getEmployer_of_not_found {e : Int} {id : String}
    (hid : strOfInt e = .ok id) {response : HttpResponse}
    (hresponse : web.api ("/employers/" ++ id) = .ok response)
    (hstatus : response.statusCode = 404) :
    HHApiVacancySource.getEmployer lib web e =
      .error (.raised (.vacancyNotFound "")) := by
  rw [HHApiVacancySource.getEmployer, hid]
  change (HHApiVacancySource.getJson lib web _).bind _ = _
  rw [HHApiVacancySource.getJson, hresponse]
  change (HHApiVacancySource.readResponse lib response).bind _ = _
  rw [HHApiVacancySource.readResponse, if_pos hstatus]
  rfl

/-- After any calls, an employer some vacancy of which the client has returned
can be had from the HTML pages, and only if the fallback is on and the API's
error allows it. -/
theorem employer_fallback_consistent (hlib : lib.html.ReadsDecimals)
    (hints : lib.ShortIntegers) {htmlSource : Option HHHtmlVacancySource}
    (hfresh : forall source, htmlSource = some source -> source = .start)
    (enabled : Bool) {steps : List (HhCall × Web)}
    (hsteps : forall step, step ∈ steps -> step.2.Reports lib emp)
    (hweb : web.Reports lib emp) (e : Int) :
    let history := (HttpxHHClient.start htmlSource enabled).run lib steps
    ((exists v, .vacancy (.ok v) ∈ history.1 ∧ v.employerHhId = e) ->
      enabled = true -> forall message,
        HHApiVacancySource.getEmployer lib web e =
          .error (.fallbackAllowed message) ->
        exists employer,
          (history.2.getEmployer lib web e).result = .ok employer ∧
            employer.hhId = e) ∧
    (forall error, HHApiVacancySource.getEmployer lib web e = .error error ->
      enabled = false ∨ ¬ error.IsFallbackAllowed ->
        RaisesApiError lib web history.2 e error) ∧
    (forall id response, strOfInt e = .ok id ->
      web.api ("/employers/" ++ id) = .ok response ->
      response.statusCode = 404 ->
        RaisesApiError lib web history.2 e
          (.raised (.vacancyNotFound ""))) := by
  intro history
  have hrun := run_spec hlib hints hsteps (linked_start hfresh enabled)
  have henabled : history.2.htmlFallbackEnabled = enabled := hrun.left.enabled
  constructor
  · intro hseen htrue message hapi
    rcases hseen with ⟨v, hv, rfl⟩
    rw [getEmployer_of_fallback hapi, henabled, htrue]
    exact getEmployerFromHtml_of_knows hlib hweb hrun.left.linked
      (hrun.right v hv)
  · constructor
    · intro error hapi herror
      apply raisesApiError hapi
      rw [henabled]
      exact herror
    · intro id response hid hresponse hstatus
      exact raisesApiError (getEmployer_of_not_found hid hresponse hstatus)
        (Or.inr fun hallowed => hallowed)

end Runs

/-!
# A busy API
-/

def siteLibrary : HttpLibrary where
  html := pageLibrary companyEvents
  statusError := fun response =>
    if 200 ≤ response.statusCode ∧ response.statusCode ≤ 299 then none
    else some "HTTP status error"
  json := fun _ => .error (.valueError "Expecting value")

def companyResponse : HttpResponse where
  statusCode := 200
  text := companyPage
  url := vacancyPageUrl

/-- The API is overloaded, and one page is served. -/
def busyWeb : Web where
  api := fun _ => .ok { statusCode := 503, text := "", url := "" }
  html := fun path =>
    if path = "/vacancy/123" then .ok companyResponse
    else .ok { statusCode := 404, text := "", url := "" }

def busyEmployer (vacancy : Int) : Option Int :=
  if vacancy = 123 then some 456 else none

theorem siteLibrary_shortIntegers : siteLibrary.ShortIntegers := by
  intro response payload field n hjson
  cases hjson

theorem get_busyWeb (path : String) :
    HHHtmlVacancySource.get siteLibrary busyWeb path =
      if path = "/vacancy/123" then .ok companyResponse
      else vacancyNotFoundError := by
  unfold HHHtmlVacancySource.get busyWeb
  by_cases hpath : path = "/vacancy/123"
  · simp only [hpath, if_true]
    rfl
  · simp only [hpath, if_false]
    rfl

theorem vacancyPath_eq_iff {vacancy : Int} :
    "/vacancy/" ++ toString vacancy = "/vacancy/123" <-> vacancy = 123 := by
  have h123 : "/vacancy/" ++ toString (123 : Int) = "/vacancy/123" := by
    decide
  constructor
  · intro hsame
    rw [← h123, String.append_right_inj] at hsame
    exact Decimal.toString_injective hsame
  · intro heq
    rw [heq, h123]

theorem serves_busyWeb_iff {vacancy : Int} {p : ParsedHHHtmlVacancy} :
    Serves siteLibrary busyWeb vacancy p <->
      vacancy = 123 ∧ p = acmeVacancy := by
  simp only [Serves, get_busyWeb, vacancyPath_eq_iff]
  constructor
  · intro hserves
    rcases hserves with ⟨response, hget, hparsed⟩
    split at hget
    · rename_i heq
      cases hget
      exact ⟨heq, (Except.ok.inj (companyPage_parsed.symm.trans hparsed)).symm⟩
    · cases hget
  · intro h
    rcases h with ⟨rfl, rfl⟩
    exact ⟨companyResponse, rfl, companyPage_parsed⟩

theorem busyWeb_reports : busyWeb.Reports siteLibrary busyEmployer where
  api := by
    intro hhId v h
    rcases bind_eq_ok_iff.mp h with ⟨id, _, hrest⟩
    cases hrest
  html := by
    intro vacancy p hserves
    rcases serves_busyWeb_iff.mp hserves with ⟨rfl, rfl⟩
    rfl
  served := by
    intro vacancy hvacancy
    rw [busyEmployer] at hvacancy
    split at hvacancy
    · rename_i heq
      exact ⟨acmeVacancy, serves_busyWeb_iff.mpr ⟨heq, rfl⟩⟩
    · cases hvacancy

theorem employer_fallback_consistent_company :
    exists employer,
      (((HttpxHHClient.start none true).run siteLibrary
        [(.getVacancy 123, busyWeb)]).2.getEmployer siteLibrary busyWeb
          456).result = .ok employer ∧ employer.hhId = 456 := by
  have hconsistent := @employer_fallback_consistent siteLibrary busyEmployer
    busyWeb (pageLibrary_readsDecimals companyEvents) siteLibrary_shortIntegers
    none (fun _ h => by cases h) true [(.getVacancy 123, busyWeb)]
    (List.forall_mem_singleton.mpr busyWeb_reports) busyWeb_reports 456
  exact hconsistent.left ⟨acmeVacancy.vacancy 123 vacancyPageUrl,
    List.mem_singleton.mpr rfl, rfl⟩ rfl _ rfl

end CoverAI
