import CoverAI.Generation.Charge
import CoverAI.Vacancy.Rows

/-!
# Staleness of the vacancy cache

The history of the answers hh.ru gave is kept beside the store.  A row with a
cache time holds the answer of that time, whatever loads of other vacancies and
placeholders came in between.
-/

namespace CoverAI

open Txn Program

/-!
# Answers of hh.ru
-/

inductive HHAnswer where
  | vacancy (asked : Int) (payload : HHVacancyPayload) (t : Instant)
  | employer (asked : Int) (payload : HHEmployerPayload) (t : Instant)

def HHAnswer.instant : HHAnswer -> Instant
  | vacancy _ _ t => t
  | employer _ _ t => t

/-- The client answers what it is asked. -/
structure Clients.AnswersMatch (clients : Clients) : Prop where
  vacancy : forall hhId payload,
    clients.getVacancy hhId = .ok payload -> payload.hhId = hhId
  employer : forall hhId payload,
    clients.getEmployer hhId = .ok payload -> payload.hhId = hhId

/-- One call of the vacancy service. -/
structure VacancyLoad where
  clients : Clients
  messageText : String
  now : Instant

namespace VacancyLoad

def session (call : VacancyLoad) (env : Env) : Session VacancyResult :=
  getOrLoadVacancy env call.clients call.messageText call.now

/-- The answers to the requests a load makes. -/
def asks (call : VacancyLoad) (hhId : Int) : List HHAnswer :=
  match call.clients.getVacancy hhId with
  | .error _ => []
  | .ok payload =>
      .vacancy hhId payload call.now ::
        if isOpen payload then
          match call.clients.getEmployer payload.employerHhId with
          | .error _ => []
          | .ok employer => [.employer payload.employerHhId employer call.now]
        else []

/-- The answers the call obtains: it asks when the cache gives nothing. -/
def answers (call : VacancyLoad) (env : Env) (s : Store coverAI) :
    List HHAnswer :=
  match env.parseHhVacancyId call.messageText with
  | .error _ => []
  | .ok hhId =>
      match ((cachedResult hhId call.now).run s).1 with
      | .ok none => call.asks hhId
      | _ => []

theorem instant_of_mem_answers {call : VacancyLoad} {env : Env}
    {s : Store coverAI} {a : HHAnswer} (h : a ∈ call.answers env s) :
    a.instant = call.now := by
  unfold answers at h
  split at h
  · cases h
  · split at h
    · unfold asks at h
      split at h
      · cases h
      · rcases List.mem_cons.mp h with rfl | hrest
        · rfl
        · split at hrest
          · split at hrest
            · cases hrest
            · rw [List.mem_singleton.mp hrest]
              rfl
          · cases hrest
    · cases h

theorem answers_of_loads {call : VacancyLoad} {env : Env} {s s' : Store coverAI}
    {hhId vacancyId employerId : Int} {payload : HHVacancyPayload}
    {employerPayload : HHEmployerPayload}
    (hparse : env.parseHhVacancyId call.messageText = .ok hhId)
    (hmiss : ((cachedResult hhId call.now).run s).1 = .ok none)
    (hloads : Loads call.clients hhId call.now s payload employerPayload
      vacancyId employerId s') :
    call.answers env s =
      [.vacancy hhId payload call.now,
        .employer payload.employerHhId employerPayload call.now] := by
  simp only [answers, hparse, hmiss, asks, hloads.vacancyAnswer, hloads.opened,
    if_true, hloads.employerAnswer]

end VacancyLoad

/-!
# Runs
-/

/-- The store, and every answer obtained so far. -/
structure CacheState where
  store : Store coverAI
  log : List HHAnswer

/-- A call of the vacancy service, or the look-up of the queue service that may
create a placeholder. -/
inductive VacancyEvent where
  | load (call : VacancyLoad)
  | placeholder (hhId : Int) (vacancyUrl : String)

def CacheState.after (env : Env) (c : CacheState) : VacancyEvent -> CacheState
  | .load call => {
      store := ((call.session env).transact c.store).2
      log := c.log ++ call.answers env c.store }
  | .placeholder hhId vacancyUrl => {
      store :=
        ((getOrCreatePlaceholderVacancy hhId vacancyUrl).transact c.store).2
      log := c.log }

def runEvents (env : Env) (start : Store coverAI)
    (events : List VacancyEvent) : CacheState :=
  events.foldl (CacheState.after env) { store := start, log := [] }

def VacancyEvent.instant? : VacancyEvent -> Option Instant
  | load call => some call.now
  | placeholder _ _ => none

/-- The instants of the calls, in order. -/
def instants (events : List VacancyEvent) : List Instant :=
  events.filterMap VacancyEvent.instant?

/-!
# The invariant
-/

/-- The row holds an open answer for its hh id that was given at the instant. -/
def VacancyAnswered (log : List HHAnswer) (v : Vacancy) (t : Instant) : Prop :=
  exists payload, .vacancy v.hhId payload t ∈ log ∧ isOpen payload = true ∧
    v.title = payload.title ∧ v.url = payload.url ∧
    v.rawPayload = some payload.rawPayload

def EmployerAnswered (log : List HHAnswer) (e : Employer) (t : Instant) :
    Prop :=
  exists payload, .employer e.hhId payload t ∈ log ∧ e.name = payload.name ∧
    e.url = payload.url ∧ e.rawPayload = some payload.rawPayload

structure CacheInvariant (c : CacheState) : Prop where
  keys : FreshKeys c.store
  vacancies : forall id v t, c.store.db.vacancies.get id = some v ->
    v.cachedAt = some t -> VacancyAnswered c.log v t
  employers : forall id e t, c.store.db.employers.get id = some e ->
    e.cachedAt = some t -> EmployerAnswered c.log e t

theorem VacancyAnswered.append {log : List HHAnswer} {v : Vacancy} {t : Instant}
    (h : VacancyAnswered log v t) (more : List HHAnswer) :
    VacancyAnswered (log ++ more) v t := by
  rcases h with ⟨payload, hmem, hrest⟩
  exact ⟨payload, List.mem_append_left more hmem, hrest⟩

theorem EmployerAnswered.append {log : List HHAnswer} {e : Employer}
    {t : Instant} (h : EmployerAnswered log e t) (more : List HHAnswer) :
    EmployerAnswered (log ++ more) e t := by
  rcases h with ⟨payload, hmem, hrest⟩
  exact ⟨payload, List.mem_append_left more hmem, hrest⟩

theorem vacancyAnswered_row {log : List HHAnswer} {payload : HHVacancyPayload}
    {t : Instant} (hmem : .vacancy payload.hhId payload t ∈ log)
    (hopen : isOpen payload = true) (employerId : Int) :
    VacancyAnswered log (vacancyRow payload employerId t) t :=
  ⟨payload, hmem, hopen, rfl, rfl, rfl⟩

theorem employerAnswered_row {log : List HHAnswer} {payload : HHEmployerPayload}
    {t : Instant} (hmem : .employer payload.hhId payload t ∈ log) :
    EmployerAnswered log (employerRow payload t) t :=
  ⟨payload, hmem, rfl, rfl, rfl⟩

/-- Both rows of a load hold the answers of that load. -/
theorem answered_of_loads {call : VacancyLoad} {env : Env}
    {s s' : Store coverAI} {log : List HHAnswer}
    {hhId vacancyId employerId : Int} {payload : HHVacancyPayload}
    {employerPayload : HHEmployerPayload}
    (hmatch : call.clients.AnswersMatch)
    (hparse : env.parseHhVacancyId call.messageText = .ok hhId)
    (hmiss : ((cachedResult hhId call.now).run s).1 = .ok none)
    (hloads : Loads call.clients hhId call.now s payload employerPayload
      vacancyId employerId s') :
    VacancyAnswered (log ++ call.answers env s)
        (vacancyRow payload employerId call.now) call.now ∧
      EmployerAnswered (log ++ call.answers env s)
        (employerRow employerPayload call.now) call.now := by
  have hvacancy := hmatch.vacancy hhId payload hloads.vacancyAnswer
  have hemployer := hmatch.employer payload.employerHhId employerPayload
    hloads.employerAnswer
  rw [VacancyLoad.answers_of_loads hparse hmiss hloads]
  constructor
  · apply vacancyAnswered_row _ hloads.opened
    rw [hvacancy]
    exact List.mem_append_right log List.mem_cons_self
  · apply employerAnswered_row
    rw [hemployer]
    exact List.mem_append_right log
      (List.mem_cons_of_mem _ (List.mem_singleton.mpr rfl))

theorem CacheInvariant.load {env : Env} {c : CacheState} (h : CacheInvariant c)
    {call : VacancyLoad} (hmatch : call.clients.AnswersMatch) :
    CacheInvariant (c.after env (.load call)) := by
  have hkept : CacheInvariant
      { c with log := c.log ++ call.answers env c.store } :=
    ⟨h.keys, fun id v t hget ht => (h.vacancies id v t hget ht).append _,
      fun id e t hget ht => (h.employers id e t hget ht).append _⟩
  have hcall := exits_transact (getOrLoadVacancy_exits h.keys env call.clients
    call.messageText call.now)
  simp only [CacheState.after, VacancyLoad.session]
  rcases hcall with ⟨result, s', htransact, hends⟩ | ⟨e, s', htransact, hends⟩
  · rw [htransact]
    cases hends with
    | cached _ _ => exact hkept
    | loaded hparse hmiss hloads =>
        rcases answered_of_loads hmatch hparse hmiss hloads
          with ⟨hvacancy, hemployer⟩
        rcases hloads.put with ⟨t, hput, hput'⟩
        refine ⟨hput'.keys, ?_, ?_⟩
        · intro id v instant hget hinstant
          rcases hput'.puts.cases hget with ⟨_, rfl⟩ | ⟨_, hold⟩
          · cases hinstant
            exact hvacancy
          · rw [hput.vacancies] at hold
            exact hkept.vacancies id v instant hold hinstant
        · intro id e instant hget hinstant
          simp only [hput'.employers] at hget
          rcases hput.puts.cases hget with ⟨_, rfl⟩ | ⟨_, hold⟩
          · cases hinstant
            exact hemployer
          · exact hkept.employers id e instant hold hinstant
  · rw [htransact]
    cases hends with
    | refused _ => exact hkept

theorem CacheInvariant.placeholder {env : Env} {c : CacheState}
    (h : CacheInvariant c) (hhId : Int) (vacancyUrl : String) :
    CacheInvariant (c.after env (.placeholder hhId vacancyUrl)) := by
  have hcall := exits_transact
    (getOrCreatePlaceholderVacancy_exits h.keys hhId vacancyUrl)
  simp only [CacheState.after]
  rcases hcall with ⟨result, s', htransact, hends⟩ | ⟨e, s', htransact, hends⟩
  · rw [htransact]
    cases hends with
    | existing _ _ => exact h
    | created hput hput' =>
        refine ⟨hput'.keys, ?_, ?_⟩
        · intro id v instant hget hinstant
          rcases hput'.puts.cases hget with ⟨_, rfl⟩ | ⟨_, hold⟩
          · cases hinstant
          · rw [hput.vacancies] at hold
            exact h.vacancies id v instant hold hinstant
        · intro id e instant hget hinstant
          simp only [hput'.employers] at hget
          rcases hput.puts.cases hget with ⟨_, rfl⟩ | ⟨_, hold⟩
          · cases hinstant
          · exact h.employers id e instant hold hinstant
  · rw [htransact]
    cases hends with
    | rejected _ _ _ => exact ⟨h.keys.drawEmployer, h.vacancies, h.employers⟩

/-!
# Every run
-/

def VacancyEvent.AnswersMatch : VacancyEvent -> Prop
  | load call => call.clients.AnswersMatch
  | placeholder _ _ => True

theorem CacheInvariant.after {env : Env} {c : CacheState} {event : VacancyEvent}
    (h : CacheInvariant c) (hmatch : event.AnswersMatch) :
    CacheInvariant (c.after env event) := by
  cases event with
  | load call => exact h.load hmatch
  | placeholder hhId vacancyUrl => exact h.placeholder hhId vacancyUrl

/-- Both tables are empty. -/
structure NoVacancies (db : Db) : Prop where
  vacancies : db.vacancies = Table.empty
  employers : db.employers = Table.empty

theorem cacheInvariant_start {start : Store coverAI}
    (h : NoVacancies start.db) :
    CacheInvariant { store := start, log := [] } := by
  constructor
  · constructor
    · rw [h.employers]
      exact fun _ _ hget => nomatch hget
    · rw [h.vacancies]
      exact fun _ _ hget => nomatch hget
  · rw [h.vacancies]
    exact fun _ _ _ hget => nomatch hget
  · rw [h.employers]
    exact fun _ _ _ hget => nomatch hget

theorem cacheInvariant_run {env : Env} {start : Store coverAI}
    (hstart : NoVacancies start.db) {events : List VacancyEvent}
    (hmatch : forall event, event ∈ events -> event.AnswersMatch) :
    CacheInvariant (runEvents env start events) := by
  have hall (c : CacheState) (hc : CacheInvariant c)
      (rest : List VacancyEvent)
      (hrest : forall event, event ∈ rest -> event.AnswersMatch) :
      CacheInvariant (rest.foldl (CacheState.after env) c) := by
    induction rest generalizing c with
    | nil => exact hc
    | cons event rest ih =>
        apply ih
        · exact hc.after (hrest event List.mem_cons_self)
        · exact fun e he => hrest e (List.mem_cons_of_mem event he)
  exact hall _ (cacheInvariant_start hstart) events hmatch

theorem runEvents_append (env : Env) (start : Store coverAI)
    (events : List VacancyEvent) (event : VacancyEvent) :
    runEvents env start (events ++ [event]) =
      (runEvents env start events).after env event := by
  rw [runEvents, List.foldl_append]
  rfl

/-- Every answer was given to one of the calls. -/
theorem instant_mem_of_mem_log {env : Env} {start : Store coverAI}
    {events : List VacancyEvent} {a : HHAnswer}
    (h : a ∈ (runEvents env start events).log) :
    a.instant ∈ instants events := by
  have hall (c : CacheState) (rest : List VacancyEvent)
      (ha : a ∈ (rest.foldl (CacheState.after env) c).log) :
      a ∈ c.log ∨ a.instant ∈ instants rest := by
    induction rest generalizing c with
    | nil => exact Or.inl ha
    | cons event rest ih =>
        cases event with
        | placeholder hhId vacancyUrl =>
            exact ih (c.after env (.placeholder hhId vacancyUrl)) ha
        | load call =>
            rcases ih (c.after env (.load call)) ha with hlog | hrest
            · rcases List.mem_append.mp hlog with hold | hnew
              · exact Or.inl hold
              · right
                rw [VacancyLoad.instant_of_mem_answers hnew]
                exact List.mem_cons_self
            · exact Or.inr (List.mem_cons_of_mem _ hrest)
  rcases hall _ events h with hnil | hmem
  · cases hnil
  · exact hmem

/-- The answer is not older than the cache allows, and not from the future. -/
def InWindow (now t : Instant) : Prop :=
  now - cacheTtl ≤ t ∧ t ≤ now

theorem now_inWindow (now : Instant) : InWindow now now := by
  have httl : (0 : Int) ≤ cacheTtl := by decide
  exact ⟨Int.sub_le_self now httl, Int.le_refl now⟩

theorem exists_of_isCacheFresh {cachedAt : Option Instant} {now : Instant}
    (h : isCacheFresh cachedAt now = true) :
    exists t, cachedAt = some t ∧ now - cacheTtl ≤ t := by
  cases cachedAt with
  | none => cases h
  | some t => exact ⟨t, rfl, of_decide_eq_true h⟩

/-- What a call returns: rows of the store that hold answers of the window. -/
structure Returns (env : Env) (call : VacancyLoad) (c : CacheState)
    (result : VacancyResult) : Prop where
  parsed : env.parseHhVacancyId call.messageText = .ok result.vacancy.hhId
  vacancyRow : c.store.db.vacancies.get result.vacancyId = some result.vacancy
  vacancy : exists t, InWindow call.now t ∧
    VacancyAnswered c.log result.vacancy t
  pointsTo : result.vacancy.employerId = result.employerId
  employerRow : c.store.db.employers.get result.employerId =
    some result.employer
  employer : exists t, InWindow call.now t ∧
    EmployerAnswered c.log result.employer t

theorem Returns.append {env : Env} {call : VacancyLoad} {c : CacheState}
    {result : VacancyResult} (h : Returns env call c result)
    (more : List HHAnswer) :
    Returns env call { c with log := c.log ++ more } result := by
  rcases h.vacancy with ⟨t, ht, hvacancy⟩
  rcases h.employer with ⟨u, hu, hemployer⟩
  exact ⟨h.parsed, h.vacancyRow, ⟨t, ht, hvacancy.append more⟩, h.pointsTo,
    h.employerRow, ⟨u, hu, hemployer.append more⟩⟩

theorem returns_of_cacheHit {env : Env} {call : VacancyLoad} {c : CacheState}
    {hhId : Int} {result : VacancyResult} (h : CacheInvariant c)
    (hclock : forall a, a ∈ c.log -> a.instant ≤ call.now)
    (hparse : env.parseHhVacancyId call.messageText = .ok hhId)
    (hhit : CacheHit hhId call.now c.store.db result) :
    Returns env call c result := by
  rcases exists_of_isCacheFresh hhit.vacancyFresh with ⟨t, ht, hfresh⟩
  rcases exists_of_isCacheFresh hhit.employerFresh with ⟨u, hu, hfresh'⟩
  have hvacancy := h.vacancies _ _ t hhit.vacancy ht
  have hemployer := h.employers _ _ u hhit.employer hu
  refine ⟨?_, hhit.vacancy, ⟨t, ⟨hfresh, ?_⟩, hvacancy⟩, hhit.employerId,
    hhit.employer, ⟨u, ⟨hfresh', ?_⟩, hemployer⟩⟩
  · rw [hparse, hhit.hhId]
  · rcases hvacancy with ⟨payload, hmem, _⟩
    exact hclock _ hmem
  · rcases hemployer with ⟨payload, hmem, _⟩
    exact hclock _ hmem

theorem returns_of_loads {env : Env} {call : VacancyLoad} {c : CacheState}
    {hhId vacancyId employerId : Int} {payload : HHVacancyPayload}
    {employerPayload : HHEmployerPayload} {s' : Store coverAI}
    (hmatch : call.clients.AnswersMatch)
    (hparse : env.parseHhVacancyId call.messageText = .ok hhId)
    (hmiss : ((cachedResult hhId call.now).run c.store).1 = .ok none)
    (hloads : Loads call.clients hhId call.now c.store payload employerPayload
      vacancyId employerId s') :
    Returns env call
      { store := s', log := c.log ++ call.answers env c.store }
      (loadedResult payload employerPayload vacancyId employerId call.now) := by
  rcases answered_of_loads hmatch hparse hmiss hloads
    with ⟨hvacancy, hemployer⟩
  rcases hloads.put with ⟨t, hput, hput'⟩
  refine ⟨?_, hput'.puts.get_self, ⟨call.now, now_inWindow _, hvacancy⟩, rfl,
    ?_, ⟨call.now, now_inWindow _, hemployer⟩⟩
  · rw [hparse]
    exact congrArg _ (hmatch.vacancy hhId payload hloads.vacancyAnswer).symm
  · simp only [hput'.employers]
    exact hput.puts.get_self

/-- After any calls and placeholders from empty tables, at instants that do not
go back, a call that returns gives rows whose contents hh.ru answered within the
lifetime of the cache, and a call that raises has changed nothing. -/
theorem cache_staleness_bounded {env : Env} {start : Store coverAI}
    (hstart : NoVacancies start.db) {events : List VacancyEvent}
    {call : VacancyLoad}
    (hmatch : forall event, event ∈ events ++ [.load call] ->
      event.AnswersMatch)
    (hclock : (instants (events ++ [.load call])).Pairwise (· ≤ ·)) :
    let before := (runEvents env start events).store
    let after := runEvents env start (events ++ [.load call])
    (forall result, ((call.session env).transact before).1 = .ok result ->
      Returns env call after result) ∧
    forall e, ((call.session env).run before).1 = .error e ->
      ((call.session env).run before).2 = before := by
  intro before after
  have hinvariant : CacheInvariant (runEvents env start events) :=
    cacheInvariant_run hstart fun event hmem =>
      hmatch event (List.mem_append_left _ hmem)
  have hcall : call.clients.AnswersMatch :=
    hmatch (.load call) (List.mem_append_right _ List.mem_cons_self)
  have hexits := getOrLoadVacancy_exits hinvariant.keys env call.clients
    call.messageText call.now
  have hlog : forall a, a ∈ (runEvents env start events).log ->
      a.instant ≤ call.now := by
    intro a ha
    rw [instants, List.filterMap_append, List.pairwise_append] at hclock
    exact hclock.right.right _ (instant_mem_of_mem_log ha) _
      (List.mem_singleton.mpr rfl)
  constructor
  · intro result hresult
    have hafter : after = (runEvents env start events).after env (.load call) :=
      runEvents_append env start events (.load call)
    rw [hafter]
    rcases exits_transact hexits with ⟨result', s', htransact, hends⟩ |
      ⟨e, s', htransact, _⟩
    · have hsession : (call.session env).transact before = (.ok result', s') :=
        htransact
      rw [hsession] at hresult
      cases hresult
      rw [CacheState.after, hsession]
      cases hends with
      | cached hparse hhit =>
          have hreturns := returns_of_cacheHit hinvariant hlog hparse hhit
          exact hreturns.append _
      | loaded hparse hmiss hloads =>
          exact returns_of_loads hcall hparse hmiss hloads
    · have hsession : (call.session env).transact before =
          (.error e, s'.setDb before.db) := htransact
      rw [hsession] at hresult
      cases hresult
  · intro e he
    rcases hrun : (call.session env).run before with ⟨res, s'⟩
    have hends := exits_of_run hexits hrun
    rw [hrun] at he
    cases he
    cases hends with
    | refused _ => rfl

def sampleLoad (now : Instant) : VacancyLoad where
  clients := sampleClients
  messageText := "vacancy"
  now := now

/-- A placeholder, and the load that refreshes it. -/
def sampleEvents : List VacancyEvent :=
  [.placeholder 7 "vacancy", .load (sampleLoad 0)]

theorem sampleClients_match : sampleClients.AnswersMatch where
  vacancy := by
    intro hhId payload h
    cases h
    rfl
  employer := by
    intro hhId payload h
    cases h
    rfl

/-- A later call within the hour is answered from the cache. -/
theorem cache_staleness_bounded_cached :
    exists result, (((sampleLoad 10).session sampleEnv).transact
        (runEvents sampleEnv emptyStore sampleEvents).store).1 = .ok result ∧
      result.fromCache = true ∧
      Returns sampleEnv (sampleLoad 10)
        (runEvents sampleEnv emptyStore
          (sampleEvents ++ [.load (sampleLoad 10)])) result := by
  have hmatch : forall event, event ∈ sampleEvents ++ [.load (sampleLoad 10)] ->
      event.AnswersMatch := by
    intro event hmem
    cases event with
    | placeholder hhId vacancyUrl => trivial
    | load call =>
        simp [sampleEvents] at hmem
        rcases hmem with rfl | rfl
        · exact sampleClients_match
        · exact sampleClients_match
  have hbounded := @cache_staleness_bounded sampleEnv emptyStore ⟨rfl, rfl⟩
    sampleEvents (sampleLoad 10) hmatch (by decide)
  have hresult : exists result, (((sampleLoad 10).session sampleEnv).transact
      (runEvents sampleEnv emptyStore sampleEvents).store).1 = .ok result ∧
        result.fromCache = true := ⟨_, rfl, rfl⟩
  rcases hresult with ⟨result, hok, hcache⟩
  exact ⟨result, hok, hcache, hbounded.left result hok⟩

end CoverAI
