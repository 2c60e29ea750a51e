import CoverAI.Generation.Footprints

/-!
# Rows of the vacancy service

A call of the vacancy service that loads puts one employer row and one vacancy
row, a call that creates a placeholder puts a pair of rows without a cache
time, and every other call leaves the rows alone.
-/

namespace CoverAI

open Txn Program

/-!
# Rows as they are written
-/

def employerRow (payload : HHEmployerPayload) (cachedAt : Instant) :
    Employer where
  hhId := payload.hhId
  name := payload.name
  url := payload.url
  rawPayload := some payload.rawPayload
  cachedAt := some cachedAt

def vacancyRow (payload : HHVacancyPayload) (employerId : Int)
    (cachedAt : Instant) : Vacancy where
  hhId := payload.hhId
  employerId := employerId
  title := payload.title
  url := payload.url
  rawPayload := some payload.rawPayload
  cachedAt := some cachedAt

def placeholderEmployer (hhId : Int) : Employer where
  hhId := -hhId
  name := "Pending hh.ru employer"
  url := none
  rawPayload := none
  cachedAt := none

def placeholderVacancy (hhId employerId : Int) (vacancyUrl : String) :
    Vacancy where
  hhId := hhId
  employerId := employerId
  title := "Pending hh.ru vacancy"
  url := some vacancyUrl
  rawPayload := none
  cachedAt := none

/-- The sequences are ahead of the keys in use. -/
structure FreshKeys (s : Store coverAI) : Prop where
  employers : s.db.employers.KeysBelow (s.seq SeqName.employers)
  vacancies : s.db.vacancies.KeysBelow (s.seq SeqName.vacancies)

/-- The key of a row is new, or it is the key of a row with the same hh id; and
no other key had that hh id at the start of the table. -/
structure Keyed {row : Type} {check : row -> Bool} (hhIdOf : row -> Int)
    (T : Table row check) (id hhId : Int) : Prop where
  same : forall old, T.get id = some old -> hhIdOf old = hhId
  first : T.get id = none ->
    forall k old, T.get k = some old -> hhIdOf old ≠ hhId

section Keys

variable {row : Type} {check : row -> Bool} {hhIdOf : row -> Int}
  {T : Table row check} {id hhId : Int}

theorem keyed_of_fresh (hkey : T.get id = none)
    (hfree : T.first? (fun r => hhIdOf r = hhId) = none) :
    Keyed hhIdOf T id hhId := by
  constructor
  · intro old hold
    rw [hkey] at hold
    cases hold
  · intro _ k old hold
    have hne := Table.property_of_first?_none hfree hold
    exact of_decide_eq_false hne

theorem keyed_of_stored {old : row} (hget : T.get id = some old)
    (hsame : hhIdOf old = hhId) : Keyed hhIdOf T id hhId := by
  constructor
  · intro found hfound
    rw [hget] at hfound
    cases hfound
    exact hsame
  · intro hnone
    rw [hget] at hnone
    cases hnone

end Keys

/-- An employer row is put, and nothing else changes but its sequence. -/
structure EmployerPut (s : Store coverAI) (id : Int) (r : Employer)
    (s' : Store coverAI) : Prop where
  puts : Table.Puts s.db.employers s'.db.employers id r
  keyed : Keyed Employer.hhId s.db.employers id r.hhId
  vacancies : s'.db.vacancies = s.db.vacancies
  keys : FreshKeys s'

structure VacancyPut (s : Store coverAI) (id : Int) (r : Vacancy)
    (s' : Store coverAI) : Prop where
  puts : Table.Puts s.db.vacancies s'.db.vacancies id r
  keyed : Keyed Vacancy.hhId s.db.vacancies id r.hhId
  employers : s'.db.employers = s.db.employers
  keys : FreshKeys s'

section Repository

variable {s : Store coverAI}

theorem FreshKeys.drawEmployer (h : FreshKeys s) :
    FreshKeys (s.draw SeqName.employers) where
  employers := by
    intro id r hget
    rw [Store.draw_seq, if_pos rfl]
    exact Int.lt_add_one_of_le (Int.le_of_lt (h.employers id r hget))
  vacancies := h.vacancies

/-!
# Insertions
-/

theorem run_createEmployer {e : Employer} (hkeys : FreshKeys s)
    (hfree : s.db.employers.first? (fun r => r.hhId = e.hhId) = none) :
    exists s', (createEmployer e).run s = (.ok (s.seq SeqName.employers, e), s') ∧
      EmployerPut s (s.seq SeqName.employers) e s' := by
  have hkey := hkeys.employers.get_eq_none
  have hviolation : (insertEmployer (s.seq SeqName.employers) e).violation
      s.db = none := by
    simp only [insertEmployer, hfree, if_true]
    exact violation_insertInto.mpr ⟨hkey, rfl⟩
  refine ⟨(s.draw SeqName.employers).setDb
    ((insertEmployer (s.seq SeqName.employers) e).apply s.db), ?_, ?_⟩
  · simp only [createEmployer, draw, bind_eq, nextval_bind, ret_bind, flushUnit,
      flush_bind, run, Write.attempt_cons_of_none hviolation, Write.attempt_nil,
      pure_eq, Store.draw_db]
  · have hputs := Table.puts_insert (r := e) hkey rfl
    refine ⟨hputs, keyed_of_fresh hkey hfree, rfl, ?_, hkeys.vacancies⟩
    refine hkeys.employers.puts (Int.le_add_one (Int.le_refl _)) ?_ hputs
    exact Int.lt_add_one_of_le (Int.le_refl _)

theorem run_createVacancy {v : Vacancy} (hkeys : FreshKeys s)
    (hfree : s.db.vacancies.first? (fun r => r.hhId = v.hhId) = none) :
    exists s', (createVacancy v).run s = (.ok (s.seq SeqName.vacancies, v), s') ∧
      VacancyPut s (s.seq SeqName.vacancies) v s' := by
  have hkey := hkeys.vacancies.get_eq_none
  have hviolation : (insertVacancy (s.seq SeqName.vacancies) v).violation
      s.db = none := by
    simp only [insertVacancy, hfree, if_true]
    exact violation_insertInto.mpr ⟨hkey, rfl⟩
  refine ⟨(s.draw SeqName.vacancies).setDb
    ((insertVacancy (s.seq SeqName.vacancies) v).apply s.db), ?_, ?_⟩
  · simp only [createVacancy, draw, bind_eq, nextval_bind, ret_bind, flushUnit,
      flush_bind, run, Write.attempt_cons_of_none hviolation, Write.attempt_nil,
      pure_eq, Store.draw_db]
  · have hputs := Table.puts_insert (r := v) hkey rfl
    refine ⟨hputs, keyed_of_fresh hkey hfree, rfl, hkeys.employers, ?_⟩
    refine hkeys.vacancies.puts (Int.le_add_one (Int.le_refl _)) ?_ hputs
    exact Int.lt_add_one_of_le (Int.le_refl _)

/-- A second insertion of an hh id fails and changes no row. -/
theorem run_createEmployer_taken {e : Employer} {found : Int × Employer}
    (hfound : s.db.employers.first? (fun r => r.hhId = e.hhId) = some found) :
    (createEmployer e).run s =
      (.error Exc.integrityError, s.draw SeqName.employers) := by
  have hviolation : (insertEmployer (s.seq SeqName.employers) e).violation
      (s.draw SeqName.employers).db = some Exc.integrityError := by
    simp [insertEmployer, hfound]
  simp only [createEmployer, draw, bind_eq, nextval_bind, ret_bind, flushUnit,
    flush_bind, run, Write.attempt_cons, hviolation, raise_bind]

/-!
# Updates
-/

theorem run_updateEmployerCache {id : Int} {old : Employer}
    (hkeys : FreshKeys s) (hget : s.db.employers.get id = some old)
    (payload : HHEmployerPayload) (now : Instant)
    (hsame : old.hhId = payload.hhId) :
    exists s', (updateEmployerCache id payload.name payload.url
        (some payload.rawPayload) (some now)).run s =
        (.ok (some (employerRow payload now)), s') ∧
      EmployerPut s id (employerRow payload now) s' := by
  have hrow : employerRow payload now =
      { old with
        name := payload.name, url := payload.url
        rawPayload := some payload.rawPayload, cachedAt := some now } := by
    rw [employerRow, ← hsame]
  have hwrite : Employer.write old (employerRow payload now) old =
      employerRow payload now := by
    rw [hrow]
    simp [Employer.write]
  have hviolation : (updateEmployer id old (employerRow payload now)).violation
      s.db = none := violation_updateIn.mpr fun _ _ => rfl
  refine ⟨s.setDb ((updateEmployer id old (employerRow payload now)).apply s.db),
    ?_, ?_⟩
  · simp only [updateEmployerCache, employerById, select, ask, bind_eq,
      read_bind, ret_bind, run, hget, ← hrow, flushUnit, flush_bind,
      Write.attempt_cons_of_none hviolation, Write.attempt_nil, pure_eq]
  · have hputs := Table.puts_modify (f := Employer.write old
      (employerRow payload now)) hget rfl
    rw [hwrite] at hputs
    refine ⟨hputs, keyed_of_stored hget hsame, rfl, ?_, hkeys.vacancies⟩
    exact hkeys.employers.puts (Int.le_refl _) (hkeys.employers id old hget)
      hputs

theorem run_updateVacancyCache {id : Int} {old : Vacancy}
    (hkeys : FreshKeys s) (hget : s.db.vacancies.get id = some old)
    (payload : HHVacancyPayload) (employerId : Int) (now : Instant)
    (hsame : old.hhId = payload.hhId) :
    exists s', (updateVacancyCache id payload.title payload.url
        (some payload.rawPayload) (some now) employerId).run s =
        (.ok (some (vacancyRow payload employerId now)), s') ∧
      VacancyPut s id (vacancyRow payload employerId now) s' := by
  have hrow : vacancyRow payload employerId now =
      { old with
        employerId := employerId, title := payload.title, url := payload.url
        rawPayload := some payload.rawPayload, cachedAt := some now } := by
    rw [vacancyRow, ← hsame]
  have hwrite : Vacancy.write old (vacancyRow payload employerId now) old =
      vacancyRow payload employerId now := by
    rw [hrow]
    simp [Vacancy.write]
  have hviolation : (updateVacancy id old
      (vacancyRow payload employerId now)).violation s.db = none :=
    violation_updateIn.mpr fun _ _ => rfl
  refine ⟨s.setDb ((updateVacancy id old
    (vacancyRow payload employerId now)).apply s.db), ?_, ?_⟩
  · simp only [updateVacancyCache, select, ask, bind_eq,
      read_bind, ret_bind, run, hget, ← hrow, flushUnit, flush_bind,
      Write.attempt_cons_of_none hviolation, Write.attempt_nil, pure_eq]
  · have hputs := Table.puts_modify (f := Vacancy.write old
      (vacancyRow payload employerId now)) hget rfl
    rw [hwrite] at hputs
    refine ⟨hputs, keyed_of_stored hget hsame, rfl, hkeys.employers, ?_⟩
    exact hkeys.vacancies.puts (Int.le_refl _) (hkeys.vacancies id old hget)
      hputs

end Repository

/-!
# Upserts
-/

section Upserts

variable {s : Store coverAI}

theorem run_upsertEmployer (hkeys : FreshKeys s) (payload : HHEmployerPayload)
    (now : Instant) :
    exists id s', (upsertEmployer payload now).run s =
        (.ok (id, employerRow payload now), s') ∧
      EmployerPut s id (employerRow payload now) s' := by
  simp only [upsertEmployer, employerByHhId, select, ask, bind_eq, read_bind,
    ret_bind, run]
  cases hfound : s.db.employers.first?
      (fun r => decide (r.hhId = payload.hhId)) with
  | none =>
      rcases run_createEmployer (e := employerRow payload now) hkeys hfound with
        ⟨s', hrun, hput⟩
      exact ⟨_, s', hrun, hput⟩
  | some entry =>
      rcases entry with ⟨id, old⟩
      have hproperty := Table.property_of_first? hfound
      have hsame : old.hhId = payload.hhId := of_decide_eq_true hproperty
      rcases run_updateEmployerCache hkeys (Table.get_of_first? hfound) payload
        now hsame with ⟨s', hrun, hput⟩
      refine ⟨id, s', ?_, hput⟩
      simp only [run_bind, hrun, pure_eq, run, Option.getD_some]

theorem run_upsertVacancy (hkeys : FreshKeys s) (payload : HHVacancyPayload)
    (employerId : Int) (now : Instant) :
    exists id s', (upsertVacancy payload employerId now).run s =
        (.ok (id, vacancyRow payload employerId now), s') ∧
      VacancyPut s id (vacancyRow payload employerId now) s' := by
  simp only [upsertVacancy, vacancyByHhId, select, ask, bind_eq, read_bind,
    ret_bind, run]
  cases hfound : s.db.vacancies.first?
      (fun r => decide (r.hhId = payload.hhId)) with
  | none =>
      rcases run_createVacancy (v := vacancyRow payload employerId now) hkeys
        hfound with ⟨s', hrun, hput⟩
      exact ⟨_, s', hrun, hput⟩
  | some entry =>
      rcases entry with ⟨id, old⟩
      have hproperty := Table.property_of_first? hfound
      have hsame : old.hhId = payload.hhId := of_decide_eq_true hproperty
      rcases run_updateVacancyCache hkeys (Table.get_of_first? hfound) payload
        employerId now hsame with ⟨s', hrun, hput⟩
      refine ⟨id, s', ?_, hput⟩
      simp only [run_bind, hrun, pure_eq, run, Option.getD_some]

/-!
# Calls of the vacancy service
-/

/-- The rows of a vacancy and of its employer, both fresh. -/
structure CacheHit (hhId : Int) (now : Instant) (db : Db)
    (result : VacancyResult) : Prop where
  vacancy : db.vacancies.get result.vacancyId = some result.vacancy
  hhId : result.vacancy.hhId = hhId
  vacancyFresh : isCacheFresh result.vacancy.cachedAt now = true
  employerId : result.vacancy.employerId = result.employerId
  employer : db.employers.get result.employerId = some result.employer
  employerFresh : isCacheFresh result.employer.cachedAt now = true

theorem run_cachedResult (hhId : Int) (now : Instant) (s : Store coverAI) :
    exists found, (cachedResult hhId now).run s = (.ok found, s) ∧
      forall result, found = some result -> CacheHit hhId now s.db result := by
  simp only [cachedResult, vacancyByHhId, employerById, select, ask, bind_eq,
    read_bind, ret_bind, run]
  cases hfound : s.db.vacancies.first? (fun v => decide (v.hhId = hhId)) with
  | none => exact ⟨none, rfl, fun _ h => by cases h⟩
  | some entry =>
      rcases entry with ⟨vacancyId, vacancy⟩
      have hproperty := Table.property_of_first? hfound
      have hhhId : vacancy.hhId = hhId := of_decide_eq_true hproperty
      simp only
      split
      · rename_i hvacancy
        cases hget : s.db.employers.get vacancy.employerId with
        | none =>
            simp only [run, hget]
            exact ⟨none, rfl, fun _ h => by cases h⟩
        | some employer =>
            simp only [run, hget]
            split
            · rename_i hemployer
              refine ⟨_, rfl, ?_⟩
              intro result heq
              cases heq
              exact ⟨Table.get_of_first? hfound, hhhId, hvacancy, rfl, hget,
                hemployer⟩
            · exact ⟨none, rfl, fun _ h => by cases h⟩
      · exact ⟨none, rfl, fun _ h => by cases h⟩

/-- The answers of the client, and the rows they are put into. -/
structure Loads (clients : Clients) (hhId : Int) (now : Instant)
    (s : Store coverAI) (payload : HHVacancyPayload)
    (employerPayload : HHEmployerPayload) (vacancyId employerId : Int)
    (s' : Store coverAI) : Prop where
  vacancyAnswer : clients.getVacancy hhId = .ok payload
  opened : isOpen payload = true
  employerAnswer : clients.getEmployer payload.employerHhId =
    .ok employerPayload
  put : exists t,
    EmployerPut s employerId (employerRow employerPayload now) t ∧
      VacancyPut t vacancyId (vacancyRow payload employerId now) s'

def loadedResult (payload : HHVacancyPayload)
    (employerPayload : HHEmployerPayload) (vacancyId employerId : Int)
    (now : Instant) : VacancyResult where
  vacancyId := vacancyId
  vacancy := vacancyRow payload employerId now
  employerId := employerId
  employer := employerRow employerPayload now
  fromCache := false

/-- A call that raises changes nothing. -/
theorem run_loadVacancy (hkeys : FreshKeys s) (clients : Clients) (hhId : Int)
    (now : Instant) :
    (exists e, (loadVacancy clients hhId now).run s = (.error e, s)) ∨
      exists payload employerPayload vacancyId employerId s',
        (loadVacancy clients hhId now).run s =
          (.ok (loadedResult payload employerPayload vacancyId employerId now),
            s') ∧
        Loads clients hhId now s payload employerPayload vacancyId employerId
          s' := by
  unfold loadVacancy
  cases hvacancy : clients.getVacancy hhId with
  | error e => exact Or.inl ⟨e, rfl⟩
  | ok payload =>
      simp only [ofExcept, bind_eq, ret_bind]
      by_cases hopen : isOpen payload = false
      · rw [if_pos hopen]
        exact Or.inl ⟨_, rfl⟩
      · rw [if_neg hopen]
        cases hemployer : clients.getEmployer payload.employerHhId with
        | error e => exact Or.inl ⟨e, rfl⟩
        | ok employerPayload =>
            rcases run_upsertEmployer hkeys employerPayload now with
              ⟨employerId, t, hrun, hput⟩
            rcases run_upsertVacancy hput.keys payload employerId now with
              ⟨vacancyId, s', hrun', hput'⟩
            refine Or.inr ⟨payload, employerPayload, vacancyId, employerId, s',
              ?_, hvacancy, by simpa using hopen, hemployer, t, hput, hput'⟩
            simp only [ret_bind, run_bind, hrun, hrun', pure_eq, run]
            rfl

/-- How a call of the vacancy service ends. -/
inductive VacancyCall (env : Env) (clients : Clients) (messageText : String)
    (now : Instant) (s : Store coverAI) :
    Except Exc VacancyResult -> Store coverAI -> Prop where
  | refused (e : Exc) : VacancyCall env clients messageText now s (.error e) s
  | cached {hhId : Int} {result : VacancyResult}
      (hparse : env.parseHhVacancyId messageText = .ok hhId)
      (hhit : CacheHit hhId now s.db result) :
      VacancyCall env clients messageText now s (.ok result) s
  | loaded {hhId vacancyId employerId : Int} {payload : HHVacancyPayload}
      {employerPayload : HHEmployerPayload} {s' : Store coverAI}
      (hparse : env.parseHhVacancyId messageText = .ok hhId)
      (hmiss : ((cachedResult hhId now).run s).1 = .ok none)
      (hloads : Loads clients hhId now s payload employerPayload vacancyId
        employerId s') :
      VacancyCall env clients messageText now s
        (.ok (loadedResult payload employerPayload vacancyId employerId now)) s'

theorem getOrLoadVacancy_exits (hkeys : FreshKeys s) (env : Env)
    (clients : Clients) (messageText : String) (now : Instant) :
    (getOrLoadVacancy env clients messageText now).Exits
      (VacancyCall env clients messageText now s) s := by
  unfold getOrLoadVacancy
  cases hparse : env.parseHhVacancyId messageText with
  | error e => exact VacancyCall.refused e
  | ok hhId =>
      simp only [ofExcept, bind_eq, ret_bind]
      rcases run_cachedResult hhId now s with ⟨found, hrun, hhit⟩
      rw [exits_bind, Exits, hrun]
      cases found with
      | some result => exact VacancyCall.cached hparse (hhit result rfl)
      | none =>
          have hmiss := congrArg Prod.fst hrun
          simp only [Exits]
          rcases run_loadVacancy hkeys clients hhId now with ⟨e, hload⟩ |
            ⟨payload, employerPayload, vacancyId, employerId, s', hload, hloads⟩
          · rw [hload]
            exact VacancyCall.refused e
          · rw [hload]
            exact VacancyCall.loaded hparse hmiss hloads

/-!
# Placeholders
-/

/-- How the look-up for a queued request ends. -/
inductive PlaceholderCall (hhId : Int) (vacancyUrl : String)
    (s : Store coverAI) :
    Except Exc (Int × Vacancy) -> Store coverAI -> Prop where
  | existing {id : Int} {v : Vacancy}
      (hget : s.db.vacancies.get id = some v) (hhhId : v.hhId = hhId) :
      PlaceholderCall hhId vacancyUrl s (.ok (id, v)) s
  | rejected {id : Int} {e : Employer}
      (hnone : s.db.vacancies.first? (fun v => v.hhId = hhId) = none)
      (hget : s.db.employers.get id = some e) (hhhId : e.hhId = -hhId) :
      PlaceholderCall hhId vacancyUrl s (.error Exc.integrityError)
        (s.draw SeqName.employers)
  | created {vacancyId employerId : Int} {t s' : Store coverAI}
      (hemployer : EmployerPut s employerId (placeholderEmployer hhId) t)
      (hvacancy : VacancyPut t vacancyId
        (placeholderVacancy hhId employerId vacancyUrl) s') :
      PlaceholderCall hhId vacancyUrl s
        (.ok (vacancyId, placeholderVacancy hhId employerId vacancyUrl)) s'

theorem getOrCreatePlaceholderVacancy_exits (hkeys : FreshKeys s) (hhId : Int)
    (vacancyUrl : String) :
    (getOrCreatePlaceholderVacancy hhId vacancyUrl).Exits
      (PlaceholderCall hhId vacancyUrl s) s := by
  simp only [getOrCreatePlaceholderVacancy, vacancyByHhId, select, ask, bind_eq,
    read_bind, ret_bind, exits_read]
  cases hfound : s.db.vacancies.first? (fun v => decide (v.hhId = hhId)) with
  | some entry =>
      have hproperty := Table.property_of_first? hfound
      exact PlaceholderCall.existing (Table.get_of_first? hfound)
        (of_decide_eq_true hproperty)
  | none =>
      change Exits ((createEmployer (placeholderEmployer hhId)).bind fun entry =>
        createVacancy (placeholderVacancy hhId entry.1 vacancyUrl)) _ s
      rw [exits_bind, Exits]
      cases hemployer : s.db.employers.first?
          (fun e => decide (e.hhId = -hhId)) with
      | some entry =>
          have hproperty := Table.property_of_first? hemployer
          rw [run_createEmployer_taken (e := placeholderEmployer hhId) hemployer]
          exact PlaceholderCall.rejected hfound (Table.get_of_first? hemployer)
            (of_decide_eq_true hproperty)
      | none =>
          rcases run_createEmployer (e := placeholderEmployer hhId) hkeys
            hemployer with ⟨t, hrun, hput⟩
          have hfree : t.db.vacancies.first?
              (fun v => decide (v.hhId = hhId)) = none := by
            rw [hput.vacancies]
            exact hfound
          rcases run_createVacancy (v := placeholderVacancy hhId
            (s.seq SeqName.employers) vacancyUrl) hput.keys hfree with
            ⟨s', hrun', hput'⟩
          rw [hrun]
          simp only [Exits, hrun']
          exact PlaceholderCall.created hput hput'

end Upserts
end CoverAI
