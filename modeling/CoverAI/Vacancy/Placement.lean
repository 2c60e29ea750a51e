import CoverAI.Txn.Acceptance
import CoverAI.Vacancy.Staleness

/-!
# Placement of employers and vacancies

A placeholder employer has the negated hh id of a stored vacancy, and a loaded
one has the positive hh id hh.ru gave it.  So neither a load nor a placeholder
is ever refused for an hh id that is taken.
-/

namespace CoverAI

open Txn Program

/-!
# The invariant
-/

/-- A loaded employer, or the placeholder of a stored vacancy. -/
def EmployerPlaced (db : Db) (e : Employer) : Prop :=
  0 < e.hhId ∨ (e.cachedAt = none ∧
    exists id v, db.vacancies.get id = some v ∧ v.hhId = -e.hhId)

structure Placed (s : Store coverAI) : Prop where
  keys : FreshKeys s
  unique : forall id id' v v', s.db.vacancies.get id = some v ->
    s.db.vacancies.get id' = some v' -> v.hhId = v'.hhId -> id = id'
  employers : forall id e, s.db.employers.get id = some e ->
    EmployerPlaced s.db e

/-- The invariant speaks of two tables and of their sequences. -/
def placementFrame (s : Store coverAI) :
    Table Vacancy noChecks × Table Employer noChecks × Int × Int :=
  (s.db.vacancies, s.db.employers, s.seq SeqName.employers,
    s.seq SeqName.vacancies)

theorem Placed.of_frame {s s' : Store coverAI}
    (h : placementFrame s' = placementFrame s) (hs : Placed s) : Placed s' := by
  have hvacancies : s'.db.vacancies = s.db.vacancies :=
    congrArg (fun frame => frame.1) h
  have hemployers : s'.db.employers = s.db.employers :=
    congrArg (fun frame => frame.2.1) h
  have hseqs := congrArg (fun frame => frame.2.2) h
  have hseq : s'.seq SeqName.employers = s.seq SeqName.employers :=
    congrArg Prod.fst hseqs
  have hseq' : s'.seq SeqName.vacancies = s.seq SeqName.vacancies :=
    congrArg Prod.snd hseqs
  refine ⟨⟨?_, ?_⟩, ?_, ?_⟩
  · rw [hemployers, hseq]
    exact hs.keys.employers
  · rw [hvacancies, hseq']
    exact hs.keys.vacancies
  · rw [hvacancies]
    exact hs.unique
  · rw [hemployers]
    intro id e hget
    have hplaced := hs.employers id e hget
    rw [EmployerPlaced, hvacancies]
    exact hplaced

theorem Placed.of_rollback {s s' : Store coverAI} (hs : Placed s)
    (h : s.Advances s') : Placed (s'.setDb s.db) := by
  refine ⟨⟨?_, ?_⟩, hs.unique, hs.employers⟩
  · intro id e hget
    exact Int.lt_of_lt_of_le (hs.keys.employers id e hget) (h.seq _)
  · intro id v hget
    exact Int.lt_of_lt_of_le (hs.keys.vacancies id v hget) (h.seq _)

theorem placed_start {s : Store coverAI} (h : NoVacancies s.db) : Placed s := by
  refine ⟨⟨?_, ?_⟩, ?_, ?_⟩
  · rw [h.employers]
    exact fun _ _ hget => nomatch hget
  · rw [h.vacancies]
    exact fun _ _ hget => nomatch hget
  · rw [h.vacancies]
    exact fun _ _ _ _ hget => nomatch hget
  · rw [h.employers]
    exact fun _ _ hget => nomatch hget

/-!
# One call puts a pair of rows
-/

section Puts

variable {s t s' : Store coverAI} {vacancyId employerId : Int} {v : Vacancy}
  {e : Employer}

/-- The hh ids of the vacancies that were there stay. -/
theorem VacancyPut.keeps_hhId (hput : VacancyPut t vacancyId v s') {id : Int}
    {old : Vacancy} (hget : t.db.vacancies.get id = some old) :
    exists kept, s'.db.vacancies.get id = some kept ∧ kept.hhId = old.hhId := by
  by_cases hid : id = vacancyId
  · subst hid
    exact ⟨v, hput.puts.get_self, (hput.keyed.same old hget).symm⟩
  · rw [hput.puts.get_of_ne hid]
    exact ⟨old, hget, rfl⟩

theorem Placed.put (hs : Placed s) (hput : EmployerPut s employerId e t)
    (hput' : VacancyPut t vacancyId v s')
    (he : 0 < e.hhId ∨ (e.cachedAt = none ∧ v.hhId = -e.hhId)) :
    Placed s' := by
  have hold {id : Int} {u : Vacancy} (hid : id ≠ vacancyId)
      (hget : s.db.vacancies.get id = some u) : v.hhId ≠ u.hhId := by
    rw [← hput.vacancies] at hget
    intro heq
    cases hself : t.db.vacancies.get vacancyId with
    | none => exact hput'.keyed.first hself id u hget heq.symm
    | some w =>
        have hsame := hput'.keyed.same w hself
        rw [hput.vacancies] at hget hself
        exact hid (hs.unique id vacancyId u w hget hself
          (heq.symm.trans hsame.symm))
  refine ⟨hput'.keys, ?_, ?_⟩
  · intro id id' u u' hget hget' heq
    rcases hput'.puts.cases hget with ⟨rfl, rfl⟩ | ⟨hid, hu⟩
    · rcases hput'.puts.cases hget' with ⟨rfl, rfl⟩ | ⟨hid', hu'⟩
      · rfl
      · rw [hput.vacancies] at hu'
        exact (hold hid' hu' heq).elim
    · rw [hput.vacancies] at hu
      rcases hput'.puts.cases hget' with ⟨rfl, rfl⟩ | ⟨_, hu'⟩
      · exact (hold hid hu heq.symm).elim
      · rw [hput.vacancies] at hu'
        exact hs.unique id id' u u' hu hu' heq
  · intro id r hget
    rw [hput'.employers] at hget
    rcases hput.puts.cases hget with ⟨_, rfl⟩ | ⟨_, hr⟩
    · rcases he with hpositive | ⟨hcached, hhh⟩
      · exact Or.inl hpositive
      · exact Or.inr ⟨hcached, vacancyId, v, hput'.puts.get_self, hhh⟩
    · rcases hs.employers id r hr with hpositive | ⟨hcached, k, u, hu, hhh⟩
      · exact Or.inl hpositive
      · rw [← hput.vacancies] at hu
        rcases hput'.keeps_hhId hu with ⟨kept, hkept, hkeptId⟩
        exact Or.inr ⟨hcached, k, kept, hkept, hkeptId.trans hhh⟩

end Puts

/-!
# Loads
-/

/-- The employer ids of hh.ru are positive. -/
def Clients.EmployersPositive (clients : Clients) : Prop :=
  forall hhId payload, clients.getVacancy hhId = .ok payload ->
    0 < payload.employerHhId

/-- The row of the vacancy points to the row of its employer, which is not a
placeholder. -/
structure Located (db : Db) (hhId : Int) (result : VacancyResult) : Prop where
  vacancy : db.vacancies.get result.vacancyId = some result.vacancy
  hhId : result.vacancy.hhId = hhId
  employerId : result.vacancy.employerId = result.employerId
  employer : db.employers.get result.employerId = some result.employer
  positive : 0 < result.employer.hhId

section Loads

variable {env : Env} {clients : Clients} {messageText : String} {now : Instant}
  {s : Store coverAI} {watched : Write coverAI -> Prop}

/-- A row with a cache time is not a placeholder. -/
theorem Located.of_hit (hs : Placed s) {hhId : Int} {result : VacancyResult}
    (hhit : CacheHit hhId now s.db result) : Located s.db hhId result := by
  refine ⟨hhit.vacancy, hhit.hhId, hhit.employerId, hhit.employer, ?_⟩
  rcases hs.employers _ _ hhit.employer with hpositive | ⟨hcached, _⟩
  · exact hpositive
  · have hfresh := hhit.employerFresh
    rw [hcached] at hfresh
    cases hfresh

/-- What a call leaves, and where its result is stored. -/
def Locates (env : Env) (messageText : String) :
    Except Exc VacancyResult -> Store coverAI -> Prop
  | .ok result, s' => Placed s' ∧ exists hhId,
      env.parseHhVacancyId messageText = .ok hhId ∧ Located s'.db hhId result
  | .error _, s' => Placed s'

theorem getOrLoadVacancy_locates (hs : Placed s)
    (hmatch : clients.AnswersMatch) (hpositive : clients.EmployersPositive) :
    (getOrLoadVacancy env clients messageText now).Exits
      (Locates env messageText) s := by
  refine exits_mono (getOrLoadVacancy_exits hs.keys env clients messageText now)
    ?_
  intro res s' hcall
  cases hcall with
  | refused e => exact hs
  | cached hparse hhit => exact ⟨hs, _, hparse, Located.of_hit hs hhit⟩
  | @loaded hhId vacancyId employerId payload employerPayload s' hparse _
      hloads =>
      rcases hloads.put with ⟨t, hput, hput'⟩
      have hanswer := hmatch.employer _ _ hloads.employerAnswer
      have hemployer : 0 < employerPayload.hhId := by
        rw [hanswer]
        exact hpositive _ _ hloads.vacancyAnswer
      refine ⟨hs.put hput hput' (Or.inl hemployer), hhId, hparse,
        hput'.puts.get_self, hmatch.vacancy _ _ hloads.vacancyAnswer, rfl, ?_,
        hemployer⟩
      rw [hput'.employers]
      exact hput.puts.get_self

/-!
# No load is refused
-/

theorem createEmployer_accepts {e : Employer} {res : Int × Employer}
    {s' : Store coverAI} (hrun : (createEmployer e).run s = (.ok res, s')) :
    (createEmployer e).Accepts watched s :=
  accepts_flushUnit_bind hrun fun _ => trivial

theorem createVacancy_accepts {v : Vacancy} {res : Int × Vacancy}
    {s' : Store coverAI} (hrun : (createVacancy v).run s = (.ok res, s')) :
    (createVacancy v).Accepts watched s :=
  accepts_flushUnit_bind hrun fun _ => trivial

theorem updateEmployerCache_accepts {id : Int} {name : String}
    {url : Option String} {rawPayload : Option (List (String × PyObject))}
    {cachedAt : Option Instant} {res : Option Employer} {s' : Store coverAI}
    (hrun : (updateEmployerCache id name url rawPayload cachedAt).run s =
      (.ok res, s')) :
    (updateEmployerCache id name url rawPayload cachedAt).Accepts watched s := by
  simp only [updateEmployerCache, employerById, select, ask, bind_eq, read_bind,
    ret_bind, run, Accepts] at hrun ⊢
  cases hget : s.db.employers.get id with
  | none => trivial
  | some row =>
      simp only [hget] at hrun
      exact accepts_flushUnit_bind hrun fun _ => trivial

theorem updateVacancyCache_accepts {id employerId : Int} {title : String}
    {url : Option String} {rawPayload : Option (List (String × PyObject))}
    {cachedAt : Option Instant} {res : Option Vacancy} {s' : Store coverAI}
    (hrun : (updateVacancyCache id title url rawPayload cachedAt
      employerId).run s = (.ok res, s')) :
    (updateVacancyCache id title url rawPayload cachedAt employerId).Accepts
      watched s := by
  simp only [updateVacancyCache, select, ask, bind_eq, read_bind, ret_bind, run,
    Accepts] at hrun ⊢
  cases hget : s.db.vacancies.get id with
  | none => trivial
  | some row =>
      simp only [hget] at hrun
      exact accepts_flushUnit_bind hrun fun _ => trivial

theorem upsertEmployer_accepts (hkeys : FreshKeys s)
    (payload : HHEmployerPayload) :
    (upsertEmployer payload now).Accepts watched s := by
  simp only [upsertEmployer, employerByHhId, select, ask, bind_eq, read_bind,
    ret_bind, Accepts]
  cases hfound : s.db.employers.first?
      (fun r => decide (r.hhId = payload.hhId)) with
  | none =>
      rcases run_createEmployer (e := employerRow payload now) hkeys hfound with
        ⟨s', hrun, _⟩
      exact createEmployer_accepts hrun
  | some entry =>
      rcases entry with ⟨id, old⟩
      have hproperty := Table.property_of_first? hfound
      have hsame : old.hhId = payload.hhId := of_decide_eq_true hproperty
      rcases run_updateEmployerCache hkeys (Table.get_of_first? hfound) payload
        now hsame with ⟨s', hrun, _⟩
      exact accepts_bind (updateEmployerCache_accepts hrun) fun _ _ _ => trivial

theorem upsertVacancy_accepts (hkeys : FreshKeys s)
    (payload : HHVacancyPayload) (employerId : Int) :
    (upsertVacancy payload employerId now).Accepts watched s := by
  simp only [upsertVacancy, vacancyByHhId, select, ask, bind_eq, read_bind,
    ret_bind, Accepts]
  cases hfound : s.db.vacancies.first?
      (fun r => decide (r.hhId = payload.hhId)) with
  | none =>
      rcases run_createVacancy (v := vacancyRow payload employerId now) hkeys
        hfound with ⟨s', hrun, _⟩
      exact createVacancy_accepts hrun
  | some entry =>
      rcases entry with ⟨id, old⟩
      have hproperty := Table.property_of_first? hfound
      have hsame : old.hhId = payload.hhId := of_decide_eq_true hproperty
      rcases run_updateVacancyCache hkeys (Table.get_of_first? hfound) payload
        employerId now hsame with ⟨s', hrun, _⟩
      exact accepts_bind (updateVacancyCache_accepts hrun) fun _ _ _ => trivial

theorem loadVacancy_accepts (hkeys : FreshKeys s) (hhId : Int) :
    (loadVacancy clients hhId now).Accepts watched s := by
  unfold loadVacancy
  cases clients.getVacancy hhId with
  | error e => trivial
  | ok payload =>
      simp only [ofExcept, bind_eq, ret_bind]
      split
      · trivial
      · cases clients.getEmployer payload.employerHhId with
        | error e => trivial
        | ok employerPayload =>
            rcases run_upsertEmployer hkeys employerPayload now with
              ⟨employerId, t, hrun, hput⟩
            simp only [ret_bind]
            refine accepts_bind (upsertEmployer_accepts hkeys _) ?_
            intro entry t' hrun'
            rw [hrun] at hrun'
            cases hrun'
            exact accepts_bind (upsertVacancy_accepts hput.keys _ _)
              fun _ _ _ => trivial

theorem getOrLoadVacancy_accepts (hkeys : FreshKeys s) :
    (getOrLoadVacancy env clients messageText now).Accepts watched s := by
  unfold getOrLoadVacancy
  cases env.parseHhVacancyId messageText with
  | error e => trivial
  | ok hhId =>
      simp only [ofExcept, bind_eq, ret_bind]
      rcases run_cachedResult hhId now s with ⟨found, hrun, _⟩
      refine accepts_bind (accepts_of_within
        (cachedResult_within (F := readOnly) hhId now) (fun _ => trivial)
        (fun _ hw => hw.elim) s) ?_
      intro cached t hrun'
      rw [hrun] at hrun'
      cases hrun'
      cases found with
      | some result => trivial
      | none => exact loadVacancy_accepts hkeys hhId

theorem getOrLoadVacancy_upholds (hmatch : clients.AnswersMatch)
    (hpositive : clients.EmployersPositive) :
    (getOrLoadVacancy env clients messageText now).Upholds watched Placed := by
  intro s hs
  refine ⟨getOrLoadVacancy_accepts hs.keys, ?_⟩
  have hexit : (getOrLoadVacancy env clients messageText now).Exits
      (Locates env messageText) s :=
    getOrLoadVacancy_locates hs hmatch hpositive
  rcases hrun : (getOrLoadVacancy env clients messageText now).run s with
    ⟨res, s'⟩
  have hlocates := exits_of_run hexit hrun
  cases res with
  | ok result => exact hlocates.left
  | error e => exact hlocates

end Loads

/-!
# Placeholders
-/

section Placeholders

variable {hhId : Int} {vacancyUrl : String} {s : Store coverAI}
  {watched : Write coverAI -> Prop}

/-- Without a vacancy there is no placeholder for its employer. -/
theorem Placed.placeholder_free (hs : Placed s) (hhhId : 0 ≤ hhId)
    (hnone : s.db.vacancies.first? (fun v => v.hhId = hhId) = none) :
    s.db.employers.first? (fun e => e.hhId = -hhId) = none := by
  cases hfound : s.db.employers.first? (fun e => decide (e.hhId = -hhId)) with
  | none => rfl
  | some entry =>
      have hproperty := Table.property_of_first? hfound
      have hhh : entry.2.hhId = -hhId := of_decide_eq_true hproperty
      rcases hs.employers _ _ (Table.get_of_first? hfound) with hpositive |
        ⟨_, id, v, hget, hv⟩
      · omega
      · have hne := Table.property_of_first?_none hnone hget
        have hfalse := of_decide_eq_false hne
        omega

/-- The vacancy of a request is stored with the hh id of its link. -/
def FindsVacancy (hhId : Int) (res : Except Exc (Int × Vacancy))
    (s' : Store coverAI) : Prop :=
  Placed s' ∧ forall found, res = .ok found ->
    s'.db.vacancies.get found.1 = some found.2 ∧ found.2.hhId = hhId

theorem getOrCreatePlaceholderVacancy_finds (hs : Placed s)
    (hhhId : 0 ≤ hhId) :
    (getOrCreatePlaceholderVacancy hhId vacancyUrl).Exits
      (FindsVacancy hhId) s := by
  refine exits_mono
    (getOrCreatePlaceholderVacancy_exits hs.keys hhId vacancyUrl) ?_
  intro res s' hcall
  cases hcall with
  | existing hget hsame =>
      refine ⟨hs, ?_⟩
      intro found heq
      cases heq
      exact ⟨hget, hsame⟩
  | rejected hnone hget hsame =>
      have hfree := hs.placeholder_free hhhId hnone
      have hne := Table.property_of_first?_none hfree hget
      exact (of_decide_eq_false hne hsame).elim
  | created hput hput' =>
      refine ⟨hs.put hput hput' (Or.inr ⟨rfl, ?_⟩), ?_⟩
      · exact (Int.neg_neg hhId).symm
      · intro found heq
        cases heq
        exact ⟨hput'.puts.get_self, rfl⟩

theorem getOrCreatePlaceholderVacancy_accepts (hs : Placed s)
    (hhhId : 0 ≤ hhId) :
    (getOrCreatePlaceholderVacancy hhId vacancyUrl).Accepts watched s := by
  simp only [getOrCreatePlaceholderVacancy, vacancyByHhId, select, ask, bind_eq,
    read_bind, ret_bind, Accepts]
  cases hfound : s.db.vacancies.first? (fun v => decide (v.hhId = hhId)) with
  | some entry => trivial
  | none =>
      rcases run_createEmployer (e := placeholderEmployer hhId) hs.keys
        (hs.placeholder_free hhhId hfound) with ⟨t, hrun, hput⟩
      refine accepts_bind (createEmployer_accepts hrun) ?_
      intro entry t' hrun'
      have hstore := congrArg Prod.snd (hrun.symm.trans hrun')
      cases hstore
      have hfree : t.db.vacancies.first?
          (fun v => decide (v.hhId = hhId)) = none := by
        rw [hput.vacancies]
        exact hfound
      rcases run_createVacancy (v := placeholderVacancy hhId entry.1 vacancyUrl)
        hput.keys hfree with ⟨s', hrunv, _⟩
      exact createVacancy_accepts hrunv

theorem getOrCreatePlaceholderVacancy_upholds (hhhId : 0 ≤ hhId) :
    (getOrCreatePlaceholderVacancy hhId vacancyUrl).Upholds watched Placed :=
  fun _ hs => ⟨getOrCreatePlaceholderVacancy_accepts hs hhhId,
    (getOrCreatePlaceholderVacancy_finds hs hhhId).left⟩

end Placeholders
end CoverAI
