import CoverAI.Generation.Letters
import CoverAI.Generation.ResumeBlind
import CoverAI.Vacancy.Placement
import CoverAI.Vacancy.UrlOutcomes

/-!
# Letters and their vacancies

A queued request holds the id of the vacancy row its link was resolved to, and
the worker reaches the row again through the link.  Both are the same row, since
the rows of vacancies keep their hh ids and no two of them share one.
-/

namespace CoverAI

open Txn Program

/-!
# Queued jobs
-/

/-- The request a job names holds the row of the vacancy the job links to. -/
def JobPlaced (env : Env) (db : Db) (job : Job) : Prop :=
  forall requestId, job.generationRequestId = some requestId ->
    exists r v, db.generationRequests.get requestId = some r ∧
      db.vacancies.get r.vacancyId = some v ∧
      env.parseHhVacancyId job.vacancyUrl = .ok v.hhId

section Jobs

variable {env : Env} {db db' : Db} {job : Job}

theorem JobPlaced.of_requests (h : JobPlaced env db job)
    (hrequests : forall id r, db.generationRequests.get id = some r ->
      exists r', db'.generationRequests.get id = some r' ∧
        r'.vacancyId = r.vacancyId)
    (hvacancies : db'.vacancies = db.vacancies) : JobPlaced env db' job := by
  intro requestId hjob
  rcases h requestId hjob with ⟨r, v, hr, hv, hparse⟩
  rcases hrequests requestId r hr with ⟨r', hr', hvacancyId⟩
  refine ⟨r', v, hr', ?_, hparse⟩
  rw [hvacancyId, hvacancies]
  exact hv

theorem JobPlaced.of_vacancies (h : JobPlaced env db job)
    (hrequests : db'.generationRequests = db.generationRequests)
    (hvacancies : forall id v, db.vacancies.get id = some v ->
      exists v', db'.vacancies.get id = some v' ∧ v'.hhId = v.hhId) :
    JobPlaced env db' job := by
  intro requestId hjob
  rcases h requestId hjob with ⟨r, v, hr, hv, hparse⟩
  rcases hvacancies r.vacancyId v hv with ⟨v', hv', hhhId⟩
  refine ⟨r, v', ?_, hv', ?_⟩
  · rw [hrequests]
    exact hr
  · rw [hhhId]
    exact hparse

theorem JobPlaced.of_frame (h : JobPlaced env db job)
    (hrequests : db'.generationRequests = db.generationRequests)
    (hvacancies : db'.vacancies = db.vacancies) : JobPlaced env db' job := by
  intro requestId hjob
  rw [hrequests, hvacancies]
  exact h requestId hjob

/-- No row write moves a queued job to another vacancy. -/
theorem JobPlaced.apply (h : JobPlaced env db job) {w : Write coverAI}
    (hw : RowWrite w) : JobPlaced env (w.apply db) job := by
  rcases hw.requestWrite_or with hrequest | hframe
  · cases hrequest with
    | insertGenerationRequest id r =>
        refine h.of_requests ?_ rfl
        exact fun k old hget => ⟨old, Table.get_insert_of_some hget id r, rfl⟩
    | updateGenerationRequest id loaded edited =>
        refine h.of_requests ?_ rfl
        exact fun k old hget =>
          Table.get_modify_column GenerationRequest.vacancyId (fun _ => rfl)
            hget
    | insertVacancy id r =>
        refine h.of_vacancies rfl ?_
        exact fun k old hget => ⟨old, Table.get_insert_of_some hget id r, rfl⟩
    | updateVacancy id loaded edited =>
        refine h.of_vacancies rfl ?_
        exact fun k old hget =>
          Table.get_modify_column Vacancy.hhId (fun _ => rfl) hget
    | insertResumeProfile id r => exact h.of_frame rfl rfl
    | updateResumeProfile id loaded edited => exact h.of_frame rfl rfl
  · have htables := hframe db
    exact h.of_frame (congrArg Prod.fst htables)
      (congrArg (fun tables => tables.2.2) htables)

end Jobs

/-!
# The invariant of a session
-/

/-- The rows are in place, and so are the jobs of the queue. -/
structure Linked (env : Env) (jobs : List Job) (s : Store coverAI) : Prop where
  placed : Placed s
  out : s.out = jobs
  jobs : forall job, job ∈ jobs -> JobPlaced env s.db job

/-- The writes of `create_employer` and `create_vacancy`. -/
inductive CreatesRow : Write coverAI -> Prop where
  | employer (id : Int) (e : Employer) : CreatesRow (insertEmployer id e)
  | vacancy (id : Int) (v : Vacancy) : CreatesRow (insertVacancy id v)

/-- A session that stays away from employers and vacancies, and sends
nothing. -/
def quietFootprint : Footprint coverAI where
  sees := fun _ => True
  writes := fun w => RowWrite w ∧ forall db,
    (w.apply db).vacancies = db.vacancies ∧
      (w.apply db).employers = db.employers
  draws := fun t => t ≠ SeqName.employers ∧ t ≠ SeqName.vacancies
  emits := fun _ => False
  raises := fun _ => True

theorem not_createsRow_of_quiet {w : Write coverAI}
    (hw : quietFootprint.writes w) : ¬ CreatesRow w := by
  intro hcreates
  have hempty := hw.right Db.empty
  cases hcreates with
  | employer id e =>
      have hrows := congrArg (fun T => T.rows.length) hempty.right
      cases hrows
  | vacancy id v =>
      have hrows := congrArg (fun T => T.rows.length) hempty.left
      cases hrows

theorem quietFootprint_permits : PermitsWriting quietFootprint where
  letters := fun id letter => ⟨.insertCoverLetter id letter, fun _ => ⟨rfl, rfl⟩⟩
  statuses := fun id loaded edited =>
    ⟨.updateGenerationRequest id loaded edited, fun _ => ⟨rfl, rfl⟩⟩
  users := fun id loaded edited =>
    ⟨.updateUser id loaded edited, fun _ => ⟨rfl, rfl⟩⟩
  ledger := fun t => ⟨.insertCreditTransaction t, fun _ => ⟨rfl, rfl⟩⟩
  drawsLetters := ⟨(fun h => nomatch h), fun h => nomatch h⟩
  raises := fun _ _ => trivial

section Quiet

variable {env : Env} {jobs : List Job} {α : Type}

theorem Linked.write {s : Store coverAI} (h : Linked env jobs s)
    {w : Write coverAI} (hw : quietFootprint.writes w) :
    Linked env jobs (s.setDb (w.apply s.db)) := by
  refine ⟨h.placed.of_frame ?_, h.out, fun job hjob =>
    (h.jobs job hjob).apply hw.left⟩
  rcases hw.right s.db with ⟨hvacancies, hemployers⟩
  simp only [placementFrame, Store.setDb_db, Store.setDb_seq, hvacancies,
    hemployers]

theorem Linked.draw {s : Store coverAI} (h : Linked env jobs s) {t : SeqName}
    (ht : quietFootprint.draws t) : Linked env jobs (s.draw t) := by
  refine ⟨h.placed.of_frame ?_, h.out, h.jobs⟩
  have hemployers := Store.draw_seq s t SeqName.employers
  have hvacancies := Store.draw_seq s t SeqName.vacancies
  rw [if_neg (Ne.symm ht.left)] at hemployers
  rw [if_neg (Ne.symm ht.right)] at hvacancies
  simp only [placementFrame, Store.draw_db, hemployers, hvacancies]

theorem linked_of_quiet {Q : α -> Prop} {p : Session α}
    (hp : p.Within quietFootprint Q) :
    p.Upholds CreatesRow (Linked env jobs) :=
  upholds_of_within hp (fun _ => trivial) (fun _ => not_createsRow_of_quiet)
    (fun _ hw _ hs => hs.write hw) (fun _ ht _ hs => hs.draw ht)
    (fun _ ho => ho.elim)

/-- The vacancy service moves no job to another vacancy, and queues none. -/
theorem linked_of_placed {Q : α -> Prop} {p : Session α}
    (hp : p.Within vacancyFootprint Q) (hplaced : p.Upholds CreatesRow Placed) :
    p.Upholds CreatesRow (Linked env jobs) := by
  have hjobs (s : Store coverAI)
      (hs : s.out = jobs ∧ forall job, job ∈ jobs -> JobPlaced env s.db job) :
      (p.run s).2.out = jobs ∧
        forall job, job ∈ jobs -> JobPlaced env (p.run s).2.db job := by
    apply @run_of_within coverAI α vacancyFootprint Q (fun t => t.out = jobs ∧
      forall job, job ∈ jobs -> JobPlaced env t.db job) p hp fun _ => trivial
    · exact fun w hw t ht =>
        ⟨ht.left, fun job hjob => (ht.right job hjob).apply (.vacancy hw)⟩
    · exact fun _ _ _ ht => ht
    · exact fun _ ho => ho.elim
    · exact hs
  intro s hs
  have hboth := (hplaced.and hjobs) s ⟨hs.placed, hs.out, hs.jobs⟩
  exact ⟨hboth.left, hboth.right.left, hboth.right.right.left,
    hboth.right.right.right⟩

end Quiet

/-!
# Queueing
-/

section Queueing

variable {env : Env} {jobs : List Job}

theorem Linked.push {s : Store coverAI} (h : Linked env jobs s) {job : Job}
    (hjob : JobPlaced env s.db job) :
    Linked env (jobs ++ [job]) (s.push job) := by
  have hframe : placementFrame (s.push job) = placementFrame s := rfl
  refine ⟨h.placed.of_frame hframe, ?_, ?_⟩
  · rw [Store.push_out, h.out]
  · intro job' hmem
    rcases List.mem_append.mp hmem with hold | hnew
    · exact h.jobs job' hold
    · rw [List.mem_singleton.mp hnew]
      exact hjob

theorem Linked.of_rollback {s s' : Store coverAI} (hs : Linked env jobs s)
    (hout : s'.out = jobs) (h : s.Advances s') :
    Linked env jobs (s'.setDb s.db) :=
  ⟨hs.placed.of_rollback h, hout, hs.jobs⟩

theorem enqueueChecks_quiet (held : Option User) (userId : Int)
    (vacancyUrl : String) (tone : Tone) (now : Instant) :
    (enqueueChecks env held userId vacancyUrl tone now).Within quietFootprint
      fun _ => True := by
  apply within_bind (userById_within held userId)
  intro found _
  cases found with
  | none => trivial
  | some user =>
      apply within_ask_bind
      intro v _
      split
      · trivial
      · split
        · trivial
        · split
          · trivial
          · apply within_bind (within_ofExcept (Q := fun _ => True)
              (fun _ _ => trivial) fun _ _ => trivial)
            intro hhId _
            exact within_bind (ensureCanGenerate_within held userId now
              (fun _ => trivial) trivial) fun _ _ => trivial

theorem quiet_drawsRequests :
    quietFootprint.draws SeqName.generationRequests :=
  ⟨(fun h => nomatch h), fun h => nomatch h⟩

theorem quiet_insertRequest (id : Int) (request : GenerationRequest) :
    quietFootprint.writes (insertGenerationRequest id request) :=
  ⟨.insertGenerationRequest id request, fun _ => ⟨rfl, rfl⟩⟩

theorem createGenerationRequest_quiet (request : GenerationRequest) :
    (createGenerationRequest request).Within quietFootprint fun _ => True := by
  apply within_draw_bind quiet_drawsRequests
  intro id
  apply within_flushOne_bind (quiet_insertRequest id request)
  · exact fun _ _ _ => trivial
  · trivial

theorem getOrCreatePlaceholderVacancy_linked {hhId : Int} (hhhId : 0 ≤ hhId)
    (vacancyUrl : String) :
    (getOrCreatePlaceholderVacancy hhId vacancyUrl).Upholds CreatesRow
      (Linked env jobs) :=
  linked_of_placed (getOrCreatePlaceholderVacancy_within
    vacancyFootprint_permits hhId vacancyUrl)
    (getOrCreatePlaceholderVacancy_upholds hhhId)

/-- How the queue service leaves the jobs: a call that raises has queued
nothing. -/
def LinksJob (env : Env) (jobs : List Job)
    (res : Except Exc (Int × GenerationRequest)) (s' : Store coverAI) : Prop :=
  Linked env s'.out s' ∧ forall e, res = .error e -> s'.out = jobs

theorem Linked.linksJob {s : Store coverAI} (h : Linked env jobs s) (e : Exc) :
    LinksJob env jobs (.error e) s := by
  refine ⟨?_, fun _ _ => h.out⟩
  rw [h.out]
  exact h

theorem createAndQueue_links {s : Store coverAI} (hs : Linked env jobs s)
    {hhId : Int} (hhhId : 0 ≤ hhId) {vacancyUrl : String}
    (hparse : env.parseHhVacancyId vacancyUrl = .ok hhId)
    (userId profileId : Int) (profile : ResumeProfile) (tone : Tone)
    (now : Instant) :
    (createAndQueue env userId profileId hhId profile vacancyUrl tone now).Exits
      (LinksJob env jobs) s := by
  unfold createAndQueue
  rw [bind_eq, exits_bind, Exits]
  have hlinked := (getOrCreatePlaceholderVacancy_linked hhhId vacancyUrl s
    hs).right
  have hfinds : (getOrCreatePlaceholderVacancy hhId vacancyUrl).Exits
      (FindsVacancy hhId) s :=
    getOrCreatePlaceholderVacancy_finds hs.placed hhhId
  rcases hrun : (getOrCreatePlaceholderVacancy hhId vacancyUrl).run s with
    ⟨res, t⟩
  rw [hrun] at hlinked
  have hfound := (exits_of_run hfinds hrun).right
  cases res with
  | error e => exact hlinked.linksJob e
  | ok entry =>
      rcases hfound entry rfl with ⟨hvacancy, hsame⟩
      have hdrawn := hlinked.draw quiet_drawsRequests
      simp only [bind_eq]
      rw [exits_bind]
      apply exits_createGenerationRequest
      · intro hfree
        have hwritten := hdrawn.write (quiet_insertRequest
          (t.seq SeqName.generationRequests) (pendingRequest userId profileId
            entry.1 tone profile entry.2 now))
        refine ⟨?_, fun _ h => by cases h⟩
        have hjob : JobPlaced env { t.db with
            generationRequests := t.db.generationRequests.insert
              (t.seq SeqName.generationRequests) (pendingRequest userId
                profileId entry.1 tone profile entry.2 now) }
            (queuedJob userId vacancyUrl tone env.predictionCostCredits
              (t.seq SeqName.generationRequests)) := by
          intro requestId hnamed
          cases hnamed
          refine ⟨_, entry.2, Table.get_insert_self hfree rfl, hvacancy, ?_⟩
          rw [hsame]
          exact hparse
        have hpushed := hwritten.push hjob
        have hout := hpushed.out
        rw [← hout] at hpushed
        exact hpushed
      · exact hdrawn.linksJob _

theorem createAndQueue_accepts {s : Store coverAI} (hs : Linked env jobs s)
    {hhId : Int} (hhhId : 0 ≤ hhId) (vacancyUrl : String)
    (userId profileId : Int) (profile : ResumeProfile) (tone : Tone)
    (now : Instant) :
    (createAndQueue env userId profileId hhId profile vacancyUrl tone
      now).Accepts CreatesRow s := by
  have hfound := getOrCreatePlaceholderVacancy_linked hhhId vacancyUrl s hs
  refine accepts_bind hfound.left ?_
  intro entry t _
  exact accepts_bind (accepts_of_within (createGenerationRequest_quiet _)
    (fun _ => trivial) (fun _ => not_createsRow_of_quiet) t)
    fun _ _ _ => trivial

/-- The ids of links are not negative. -/
def Env.ParsesIds (env : Env) : Prop :=
  forall text hhId, env.parseHhVacancyId text = .ok hhId -> 0 ≤ hhId

theorem parsesIds_of_source {lib : UrlLibrary}
    (h : env.parseHhVacancyId = parseHhVacancyId lib) : env.ParsesIds := by
  intro text hhId hparse
  rw [h] at hparse
  exact parseHhVacancyId_nonneg hparse

theorem enqueueGeneration_links {s : Store coverAI} (hs : Linked env jobs s)
    (hparser : env.ParsesIds) (held : Option User) (userId : Int)
    (vacancyUrl : String) (tone : Tone) (now : Instant) :
    (enqueueGeneration env held userId vacancyUrl tone now).Accepts CreatesRow
        s ∧
      (enqueueGeneration env held userId vacancyUrl tone now).Exits
        (LinksJob env jobs) s := by
  have hchecks := enqueueChecks_exits env held userId vacancyUrl tone now s
  unfold enqueueGeneration
  rw [bind_eq]
  constructor
  · refine accepts_bind (accepts_of_within
      (enqueueChecks_quiet held userId vacancyUrl tone now) (fun _ => trivial)
      (fun _ => not_createsRow_of_quiet) s) ?_
    intro checked t hrun
    rcases exits_of_run hchecks hrun with ⟨rfl, hchecked⟩
    have hparse := (hchecked checked rfl).parsed
    exact createAndQueue_accepts hs (hparser _ _ hparse) _ _ _ _ _ _
  · rw [exits_bind]
    refine exits_mono hchecks ?_
    intro res t h
    rcases h with ⟨rfl, hchecked⟩
    cases res with
    | error e => exact hs.linksJob e
    | ok checked =>
        have hparse := (hchecked checked rfl).parsed
        exact createAndQueue_links hs (hparser _ _ hparse) hparse _ _ _ _ _

end Queueing

/-!
# Executions
-/

section Executions

variable {env : Env} {clients : Clients} {jobs : List Job}

theorem existingRequest_quiet (generationRequestId : Option Int)
    (userId : Int) :
    (existingRequest generationRequestId userId).Within quietFootprint
      fun _ => True := by
  cases generationRequestId with
  | none => trivial
  | some requestId =>
      exact within_mono (existingRequest_within (F := quietFootprint)
        fun _ _ _ => trivial) (fun _ h => h) (fun _ h => h) (fun _ h => h)
        (fun _ h => h) (fun _ h => h) fun _ _ => trivial

theorem writeLetter_quiet (userId profileId : Int) (profile : ResumeProfile)
    (tone : Tone) (bound : Option (Int × GenerationRequest))
    (result : VacancyResult) (now : Instant) :
    (writeLetter env clients userId profileId profile tone bound result
      now).Within quietFootprint fun _ => True := by
  cases bound with
  | some entry =>
      exact writeLetter_within quietFootprint_permits (fun _ _ => trivial)
        _ _ _ _ _ _ _
  | none =>
      apply within_bind (within_tryCatch (createGenerationRequest_quiet _)
        fun _ _ => onFailure_within quietFootprint_permits _ _ trivial)
      intro created _
      exact within_tryCatch (generateAndSaveLetter_within quietFootprint_permits
        (fun _ _ => trivial) _ _ _ _ _ _)
        fun _ _ => onFailure_within quietFootprint_permits _ _ trivial

theorem loadAndWrite_linked (hmatch : clients.AnswersMatch)
    (hpositive : clients.EmployersPositive) (userId : Int)
    (vacancyUrl : String) (user : User) (profileId : Int)
    (profile : ResumeProfile) (tone : Tone)
    (bound : Option (Int × GenerationRequest)) (now : Instant) :
    (loadAndWrite env clients userId vacancyUrl user profileId profile tone
      bound now).Upholds CreatesRow (Linked env jobs) := by
  refine upholds_bind (upholds_tryCatch (linked_of_placed
    (getOrLoadVacancy_within vacancyFootprint_permits (fun _ _ => trivial)
      trivial _ _) (getOrLoadVacancy_upholds hmatch hpositive)) ?_) ?_
  · intro e
    exact linked_of_quiet (onFailure_within (Q := fun _ => True)
      quietFootprint_permits _ _ trivial)
  · intro result
    exact linked_of_quiet (Q := fun _ => True)
      (within_bind (writeLetter_quiet _ _ _ _ _ _ _) fun _ _ =>
        within_bind (updateStatus_within quietFootprint_permits _ _ _ _)
          fun _ _ => trivial)

theorem generateForVacancyUrl_linked (hmatch : clients.AnswersMatch)
    (hpositive : clients.EmployersPositive) (userId : Int)
    (vacancyUrl : String) (tone : Tone) (generationRequestId : Option Int)
    (enforceQuota : Bool) (now : Instant) :
    (generateForVacancyUrl env clients userId vacancyUrl tone
      generationRequestId enforceQuota now).Upholds CreatesRow
        (Linked env jobs) := by
  apply upholds_ask_bind
  intro found
  cases found with
  | none => exact upholds_raise _
  | some user =>
      simp only
      split
      · exact upholds_raise _
      · apply upholds_ask_bind
        intro profile
        cases profile with
        | none => exact upholds_raise _
        | some entry =>
            apply upholds_bind (linked_of_quiet (existingRequest_quiet _ _))
            intro bound
            cases enforceQuota with
            | false =>
                exact loadAndWrite_linked hmatch hpositive _ _ _ _ _ _ _ _
            | true =>
                exact upholds_bind (linked_of_quiet (Q := fun _ => True)
                  (within_bind (ensureCanGenerate_within none userId now
                    (fun _ => trivial) trivial) fun _ _ => trivial))
                  fun _ => loadAndWrite_linked hmatch hpositive _ _ _ _ _ _ _ _

theorem generationSession_linked (hmatch : clients.AnswersMatch)
    (hpositive : clients.EmployersPositive) (job : Job) (now : Instant) :
    (generationSession env clients job now).Upholds CreatesRow
      (Linked env jobs) := by
  refine upholds_bind (upholds_tryCatch (upholds_bind ?_ ?_) ?_) ?_
  · unfold generateForJob
    split
    · exact upholds_raise _
    · exact generateForVacancyUrl_linked hmatch hpositive _ _ _ _ _ _
  · exact fun result => upholds_ret _
  · intro e
    exact linked_of_quiet (Q := fun _ => True)
      (within_bind (keepError_within job trivial) fun _ _ => trivial)
  · intro outcome
    cases outcome with
    | inl result =>
        exact linked_of_quiet
          (chargeForLetter_within quietFootprint_permits.charging job result)
    | inr kept => exact upholds_ret _

/-!
# Letters
-/

/-- The letter holds the only vacancy row with the hh id of the link, the title
of that row, and the employer of that row, which is not its placeholder. -/
structure LetterPlaced (env : Env) (vacancyUrl : String) (letter : CoverLetter)
    (v : Vacancy) (e : Employer) (db : Db) : Prop where
  parsed : env.parseHhVacancyId vacancyUrl = .ok v.hhId
  vacancy : db.vacancies.get letter.vacancyId = some v
  only : forall id other, db.vacancies.get id = some other ->
    other.hhId = v.hhId -> id = letter.vacancyId
  title : letter.vacancyTitle = v.title
  employerId : letter.employerId = v.employerId
  employer : db.employers.get letter.employerId = some e
  positive : 0 < e.hhId
  real : e.hhId ≠ -v.hhId

/-- The request of the letter holds the row the link led to. -/
theorem WritesLetter.vacancyId {job : Job} {tone : Tone} {now : Instant}
    {s t u : Store coverAI} {source : LetterSource}
    {written : GeneratedCoverLetter}
    (h : WritesLetter env clients job.userId job.vacancyUrl tone
      job.generationRequestId now s source written t)
    (hu : Linked env jobs u)
    (hrequests : u.db.generationRequests = s.db.generationRequests)
    (hlocated : Located u.db source.result.vacancy.hhId source.result)
    (hparse : env.parseHhVacancyId job.vacancyUrl =
      .ok source.result.vacancy.hhId)
    (hjob : job ∈ jobs ∨ job.generationRequestId = none) :
    source.request.vacancyId = source.result.vacancyId := by
  have hbinds := h.binds
  cases hnamed : job.generationRequestId with
  | none =>
      rw [hnamed] at hbinds
      change source.request = _ at hbinds
      rw [hbinds]
      rfl
  | some requestId =>
      rw [hnamed] at hbinds
      rcases hbinds with ⟨_, hget, _⟩
      rcases hjob with hmem | hnone
      · rcases hu.jobs job hmem requestId hnamed with ⟨r, v, hr, hv, hsame⟩
        rw [hrequests, hget] at hr
        cases hr
        rw [hparse] at hsame
        have hhh := Except.ok.inj hsame
        exact hu.placed.unique _ _ _ _ hv hlocated.vacancy hhh.symm
      · rw [hnamed] at hnone
        cases hnone

theorem WritesLetter.placed {job : Job} {tone : Tone} {now : Instant}
    {s t : Store coverAI} {source : LetterSource}
    {written : GeneratedCoverLetter}
    (h : WritesLetter env clients job.userId job.vacancyUrl tone
      job.generationRequestId now s source written t)
    (hs : Linked env jobs s) (hparser : env.ParsesIds)
    (hmatch : clients.AnswersMatch) (hpositive : clients.EmployersPositive)
    (hjob : job ∈ jobs ∨ job.generationRequestId = none) :
    LetterPlaced env job.vacancyUrl written.letter source.result.vacancy
      source.result.employer t.db := by
  have hlinked : Linked env jobs
      ((getOrLoadVacancy env clients job.vacancyUrl now).run s).2 :=
    (linked_of_placed (getOrLoadVacancy_within vacancyFootprint_permits
      (fun _ _ => trivial) trivial _ _)
      (getOrLoadVacancy_upholds hmatch hpositive) s hs).right
  have hlocates : (getOrLoadVacancy env clients job.vacancyUrl now).Exits
      (Locates env job.vacancyUrl) s :=
    getOrLoadVacancy_locates hs.placed hmatch hpositive
  have hrequests := congrArg (fun frame => frame.1.generationRequests)
    (getOrLoadVacancy_preserves env clients job.vacancyUrl now s)
  have hvacancy := h.vacancy
  have hloaded := h.loaded
  unfold vacancyOutcome at hvacancy
  rcases hrun : (getOrLoadVacancy env clients job.vacancyUrl now).run s with
    ⟨res, u⟩
  rw [hrun] at hlinked hrequests hvacancy hloaded
  simp only at hvacancy hloaded
  subst hvacancy
  rcases exits_of_run hlocates hrun with ⟨_, hhId, hparse, hlocated⟩
  have hhh := hlocated.hhId
  subst hhh
  have hvacancyId := h.vacancyId hlinked hrequests hlocated hparse hjob
  have hnonneg := hparser _ _ hparse
  have hreal := hlocated.positive
  rw [h.letter]
  refine ⟨hparse, ?_, ?_, rfl, hlocated.employerId.symm, ?_, hreal, ?_⟩
  · rw [hloaded.left]
    change u.db.vacancies.get source.request.vacancyId = _
    rw [hvacancyId]
    exact hlocated.vacancy
  · intro id other hget hsame
    rw [hloaded.left] at hget
    change id = source.request.vacancyId
    rw [hvacancyId]
    exact hlinked.placed.unique _ _ _ _ hget hlocated.vacancy hsame
  · rw [hloaded.right]
    exact hlocated.employer
  · omega

/-- Every letter of the second database was there, or it was written for the
link and is in place. -/
def NewLettersPlaced (env : Env) (vacancyUrl : String) (db db' : Db) : Prop :=
  forall id letter, db'.coverLetters.get id = some letter ->
    db.coverLetters.get id = some letter ∨
      exists v e, LetterPlaced env vacancyUrl letter v e db'

theorem newLettersPlaced_of_same {vacancyUrl : String} {db db' : Db}
    (h : db'.coverLetters = db.coverLetters) :
    NewLettersPlaced env vacancyUrl db db' := by
  intro id letter hget
  rw [h] at hget
  exact Or.inl hget

theorem newLettersPlaced_of_insert {vacancyUrl : String} {db db' : Db}
    {letterId : Int} {letter : CoverLetter} {v : Vacancy} {e : Employer}
    (h : db'.coverLetters = db.coverLetters.insert letterId letter)
    (hplaced : LetterPlaced env vacancyUrl letter v e db') :
    NewLettersPlaced env vacancyUrl db db' := by
  intro id stored hget
  cases hold : db.coverLetters.get id with
  | some old =>
      rw [h, Table.get_insert_of_some hold] at hget
      exact Or.inl hget
  | none =>
      right
      rw [h] at hget
      by_cases hid : id = letterId
      · subst hid
        rw [Table.get_insert_self hold rfl] at hget
        cases hget
        exact ⟨v, e, hplaced⟩
      · rw [Table.get_insert_of_ne _ hid, hold] at hget
        cases hget

theorem LetterPlaced.of_frame {vacancyUrl : String} {letter : CoverLetter}
    {v : Vacancy} {e : Employer} {db db' : Db}
    (h : LetterPlaced env vacancyUrl letter v e db)
    (hvacancies : db'.vacancies = db.vacancies)
    (hemployers : db'.employers = db.employers) :
    LetterPlaced env vacancyUrl letter v e db' := by
  refine ⟨h.parsed, ?_, ?_, h.title, h.employerId, ?_, h.positive, h.real⟩
  · rw [hvacancies]
    exact h.vacancy
  · rw [hvacancies]
    exact h.only
  · rw [hemployers]
    exact h.employer

/-- What a letter and its rows are read from. -/
def letterTables (db : Db) :
    Table CoverLetter noChecks × Table Vacancy noChecks ×
      Table Employer noChecks :=
  (db.coverLetters, db.vacancies, db.employers)

def chargeFootprint : Footprint coverAI where
  sees := fun _ => True
  writes := fun w => forall db, letterTables (w.apply db) = letterTables db
  draws := fun _ => True
  emits := fun _ => True
  raises := fun _ => True

theorem chargeFootprint_permits : PermitsCharging chargeFootprint where
  users := fun _ _ _ _ => rfl
  ledger := fun _ _ => rfl
  raisesQuota := trivial
  raisesIntegrity := trivial

/-- The charge for a letter leaves the letter and its rows. -/
theorem chargeForLetter_preserves (job : Job) (result : GeneratedCoverLetter) :
    (chargeForLetter job result).Preserves
      fun s : Store coverAI => letterTables s.db :=
  preserves_of_within (chargeForLetter_within chargeFootprint_permits job
    result) (fun _ => trivial) (fun _ hw s => hw s.db) (fun _ _ _ => rfl)
    (fun _ _ _ => rfl)

/-- A call that raises has stored no letter. -/
theorem GenerationEnds.letters_of_error {job : Job} {now : Instant}
    {s t : Store coverAI} {e : Exc}
    (h : GenerationEnds env clients job now s (.error e) t) :
    t.db.coverLetters = s.db.coverLetters := by
  cases h with
  | early hview _ => exact congrArg GenerationView.coverLetters hview
  | @raised _ _ requestId v hbinds hview _ =>
      have hletters := congrArg GenerationView.coverLetters hview
      have hbound : v.coverLetters = s.db.coverLetters := by
        cases hbinds with
        | existing _ _ _ => rfl
        | created _ _ _ _ _ _ => rfl
      rw [← hbound]
      refine hletters.trans ?_
      unfold GenerationView.afterError
      split
      · rfl
      · rfl

theorem generationSession_letters {s : Store coverAI}
    (hs : Linked env jobs s) (hparser : env.ParsesIds)
    (hmatch : clients.AnswersMatch) (hpositive : clients.EmployersPositive)
    {job : Job} (hjob : job ∈ jobs ∨ job.generationRequestId = none)
    (now : Instant) :
    (generationSession env clients job now).Exits
      (fun _ s' => NewLettersPlaced env job.vacancyUrl s.db s'.db) s := by
  have hends : (generateForJob env clients job now).Exits
      (GenerationEnds env clients job now s) s := generateForJob_exits
  have hwrites : (generateForJob env clients job now).Ensures
      (fun written s' => exists tone source, WritesLetter env clients job.userId
        job.vacancyUrl tone job.generationRequestId now s source written s')
      s := generateForJob_ensures
  unfold generationSession
  simp only [bind_eq]
  rw [exits_bind, exits_tryCatch, exits_bind, Exits]
  rcases hrun : (generateForJob env clients job now).run s with ⟨res, t⟩
  cases res with
  | error e =>
      have hsame := (exits_of_run hends hrun).letters_of_error
      have hkept := @newLettersPlaced_of_same env job.vacancyUrl _ _ hsame
      change ((keepError job e).bind fun kept => ret (Sum.inr kept)).Exits _ t
      rw [exits_bind]
      apply exits_keepError
      · exact fun _ _ => hkept
      · exact fun _ _ => hkept
      · exact fun _ _ => hkept
  | ok written =>
      rcases ensures_of_run hwrites hrun with ⟨tone, source, hwritten⟩
      have hplaced := hwritten.placed hs hparser hmatch hpositive hjob
      change Exits (chargeForLetter job written)
        (fun _ s' => NewLettersPlaced env job.vacancyUrl s.db s'.db) t
      apply exits_of_preserves (chargeForLetter_preserves job written)
      intro s' hframe
      have hletters : s'.db.coverLetters = t.db.coverLetters :=
        congrArg Prod.fst hframe
      have hrows := congrArg Prod.snd hframe
      exact newLettersPlaced_of_insert (hletters.trans hwritten.letters)
        (hplaced.of_frame (congrArg Prod.fst hrows) (congrArg Prod.snd hrows))

end Executions

/-!
# Runs
-/

/-- A call of the queue service, or one execution of a job by the worker. -/
inductive QueueEvent where
  | enqueue (held : Option User) (userId : Int) (vacancyUrl : String)
      (tone : Tone) (now : Instant)
  | execute (clients : Clients) (job : Job) (now : Instant)

namespace QueueEvent

def session (env : Env) : QueueEvent -> Session Unit
  | enqueue held userId vacancyUrl tone now =>
      (enqueueGeneration env held userId vacancyUrl tone now).void
  | execute clients job now => (generationSession env clients job now).void

def after (env : Env) (event : QueueEvent) (s : Store coverAI) :
    Store coverAI :=
  ((event.session env).transact s).2

/-- The worker gets a job of the queue, or one without a request, and hh.ru
answers what it is asked. -/
def Admitted (s : Store coverAI) : QueueEvent -> Prop
  | enqueue _ _ _ _ _ => True
  | execute clients job _ =>
      (job ∈ s.out ∨ job.generationRequestId = none) ∧
        clients.AnswersMatch ∧ clients.EmployersPositive

/-- The link of the job that is executed. -/
def executedUrl : QueueEvent -> Option String
  | enqueue _ _ _ _ _ => none
  | execute _ job _ => some job.vacancyUrl

end QueueEvent

/-- The stores that can be reached. -/
inductive QueueRun (env : Env) (start : Store coverAI) :
    Store coverAI -> Prop where
  | start : QueueRun env start start
  | step {s : Store coverAI} (event : QueueEvent)
      (hrun : QueueRun env start s) (hadm : event.Admitted s) :
      QueueRun env start (event.after env s)

section Runs

variable {env : Env} {start s : Store coverAI}

theorem Linked.enqueue (hs : Linked env s.out s) (hparser : env.ParsesIds)
    (held : Option User) (userId : Int) (vacancyUrl : String) (tone : Tone)
    (now : Instant) :
    let s' := ((enqueueGeneration env held userId vacancyUrl tone
      now).transact s).2
    Linked env s'.out s' ∧ s'.db.coverLetters = s.db.coverLetters := by
  have hlinks := (enqueueGeneration_links hs hparser held userId vacancyUrl tone
    now).right
  have hwrites := enqueueGeneration_ensures env held userId vacancyUrl tone now s
  have hadvances := run_advances
    (enqueueGeneration env held userId vacancyUrl tone now) s
  rcases hrun : (enqueueGeneration env held userId vacancyUrl tone now).run s
    with ⟨res, s'⟩
  have hjobs := exits_of_run hlinks hrun
  rw [hrun] at hadvances
  cases res with
  | ok created =>
      rw [transact_of_ok hrun]
      have hview := (ensures_of_run hwrites hrun).view
      exact ⟨hjobs.left, congrArg GenerationView.coverLetters hview⟩
  | error e =>
      rw [transact_of_error hrun]
      have hout := hjobs.right e rfl
      have hback := hs.of_rollback hout hadvances
      rw [← hout] at hback
      exact ⟨hback, rfl⟩

theorem Linked.execute (hs : Linked env s.out s) {clients : Clients}
    (hmatch : clients.AnswersMatch) (hpositive : clients.EmployersPositive)
    (job : Job) (now : Instant) :
    let s' := ((generationSession env clients job now).transact s).2
    Linked env s'.out s' := by
  have hupholds : (generationSession env clients job now).Upholds CreatesRow
      (Linked env s.out) := generationSession_linked hmatch hpositive job now
  have hlinked := hupholds.transact (fun _ _ ht ht' h =>
    ht.of_rollback ht'.out h) hs
  have hout := hlinked.out
  rw [← hout] at hlinked
  exact hlinked

/-- What one event keeps. -/
theorem Linked.after (hs : Linked env s.out s) (hparser : env.ParsesIds)
    {event : QueueEvent} (hadm : event.Admitted s) :
    Linked env (event.after env s).out (event.after env s) := by
  cases event with
  | enqueue held userId vacancyUrl tone now =>
      rw [QueueEvent.after, QueueEvent.session, transact_void]
      exact (hs.enqueue hparser held userId vacancyUrl tone now).left
  | execute clients job now =>
      rw [QueueEvent.after, QueueEvent.session, transact_void]
      exact hs.execute hadm.right.left hadm.right.right job now

theorem QueueRun.linked (h : QueueRun env start s) (hparser : env.ParsesIds)
    (hempty : NoVacancies start.db) (hqueue : start.out = []) :
    Linked env s.out s := by
  induction h with
  | start =>
      refine ⟨placed_start hempty, rfl, ?_⟩
      rw [hqueue]
      exact fun _ hjob => nomatch hjob
  | step event hrun hadm ih => exact ih.after hparser hadm

end Runs

/-- In every run from empty tables and an empty queue no new row of an employer
or a vacancy is ever refused, and every letter is in place when it is stored. -/
theorem letters_refer_to_their_vacancies {env : Env} {lib : UrlLibrary}
    (hparser : env.parseHhVacancyId = parseHhVacancyId lib)
    {start : Store coverAI} (hempty : NoVacancies start.db)
    (hqueue : start.out = []) {s : Store coverAI}
    (hrun : QueueRun env start s) {event : QueueEvent}
    (hadm : event.Admitted s) :
    (event.session env).Accepts CreatesRow s ∧
      forall id letter,
        (event.after env s).db.coverLetters.get id = some letter ->
          s.db.coverLetters.get id = some letter ∨
            exists vacancyUrl v e, event.executedUrl = some vacancyUrl ∧
              LetterPlaced env vacancyUrl letter v e
                (event.after env s).db := by
  have hids := parsesIds_of_source hparser
  have hlinked := hrun.linked hids hempty hqueue
  cases event with
  | enqueue held userId vacancyUrl tone now =>
      constructor
      · exact accepts_void (enqueueGeneration_links hlinked hids held userId
          vacancyUrl tone now).left
      · intro id letter hget
        rw [QueueEvent.after, QueueEvent.session, transact_void,
          (hlinked.enqueue hids held userId vacancyUrl tone now).right] at hget
        exact Or.inl hget
  | execute clients job now =>
      rcases hadm with ⟨hjob, hmatch, hpositive⟩
      constructor
      · exact accepts_void
          (generationSession_linked hmatch hpositive job now s hlinked).left
      · intro id letter hget
        rw [QueueEvent.after, QueueEvent.session, transact_void] at hget ⊢
        have hletters := generationSession_letters hlinked hids hmatch
          hpositive hjob now
        rcases exits_transact hletters with ⟨r, s', htransact, hplaced⟩ |
          ⟨e, s', htransact, _⟩
        · rw [htransact] at hget ⊢
          rcases hplaced id letter hget with hold | ⟨v, e, hnew⟩
          · exact Or.inl hold
          · exact Or.inr ⟨job.vacancyUrl, v, e, rfl, hnew⟩
        · rw [htransact] at hget
          exact Or.inl hget

/-!
# A queued letter
-/

def linkEnv : Env :=
  { sampleEnv with parseHhVacancyId := parseHhVacancyId asciiLibrary }

def vacancyLink : String :=
  "https://hh.ru/vacancy/123456?from=vacancy_search"

theorem vacancyLink_parsed : linkEnv.parseHhVacancyId vacancyLink =
    .ok 123456 :=
  rfl

def linkStart : QueueEvent :=
  .enqueue none 1 vacancyLink .formal 0

def linkJob : Job :=
  queuedJob 1 vacancyLink .formal 5 1

def linkEnd : QueueEvent :=
  .execute sampleClients linkJob 1

theorem sampleClients_positive : sampleClients.EmployersPositive := by
  intro hhId payload h
  cases h
  change (0 : Int) < 3
  decide

/-- The worker stores the letter under the row that was a placeholder. -/
theorem letters_refer_to_their_vacancies_queued :
    exists letter v e, LetterPlaced linkEnv vacancyLink letter v e
        (linkEnd.after linkEnv (linkStart.after linkEnv profileStore)).db ∧
      v.hhId = 123456 ∧ v.title = "Prover" ∧ e.hhId = 3 := by
  have hqueued : (linkStart.after linkEnv profileStore).out = [linkJob] := rfl
  have hadm : linkEnd.Admitted (linkStart.after linkEnv profileStore) := by
    refine ⟨Or.inl ?_, sampleClients_match, sampleClients_positive⟩
    rw [hqueued]
    exact List.mem_singleton.mpr rfl
  have hplaced := @letters_refer_to_their_vacancies linkEnv asciiLibrary rfl
    profileStore ⟨rfl, rfl⟩ rfl _ (.step linkStart .start trivial) _ hadm
  have hletter : exists letter, (linkEnd.after linkEnv
      (linkStart.after linkEnv profileStore)).db.coverLetters.get 1 =
        some letter ∧ letter.vacancyTitle = "Prover" ∧ letter.employerId = 2 :=
    ⟨_, rfl, rfl, rfl⟩
  rcases hletter with ⟨letter, hget, htitle, hemployer⟩
  rcases hplaced.right 1 letter hget with hold | ⟨url, v, e, hurl, h⟩
  · cases hold
  · cases hurl
    refine ⟨letter, v, e, h, ?_, ?_, ?_⟩
    · exact (Except.ok.inj (vacancyLink_parsed.symm.trans h.parsed)).symm
    · exact h.title.symm.trans htitle
    · have hrow := h.employer
      rw [hemployer] at hrow
      cases hrow
      rfl

end CoverAI
