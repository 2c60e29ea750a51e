import CoverAI.Generation.Placement
import CoverAI.Generation.PlaceholderRace
import CoverAI.Txn.Claims
import CoverAI.Txn.References

/-!
# Names of the rows a request inserts

A request inserts its own row, and for a vacancy that is not stored also two
placeholder rows.  The keys of the rows come from the sequences, and the hh ids
of the placeholders are free when the look-up does not find the vacancy.
-/

namespace CoverAI

open Txn Program

inductive QueueName where
  | row (table : SeqName) (id : Int)
  | employer (hhId : Int)
  | vacancy (hhId : Int)

def employerNames (id : Int) (e : Employer) : List QueueName :=
  [.row .employers id, .employer e.hhId]

def vacancyNames (id : Int) (v : Vacancy) : List QueueName :=
  [.row .vacancies id, .vacancy v.hhId]

def requestNames (id : Int) (_ : GenerationRequest) : List QueueName :=
  [.row .generationRequests id]

namespace Db

def HasName (db : Db) (x : QueueName) : Prop :=
  db.employers.Gives employerNames x ∨ db.vacancies.Gives vacancyNames x ∨
    db.generationRequests.Gives requestNames x

/-- The placeholder of an employer comes with the vacancy. -/
def PairsPlaceholders (db : Db) : Prop :=
  forall hhId, 0 ≤ hhId -> db.HasName (.employer (-hhId)) ->
    db.HasName (.vacancy hhId)

theorem hasName_employer_iff {db : Db} {hhId : Int} :
    db.HasName (.employer hhId) <->
      exists id e, db.employers.get id = some e ∧ e.hhId = hhId := by
  simp [HasName, Table.Gives, employerNames, vacancyNames, requestNames,
    eq_comm]

theorem hasName_vacancy_iff {db : Db} {hhId : Int} :
    db.HasName (.vacancy hhId) <->
      exists id v, db.vacancies.get id = some v ∧ v.hhId = hhId := by
  simp [HasName, Table.Gives, employerNames, vacancyNames, requestNames,
    eq_comm]

end Db

def queueClaims : Claims coverAI QueueName where
  Has := Db.HasName
  key := .row
  ok := Db.PairsPlaceholders
  key_inj := by
    intro t t' n n' h
    cases h
    exact ⟨rfl, rfl⟩

/-!
# Insertions
-/

section Insertions

variable {db : Db} {id : Int}

theorem get_eq_none_of_names {row : Type} {check : row -> Bool}
    {T : Table row check} {names : Int -> row -> List QueueName}
    {table : SeqName} (hnames : forall r, .row table id ∈ names id r)
    (h : ¬ T.Gives names (.row table id)) : T.get id = none := by
  cases hget : T.get id with
  | none => rfl
  | some r => exact absurd ⟨id, r, hget, hnames r⟩ h

theorem first?_eq_none_of_names {row : Type} {check : row -> Bool}
    {T : Table row check} {names : Int -> row -> List QueueName}
    {p : row -> Bool} {x : QueueName}
    (hnames : forall id r, p r = true -> x ∈ names id r)
    (h : ¬ T.Gives names x) : T.first? p = none := by
  cases hfound : T.first? p with
  | none => rfl
  | some entry =>
      have hproperty := Table.property_of_first? hfound
      exact absurd ⟨entry.1, entry.2, Table.get_of_first? hfound,
        hnames entry.1 entry.2 hproperty⟩ h

theorem insertEmployer_inserts (e : Employer) :
    queueClaims.Inserts [insertEmployer id e] {x | x ∈ employerNames id e} where
  goes := by
    intro db hfree
    have hkey : ¬ db.HasName (.row .employers id) :=
      hfree _ List.mem_cons_self
    have hhhId : ¬ db.HasName (.employer e.hhId) :=
      hfree _ (List.mem_cons_of_mem _ List.mem_cons_self)
    have hget : db.employers.get id = none :=
      get_eq_none_of_names (fun _ => List.mem_cons_self)
        fun h => hkey (Or.inl h)
    have hfirst : db.employers.first? (fun r => r.hhId = e.hhId) = none := by
      apply first?_eq_none_of_names (x := .employer e.hhId) _
        fun h => hhhId (Or.inl h)
      intro k r hr
      rw [← of_decide_eq_true hr]
      exact List.mem_cons_of_mem _ List.mem_cons_self
    have hviolation : (insertEmployer id e).violation db = none := by
      simp only [insertEmployer, hfirst, if_true]
      exact violation_insertInto.mpr ⟨hget, rfl⟩
    exact ⟨_, Write.attempt_cons_of_none hviolation []⟩
  adds := by
    intro db x h
    rcases h with hemployer | hother
    · rcases Table.gives_of_gives_insert hemployer with hold | hnew
      · exact Or.inl (Or.inl hold)
      · exact Or.inr hnew
    · exact Or.inl (Or.inr hother)

theorem insertVacancy_inserts (v : Vacancy) :
    queueClaims.Inserts [insertVacancy id v] {x | x ∈ vacancyNames id v} where
  goes := by
    intro db hfree
    have hkey : ¬ db.HasName (.row .vacancies id) :=
      hfree _ List.mem_cons_self
    have hhhId : ¬ db.HasName (.vacancy v.hhId) :=
      hfree _ (List.mem_cons_of_mem _ List.mem_cons_self)
    have hget : db.vacancies.get id = none :=
      get_eq_none_of_names (fun _ => List.mem_cons_self)
        fun h => hkey (Or.inr (Or.inl h))
    have hfirst : db.vacancies.first? (fun r => r.hhId = v.hhId) = none := by
      apply first?_eq_none_of_names (x := .vacancy v.hhId) _
        fun h => hhhId (Or.inr (Or.inl h))
      intro k r hr
      rw [← of_decide_eq_true hr]
      exact List.mem_cons_of_mem _ List.mem_cons_self
    have hviolation : (insertVacancy id v).violation db = none := by
      simp only [insertVacancy, hfirst, if_true]
      exact violation_insertInto.mpr ⟨hget, rfl⟩
    exact ⟨_, Write.attempt_cons_of_none hviolation []⟩
  adds := by
    intro db x h
    rcases h with hemployer | hvacancy | hrequest
    · exact Or.inl (Or.inl hemployer)
    · rcases Table.gives_of_gives_insert hvacancy with hold | hnew
      · exact Or.inl (Or.inr (Or.inl hold))
      · exact Or.inr hnew
    · exact Or.inl (Or.inr (Or.inr hrequest))

theorem insertGenerationRequest_inserts (request : GenerationRequest) :
    queueClaims.Inserts [insertGenerationRequest id request]
      {x | x ∈ requestNames id request} where
  goes := by
    intro db hfree
    have hkey : ¬ db.HasName (.row .generationRequests id) :=
      hfree _ List.mem_cons_self
    have hget : db.generationRequests.get id = none :=
      get_eq_none_of_names (fun _ => List.mem_cons_self)
        fun h => hkey (Or.inr (Or.inr h))
    have hviolation : (insertGenerationRequest id request).violation db = none :=
      violation_insertInto.mpr ⟨hget, rfl⟩
    exact ⟨_, Write.attempt_cons_of_none hviolation []⟩
  adds := by
    intro db x h
    rcases h with hemployer | hvacancy | hrequest
    · exact Or.inl (Or.inl hemployer)
    · exact Or.inl (Or.inr (Or.inl hvacancy))
    · rcases Table.gives_of_gives_insert hrequest with hold | hnew
      · exact Or.inl (Or.inr (Or.inr hold))
      · exact Or.inr hnew

end Insertions

/-!
# Placeholders
-/

section Placeholders

variable {db : Db} {id : Int}

/-- A request has none of the names that placeholders have. -/
theorem Db.PairsPlaceholders.insertRequest (h : db.PairsPlaceholders)
    (request : GenerationRequest) :
    ((insertGenerationRequest id request).apply db).PairsPlaceholders := by
  intro hhId hnonneg hemployer
  rw [Db.hasName_employer_iff] at hemployer
  rw [Db.hasName_vacancy_iff]
  have hvacancy := Db.hasName_vacancy_iff.mp
    (h hhId hnonneg (Db.hasName_employer_iff.mpr hemployer))
  exact hvacancy

/-- Both placeholders are inserted together. -/
theorem Db.PairsPlaceholders.insertBoth (h : db.PairsPlaceholders)
    {employerId vacancyId hhId : Int} {e : Employer} {v : Vacancy}
    (he : e.hhId = -hhId) (hv : v.hhId = hhId)
    (hfree : db.vacancies.get vacancyId = none) :
    ((insertVacancy vacancyId v).apply
      ((insertEmployer employerId e).apply db)).PairsPlaceholders := by
  intro hhId' hnonneg hemployer
  rw [Db.hasName_employer_iff] at hemployer
  rw [Db.hasName_vacancy_iff]
  change exists k u, (db.vacancies.insert vacancyId v).get k = some u ∧
    u.hhId = hhId'
  change exists k r, (db.employers.insert employerId e).get k = some r ∧
    r.hhId = -hhId' at hemployer
  rcases hemployer with ⟨k, r, hget, hr⟩
  rw [Table.get_insert] at hget
  split at hget
  · cases hget
    refine ⟨vacancyId, v, Table.get_insert_self hfree rfl, ?_⟩
    omega
  · rcases Db.hasName_vacancy_iff.mp (h hhId' hnonneg
      (Db.hasName_employer_iff.mpr ⟨k, r, hget, hr⟩)) with ⟨n, u, hu, hhh⟩
    exact ⟨n, u, Table.get_insert_of_some hu vacancyId v, hhh⟩

theorem hasName_of_stored {hhId : Int}
    (h : db.vacancies.first? (fun v => v.hhId = hhId) ≠ none) :
    db.HasName (.vacancy hhId) := by
  rcases Option.ne_none_iff_exists'.mp h with ⟨entry, hfound⟩
  have hproperty := Table.property_of_first? hfound
  exact Db.hasName_vacancy_iff.mpr ⟨entry.1, entry.2,
    Table.get_of_first? hfound, of_decide_eq_true hproperty⟩

theorem Placed.pairsPlaceholders {s : Store coverAI} (h : Placed s) :
    s.db.PairsPlaceholders := by
  intro hhId hnonneg hemployer
  rw [Db.hasName_employer_iff] at hemployer
  rw [Db.hasName_vacancy_iff]
  rcases hemployer with ⟨id, e, hget, he⟩
  rcases h.employers id e hget with hpositive | ⟨_, k, v, hv, hhh⟩
  · omega
  · refine ⟨k, v, hv, ?_⟩
    omega

end Placeholders

/-!
# The look-up and what follows
-/

/-- The names of the placeholders of a vacancy. -/
def placeholderNames (hhId : Int) : Set QueueName :=
  {.employer (-hhId), .vacancy hhId}

section Queueing

variable {done : List (Write coverAI)} {h : Held QueueName}

/-- The session has written a database that pairs its placeholders. -/
def KeepsPairs (done : List (Write coverAI)) (h : Held QueueName) : Prop :=
  forall db, Db.PairsPlaceholders db ->
    (forall x, x ∈ h.spent -> ¬ Db.HasName db x) ->
    Db.PairsPlaceholders (Write.applyAll done db)

theorem queueRequest_sure (hpairs : KeepsPairs done h)
    (request : GenerationRequest) (job : Int -> Job) :
    queueClaims.Sure done h ((createGenerationRequest request).bind
      fun created => (send (job created.1)).bind fun _ => ret created) := by
  simp only [createGenerationRequest, bind_eq, Program.bind_assoc, pure_eq,
    ret_bind]
  apply Claims.sure_draw_bind
  intro n
  refine Claims.sure_flushUnit_bind {x | x ∈ requestNames n request} ?_
    (insertGenerationRequest_inserts request) ?_
  · intro x hx
    exact Or.inl (List.mem_singleton.mp hx)
  · intro db hok hfree
    have hbefore := hpairs db hok fun x hx => hfree x (Or.inl hx)
    rw [Write.applyAll, List.foldl_append]
    exact hbefore.insertRequest request

/-- The placeholders and the request of a vacancy that is not stored. -/
theorem queuePlaceholder_sure {hhId : Int} (vacancyUrl : String)
    (request : Int × Vacancy -> GenerationRequest) (job : Int -> Job) :
    queueClaims.Sure [] (Held.none.claim (placeholderNames hhId))
      ((createEmployer (placeholderEmployer hhId)).bind fun employer =>
        (createVacancy (placeholderVacancy hhId employer.1 vacancyUrl)).bind
          fun found => (createGenerationRequest (request found)).bind
            fun created => (send (job created.1)).bind fun _ => ret created) := by
  simp only [createEmployer, createVacancy, bind_eq, Program.bind_assoc,
    pure_eq, ret_bind]
  apply Claims.sure_draw_bind
  intro employerId
  refine Claims.sure_flushUnit_bind
    {x | x ∈ employerNames employerId (placeholderEmployer hhId)} ?_
    (insertEmployer_inserts _) ?_
  · intro x hx
    rcases List.mem_cons.mp hx with hkey | hrest
    · exact Or.inl hkey
    · exact Or.inr (Or.inl (Or.inl (List.mem_singleton.mp hrest)))
  · apply Claims.sure_draw_bind
    intro vacancyId
    refine Claims.sure_flushUnit_bind
      {x | x ∈ vacancyNames vacancyId
        (placeholderVacancy hhId employerId vacancyUrl)} ?_
      (insertVacancy_inserts _) ?_
    · intro x hx
      rcases List.mem_cons.mp hx with hkey | hrest
      · exact Or.inl hkey
      · have hx : x = .vacancy hhId := List.mem_singleton.mp hrest
        refine Or.inr ⟨Or.inr (Or.inl (Or.inr hx)), ?_⟩
        intro hused
        rw [hx] at hused
        rcases List.mem_cons.mp hused with hkey | hemployer
        · cases hkey
        · cases List.mem_singleton.mp hemployer
    · apply queueRequest_sure
      intro db hok hfree
      have hkey : db.vacancies.get vacancyId = none := by
        have hnone :
            ¬ db.vacancies.Gives vacancyNames (.row .vacancies vacancyId) := by
          intro hgives
          exact hfree _ (Or.inr List.mem_cons_self) (Or.inr (Or.inl hgives))
        exact get_eq_none_of_names (fun _ => List.mem_cons_self) hnone
      exact hok.insertBoth rfl rfl hkey

theorem createAndQueue_looksUp (env : Env) (userId profileId : Int)
    {hhId : Int} (hhhId : 0 ≤ hhId) (profile : ResumeProfile)
    (vacancyUrl : String) (tone : Tone) (now : Instant) :
    queueClaims.LooksUp (placeholderNames hhId)
      (createAndQueue env userId profileId hhId profile vacancyUrl tone
        now) := by
  unfold createAndQueue getOrCreatePlaceholderVacancy
  simp only [bind_eq, Program.bind_assoc]
  apply Claims.looksUp_ask_bind
  · intro found
    cases found with
    | some existing =>
        refine noReads_bind trivial fun _ => ?_
        exact noReads_bind (createGenerationRequest_noReads _) fun _ => trivial
    | none =>
        refine noReads_bind ?_ fun _ =>
          noReads_bind (createGenerationRequest_noReads _) fun _ => trivial
        exact noReads_bind (createEmployer_noReads _) fun _ =>
          createVacancy_noReads _
  · intro db hok
    cases hfound : db.vacancies.first? (fun v => decide (v.hhId = hhId)) with
    | some entry =>
        left
        refine queueRequest_sure ?_ _ _
        exact fun _ hpairs _ => hpairs
    | none =>
        right
        have hvacancy : ¬ db.HasName (.vacancy hhId) := by
          intro hname
          rcases Db.hasName_vacancy_iff.mp hname with ⟨id, v, hget, hv⟩
          have hne := Table.property_of_first?_none hfound hget
          exact of_decide_eq_false hne hv
        constructor
        · intro x hx
          rcases hx with rfl | rfl
          · exact fun hname => hvacancy (hok hhId hhhId hname)
          · exact hvacancy
        · simp only [Program.bind_assoc]
          exact queuePlaceholder_sure vacancyUrl _ _

end Queueing

/-!
# The session
-/

/-- The placeholders of the link. -/
def linkNames (env : Env) (vacancyUrl : String) : Set QueueName :=
  match env.parseHhVacancyId vacancyUrl with
  | .ok hhId => placeholderNames hhId
  | .error _ => ∅

theorem linkNames_of_ok {env : Env} {vacancyUrl : String} {hhId : Int}
    (h : env.parseHhVacancyId vacancyUrl = .ok hhId) :
    linkNames env vacancyUrl = placeholderNames hhId := by
  unfold linkNames
  rw [h]

theorem linkNames_of_error {env : Env} {vacancyUrl : String} {e : Exc}
    (h : env.parseHhVacancyId vacancyUrl = .error e) :
    linkNames env vacancyUrl = ∅ := by
  unfold linkNames
  rw [h]

theorem placeholderNames_inj {hhId hhId' : Int} {x : QueueName}
    (h : x ∈ placeholderNames hhId) (h' : x ∈ placeholderNames hhId') :
    hhId = hhId' := by
  rcases h with rfl | rfl
  · rcases h' with heq | heq
    · exact Int.neg_inj.mp (QueueName.employer.inj heq)
    · cases heq
  · rcases h' with heq | heq
    · cases heq
    · exact QueueName.vacancy.inj heq

theorem row_not_mem_linkNames (env : Env) (vacancyUrl : String)
    (table : SeqName) (id : Int) :
    .row table id ∉ linkNames env vacancyUrl := by
  unfold linkNames
  intro h
  split at h
  · rcases h with heq | heq
    · cases heq
    · cases heq
  · exact h

theorem QueueReady.names_below {s : Store coverAI} (h : QueueReady s)
    (table : SeqName) (id : Int) (hname : s.db.HasName (.row table id)) :
    id < s.seq table := by
  rcases hname with ⟨k, e, hget, hx⟩ | ⟨k, v, hget, hx⟩ | ⟨k, r, hget, hx⟩
  · simp only [employerNames, List.mem_cons, QueueName.row.injEq, reduceCtorEq,
      List.not_mem_nil, or_false] at hx
    rcases hx with ⟨rfl, rfl⟩
    exact h.placed.keys.employers _ _ hget
  · simp only [vacancyNames, List.mem_cons, QueueName.row.injEq, reduceCtorEq,
      List.not_mem_nil, or_false] at hx
    rcases hx with ⟨rfl, rfl⟩
    exact h.placed.keys.vacancies _ _ hget
  · cases List.mem_singleton.mp hx
    exact h.requests _ _ hget

/-- No row was taken, or the link could not be read. -/
def RaisedBefore (env : Env) (vacancyUrl : String) (e : Exc) : Prop :=
  e ≠ .integrityError ∨
    exists e', env.parseHhVacancyId vacancyUrl = .error e'

section Session

variable {env : Env} {userId : Int} {vacancyUrl : String} {tone : Tone}
  {now : Instant}

theorem raisedBefore_generationError {e : Exc}
    (h : RaisedBefore env vacancyUrl e) :
    RaisedBefore env vacancyUrl (generationError e) := by
  rcases h with hne | hparse
  · left
    intro heq
    cases e with
    | integrityError => exact hne rfl
    | _ => cases heq
  · exact Or.inr hparse

theorem ensureCanGenerate_checks (user : User) :
    Claims.Checks (S := coverAI) (RaisedBefore env vacancyUrl) (fun _ => True)
      (ensureCanGenerate (some user) userId now) := by
  refine Claims.checks_bind (P := fun _ => True) ?_ ?_
  · apply Claims.checks_ask_bind
    intro subscription
    cases (planLimits user.plan).limit with
    | none => exact .ret trivial
    | some limit => exact Claims.checks_ask_bind fun _ => .ret trivial
  · intro usage _
    cases usage.isExhausted with
    | true => exact .raise (Or.inl fun h => nomatch h)
    | false => exact .ret trivial

theorem enqueueChecks_checks (user : User) :
    Claims.Checks (S := coverAI) (RaisedBefore env vacancyUrl)
      (fun found => env.parseHhVacancyId vacancyUrl = .ok found.2.2)
      (enqueueChecks env (some user) userId vacancyUrl tone now) := by
  apply Claims.checks_ask_bind
  intro found
  cases found with
  | none => exact .raise (Or.inl fun h => nomatch h)
  | some entry =>
      simp only
      split
      · exact .raise (Or.inl fun h => nomatch h)
      · split
        · exact .raise (Or.inl fun h => nomatch h)
        · cases hparse : env.parseHhVacancyId vacancyUrl with
          | error e => exact .raise (Or.inr ⟨e, hparse⟩)
          | ok hhId =>
              simp only [ofExcept, bind_eq, ret_bind]
              exact Claims.checks_bind (ensureCanGenerate_checks user)
                fun _ _ => .ret rfl

theorem createGeneration_approaches (hids : env.ParsesIds) :
    queueClaims.Approaches (RaisedBefore env vacancyUrl)
      (linkNames env vacancyUrl)
      (createGeneration env userId vacancyUrl tone now) := by
  refine Claims.approaches_bind (P := fun _ => True) ?_ ?_
  · apply Claims.checks_ask_bind
    intro found
    cases found with
    | none => exact .raise (Or.inl fun h => nomatch h)
    | some user => exact .ret trivial
  · intro user _
    apply Claims.Approaches.map
    apply Claims.Approaches.tryCatch _ fun _ he =>
      raisedBefore_generationError he
    apply Claims.approaches_bind (enqueueChecks_checks user)
    intro checked hparse
    apply Claims.Approaches.looks
    rw [linkNames_of_ok hparse]
    exact createAndQueue_looksUp env userId checked.1 (hids _ _ hparse)
      checked.2.1 vacancyUrl tone now

end Session
end CoverAI
