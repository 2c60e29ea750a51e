import CoverAI.Generation.Enqueue
import CoverAI.Services.Profile
import CoverAI.Txn.Relational

/-!
# What does not depend on a resume text

A queued request holds its own copy of the resume text.  Two databases that
differ only in the live text of the user, and in the copies of the user's other
requests, cannot be told apart by the queue service, by the vacancy service and
by the work on the queued request.
-/

namespace CoverAI

open Txn Program

/-!
# The snapshot of a queued request
-/

/-- The row writes of the application. -/
inductive RowWrite : Write coverAI -> Prop where
  | insertUser (id : Int) (r : User) : RowWrite (CoverAI.insertUser id r)
  | updateUser (id : Int) (loaded edited : User) :
      RowWrite (CoverAI.updateUser id loaded edited)
  | insertResumeProfile (id : Int) (r : ResumeProfile) :
      RowWrite (CoverAI.insertResumeProfile id r)
  | updateResumeProfile (id : Int) (loaded edited : ResumeProfile) :
      RowWrite (CoverAI.updateResumeProfile id loaded edited)
  | vacancy {w : Write coverAI} (h : VacancyWrite w) : RowWrite w
  | insertGenerationRequest (id : Int) (r : GenerationRequest) :
      RowWrite (CoverAI.insertGenerationRequest id r)
  | updateGenerationRequest (id : Int) (loaded edited : GenerationRequest) :
      RowWrite (CoverAI.updateGenerationRequest id loaded edited)
  | insertCoverLetter (id : Int) (r : CoverLetter) :
      RowWrite (CoverAI.insertCoverLetter id r)
  | insertSubscription (id : Int) (r : Subscription) :
      RowWrite (CoverAI.insertSubscription id r)
  | updateSubscription (id : Int) (loaded edited : Subscription) :
      RowWrite (CoverAI.updateSubscription id loaded edited)
  | insertCreditTransaction (t : CreditTransaction) :
      RowWrite (CoverAI.insertCreditTransaction t)
  | insertPaymentIntent (id : Int) (r : PaymentIntent) :
      RowWrite (CoverAI.insertPaymentIntent id r)
  | updatePaymentIntent (id : Int) (loaded edited : PaymentIntent) :
      RowWrite (CoverAI.updatePaymentIntent id loaded edited)
  | insertPromoCode (id : Int) (r : PromoCode) :
      RowWrite (CoverAI.insertPromoCode id r)
  | updatePromoCode (id : Int) (loaded edited : PromoCode) :
      RowWrite (CoverAI.updatePromoCode id loaded edited)
  | insertPromoRedemption (r : PromoRedemption) :
      RowWrite (CoverAI.insertPromoRedemption r)

/-- The writes to requests and to the rows they refer to. -/
inductive RequestWrite : Write coverAI -> Prop where
  | insertResumeProfile (id : Int) (r : ResumeProfile) :
      RequestWrite (CoverAI.insertResumeProfile id r)
  | updateResumeProfile (id : Int) (loaded edited : ResumeProfile) :
      RequestWrite (CoverAI.updateResumeProfile id loaded edited)
  | insertGenerationRequest (id : Int) (r : GenerationRequest) :
      RequestWrite (CoverAI.insertGenerationRequest id r)
  | updateGenerationRequest (id : Int) (loaded edited : GenerationRequest) :
      RequestWrite (CoverAI.updateGenerationRequest id loaded edited)
  | insertVacancy (id : Int) (r : Vacancy) :
      RequestWrite (CoverAI.insertVacancy id r)
  | updateVacancy (id : Int) (loaded edited : Vacancy) :
      RequestWrite (CoverAI.updateVacancy id loaded edited)

def requestTables (db : Db) :
    Table GenerationRequest noChecks × Table ResumeProfile noChecks ×
      Table Vacancy noChecks :=
  (db.generationRequests, db.resumeProfiles, db.vacancies)

theorem RowWrite.requestWrite_or {w : Write coverAI} (hw : RowWrite w) :
    RequestWrite w ∨
      forall db, requestTables (w.apply db) = requestTables db := by
  cases hw with
  | insertResumeProfile id r => exact Or.inl (.insertResumeProfile id r)
  | updateResumeProfile id loaded edited =>
      exact Or.inl (.updateResumeProfile id loaded edited)
  | insertGenerationRequest id r =>
      exact Or.inl (.insertGenerationRequest id r)
  | updateGenerationRequest id loaded edited =>
      exact Or.inl (.updateGenerationRequest id loaded edited)
  | vacancy hvacancy =>
      cases hvacancy with
      | insertEmployer id r => exact Or.inr fun _ => rfl
      | updateEmployer id loaded edited => exact Or.inr fun _ => rfl
      | insertVacancy id r => exact Or.inl (.insertVacancy id r)
      | updateVacancy id loaded edited =>
          exact Or.inl (.updateVacancy id loaded edited)
  | insertUser id r => exact Or.inr fun _ => rfl
  | updateUser id loaded edited => exact Or.inr fun _ => rfl
  | insertCoverLetter id r => exact Or.inr fun _ => rfl
  | insertSubscription id r => exact Or.inr fun _ => rfl
  | updateSubscription id loaded edited => exact Or.inr fun _ => rfl
  | insertCreditTransaction t => exact Or.inr fun _ => rfl
  | insertPaymentIntent id r => exact Or.inr fun _ => rfl
  | updatePaymentIntent id loaded edited => exact Or.inr fun _ => rfl
  | insertPromoCode id r => exact Or.inr fun _ => rfl
  | updatePromoCode id loaded edited => exact Or.inr fun _ => rfl
  | insertPromoRedemption r => exact Or.inr fun _ => rfl

/-- What a queued request fixes for the worker. -/
structure Snapshot where
  userId : Int
  requestId : Int
  profileId : Int
  title : String
  text : String
  tone : Tone

namespace Snapshot

structure HeldBy (q : Snapshot) (r : GenerationRequest) : Prop where
  owner : r.userId = q.userId
  profile : r.profileId = q.profileId
  text : r.snapshotProfileText = some q.text
  tone : r.snapshotTone = some q.tone

/-- The request is stored with the snapshot, and the user has a profile. -/
structure Held (q : Snapshot) (db : Db) : Prop where
  request : exists r, db.generationRequests.get q.requestId = some r ∧ q.HeldBy r
  profile : exists id p,
    db.resumeProfiles.first? (fun p => p.userId = q.userId) = some (id, p) ∧
      p.title = q.title

variable {q : Snapshot} {db : Db}

theorem Held.of_frame {db' : Db} (h : q.Held db)
    (hrequests : db'.generationRequests = db.generationRequests)
    (hprofiles : db'.resumeProfiles = db.resumeProfiles) : q.Held db' := by
  constructor
  · rw [hrequests]
    exact h.request
  · rw [hprofiles]
    exact h.profile

theorem Held.insertProfile (h : q.Held db) (id : Int) (p : ResumeProfile) :
    q.Held ((insertResumeProfile id p).apply db) := by
  refine ⟨h.request, ?_⟩
  rcases h.profile with ⟨profileId, old, hfirst, htitle⟩
  refine ⟨profileId, old, ?_, htitle⟩
  exact Table.first?_insert_of_some hfirst id p

theorem Held.updateProfile (h : q.Held db) (id : Int)
    (loaded edited : ResumeProfile) :
    q.Held ((updateResumeProfile id loaded edited).apply db) := by
  refine ⟨h.request, ?_⟩
  rcases h.profile with ⟨profileId, old, hfirst, htitle⟩
  have hmodified := Table.first?_modify db.resumeProfiles id
    (f := ResumeProfile.write loaded edited)
    (p := fun p => p.userId = q.userId) fun _ => rfl
  rw [hfirst, Option.map_some] at hmodified
  have hkept : (Table.modifyEntry noChecks id
      (ResumeProfile.write loaded edited) (profileId, old)).2.title =
        q.title := by
    unfold Table.modifyEntry
    split
    · exact htitle
    · exact htitle
  exact ⟨_, _, hmodified, hkept⟩

theorem Held.insertRequest (h : q.Held db) (id : Int) (r : GenerationRequest) :
    q.Held ((insertGenerationRequest id r).apply db) := by
  refine ⟨?_, h.profile⟩
  rcases h.request with ⟨old, hget, hold⟩
  exact ⟨old, Table.get_insert_of_some hget id r, hold⟩

theorem Held.updateRequest (h : q.Held db) (id : Int)
    (loaded edited : GenerationRequest) :
    q.Held ((updateGenerationRequest id loaded edited).apply db) := by
  refine ⟨?_, h.profile⟩
  rcases h.request with ⟨old, hget, hold⟩
  rcases Table.get_modify_column (f := GenerationRequest.write loaded edited)
    (fun r => (r.userId, r.profileId, r.snapshotProfileText, r.snapshotTone))
    (fun _ => rfl) hget with ⟨kept, hkept, hcolumns⟩
  simp only [Prod.mk.injEq] at hcolumns
  rcases hcolumns with ⟨howner, hprofile, htext, htone⟩
  exact ⟨kept, hkept, howner.trans hold.owner, hprofile.trans hold.profile,
    htext.trans hold.text, htone.trans hold.tone⟩

/-- No row write takes the snapshot away. -/
theorem Held.apply (h : q.Held db) {w : Write coverAI} (hw : RowWrite w) :
    q.Held (w.apply db) := by
  rcases hw.requestWrite_or with hrequest | hframe
  · cases hrequest with
    | insertResumeProfile id r => exact h.insertProfile id r
    | updateResumeProfile id loaded edited =>
        exact h.updateProfile id loaded edited
    | insertGenerationRequest id r => exact h.insertRequest id r
    | updateGenerationRequest id loaded edited =>
        exact h.updateRequest id loaded edited
    | insertVacancy id r => exact h.of_frame rfl rfl
    | updateVacancy id loaded edited => exact h.of_frame rfl rfl
  · have htables := hframe db
    exact h.of_frame (congrArg Prod.fst htables)
      (congrArg (fun tables => tables.2.1) htables)

end Snapshot

/-!
# Databases that differ in the resume text
-/

def ProfileAlike (userId : Int) (_ : Int) (p p' : ResumeProfile) : Prop :=
  p' = { p with resumeText := p'.resumeText } ∧ (p.userId ≠ userId -> p = p')

def RequestAlike (userId : Int) (ids : Set Int) (id : Int)
    (r r' : GenerationRequest) : Prop :=
  r' = { r with snapshotProfileText := r'.snapshotProfileText } ∧
    (r.userId ≠ userId ∨ id ∈ ids -> r = r')

/-- The tables a resume text is not copied to before a letter is written. -/
def outsideResume (db : Db) : Db :=
  { db with
    resumeProfiles := Table.empty
    generationRequests := Table.empty }

/-- Some requests of the user hold their snapshots. -/
structure SnapshotsHeld (userId : Int) (ids : Set Int) (db : Db) : Prop where
  nonempty : ids.Nonempty
  held : forall id, id ∈ ids -> exists q : Snapshot,
    q.userId = userId ∧ q.requestId = id ∧ q.Held db

theorem SnapshotsHeld.apply {userId : Int} {ids : Set Int} {db : Db}
    (h : SnapshotsHeld userId ids db) {w : Write coverAI} (hw : RowWrite w) :
    SnapshotsHeld userId ids (w.apply db) := by
  refine ⟨h.nonempty, ?_⟩
  intro id hid
  rcases h.held id hid with ⟨q, howner, hrequest, hheld⟩
  exact ⟨q, howner, hrequest, hheld.apply hw⟩

/-- The databases differ at most in the resume text of the user and in the
copies of it that the user's requests hold, but for the given ones. -/
structure ResumeBlind (userId : Int) (ids : Set Int) (v v' : Db) : Prop where
  held : SnapshotsHeld userId ids v
  profiles : Table.Alike (ProfileAlike userId) v.resumeProfiles
    v'.resumeProfiles
  requests : Table.Alike (RequestAlike userId ids) v.generationRequests
    v'.generationRequests
  outside : outsideResume v = outsideResume v'

/-- The session cannot tell such databases apart. -/
def IgnoresResume {α : Type} (userId : Int) (ids : Set Int) (p : Session α) :
    Prop :=
  p.Sim (ResumeBlind userId ids) Eq p

theorem resumeBlind_refl {userId : Int} {ids : Set Int} {db : Db}
    (h : SnapshotsHeld userId ids db) : ResumeBlind userId ids db db where
  held := h
  profiles := Table.alike_refl (fun _ _ => ⟨rfl, fun _ => rfl⟩) _
  requests := Table.alike_refl (fun _ _ => ⟨rfl, fun _ => rfl⟩) _
  outside := rfl

section Blind

variable {userId : Int} {ids : Set Int}

theorem ResumeBlind.query {α : Type} {query : Db -> α}
    (hquery : forall v, query v = query (outsideResume v)) (v v' : Db)
    (h : ResumeBlind userId ids v v') : query v = query v' := by
  rw [hquery v, hquery v', h.outside]

/-- A write to the other tables. -/
theorem agrees_of_outside {w : Write coverAI} (hw : RowWrite w)
    (hviolation : forall v, w.violation v = w.violation (outsideResume v))
    (happly : forall v, outsideResume (w.apply v) = w.apply (outsideResume v))
    (hprofiles : forall v, (w.apply v).resumeProfiles = v.resumeProfiles)
    (hrequests : forall v,
      (w.apply v).generationRequests = v.generationRequests) :
    w.Agrees (ResumeBlind userId ids) w := by
  constructor
  · exact ResumeBlind.query hviolation
  · intro v v' h
    refine ⟨h.held.apply hw, ?_, ?_, ?_⟩
    · rw [hprofiles, hprofiles]
      exact h.profiles
    · rw [hrequests, hrequests]
      exact h.requests
    · rw [happly, happly, h.outside]

theorem vacancyWrite_agrees {w : Write coverAI} (hw : VacancyWrite w) :
    w.Agrees (ResumeBlind userId ids) w := by
  have hrow := RowWrite.vacancy hw
  cases hw with
  | insertEmployer id r =>
      exact agrees_of_outside hrow (fun _ => rfl) (fun _ => rfl)
        (fun _ => rfl) fun _ => rfl
  | updateEmployer id loaded edited =>
      exact agrees_of_outside hrow (fun _ => rfl) (fun _ => rfl)
        (fun _ => rfl) fun _ => rfl
  | insertVacancy id r =>
      exact agrees_of_outside hrow (fun _ => rfl) (fun _ => rfl)
        (fun _ => rfl) fun _ => rfl
  | updateVacancy id loaded edited =>
      exact agrees_of_outside hrow (fun _ => rfl) (fun _ => rfl)
        (fun _ => rfl) fun _ => rfl

theorem insertCoverLetter_agrees (id : Int) (letter : CoverLetter) :
    (insertCoverLetter id letter).Agrees (ResumeBlind userId ids)
      (insertCoverLetter id letter) :=
  agrees_of_outside (.insertCoverLetter id letter) (fun _ => rfl)
    (fun _ => rfl) (fun _ => rfl) fun _ => rfl

/-- Under the key of the given request nothing is inserted, since it is
stored. -/
theorem insertGenerationRequest_agrees (id : Int) {r r' : GenerationRequest}
    (hcopy : r' = { r with snapshotProfileText := r'.snapshotProfileText })
    (hother : r.userId ≠ userId -> r = r') :
    (insertGenerationRequest id r).Agrees (ResumeBlind userId ids)
      (insertGenerationRequest id r') := by
  constructor
  · intro v v' h
    simp only [insertGenerationRequest, insertInto, noChecks_eq, and_true,
      Table.alike_get_eq_none h.requests id]
  · intro v v' h
    refine ⟨h.held.apply (.insertGenerationRequest id r), h.profiles, ?_,
      h.outside⟩
    by_cases hmem : id ∈ ids
    · rcases h.held.held id hmem with ⟨q, _, hid, hheld⟩
      rcases hheld.request with ⟨old, hget, _⟩
      have htaken : v.generationRequests.get id ≠ none := by
        rw [← hid, hget]
        simp
      have htaken' : v'.generationRequests.get id ≠ none := fun hnone =>
        htaken ((Table.alike_get_eq_none h.requests id).mpr hnone)
      rw [insertGenerationRequest_apply, insertGenerationRequest_apply]
      change Table.Alike _ (v.generationRequests.insert id r)
        (v'.generationRequests.insert id r')
      rw [Table.insert_of_rejected fun hfree => htaken hfree.left,
        Table.insert_of_rejected fun hfree => htaken' hfree.left]
      exact h.requests
    · refine Table.alike_insert h.requests ⟨hcopy, ?_⟩ rfl
      intro heither
      rcases heither with hne | hid'
      · exact hother hne
      · exact absurd hid' hmem

theorem updateGenerationRequest_agrees (id : Int)
    {loaded loaded' edited edited' : GenerationRequest}
    (hwrite : forall a, GenerationRequest.write loaded edited a =
      GenerationRequest.write loaded' edited' a) :
    (updateGenerationRequest id loaded edited).Agrees
      (ResumeBlind userId ids)
      (updateGenerationRequest id loaded' edited') := by
  constructor
  · intro v v' _
    have hnone (w : Db) (l e : GenerationRequest) :
        (updateGenerationRequest id l e).violation w = none :=
      violation_updateIn.mpr fun _ _ => rfl
    rw [hnone, hnone]
  · intro v v' h
    refine ⟨h.held.apply (.updateGenerationRequest id loaded edited),
      h.profiles, ?_, h.outside⟩
    apply Table.alike_modify h.requests
    intro a b hab
    rw [Table.checkedUpdate_of_check rfl, Table.checkedUpdate_of_check rfl,
      ← hwrite b]
    rcases hab with ⟨hcopy, hsame⟩
    constructor
    · rw [hcopy]
      rfl
    · intro heither
      rw [hsame heither]

/-!
# Queries and writes of the services
-/

/-- A query of the other tables. -/
theorem select_bind_sim {α β γ : Type} {query : Db -> γ} {A : α -> β -> Prop}
    {f : γ -> Session α} {g : γ -> Session β}
    (hquery : forall v, query v = query (outsideResume v))
    (h : forall a, (f a).Sim (ResumeBlind userId ids) A (g a)) :
    ((select query).bind f).Sim (ResumeBlind userId ids) A
      ((select query).bind g) :=
  sim_ask_bind_eq (ResumeBlind.query hquery) h

theorem userById_ignores (held : Option User) (id : Int) :
    IgnoresResume userId ids (userById held id) := by
  cases held with
  | none =>
      exact select_bind_sim (f := ret) (g := ret) (fun _ => rfl)
        fun _ => Sim.ret rfl
  | some user => exact Sim.ret rfl

theorem ofExcept_ignores {α : Type} (res : Except Exc α) :
    IgnoresResume userId ids (ofExcept res) := by
  cases res with
  | ok a => exact Sim.ret rfl
  | error e => exact Sim.raise (S := coverAI) e

/-- Two answers to the query for a profile: the user's own may have another
text. -/
def FoundAlike (userId owner : Int) (entry entry' : Int × ResumeProfile) :
    Prop :=
  entry.1 = entry'.1 ∧
    entry'.2 = { entry.2 with resumeText := entry'.2.resumeText } ∧
    (owner ≠ userId -> entry.2 = entry'.2)

theorem first?_profile_alike {v v' : Db} (owner : Int)
    (h : ResumeBlind userId ids v v') :
    Option.Rel (FoundAlike userId owner)
      (v.resumeProfiles.first? fun p => p.userId = owner)
      (v'.resumeProfiles.first? fun p => p.userId = owner) := by
  have hrel := Table.alike_first? h.profiles
    (p := fun p => decide (p.userId = owner)) (by
      intro id p p' hp
      rw [hp.left])
  generalize v.resumeProfiles.first? _ = found at hrel ⊢
  generalize v'.resumeProfiles.first? _ = found' at hrel ⊢
  cases hrel with
  | none => exact Option.Rel.none
  | some hentry =>
      rcases hentry with ⟨⟨hkey, hcopy, hsame⟩, howner⟩
      refine Option.Rel.some ⟨hkey, hcopy, fun hne => hsame ?_⟩
      rw [of_decide_eq_true howner]
      exact hne

theorem profileByUserId_sim (owner : Int) :
    (profileByUserId owner).Sim (ResumeBlind userId ids)
      (Option.Rel (FoundAlike userId owner)) (profileByUserId owner) :=
  sim_ask_bind (B := Option.Rel (FoundAlike userId owner))
    (fun _ _ h => first?_profile_alike owner h) fun _ _ h => Sim.ret h

theorem createEmployer_ignores (employer : Employer) :
    IgnoresResume userId ids (createEmployer employer) :=
  sim_draw_bind fun id => sim_flushOne_bind
    (vacancyWrite_agrees (.insertEmployer id employer)) (Sim.ret rfl)

theorem createVacancy_ignores (vacancy : Vacancy) :
    IgnoresResume userId ids (createVacancy vacancy) :=
  sim_draw_bind fun id => sim_flushOne_bind
    (vacancyWrite_agrees (.insertVacancy id vacancy)) (Sim.ret rfl)

theorem updateEmployerCache_ignores (employerId : Int) (name : String)
    (url : Option String) (rawPayload : Option (List (String × PyObject)))
    (cachedAt : Option Instant) :
    IgnoresResume userId ids
      (updateEmployerCache employerId name url rawPayload cachedAt) := by
  apply select_bind_sim fun _ => rfl
  intro found
  cases found with
  | none => exact Sim.ret rfl
  | some row =>
      exact sim_flushOne_bind (vacancyWrite_agrees (.updateEmployer _ _ _))
        (Sim.ret rfl)

theorem updateVacancyCache_ignores (vacancyId : Int) (title : String)
    (url : Option String) (rawPayload : Option (List (String × PyObject)))
    (cachedAt : Option Instant) (employerId : Int) :
    IgnoresResume userId ids
      (updateVacancyCache vacancyId title url rawPayload cachedAt
        employerId) := by
  apply select_bind_sim fun _ => rfl
  intro found
  cases found with
  | none => exact Sim.ret rfl
  | some row =>
      exact sim_flushOne_bind (vacancyWrite_agrees (.updateVacancy _ _ _))
        (Sim.ret rfl)

theorem createGenerationRequest_sim {r r' : GenerationRequest}
    (hcopy : r' = { r with snapshotProfileText := r'.snapshotProfileText })
    (hother : r.userId ≠ userId -> r = r') :
    (createGenerationRequest r).Sim (ResumeBlind userId ids)
      (fun created created' => created = (created'.1, r) ∧ created'.2 = r')
      (createGenerationRequest r') :=
  sim_draw_bind fun id => sim_flushOne_bind
    (insertGenerationRequest_agrees id hcopy hother) (Sim.ret ⟨rfl, rfl⟩)

theorem createGenerationRequest_ignores (r : GenerationRequest) :
    IgnoresResume userId ids (createGenerationRequest r) :=
  sim_draw_bind fun id => sim_flushOne_bind
    (insertGenerationRequest_agrees id rfl fun _ => rfl) (Sim.ret rfl)

theorem createCoverLetter_ignores (letter : CoverLetter) :
    IgnoresResume userId ids (createCoverLetter letter) :=
  sim_draw_bind fun id => sim_flushOne_bind
    (insertCoverLetter_agrees id letter) (Sim.ret rfl)

theorem updateStatus_ignores (id : Int) (status : GenerationStatus)
    (errorMessage : Option String) (completedAt : Option Instant) :
    IgnoresResume userId ids
      (updateStatus id status errorMessage completedAt) := by
  apply sim_ask_bind (fun _ _ h => Table.alike_get h.requests id)
  intro found found' hfound
  cases hfound with
  | none => exact Sim.ret rfl
  | @some row row' hrow =>
      have hwrite (a : GenerationRequest) :
          GenerationRequest.write row
              (row.withStatus status errorMessage completedAt) a =
            GenerationRequest.write row'
              (row'.withStatus status errorMessage completedAt) a := by
        rw [hrow.left]
        rfl
      exact Sim.flush _ (List.Forall₂.cons
        (updateGenerationRequest_agrees id hwrite) List.Forall₂.nil) fun res => by
          cases res with
          | ok _ => exact Sim.ret rfl
          | error e => exact Sim.raise e

/-!
# Quota and vacancy services
-/

theorem countsSince_alike {owner id : Int} {statuses : List GenerationStatus}
    {since : Instant} {r r' : GenerationRequest}
    (h : RequestAlike userId ids id r r') :
    countsSince owner statuses since r = countsSince owner statuses since r' := by
  rw [h.left]
  rfl

theorem ensureCanGenerate_ignores (held : Option User) (owner : Int)
    (now : Instant) :
    IgnoresResume userId ids (ensureCanGenerate held owner now) := by
  refine sim_bind_eq (sim_bind_eq (userById_ignores held owner) ?_) ?_
  · intro found
    cases found with
    | none => exact Sim.raise (S := coverAI) Exc.userNotFound
    | some user =>
        apply select_bind_sim fun _ => rfl
        intro subscription
        simp only
        cases (planLimits user.plan).limit with
        | none => exact Sim.ret rfl
        | some limit =>
            apply sim_ask_bind_eq
            · intro v v' h
              exact Table.alike_count h.requests fun _ _ _ => countsSince_alike
            · exact fun _ => Sim.ret rfl
  · intro usage
    split
    · exact Sim.raise (S := coverAI) Exc.quotaExceeded
    · exact Sim.ret rfl

theorem getOrCreatePlaceholderVacancy_ignores (hhId : Int)
    (vacancyUrl : String) :
    IgnoresResume userId ids
      (getOrCreatePlaceholderVacancy hhId vacancyUrl) := by
  apply select_bind_sim fun _ => rfl
  intro found
  cases found with
  | some existing => exact Sim.ret rfl
  | none =>
      exact sim_bind_eq (createEmployer_ignores _)
        fun _ => createVacancy_ignores _

theorem upsertEmployer_ignores (payload : HHEmployerPayload)
    (cachedAt : Instant) :
    IgnoresResume userId ids (upsertEmployer payload cachedAt) := by
  apply select_bind_sim fun _ => rfl
  intro found
  cases found with
  | none => exact createEmployer_ignores _
  | some entry =>
      exact sim_bind_eq (updateEmployerCache_ignores _ _ _ _ _)
        fun _ => Sim.ret rfl

theorem upsertVacancy_ignores (payload : HHVacancyPayload) (employerId : Int)
    (cachedAt : Instant) :
    IgnoresResume userId ids
      (upsertVacancy payload employerId cachedAt) := by
  apply select_bind_sim fun _ => rfl
  intro found
  cases found with
  | none => exact createVacancy_ignores _
  | some entry =>
      exact sim_bind_eq (updateVacancyCache_ignores _ _ _ _ _ _)
        fun _ => Sim.ret rfl

theorem cachedResult_ignores (hhId : Int) (now : Instant) :
    IgnoresResume userId ids (cachedResult hhId now) := by
  apply select_bind_sim fun _ => rfl
  intro found
  cases found with
  | none => exact Sim.ret rfl
  | some entry =>
      simp only
      split
      · apply select_bind_sim fun _ => rfl
        intro employer
        cases employer with
        | none => exact Sim.ret rfl
        | some employer =>
            simp only
            split
            · exact Sim.ret rfl
            · exact Sim.ret rfl
      · exact Sim.ret rfl

theorem loadVacancy_ignores (clients : Clients) (hhId : Int) (now : Instant) :
    IgnoresResume userId ids (loadVacancy clients hhId now) := by
  apply sim_bind_eq (ofExcept_ignores _)
  intro vacancyPayload
  split
  · exact Sim.raise (S := coverAI) Exc.vacancyClosed
  · apply sim_bind_eq (ofExcept_ignores _)
    intro employerPayload
    apply sim_bind_eq (upsertEmployer_ignores _ _)
    intro employer
    exact sim_bind_eq (upsertVacancy_ignores _ _ _) fun _ => Sim.ret rfl

theorem getOrLoadVacancy_ignores (env : Env) (clients : Clients)
    (messageText : String) (now : Instant) :
    IgnoresResume userId ids
      (getOrLoadVacancy env clients messageText now) := by
  apply sim_bind_eq (ofExcept_ignores _)
  intro hhId
  apply sim_bind_eq (cachedResult_ignores hhId now)
  intro cached
  cases cached with
  | none => exact loadVacancy_ignores clients hhId now
  | some result => exact Sim.ret rfl

/-!
# Queue service
-/

theorem createAndQueue_sim (env : Env) (owner profileId hhId : Int)
    {profile profile' : ResumeProfile} (vacancyUrl : String) (tone : Tone)
    (now : Instant) (hprofile : owner ≠ userId -> profile = profile') :
    (createAndQueue env owner profileId hhId profile vacancyUrl tone now).Sim
      (ResumeBlind userId ids) (fun _ _ => True)
      (createAndQueue env owner profileId hhId profile' vacancyUrl tone
        now) := by
  apply sim_bind_eq (getOrCreatePlaceholderVacancy_ignores hhId vacancyUrl)
  intro vacancy
  refine sim_bind (createGenerationRequest_sim rfl ?_) ?_
  · intro hother
    rw [hprofile hother]
  · intro created created' hcreated
    rw [hcreated.left]
    exact Sim.emit _ (Sim.ret trivial)

/-- A request of the same user copies the text that is there, and nothing else
of it. -/
theorem enqueueGeneration_sim (env : Env) (held : Option User)
    (owner : Int) (vacancyUrl : String) (tone : Tone) (now : Instant) :
    (enqueueGeneration env held owner vacancyUrl tone now).Sim
      (ResumeBlind userId ids) (fun _ _ => True)
      (enqueueGeneration env held owner vacancyUrl tone now) := by
  refine sim_bind
    (B := fun checked checked' => checked.1 = checked'.1 ∧
      checked.2.2 = checked'.2.2 ∧
      (owner ≠ userId -> checked.2.1 = checked'.2.1)) ?_ ?_
  · apply sim_bind_eq (userById_ignores held owner)
    intro found
    cases found with
    | none => exact Sim.raise (S := coverAI) Exc.userNotFound
    | some user =>
        apply sim_bind (profileByUserId_sim owner)
        intro entry entry' hentry
        cases hentry with
        | none => exact Sim.raise (S := coverAI) Exc.profileNotFound
        | @some a b hab =>
            simp only
            split
            · exact Sim.raise (S := coverAI) Exc.insufficientCredits
            · split
              · exact Sim.raise (S := coverAI) Exc.forbiddenTone
              · apply sim_bind_eq (ofExcept_ignores _)
                intro hhId
                apply sim_bind_eq (ensureCanGenerate_ignores held owner now)
                intro usage
                exact Sim.ret ⟨hab.left, rfl, hab.right.right⟩
  · intro found found' hrelated
    rcases found with ⟨profileId, profile, hhId⟩
    rcases found' with ⟨_, profile', _⟩
    rcases hrelated with ⟨rfl, rfl, hprofile⟩
    exact createAndQueue_sim env owner profileId hhId vacancyUrl tone now
      hprofile

/-!
# Cover letter service
-/

theorem onFailure_ignores {α : Type} (request : Option Int) (now : Instant)
    (e : Exc) :
    IgnoresResume userId ids (onFailure request now e : Session α) := by
  unfold onFailure
  split
  · cases request with
    | none => exact Sim.raise (S := coverAI) e
    | some id =>
        exact sim_bind_eq (updateStatus_ignores _ _ _ _)
          fun _ => Sim.raise (S := coverAI) e
  · exact Sim.raise (S := coverAI) e

theorem generateAndSaveLetter_ignores (env : Env) (clients : Clients)
    (id : Int) (request : GenerationRequest) (profile : ResumeProfile)
    (result : VacancyResult) (tone : Tone) (now : Instant) :
    IgnoresResume userId ids (generateAndSaveLetter env clients id
      request profile result tone now) := by
  apply sim_bind_eq (ofExcept_ignores _)
  intro answer
  rcases answer with ⟨prompt, completion⟩
  simp only
  split
  · exact Sim.raise (S := coverAI) Exc.emptyLLMResponse
  · exact createCoverLetter_ignores _

/-- A bound request decides the text and the tone of the letter. -/
theorem writeLetter_bound_sim (env : Env) (clients : Clients)
    (owner profileId id : Int) {profile profile' : ResumeProfile}
    {tone tone' : Tone} {request : GenerationRequest} (result : VacancyResult)
    (now : Instant)
    (hprofile : snapshotProfile profile request =
      snapshotProfile profile' request)
    (htone : request.snapshotTone.getD tone =
      request.snapshotTone.getD tone') :
    (writeLetter env clients owner profileId profile tone (some (id, request))
      result now).Sim (ResumeBlind userId ids) Eq
      (writeLetter env clients owner profileId profile' tone'
        (some (id, request)) result now) := by
  change Sim _ Eq
    ((generateAndSaveLetter env clients id request
      (snapshotProfile profile request) result
      (request.snapshotTone.getD tone) now).tryCatch (onFailure (some id) now))
    ((generateAndSaveLetter env clients id request
      (snapshotProfile profile' request) result
      (request.snapshotTone.getD tone') now).tryCatch (onFailure (some id) now))
  rw [hprofile, htone]
  exact sim_tryCatch (generateAndSaveLetter_ignores _ _ _ _ _ _ _ _)
    (onFailure_ignores _ _)

theorem writeLetter_ignores (env : Env) (clients : Clients)
    (owner profileId : Int) (profile : ResumeProfile) (tone : Tone)
    (request : Option (Int × GenerationRequest)) (result : VacancyResult)
    (now : Instant) :
    IgnoresResume userId ids
      (writeLetter env clients owner profileId profile tone request result
        now) := by
  cases request with
  | some bound =>
      exact writeLetter_bound_sim env clients owner profileId bound.1 result
        now rfl rfl
  | none =>
      refine sim_bind_eq (sim_tryCatch (createGenerationRequest_ignores _)
        (onFailure_ignores none now)) ?_
      intro bound
      exact sim_tryCatch (generateAndSaveLetter_ignores _ _ _ _ _ _ _ _)
        (onFailure_ignores _ _)

theorem loadAndWrite_sim (env : Env) (clients : Clients) (owner : Int)
    (vacancyUrl : String) (user : User) (profileId : Int)
    {profile profile' : ResumeProfile} {tone tone' : Tone}
    (request : Option (Int × GenerationRequest)) (now : Instant)
    (hwrite : forall result,
      (writeLetter env clients owner profileId profile tone request result
        now).Sim (ResumeBlind userId ids) Eq
        (writeLetter env clients owner profileId profile' tone' request result
          now)) :
    (loadAndWrite env clients owner vacancyUrl user profileId profile tone
      request now).Sim (ResumeBlind userId ids) Eq
      (loadAndWrite env clients owner vacancyUrl user profileId profile' tone'
        request now) := by
  refine sim_bind_eq (sim_tryCatch (getOrLoadVacancy_ignores _ _ _ _)
    (onFailure_ignores _ now)) ?_
  intro result
  apply sim_bind_eq (hwrite result)
  intro entry
  exact sim_bind_eq (updateStatus_ignores _ _ _ _) fun _ => Sim.ret rfl

/-- The statements before a request is bound. -/
theorem generateForVacancyUrl_sim (env : Env) (clients : Clients) (owner : Int)
    (vacancyUrl : String) {tone tone' : Tone} (id : Option Int)
    (enforceQuota : Bool) (now : Instant)
    {P : Option (Int × GenerationRequest) -> Prop}
    (hexisting : (existingRequest id owner).Sim (ResumeBlind userId ids)
      (fun request request' => request = request' ∧ P request)
      (existingRequest id owner))
    (hload : forall user entry entry' request, P request ->
      FoundAlike userId owner entry entry' ->
      (loadAndWrite env clients owner vacancyUrl user entry.1 entry.2 tone
        request now).Sim (ResumeBlind userId ids) Eq
        (loadAndWrite env clients owner vacancyUrl user entry'.1 entry'.2 tone'
          request now)) :
    (generateForVacancyUrl env clients owner vacancyUrl tone id enforceQuota
      now).Sim (ResumeBlind userId ids) Eq
      (generateForVacancyUrl env clients owner vacancyUrl tone' id enforceQuota
        now) := by
  apply sim_bind_eq (userById_ignores none owner)
  intro found
  cases found with
  | none => exact Sim.raise (S := coverAI) Exc.userNotFound
  | some user =>
      simp only
      split
      · exact Sim.raise (S := coverAI) Exc.insufficientCredits
      · apply sim_bind (profileByUserId_sim owner)
        intro entry entry' hentry
        cases hentry with
        | none => exact Sim.raise (S := coverAI) Exc.profileNotFound
        | some hab =>
            apply sim_bind hexisting
            intro request request' hrequest
            rw [← hrequest.left]
            have hrest := hload user _ _ request hrequest.right hab
            cases enforceQuota with
            | true =>
                exact sim_bind_eq (sim_void (ensureCanGenerate_ignores _ _ _))
                  fun _ => hrest
            | false => exact hrest

/-- The request of another user is the same row. -/
theorem existingRequest_sim_of_ne {owner : Int} (hne : owner ≠ userId)
    (id : Option Int) :
    (existingRequest id owner).Sim (ResumeBlind userId ids)
      (fun request request' => request = request' ∧ True)
      (existingRequest id owner) := by
  cases id with
  | none => exact Sim.ret ⟨rfl, trivial⟩
  | some id =>
      apply sim_ask_bind_eq
      · intro v v' h
        have hrel := Table.alike_get h.requests id
        generalize v.generationRequests.get id = found at hrel ⊢
        generalize v'.generationRequests.get id = found' at hrel ⊢
        cases hrel with
        | none => rfl
        | @some r r' hr =>
            by_cases howner : r.userId = owner
            · rw [hr.right (Or.inl (howner ▸ hne))]
            · have howner' : ¬ r'.userId = owner := by
                rw [hr.left]
                exact howner
              simp only [Option.filter_some, howner, howner', decide_false,
                Bool.false_eq_true, if_false]
      · intro found
        cases found with
        | none => exact Sim.raise (S := coverAI) Exc.generationRequestNotFound
        | some r => exact Sim.ret ⟨rfl, trivial⟩

theorem generateForVacancyUrl_ignores (env : Env) (clients : Clients)
    {owner : Int} (hne : owner ≠ userId) (vacancyUrl : String) (tone : Tone)
    (id : Option Int) (enforceQuota : Bool) (now : Instant) :
    IgnoresResume userId ids
      (generateForVacancyUrl env clients owner vacancyUrl tone id enforceQuota
        now) := by
  apply generateForVacancyUrl_sim env clients owner vacancyUrl id enforceQuota
    now (existingRequest_sim_of_ne hne id)
  intro user entry entry' request _ hentry
  rw [hentry.right.right hne, hentry.left]
  exact loadAndWrite_sim env clients owner vacancyUrl user _ request now
    fun result => writeLetter_ignores env clients owner _ _ tone request result
      now

/-- A request that holds its snapshot is the same row. -/
theorem existingRequest_held_sim {id : Int} (hid : id ∈ ids) :
    (existingRequest (some id) userId).Sim (ResumeBlind userId ids)
      (fun request request' => request = request' ∧ exists r text tone,
        request = some (id, r) ∧ r.snapshotProfileText = some text ∧
          r.snapshotTone = some tone)
      (existingRequest (some id) userId) := by
  apply sim_ask_bind (B := fun found found' => found = found' ∧
    exists r text tone, found = some r ∧ r.snapshotProfileText = some text ∧
      r.snapshotTone = some tone)
  · intro v v' h
    rcases h.held.held id hid with ⟨q, howner, hrequest, hheld⟩
    rcases hheld.request with ⟨r, hget, hr⟩
    rw [hrequest] at hget
    have hrel := Table.alike_get h.requests id
    rw [hget] at hrel ⊢
    generalize v'.generationRequests.get id = found' at hrel ⊢
    cases hrel with
    | some hsame =>
        rw [hsame.right (Or.inr hid)] at hr ⊢
        refine ⟨rfl, _, q.text, q.tone, ?_, hr.text, hr.tone⟩
        simp [hr.owner, howner]
  · intro found _ hsent
    rcases hsent with ⟨rfl, r, text, tone, rfl, htext, htone⟩
    exact Sim.ret ⟨rfl, r, text, tone, rfl, htext, htone⟩

/-- The work on a request that holds its snapshot, with any tone. -/
theorem generateForVacancyUrl_held_sim (env : Env) (clients : Clients)
    (vacancyUrl : String) (tone tone' : Tone) {id : Int} (hid : id ∈ ids)
    (enforceQuota : Bool) (now : Instant) :
    (generateForVacancyUrl env clients userId vacancyUrl tone (some id)
      enforceQuota now).Sim (ResumeBlind userId ids) Eq
      (generateForVacancyUrl env clients userId vacancyUrl tone' (some id)
        enforceQuota now) := by
  apply generateForVacancyUrl_sim env clients userId vacancyUrl _ enforceQuota
    now (existingRequest_held_sim hid)
  intro user entry entry' _ hrequest hentry
  rcases hrequest with ⟨r, text, snapshotTone, rfl, htext, htone⟩
  rcases hentry with ⟨hkey, hcopy, _⟩
  rw [← hkey]
  apply loadAndWrite_sim
  intro result
  apply writeLetter_bound_sim
  · rw [snapshotProfile, snapshotProfile, htext]
    simp only
    rw [hcopy]
  · rw [htone]
    rfl

/-!
# Jobs
-/

theorem updateUser_agrees (id : Int) (loaded edited : User) :
    (updateUser id loaded edited).Agrees (ResumeBlind userId ids)
      (updateUser id loaded edited) :=
  agrees_of_outside (.updateUser id loaded edited) (fun _ => rfl)
    (fun _ => rfl) (fun _ => rfl) fun _ => rfl

theorem insertCreditTransaction_agrees (t : CreditTransaction) :
    (insertCreditTransaction t).Agrees (ResumeBlind userId ids)
      (insertCreditTransaction t) :=
  agrees_of_outside (.insertCreditTransaction t) (fun _ => rfl)
    (fun _ => rfl) (fun _ => rfl) fun _ => rfl

theorem debitGenerationCredits_ignores (owner amount id : Int) :
    IgnoresResume userId ids (debitGenerationCredits owner amount id) := by
  refine sim_bind_eq (p := userForUpdate owner) (q := userForUpdate owner)
    (Sim.lock _ ?_) ?_
  · intro v v' h
    have husers := congrArg (fun db : Db => db.users) h.outside
    exact Sim.ret (congrArg (fun T => T.get owner) husers)
  · intro found
    cases found with
    | none => exact Sim.raise (S := coverAI) Exc.quotaExceeded
    | some user =>
        simp only
        split
        · exact Sim.raise (S := coverAI) Exc.quotaExceeded
        · refine Sim.flush _ (List.Forall₂.cons (updateUser_agrees _ _ _)
            (List.Forall₂.cons (insertCreditTransaction_agrees _)
              List.Forall₂.nil)) ?_
          intro res
          cases res with
          | ok _ => exact Sim.ret rfl
          | error e => exact Sim.raise e

theorem keepError_ignores (job : Job) (e : Exc) :
    IgnoresResume userId ids (keepError job e) := by
  have hasks : IgnoresResume userId ids (telegramIdOf job.userId) :=
    sim_bind_eq (userById_ignores none job.userId) fun _ => Sim.ret rfl
  unfold keepError
  split
  · exact sim_bind_eq hasks fun _ => Sim.ret rfl
  · split
    · exact sim_bind_eq hasks fun _ => Sim.ret rfl
    · exact Sim.raise (S := coverAI) e

/-- The job is for another user, or its request holds its snapshot. -/
def JobHeld (userId : Int) (ids : Set Int) (job : Job) : Prop :=
  job.userId = userId -> exists id, job.generationRequestId = some id ∧ id ∈ ids

theorem generateForJob_ignores (env : Env) (clients : Clients) {job : Job}
    (hjob : JobHeld userId ids job) (now : Instant) :
    IgnoresResume userId ids (generateForJob env clients job now) := by
  unfold generateForJob
  split
  · exact Sim.raise (S := coverAI) (Exc.valueError _)
  · by_cases howner : job.userId = userId
    · rcases hjob howner with ⟨id, hrequest, hid⟩
      rw [howner, hrequest]
      exact generateForVacancyUrl_held_sim env clients _ _ _ hid _ now
    · exact generateForVacancyUrl_ignores env clients howner _ _ _ _ now

theorem generationSession_ignores (env : Env) (clients : Clients) {job : Job}
    (hjob : JobHeld userId ids job) (now : Instant) :
    IgnoresResume userId ids (generationSession env clients job now) := by
  refine sim_bind_eq (sim_tryCatch (sim_bind_eq
      (generateForJob_ignores env clients hjob now) fun _ => Sim.ret rfl)
    fun e => sim_bind_eq (keepError_ignores job e) fun _ => Sim.ret rfl) ?_
  intro outcome
  cases outcome with
  | inr kept => exact Sim.ret rfl
  | inl result =>
      unfold chargeForLetter
      simp only
      split
      · exact sim_bind_eq (debitGenerationCredits_ignores _ _ _)
          fun _ => Sim.ret rfl
      · exact Sim.ret rfl

end Blind
end CoverAI
