import CoverAI.Generation.Execution

/-!
# Queued requests

A call of the queue service that ends normally has checked the quota, inserted
one pending request and changed nothing else the worker's job reads, except for
a placeholder vacancy.
-/

namespace CoverAI

open Txn Program

theorem getOrCreatePlaceholderVacancy_preserves (hhId : Int)
    (vacancyUrl : String) :
    (getOrCreatePlaceholderVacancy hhId vacancyUrl).Preserves vacancyFrame :=
  preserves_vacancyFrame (getOrCreatePlaceholderVacancy_within
    vacancyFootprint_permits hhId vacancyUrl)

/-- What a call that returns `created` has done. -/
structure Enqueued (userId : Int) (held : Option User) (now : Instant)
    (s : Store coverAI) (created : Int × GenerationRequest)
    (s' : Store coverAI) : Prop where
  fresh : s.db.generationRequests.get created.1 = none
  owner : created.2.userId = userId
  pending : created.2.status = .pending
  createdAt : created.2.createdAt = now
  quota : exists usage,
    ((ensureCanGenerate held userId now).run s).1 = .ok usage
  view : generationView s'.db =
    (generationView s.db).addRequest created.1 created.2

theorem createAndQueue_ensures (env : Env) (userId profileId hhId : Int)
    (profile : ResumeProfile) (vacancyUrl : String) (tone : Tone)
    (now : Instant) (s : Store coverAI) :
    (createAndQueue env userId profileId hhId profile vacancyUrl tone
      now).Ensures
      (fun created s' => s.db.generationRequests.get created.1 = none ∧
        created.2.userId = userId ∧ created.2.status = .pending ∧
        created.2.createdAt = now ∧
        generationView s'.db =
          (generationView s.db).addRequest created.1 created.2) s := by
  unfold createAndQueue
  simp only [bind_eq]
  rw [ensures_bind]
  apply exits_of_preserves
    (getOrCreatePlaceholderVacancy_preserves hhId vacancyUrl)
  intro t hframe vacancy _
  have hview : generationView t.db = generationView s.db :=
    congrArg Prod.fst hframe
  have hrequests := congrArg GenerationView.generationRequests hview
  change t.db.generationRequests = s.db.generationRequests at hrequests
  rw [ensures_bind]
  apply exits_createGenerationRequest
  · intro hfree created heq
    cases heq
    rw [hrequests] at hfree
    intro returned hreturned
    cases hreturned
    refine ⟨hfree, rfl, rfl, rfl, ?_⟩
    rw [← hview]
    rfl
  · exact fun _ h => nomatch h

/-- The checks only read, and the quota check is one of them. -/
theorem enqueueChecks_ensures (env : Env) (held : Option User)
    (userId : Int) (vacancyUrl : String) (tone : Tone) (now : Instant)
    (s : Store coverAI) :
    (enqueueChecks env held userId vacancyUrl tone now).Ensures
      (fun _ s' => s' = s ∧ exists usage,
        ((ensureCanGenerate held userId now).run s).1 = .ok usage) s := by
  unfold enqueueChecks
  simp only [bind_eq]
  rw [ensures_bind]
  apply exits_of_preserves (userById_preserves held userId)
  intro t heq found _
  subst heq
  cases found with
  | none => exact ensures_raise _ _
  | some user =>
      apply exits_select_bind
      split
      · exact ensures_raise _ _
      · split
        · exact ensures_raise _ _
        · split
          · exact ensures_raise _ _
          · cases env.parseHhVacancyId vacancyUrl with
            | error e => exact ensures_raise _ _
            | ok hhId =>
                change Ensures ((ensureCanGenerate held userId now).bind _) _ t
                rw [ensures_bind]
                apply exits_of_preserves
                  (ensureCanGenerate_preserves held userId now)
                intro u heq usage hquota
                subst heq
                exact (ensures_ret _ _).mpr ⟨rfl, usage, hquota⟩

theorem enqueueGeneration_ensures (env : Env) (held : Option User)
    (userId : Int) (vacancyUrl : String) (tone : Tone) (now : Instant)
    (s : Store coverAI) :
    (enqueueGeneration env held userId vacancyUrl tone now).Ensures
      (Enqueued userId held now s) s := by
  unfold enqueueGeneration
  simp only [bind_eq]
  rw [ensures_bind]
  refine ensures_mono
    (enqueueChecks_ensures env held userId vacancyUrl tone now s) ?_
  intro found t hquota
  rcases found with ⟨profileId, profile, hhId⟩
  rcases hquota with ⟨rfl, hquota⟩
  refine ensures_mono (createAndQueue_ensures env userId profileId hhId profile
    vacancyUrl tone now t) ?_
  intro created s' hcreated
  rcases hcreated with ⟨hfree, howner, hpending, hcreated, hview⟩
  exact ⟨hfree, howner, hpending, hcreated, hquota, hview⟩

/-!
# The queued job
-/

/-- What the checks have found when they pass. -/
structure Checked (env : Env) (held : Option User) (userId : Int)
    (vacancyUrl : String) (tone : Tone) (db : Db)
    (checked : Int × ResumeProfile × Int) : Prop where
  tone : exists user, held.or (db.users.get userId) = some user ∧
    tone ∈ allowedTones user.plan
  profile : db.resumeProfiles.first? (fun p => p.userId = userId) =
    some (checked.1, checked.2.1)
  parsed : env.parseHhVacancyId vacancyUrl = .ok checked.2.2

theorem run_userById (held : Option User) (userId : Int)
    (s : Store coverAI) :
    (userById held userId).run s =
      (.ok (held.or (s.db.users.get userId)), s) := by
  cases held with
  | none => rfl
  | some user => rfl

theorem enqueueChecks_exits (env : Env) (held : Option User) (userId : Int)
    (vacancyUrl : String) (tone : Tone) (now : Instant) (s : Store coverAI) :
    (enqueueChecks env held userId vacancyUrl tone now).Exits
      (fun res s' => s' = s ∧ forall checked, res = .ok checked ->
        Checked env held userId vacancyUrl tone s.db checked) s := by
  unfold enqueueChecks
  simp only [bind_eq]
  rw [exits_bind]
  simp only [Exits, run_userById]
  cases huser : held.or (s.db.users.get userId) with
  | none => exact ⟨rfl, fun _ h => by cases h⟩
  | some user =>
      simp only [profileByUserId, select, ask, read_bind, ret_bind, run]
      cases hprofile : s.db.resumeProfiles.first?
          (fun p => decide (p.userId = userId)) with
      | none => exact ⟨rfl, fun _ h => by cases h⟩
      | some entry =>
          simp only
          split
          · exact ⟨rfl, fun _ h => by cases h⟩
          · split
            · exact ⟨rfl, fun _ h => by cases h⟩
            · rename_i htone
              cases hparse : env.parseHhVacancyId vacancyUrl with
              | error e => exact ⟨rfl, fun _ h => by cases h⟩
              | ok hhId =>
                  simp only [ofExcept, ret_bind, run_bind]
                  have hsame := ensureCanGenerate_preserves held userId now s
                  rcases hrun : (ensureCanGenerate held userId now).run s with
                    ⟨res, s'⟩
                  rw [hrun] at hsame
                  cases res with
                  | error e => exact ⟨hsame, fun _ h => by cases h⟩
                  | ok usage =>
                      refine ⟨hsame, ?_⟩
                      intro checked heq
                      cases heq
                      exact ⟨⟨user, huser, not_not.mp htone⟩, hprofile, hparse⟩

/-- A call that ends normally has queued its job; another one has queued
nothing. -/
def QueuesJob (env : Env) (userId : Int) (vacancyUrl : String) (tone : Tone)
    (s : Store coverAI) :
    Except Exc (Int × GenerationRequest) -> Store coverAI -> Prop
  | .ok created, s' =>
      s'.out = s.out ++
        [queuedJob userId vacancyUrl tone env.predictionCostCredits created.1]
  | .error _, s' => s'.out = s.out

theorem getOrCreatePlaceholderVacancy_out (hhId : Int) (vacancyUrl : String) :
    (getOrCreatePlaceholderVacancy hhId vacancyUrl).Preserves
      fun s : Store coverAI => (vacancyFrame s, s.out) := by
  apply preserves_of_within
    (getOrCreatePlaceholderVacancy_within vacancyFootprint_permits hhId
      vacancyUrl)
  · exact fun _ => trivial
  · intro w hw s
    cases hw with
    | insertEmployer id r => rfl
    | updateEmployer id loaded edited => rfl
    | insertVacancy id r => rfl
    | updateVacancy id loaded edited => rfl
  · intro t ht s
    rcases ht with rfl | rfl
    · rfl
    · rfl
  · exact fun _ h => h.elim

theorem createAndQueue_exits (env : Env) (userId profileId hhId : Int)
    (profile : ResumeProfile) (vacancyUrl : String) (tone : Tone)
    (now : Instant) (s : Store coverAI) :
    (createAndQueue env userId profileId hhId profile vacancyUrl tone now).Exits
      (fun res s' => QueuesJob env userId vacancyUrl tone s res s' ∧
        s'.db.users = s.db.users ∧
        s'.db.resumeProfiles = s.db.resumeProfiles) s := by
  unfold createAndQueue
  simp only [bind_eq]
  rw [exits_bind]
  apply exits_of_preserves
    (getOrCreatePlaceholderVacancy_out hhId vacancyUrl)
  intro t hframe
  have hout : t.out = s.out := congrArg Prod.snd hframe
  have husers : t.db.users = s.db.users :=
    congrArg (fun frame => frame.1.1.users) hframe
  have hprofiles : t.db.resumeProfiles = s.db.resumeProfiles :=
    congrArg (fun frame => frame.1.1.resumeProfiles) hframe
  cases ((getOrCreatePlaceholderVacancy hhId vacancyUrl).run s).1 with
  | error e => exact ⟨hout, husers, hprofiles⟩
  | ok vacancy =>
      simp only
      rw [exits_bind]
      apply exits_createGenerationRequest
      · intro _
        refine ⟨?_, husers, hprofiles⟩
        exact congrArg (· ++ [queuedJob userId vacancyUrl tone
          env.predictionCostCredits (t.seq SeqName.generationRequests)]) hout
      · exact ⟨hout, husers, hprofiles⟩

theorem enqueueGeneration_exits (env : Env) (held : Option User)
    (userId : Int) (vacancyUrl : String) (tone : Tone) (now : Instant)
    (s : Store coverAI) :
    (enqueueGeneration env held userId vacancyUrl tone now).Exits
      (fun res s' => QueuesJob env userId vacancyUrl tone s res s' ∧
        s'.db.users = s.db.users ∧
        s'.db.resumeProfiles = s.db.resumeProfiles ∧
        forall created, res = .ok created ->
          exists checked, Checked env held userId vacancyUrl tone s.db checked)
      s := by
  unfold enqueueGeneration
  rw [bind_eq, exits_bind]
  refine exits_mono
    (enqueueChecks_exits env held userId vacancyUrl tone now s) ?_
  intro res t h
  rcases h with ⟨rfl, hchecked⟩
  cases res with
  | error e => exact ⟨rfl, rfl, rfl, fun _ h => nomatch h⟩
  | ok checked =>
      refine exits_mono (createAndQueue_exits env userId checked.1 checked.2.2
        checked.2.1 vacancyUrl tone now t) ?_
      intro res s' h
      exact ⟨h.left, h.right.left, h.right.right,
        fun _ _ => ⟨checked, hchecked checked rfl⟩⟩

end CoverAI
