import CoverAI.Api.Generations
import CoverAI.Generation.Footprints
import CoverAI.Txn.Registry

/-!
# The session of the generation route

The session draws the key of a request, inserts the request, queues the job and
commits.  What is observed of the requests is left open.
-/

namespace CoverAI

open Txn Program

/-!
# Footprint
-/

section Footprint

variable {F : Footprint coverAI} {env : Env} {userId : Int}
  {vacancyUrl : String} {tone : Tone} {now : Instant}

/-- The route maps the exceptions of the service. -/
theorem createGeneration_within {Q : Prop}
    (hcaller : forall v, F.sees v -> v.users.get userId = none ->
      F.raises (.httpException 401 "User not found"))
    (hqueue : forall v user, F.sees v -> v.users.get userId = some user ->
      (enqueueGeneration env (some user) userId vacancyUrl tone now).Within
        { F with raises := fun e => F.raises (generationError e) }
        fun _ => Q) :
    (createGeneration env userId vacancyUrl tone now).Within F fun _ => Q := by
  refine within_bind (R := fun user =>
    exists v, F.sees v ∧ v.users.get userId = some user) ?_ ?_
  · apply within_ask_bind
    intro v hv
    cases huser : v.users.get userId with
    | none => exact hcaller v hv huser
    | some user => exact ⟨v, hv, huser⟩
  · intro user hview
    rcases hview with ⟨v, hv, huser⟩
    exact within_bind (within_tryCatch (hqueue v user hv huser) fun _ he => he)
      fun _ h => h

theorem createGeneration_keeps {ok : Db -> Prop}
    (hvacancies : forall w, VacancyWrite w -> forall db, ok db ->
      ok (w.apply db))
    (hrequests : forall id request, request.userId = userId -> forall db,
      ok db -> ok ((insertGenerationRequest id request).apply db)) :
    (createGeneration env userId vacancyUrl tone now).Keeps ok := by
  apply createGeneration_within (fun _ _ _ => trivial)
  intro v user _ _
  have hpermits : PermitsQueueing (Footprint.keeping ok) userId :=
    { vacancyWrites := hvacancies
      drawsEmployers := trivial
      drawsVacancies := trivial
      raisesIntegrity := trivial
      requests := hrequests
      drawsRequests := trivial
      sends := fun _ => trivial }
  have hquota : (ensureCanGenerate (some user) userId now).Within
      (Footprint.keeping ok) fun _ => True :=
    ensureCanGenerate_within _ _ _ (fun _ => trivial) trivial
  exact within_bind (enqueueChecks_within (fun _ _ _ => trivial)
    (fun _ => trivial) (fun _ => trivial) (fun _ _ => trivial) hquota)
    fun _ _ => createAndQueue_within hpermits _ _ _ _ _ _ _

end Footprint

/-!
# Registry
-/

variable {γ ρ : Type}

/-- A registry of the generation requests that keeps `row` of each. -/
structure RegistersRequests (R : Registry coverAI γ ρ)
    (row : GenerationRequest -> ρ) : Prop where
  seq_eq : R.seq = SeqName.generationRequests
  inserts : forall id request (db : Db),
    R.obs { db with
      generationRequests := db.generationRequests.insert id request } =
      R.add (R.obs db) id (row request)
  vacancies : forall w, VacancyWrite w -> forall db,
    R.obs (w.apply db) = R.obs db

section Registry

variable {R : Registry coverAI γ ρ} {row : GenerationRequest -> ρ}

theorem createAndQueue_follows (hR : RegistersRequests R row)
    {ends : Int × GenerationRequest -> Stage ρ -> Prop} (env : Env)
    (userId profileId hhId : Int) (profile : ResumeProfile)
    (vacancyUrl : String) (tone : Tone) (now : Instant)
    (hannounces : forall id request, request.userId = userId ->
      R.Announces (queuedJob userId vacancyUrl tone env.predictionCostCredits id)
        id (row request))
    (hends : forall id request, request.userId = userId ->
      request.status = .pending -> request.createdAt = now ->
      ends (id, request) (.announced id (row request))) :
    R.Follows ends .blank
      (createAndQueue env userId profileId hhId profile vacancyUrl tone
        now) := by
  apply Registry.follows_bind
  have hdraws : ¬ vacancyFootprint.draws R.seq := by
    rw [hR.seq_eq]
    rintro (h | h) <;> cases h
  apply Registry.follows_of_within (getOrCreatePlaceholderVacancy_within
    vacancyFootprint_permits hhId vacancyUrl) (fun _ => trivial) hR.vacancies
    hdraws (fun _ h => h)
  intro found _
  rcases found with ⟨vacancyId, vacancy⟩
  apply Registry.follows_bind
  unfold createGenerationRequest
  simp only [bind_eq]
  rw [← hR.seq_eq]
  apply Registry.follows_draw_bind
  intro id
  have hinserts : R.Flushes [insertGenerationRequest id (pendingRequest userId
      profileId vacancyId tone profile vacancy now)] (.drawn id)
      (.inserted id (row (pendingRequest userId profileId vacancyId tone profile
        vacancy now))) :=
    Registry.Flushes.insert fun db => hR.inserts id _ db
  apply Registry.follows_flushUnit_bind hinserts
  exact Registry.follows_send_bind (hannounces id _ rfl) (hends id _ rfl rfl rfl)

theorem createGeneration_follows (hR : RegistersRequests R row)
    {ends : GenerationCreateResponse -> Stage ρ -> Prop} (env : Env)
    (userId : Int) (vacancyUrl : String) (tone : Tone) (now : Instant)
    (hannounces : forall id request, request.userId = userId ->
      R.Announces (queuedJob userId vacancyUrl tone env.predictionCostCredits id)
        id (row request))
    (hends : forall response request, request.userId = userId ->
      request.status = .pending -> request.createdAt = now ->
      response.userId = userId ->
      ends response (.announced response.generationRequestId (row request))) :
    R.Follows ends .blank
      (createGeneration env userId vacancyUrl tone now) := by
  have hdraws : ¬ readOnly.draws R.seq := fun h => h
  apply Registry.follows_bind
  apply Registry.follows_ask_bind
  intro v
  cases v.users.get userId with
  | none => trivial
  | some user =>
      apply Registry.follows_bind
      refine Registry.follows_tryCatch ?_ fun _ _ => trivial
      apply Registry.follows_bind
      have hchecks : (enqueueChecks env (some user) userId vacancyUrl tone
          now).Within readOnly fun _ => exists _ : PlanUsage, True :=
        enqueueChecks_within (fun _ _ _ => trivial) (fun _ => trivial)
          (fun _ => trivial) (fun _ _ => trivial)
          (ensureCanGenerate_within (some user) userId now (fun _ => trivial)
            trivial)
      apply Registry.follows_of_within hchecks (fun _ => trivial)
        (fun _ h => h.elim) hdraws (fun _ h => h)
      intro found _
      rcases found with ⟨profileId, profile, hhId⟩
      apply createAndQueue_follows hR env userId profileId hhId profile
        vacancyUrl tone now hannounces
      intro id request howner hpending hcreated
      exact hends _ request howner hpending hcreated rfl

end Registry

end CoverAI
