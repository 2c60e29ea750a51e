import CoverAI.Generation.Charge
import CoverAI.Generation.Letters
import CoverAI.Generation.ResumeBlind

/-!
# A queued request depends on its snapshot

The worker loads the live profile again, but the prompt and the letter of a
queued request come from the copy the request holds.
-/

namespace CoverAI

open Txn Program

/-!
# The snapshot is taken
-/

theorem createAndQueue_snapshot (env : Env) (userId profileId hhId : Int)
    (profile : ResumeProfile) (vacancyUrl : String) (tone : Tone)
    (now : Instant) (s : Store coverAI) :
    (createAndQueue env userId profileId hhId profile vacancyUrl tone
      now).Ensures
      (fun created _ => exists vacancyId vacancy,
        created.2 = pendingRequest userId profileId vacancyId tone profile
          vacancy now) s := by
  unfold createAndQueue
  simp only [bind_eq]
  rw [ensures_bind]
  intro vacancy _
  rw [ensures_bind]
  apply exits_createGenerationRequest
  · intro _ created heq
    cases heq
    intro returned hreturned
    cases hreturned
    exact ⟨vacancy.1, vacancy.2, rfl⟩
  · exact fun _ h => nomatch h

theorem enqueueGeneration_snapshot (env : Env) (held : Option User)
    (userId : Int) (vacancyUrl : String) (tone : Tone) (now : Instant)
    (s : Store coverAI) :
    (enqueueGeneration env held userId vacancyUrl tone now).Ensures
      (fun created _ => exists checked vacancyId vacancy,
        Checked env held userId vacancyUrl tone s.db checked ∧
        created.2 = pendingRequest userId checked.1 vacancyId tone checked.2.1
          vacancy now) s := by
  unfold enqueueGeneration
  rw [bind_eq, ensures_bind]
  refine exits_mono
    (enqueueChecks_exits env held userId vacancyUrl tone now s) ?_
  intro res t h checked hres
  have hchecked := h.right checked hres
  refine ensures_mono (createAndQueue_snapshot env userId checked.1 checked.2.2
    checked.2.1 vacancyUrl tone now t) ?_
  intro created _ hcreated
  rcases hcreated with ⟨vacancyId, vacancy, hcreated⟩
  exact ⟨checked, vacancyId, vacancy, hchecked, hcreated⟩

/-- The request that was created holds the profile the user had then. -/
theorem held_of_enqueued {env : Env} {held : Option User} {userId : Int}
    {vacancyUrl : String} {tone : Tone} {now : Instant} {s queued : Store coverAI}
    {created : Int × GenerationRequest}
    (h : (enqueueGeneration env held userId vacancyUrl tone now).transact s =
      (.ok created, queued)) :
    exists q : Snapshot,
      q.userId = userId ∧ q.requestId = created.1 ∧ q.Held queued.db := by
  have hrun := run_of_transact_ok h
  have henqueued := ensures_of_run
    (enqueueGeneration_ensures env held userId vacancyUrl tone now s) hrun
  rcases ensures_of_run
    (enqueueGeneration_snapshot env held userId vacancyUrl tone now s) hrun with
    ⟨⟨profileId, profile, hhId⟩, vacancyId, vacancy, hchecked, hcreated⟩
  have hrequests : queued.db.generationRequests =
      s.db.generationRequests.insert created.1 created.2 :=
    congrArg GenerationView.generationRequests henqueued.view
  have hprofiles : queued.db.resumeProfiles = s.db.resumeProfiles :=
    congrArg GenerationView.resumeProfiles henqueued.view
  refine ⟨⟨userId, created.1, profileId, profile.title, profile.resumeText,
    tone⟩, rfl, rfl, ?_, ?_⟩
  · refine ⟨created.2, ?_, ?_⟩
    · rw [hrequests]
      exact Table.get_insert_self henqueued.fresh rfl
    · rw [hcreated]
      exact ⟨rfl, rfl, rfl, rfl⟩
  · rw [hprofiles]
    exact ⟨profileId, profile, hchecked.profile, rfl⟩

/-!
# Calls of the profile service
-/

section ProfileCalls

variable {userId : Int} {ids : Set Int} {s t : Store coverAI}

theorem SnapshotsHeld.profile {db : Db} (h : SnapshotsHeld userId ids db) :
    exists id p,
      db.resumeProfiles.first? (fun p => p.userId = userId) = some (id, p) := by
  rcases h.nonempty with ⟨id, hid⟩
  rcases h.held id hid with ⟨q, howner, _, hheld⟩
  rcases hheld.profile with ⟨profileId, p, hfirst, _⟩
  rw [howner] at hfirst
  exact ⟨profileId, p, hfirst⟩

theorem run_createProfile_stored {owner id : Int} {p : ResumeProfile}
    (hfirst : s.db.resumeProfiles.first? (fun p => p.userId = owner) =
      some (id, p)) (title resumeText : String) :
    (createProfile owner title resumeText).run s =
      (.error (Exc.other "ProfileAlreadyExistsError" ""), s) := by
  simp only [createProfile, profileByUserId, select, ask, bind_eq, read_bind,
    ret_bind, run, hfirst]

theorem createProfile_related (title resumeText : String)
    (h : s.Related (ResumeBlind userId ids) t) :
    ((createProfile userId title resumeText).transact s).2.Related
      (ResumeBlind userId ids) t := by
  rcases h.db.held.profile with ⟨id, p, hfirst⟩
  rw [transact_of_error (run_createProfile_stored hfirst title resumeText)]
  exact ⟨h.db, h.seq, h.out⟩

def retext (userId : Int) (resumeText : String) (p : ResumeProfile) :
    ResumeProfile :=
  if p.userId = userId then { p with resumeText := resumeText } else p

theorem profileAlike_retext {id : Int} (resumeText : String)
    {p p' : ResumeProfile} (h : ProfileAlike userId id p p') :
    ProfileAlike userId id (retext userId resumeText p) p' := by
  unfold retext
  split
  · rename_i howner
    refine ⟨?_, fun hne => (hne howner).elim⟩
    rw [h.left]
  · exact h

theorem run_updateProfileText {id : Int} {p : ResumeProfile}
    (hget : s.db.resumeProfiles.get id = some p) (resumeText : String) :
    (updateProfileText id resumeText).run s =
      (.ok (some { p with resumeText := resumeText }),
        s.setDb ((updateResumeProfile id p
          { p with resumeText := resumeText }).apply s.db)) := by
  have hviolation : (updateResumeProfile id p
      { p with resumeText := resumeText }).violation s.db = none :=
    violation_updateIn.mpr fun _ _ => rfl
  simp only [updateProfileText, select, ask, bind_eq, read_bind, ret_bind, run,
    hget, flushUnit, flush_bind, Write.attempt_cons_of_none hviolation,
    Write.attempt_nil, pure_eq]

section Updates

variable {owner id : Int} {p : ResumeProfile} {resumeText : String}

theorem run_updateProfile_error {e : Exc}
    (hfirst : s.db.resumeProfiles.first? (fun p => p.userId = owner) =
      some (id, p)) (htext : normalizeResumeText resumeText = .error e) :
    (updateProfile owner resumeText).run s = (.error e, s) := by
  simp only [updateProfile, profileByUserId, select, ask, bind_eq, read_bind,
    ret_bind, run, hfirst, htext, ofExcept, raise_bind]

theorem run_updateProfile_ok {normalized : NormalizedResumeText}
    (hfirst : s.db.resumeProfiles.first? (fun p => p.userId = owner) =
      some (id, p)) (htext : normalizeResumeText resumeText = .ok normalized) :
    (updateProfile owner resumeText).run s =
      (.ok ⟨id, { p with resumeText := normalized.text },
          normalized.wasTruncated⟩,
        s.setDb ((updateResumeProfile id p
          { p with resumeText := normalized.text }).apply s.db)) := by
  have hget := Table.get_of_first? hfirst
  simp only [updateProfile, profileByUserId, select, ask, bind_eq, read_bind,
    ret_bind, run, hfirst, htext, ofExcept, run_bind,
    run_updateProfileText hget, pure_eq]

end Updates

theorem updateProfile_related (resumeText : String)
    (h : s.Related (ResumeBlind userId ids) t) :
    ((updateProfile userId resumeText).transact s).2.Related
      (ResumeBlind userId ids) t := by
  rcases h.db.held.profile with ⟨id, p, hfirst⟩
  have hget := Table.get_of_first? hfirst
  have hproperty := Table.property_of_first? hfirst
  have hown : p.userId = userId := of_decide_eq_true hproperty
  cases htext : normalizeResumeText resumeText with
  | error e =>
      rw [transact_of_error (run_updateProfile_error hfirst htext)]
      exact ⟨h.db, h.seq, h.out⟩
  | ok normalized =>
      rw [transact_of_ok (run_updateProfile_ok hfirst htext)]
      refine ⟨⟨h.db.held.apply (.updateResumeProfile id p _), ?_,
        h.db.requests, h.db.outside⟩, h.seq, h.out⟩
      have hwrite : ResumeProfile.write p
          { p with resumeText := normalized.text } p =
            retext userId normalized.text p := by
        rw [retext, if_pos hown]
        simp [ResumeProfile.write]
      change Table.Alike _ (s.db.resumeProfiles.modify id
        (ResumeProfile.write p { p with resumeText := normalized.text }))
        t.db.resumeProfiles
      rw [Table.modify_congr hget hwrite]
      refine Table.alike_modify_left h.db.profiles id ?_
      intro a b hab
      rw [Table.checkedUpdate_of_check rfl]
      exact profileAlike_retext normalized.text hab

theorem updateResumeProfile_agrees (id : Int) (loaded : ResumeProfile)
    (resumeText : String) :
    (updateResumeProfile id loaded
        { loaded with resumeText := resumeText }).Agrees
      (ResumeBlind userId ids)
      (updateResumeProfile id loaded
        { loaded with resumeText := resumeText }) := by
  constructor
  · intro v v' _
    have hnone (w : Db) : (updateResumeProfile id loaded
        { loaded with resumeText := resumeText }).violation w = none :=
      violation_updateIn.mpr fun _ _ => rfl
    rw [hnone, hnone]
  · intro v v' h
    refine ⟨h.held.apply (.updateResumeProfile id loaded _), ?_, h.requests,
      h.outside⟩
    apply Table.alike_modify h.profiles
    intro a b hab
    rw [Table.checkedUpdate_of_check rfl, Table.checkedUpdate_of_check rfl]
    rcases hab with ⟨hcopy, hsame⟩
    constructor
    · rw [hcopy]
      rfl
    · intro hne
      rw [hsame hne]

theorem run_updateProfile_none {owner : Int}
    (hfirst : s.db.resumeProfiles.first? (fun p => p.userId = owner) = none)
    (resumeText : String) :
    (updateProfile owner resumeText).run s = (.error Exc.profileNotFound, s) := by
  simp only [updateProfile, profileByUserId, select, ask, bind_eq, read_bind,
    ret_bind, run, hfirst]

theorem first?_profile_of_ne {v v' : Db} {owner : Int} (hne : owner ≠ userId)
    (h : ResumeBlind userId ids v v') :
    v'.resumeProfiles.first? (fun p => p.userId = owner) =
      v.resumeProfiles.first? fun p => p.userId = owner := by
  have hrel := first?_profile_alike owner h
  generalize v.resumeProfiles.first? _ = found at hrel ⊢
  generalize v'.resumeProfiles.first? _ = found' at hrel ⊢
  cases hrel with
  | none => rfl
  | some hab => rw [Prod.ext hab.left.symm (hab.right.right hne).symm]

theorem updateProfile_tracks {owner : Int} (hne : owner ≠ userId)
    (resumeText : String) :
    Tracks (ResumeBlind userId ids) (updateProfile owner resumeText)
      (updateProfile owner resumeText) := by
  intro s t h
  have hsame := first?_profile_of_ne hne h.db
  cases hfirst : s.db.resumeProfiles.first? (fun p => p.userId = owner) with
  | none =>
      rw [hfirst] at hsame
      rw [run_updateProfile_none hfirst, run_updateProfile_none hsame]
      exact ⟨SameOutcome.error _, h⟩
  | some entry =>
      rcases entry with ⟨id, p⟩
      rw [hfirst] at hsame
      cases htext : normalizeResumeText resumeText with
      | error e =>
          rw [run_updateProfile_error hfirst htext,
            run_updateProfile_error hsame htext]
          exact ⟨SameOutcome.error e, h⟩
      | ok normalized =>
          rw [run_updateProfile_ok hfirst htext,
            run_updateProfile_ok hsame htext]
          have hagrees : (updateResumeProfile id p _).Agrees
              (ResumeBlind userId ids) _ :=
            updateResumeProfile_agrees id p normalized.text
          exact ⟨SameOutcome.ok trivial, hagrees.apply _ _ h.db, h.seq, h.out⟩

end ProfileCalls

/-!
# The work on the request
-/

/-- The call of the worker, by the model it asks. -/
def workOn (env : Env) (clients : Clients) (userId : Int) (vacancyUrl : String)
    (requestId : Int) (enforceQuota : Bool) (now : Instant) (tone : Tone)
    (model : String -> Except Exc LLMCompletion) :
    Session GeneratedCoverLetter :=
  generateForVacancyUrl env { clients with generateCoverLetter := model } userId
    vacancyUrl tone (some requestId) enforceQuota now

def failsOn (prompt : String) (e : Exc) (asked : String) :
    Except Exc LLMCompletion :=
  if asked = prompt then .error e else .error Exc.emptyLLMResponse

/-- The prompt reaches the model: however the model fails on it, the call ends
with that. -/
def SendsPrompt
    (work : (String -> Except Exc LLMCompletion) -> Session GeneratedCoverLetter)
    (s : Store coverAI) (prompt : String) : Prop :=
  forall e, ((work (failsOn prompt e)).transact s).1 = .error e

/-- The sessions end alike and leave the same letters. -/
structure WritesAlike (p p' : Session GeneratedCoverLetter)
    (s s' : Store coverAI) : Prop where
  result : (p.transact s).1 = (p'.transact s').1
  letters : (p.transact s).2.db.coverLetters =
    (p'.transact s').2.db.coverLetters

/-- Two sessions that are alike a third one. -/
theorem WritesAlike.join {p p' q : Session GeneratedCoverLetter}
    {s s' t : Store coverAI} (h : WritesAlike p q s t)
    (h' : WritesAlike p' q s' t) : WritesAlike p p' s s' :=
  ⟨h.result.trans h'.result.symm, h.letters.trans h'.letters.symm⟩

theorem sendsPrompt_iff_of_alike {s s' : Store coverAI}
    {work work' : (String -> Except Exc LLMCompletion) ->
      Session GeneratedCoverLetter}
    (h : forall model, WritesAlike (work model) (work' model) s s')
    (prompt : String) :
    SendsPrompt work s prompt <-> SendsPrompt work' s' prompt := by
  unfold SendsPrompt
  constructor
  · intro hsends e
    rw [← (h _).result]
    exact hsends e
  · intro hsends e
    rw [(h _).result]
    exact hsends e

structure SameLetter (letter letter' : CoverLetter) : Prop where
  text : letter.text = letter'.text
  tone : letter.tone = letter'.tone
  profileId : letter.profileId = letter'.profileId
  promptContext : letter.promptContext = letter'.promptContext

/-- The vacancy service gives two stores what makes the same prompts. -/
def SamePosting (env : Env) (clients : Clients) (vacancyUrl : String)
    (now : Instant) (s s' : Store coverAI) : Prop :=
  forall result result',
    vacancyOutcome env clients vacancyUrl now s = .ok result ->
    vacancyOutcome env clients vacancyUrl now s' = .ok result' ->
    forall profile tone,
      env.buildCoverLetterPrompt profile result.vacancy result.employer tone =
        env.buildCoverLetterPrompt profile result'.vacancy result'.employer tone

section Work

variable {env : Env} {clients : Clients} {userId requestId : Int}
  {ids : Set Int}
  {vacancyUrl : String} {enforceQuota : Bool} {now : Instant}
  {s s' : Store coverAI}

/-- Where the databases differ in the resume text only, the work on the request
is the same, whatever the model answers. -/
theorem workOn_alike (tone tone' : Tone)
    (model : String -> Except Exc LLMCompletion)
    (hid : requestId ∈ ids) (h : s.Related (ResumeBlind userId ids) s') :
    WritesAlike
      (workOn env clients userId vacancyUrl requestId enforceQuota now tone
        model)
      (workOn env clients userId vacancyUrl requestId enforceQuota now tone'
        model) s s' := by
  have hsim := sim_transact (generateForVacancyUrl_held_sim env
    { clients with generateCoverLetter := model } vacancyUrl tone tone' hid
    enforceQuota now) h
  have hletters := congrArg (fun db : Db => db.coverLetters)
    hsim.right.db.outside
  exact ⟨hsim.left.eq, hletters⟩

/-- What a letter for the request is made of: the snapshot, and what the vacancy
service gives. -/
theorem source_of_held {q : Snapshot} {model : String -> Except Exc LLMCompletion}
    {tone : Tone} {source : LetterSource} {written : GeneratedCoverLetter}
    (hheld : q.Held s.db)
    (h : WritesLetter env { clients with generateCoverLetter := model } q.userId
      vacancyUrl tone (some q.requestId) now s source written s') :
    q.HeldBy source.request ∧ source.tone tone = q.tone ∧
      snapshotProfile source.profile source.request =
        { userId := q.userId, title := q.title, resumeText := q.text } := by
  rcases hheld.request with ⟨request, hget, hrequest⟩
  rcases hheld.profile with ⟨id, profile, hfirst, htitle⟩
  have hsame : source.request = request :=
    Option.some.inj (h.binds.right.left.symm.trans hget)
  have hprofile : source.profile = profile :=
    congrArg Prod.snd (Option.some.inj (h.profile.symm.trans hfirst))
  have howner := Table.property_of_first? hfirst
  have howner : profile.userId = q.userId := of_decide_eq_true howner
  rw [hsame, hprofile, LetterSource.tone, hsame]
  refine ⟨hrequest, ?_, ?_⟩
  · rw [hrequest.tone]
    rfl
  · rw [snapshotProfile, hrequest.text, ← htitle, ← howner]

theorem sameLetter_of_held {q : Snapshot}
    {model : String -> Except Exc LLMCompletion} {tone tone' : Tone}
    {written written' : GeneratedCoverLetter} (hheld : q.Held s.db)
    (hheld' : q.Held s'.db) (hposting : SamePosting env clients vacancyUrl now s s')
    (hwritten : ((workOn env clients q.userId vacancyUrl q.requestId
      enforceQuota now tone model).transact s).1 = .ok written)
    (hwritten' : ((workOn env clients q.userId vacancyUrl q.requestId
      enforceQuota now tone' model).transact s').1 = .ok written') :
    SameLetter written.letter written'.letter := by
  have hsource (tone : Tone) (t : Store coverAI)
      (result : GeneratedCoverLetter)
      (hresult : ((workOn env clients q.userId vacancyUrl q.requestId
        enforceQuota now tone model).transact t).1 = .ok result) :
      exists source t', WritesLetter env
        { clients with generateCoverLetter := model } q.userId vacancyUrl tone
        (some q.requestId) now t source result t' := by
    rcases hrun : (workOn env clients q.userId vacancyUrl q.requestId
      enforceQuota now tone model).transact t with ⟨res, t'⟩
    rw [hrun] at hresult
    cases hresult
    rcases ensures_of_run generateForVacancyUrl_ensures
      (run_of_transact_ok hrun) with ⟨source, hsource⟩
    exact ⟨source, t', hsource⟩
  rcases hsource tone s written hwritten with ⟨source, t, h⟩
  rcases hsource tone' s' written' hwritten' with ⟨source', t', h'⟩
  rcases source_of_held hheld h with ⟨hrequest, htone, hprofile⟩
  rcases source_of_held hheld' h' with ⟨hrequest', htone', hprofile'⟩
  have hprompt := h.prompt
  have hprompt' := h'.prompt
  rw [hprofile, htone] at hprompt
  rw [hprofile', htone', ← hposting _ _ h.vacancy h'.vacancy, hprompt] at hprompt'
  have hsame : source.prompt = source'.prompt := Except.ok.inj hprompt'
  have hcompletion : source.completion = source'.completion := by
    have hanswer := h'.completion
    rw [← hsame, h.completion] at hanswer
    exact Except.ok.inj hanswer
  rw [h.letter, h'.letter]
  constructor
  · simp only [coverLetter, hcompletion]
  · simp only [coverLetter, htone, htone']
  · simp only [coverLetter, hrequest.profile, hrequest'.profile]
  · simp only [coverLetter, hsame]

end Work

end CoverAI
