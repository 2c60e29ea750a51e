import CoverAI.Billing.PlanAgreement
import CoverAI.Bot.Sessions
import CoverAI.Generation.Route

/-!
# Tones of queued jobs

The API compares the tone with the plan when it queues a job.  The bot looks at
the plan when the link arrives, and the tone is chosen later.
-/

namespace CoverAI

open Txn Program

/-!
# Handlers
-/

/-- A link is stored for its tone, or a formal job is queued. -/
theorem handleVacancyUrl_state (env : Env) (userId : Int) (user : User)
    (vacancyUrl : String) (now : Instant) (b : BotState) :
    ((handleVacancyUrl userId user vacancyUrl).run env now b).state = b ∨
    (exists id profile, b.store.db.resumeProfiles.get id = some profile ∧
      profile.userId = userId ∧
      ((handleVacancyUrl userId user vacancyUrl).run env now b).state =
        { b with pendingTones := b.pendingTones.set userId vacancyUrl }) ∨
    (¬ BotRefuses env userId now b.store.db ∧
      ((handleVacancyUrl userId user vacancyUrl).run env now b).state =
        { b with
          store := b.store.push (botJob env userId vacancyUrl .formal) }) := by
  unfold handleVacancyUrl
  simp only [Handler.run]
  rcases transact_getProfile userId b.store with
    hmissing | ⟨id, profile, hget, howner, hfound⟩
  · rw [hmissing]
    exact Or.inl rfl
  · rw [hfound]
    simp only
    split
    · exact Or.inr (Or.inl ⟨id, profile, hget, howner, rfl⟩)
    · simp only [Handler.run]
      rcases transact_botEnqueueGeneration env userId vacancyUrl .formal now
        b.store with ⟨_, e, hrefused⟩ | ⟨htakes, hqueued⟩
      · left
        rw [hrefused]
        simp only
        split
        · rfl
        · rfl
        · rfl
        · rfl
      · rw [hqueued]
        exact Or.inr (Or.inr ⟨htakes, rfl⟩)

section Callback

variable {env : Env} {callback : IncomingCallback} {b : BotState}
  {s : Store coverAI}

theorem handleToneCallback_of_error {e : Exc} (now : Instant)
    (h : (getOrCreateTelegramUser env.predictionCostCredits
      callback.fromUser).transact b.store = (.error e, s)) :
    ((handleToneCallback callback).run env now b).state =
      { b with store := s } := by
  unfold handleToneCallback
  simp only [Handler.run]
  rw [h]
  rfl

/-- The stored link is taken, and its job is queued or refused. -/
theorem handleToneCallback_of_ok {userId : Int} {user : User} (now : Instant)
    (h : (getOrCreateTelegramUser env.predictionCostCredits
      callback.fromUser).transact b.store = (.ok (userId, user), s)) :
    ((b.pendingTones.vacancyUrls userId = none ∨
        BotRefuses env userId now s.db) ∧
      ((handleToneCallback callback).run env now b).state =
        { store := s, pendingTones := b.pendingTones.pop userId }) ∨
    (exists vacancyUrl, b.pendingTones.vacancyUrls userId = some vacancyUrl ∧
      ¬ BotRefuses env userId now s.db ∧
      ((handleToneCallback callback).run env now b).state =
        { store := s.push (botJob env userId vacancyUrl
            (toneFromCallback callback.data))
          pendingTones := b.pendingTones.pop userId }) := by
  unfold handleToneCallback
  simp only [Handler.run]
  rw [h]
  simp only [Handler.run]
  cases hpending : b.pendingTones.vacancyUrls userId with
  | none => exact Or.inl ⟨Or.inl rfl, rfl⟩
  | some vacancyUrl =>
      simp only [Handler.run]
      rcases transact_botEnqueueGeneration env userId vacancyUrl
        (toneFromCallback callback.data) now s with
        ⟨hrefuses, e, hrefused⟩ | ⟨htakes, hqueued⟩
      · refine Or.inl ⟨Or.inr hrefuses, ?_⟩
        rw [hrefused]
        simp only
        split
        · rfl
        · rfl
        · rfl
        · rename_i heq
          cases heq
      · refine Or.inr ⟨vacancyUrl, rfl, htakes, ?_⟩
        rw [hqueued]
        simp only [Handler.run]
        split
        · rfl
        · rfl

end Callback

/-!
# Requests
-/

inductive ToneRequest where
  | enqueue (userId : Int) (vacancyUrl : String) (tone : Tone) (now : Instant)
  | vacancyMessage (userId : Int) (user : User) (vacancyUrl : String)
      (now : Instant)
  | toneCallback (callback : IncomingCallback) (now : Instant)
  | subscription (request : SubscriptionRequest)

def ToneRequest.perform (env : Env) (b : BotState) : ToneRequest -> BotState
  | enqueue userId vacancyUrl tone now =>
      { b with
        store := ((createGeneration env userId vacancyUrl tone now).transact
          b.store).2 }
  | vacancyMessage userId user vacancyUrl now =>
      ((handleVacancyUrl userId user vacancyUrl).run env now b).state
  | toneCallback callback now =>
      ((handleToneCallback callback).run env now b).state
  | subscription request =>
      { b with store := (request.session.transact b.store).2 }

/-- The jobs that have reached the queue, each with the plan its user had
then. -/
structure ToneState where
  bot : BotState
  queued : List (Option Plan × Job)

def newlyQueued (s s' : Store coverAI) : List (Option Plan × Job) :=
  (s'.out.drop s.out.length).map fun job =>
    ((s'.db.users.get job.userId).map User.plan, job)

def ToneState.step (env : Env) (t : ToneState) (request : ToneRequest) :
    ToneState where
  bot := request.perform env t.bot
  queued :=
    t.queued ++ newlyQueued t.bot.store (request.perform env t.bot).store

def afterToneRequests (env : Env) (b : BotState)
    (requests : List ToneRequest) : ToneState :=
  requests.foldl (ToneState.step env) { bot := b, queued := [] }

def ToneAllowed (entry : Option Plan × Job) : Prop :=
  exists plan tone, entry.1 = some plan ∧
    Tone.ofValue entry.2.tone = some tone ∧ tone ∈ allowedTones plan

def TonesAllowed (t : ToneState) : Prop :=
  forall entry, entry ∈ t.queued -> ToneAllowed entry

/-- A callback with a tone the plan of the user does not have meets no link, or
the bot's own checks refuse it. -/
def KeepsTones (env : Env) (b : BotState) : ToneRequest -> Prop
  | .toneCallback callback now =>
      forall userId user,
        b.store.db.users.first?
            (fun u => u.telegramId = some callback.fromUser) =
          some (userId, user) ->
        toneFromCallback callback.data ∉ allowedTones user.plan ->
        b.pendingTones.vacancyUrls userId = none ∨
          BotRefuses env userId now b.store.db
  | _ => True

/-- A profile belongs to a user, as its foreign key says, and so does a stored
link. -/
structure LinksOwned (b : BotState) : Prop where
  profiles : forall id profile, b.store.db.resumeProfiles.get id = some profile ->
    exists user, b.store.db.users.get profile.userId = some user
  pending : forall userId vacancyUrl,
    b.pendingTones.vacancyUrls userId = some vacancyUrl ->
      exists user, b.store.db.users.get userId = some user

/-!
# What a request queues
-/

/-- A route that ends normally has compared the tone with the plan. -/
theorem createGeneration_exits (env : Env) (userId : Int)
    (vacancyUrl : String) (tone : Tone) (now : Instant) (s : Store coverAI) :
    (createGeneration env userId vacancyUrl tone now).Exits
      (fun _ s' => s'.db.users = s.db.users ∧
        s'.db.resumeProfiles = s.db.resumeProfiles ∧
        (s'.out = s.out ∨ exists requestId user,
          s.db.users.get userId = some user ∧ tone ∈ allowedTones user.plan ∧
          s'.out = s.out ++ [queuedJob userId vacancyUrl tone
            env.predictionCostCredits requestId])) s := by
  simp only [createGeneration, currentUser, bind_eq, select, ask,
    read_bind, exits_read, ret_bind]
  cases huser : s.db.users.get userId with
  | none => exact ⟨rfl, rfl, Or.inl rfl⟩
  | some user =>
      rw [ret_bind, exits_bind, exits_tryCatch]
      refine exits_mono (enqueueGeneration_exits env (some user) userId
        vacancyUrl tone now s) ?_
      intro res s' h
      rcases h with ⟨hqueues, husers, hprofiles, hchecked⟩
      cases res with
      | error e => exact ⟨husers, hprofiles, Or.inl hqueues⟩
      | ok created =>
          rcases hchecked created rfl with ⟨checked, hchecks⟩
          rcases hchecks.tone with ⟨user', heq, htone⟩
          cases heq
          exact ⟨husers, hprofiles,
            Or.inr ⟨created.1, user, rfl, htone, hqueues⟩⟩

theorem createGeneration_transact (env : Env) (userId : Int)
    (vacancyUrl : String) (tone : Tone) (now : Instant) (s : Store coverAI) :
    ((createGeneration env userId vacancyUrl tone now).transact s).2.db.users =
        s.db.users ∧
      ((createGeneration env userId vacancyUrl tone now).transact
        s).2.db.resumeProfiles = s.db.resumeProfiles ∧
      (((createGeneration env userId vacancyUrl tone now).transact s).2.out =
          s.out ∨
        exists requestId user,
          s.db.users.get userId = some user ∧ tone ∈ allowedTones user.plan ∧
          ((createGeneration env userId vacancyUrl tone now).transact s).2.out =
            s.out ++ [queuedJob userId vacancyUrl tone
              env.predictionCostCredits requestId]) := by
  rcases exits_transact
    (createGeneration_exits env userId vacancyUrl tone now s) with
    ⟨response, s', hdone, h⟩ | ⟨e, s', hfailed, h⟩
  · rw [hdone]
    exact h
  · rw [hfailed]
    exact ⟨rfl, rfl, h.right.right⟩

section Logged

variable {s s' : Store coverAI} {job : Job}

theorem newlyQueued_of_eq (h : s'.out = s.out) : newlyQueued s s' = [] := by
  rw [newlyQueued, h, List.drop_length, List.map_nil]

theorem newlyQueued_of_append (h : s'.out = s.out ++ [job]) :
    newlyQueued s s' =
      [((s'.db.users.get job.userId).map User.plan, job)] := by
  rw [newlyQueued, h, List.drop_left, List.map_singleton]

end Logged

theorem toneAllowed_iff {plan : Plan} {tone : Tone} {job : Job}
    (hjob : job.tone = tone.value) :
    ToneAllowed (some plan, job) <-> tone ∈ allowedTones plan := by
  constructor
  · intro h
    rcases h with ⟨_, _, hplan, htone, hallowed⟩
    rw [hjob, Tone.ofValue_value] at htone
    cases hplan
    cases htone
    exact hallowed
  · intro hallowed
    refine ⟨plan, tone, rfl, ?_, hallowed⟩
    rw [hjob, Tone.ofValue_value]

theorem formal_mem_allowedTones (plan : Plan) :
    Tone.formal ∈ allowedTones plan := by
  cases plan with
  | free => decide
  | standard => decide
  | pro => decide

/-!
# One request
-/

section Performed

variable {env : Env} {b : BotState}

def QueuesAllowed (env : Env) (b : BotState) (request : ToneRequest) : Prop :=
  forall entry, entry ∈ newlyQueued b.store (request.perform env b).store ->
    ToneAllowed entry

theorem queuesAllowed_of_out {request : ToneRequest}
    (h : (request.perform env b).store.out = b.store.out) :
    QueuesAllowed env b request := by
  intro entry hentry
  rw [newlyQueued_of_eq h] at hentry
  cases hentry

theorem queuesAllowed_iff_of_append {request : ToneRequest} {job : Job}
    {user : User} {tone : Tone}
    (hout : (request.perform env b).store.out = b.store.out ++ [job])
    (huser : (request.perform env b).store.db.users.get job.userId = some user)
    (hjob : job.tone = tone.value) :
    QueuesAllowed env b request <-> tone ∈ allowedTones user.plan := by
  rw [QueuesAllowed, newlyQueued_of_append hout, huser]
  simp only [List.mem_singleton, forall_eq]
  exact toneAllowed_iff hjob

theorem enqueue_queuesAllowed (userId : Int) (vacancyUrl : String)
    (tone : Tone) (now : Instant) :
    QueuesAllowed env b (.enqueue userId vacancyUrl tone now) := by
  rcases createGeneration_transact env userId vacancyUrl tone now b.store
    with ⟨husers, _, hout | ⟨requestId, user, huser, htone, hout⟩⟩
  · exact queuesAllowed_of_out hout
  · have hqueued : ((ToneRequest.enqueue userId vacancyUrl tone now).perform
        env b).store.out = b.store.out ++ [queuedJob userId vacancyUrl tone
          env.predictionCostCredits requestId] := hout
    have hplan : ((ToneRequest.enqueue userId vacancyUrl tone now).perform env
        b).store.db.users.get userId = some user := by
      rw [← huser, ← husers]
      rfl
    exact (queuesAllowed_iff_of_append hqueued hplan rfl).mpr htone

theorem vacancyMessage_queuesAllowed (userId : Int) (user : User)
    (vacancyUrl : String) (now : Instant) :
    QueuesAllowed env b (.vacancyMessage userId user vacancyUrl now) := by
  rcases handleVacancyUrl_state env userId user vacancyUrl now b with
    hsame | ⟨_, _, _, _, hstored⟩ | ⟨htakes, hqueued⟩
  · apply queuesAllowed_of_out
    rw [ToneRequest.perform, hsame]
  · apply queuesAllowed_of_out
    rw [ToneRequest.perform, hstored]
  · cases huser : b.store.db.users.get userId with
    | none =>
        apply absurd _ htakes
        intro user' hget
        cases huser.symm.trans hget
    | some user' =>
        have hplan : ((ToneRequest.vacancyMessage userId user vacancyUrl
            now).perform env b).store.db.users.get userId = some user' := by
          rw [ToneRequest.perform, hqueued]
          exact huser
        have htone : (botJob env userId vacancyUrl .formal).tone =
            Tone.formal.value := rfl
        exact (queuesAllowed_iff_of_append
          (congrArg (fun b => b.store.out) hqueued) hplan htone).mpr
            (formal_mem_allowedTones user'.plan)

/-- A known user has an id, and the link stored under it is taken. -/
theorem toneCallback_queuesAllowed_iff {callback : IncomingCallback}
    {userId : Int} {user : User} (now : Instant)
    (hfound : b.store.db.users.first?
      (fun u => u.telegramId = some callback.fromUser) = some (userId, user))
    (hknown : (getOrCreateTelegramUser env.predictionCostCredits
      callback.fromUser).transact b.store = (.ok (userId, user), b.store)) :
    QueuesAllowed env b (.toneCallback callback now) <->
      KeepsTones env b (.toneCallback callback now) := by
  rcases handleToneCallback_of_ok now hknown with
    ⟨hrefused, hstate⟩ | ⟨vacancyUrl, hlink, htakes, hstate⟩
  · apply iff_of_true
    · apply queuesAllowed_of_out
      rw [ToneRequest.perform, hstate]
    · intro userId' user' hfound' _
      cases hfound.symm.trans hfound'
      exact hrefused
  · have huser : ((ToneRequest.toneCallback callback now).perform env
        b).store.db.users.get userId = some user := by
      rw [ToneRequest.perform, hstate]
      exact Table.get_of_first? hfound
    rw [queuesAllowed_iff_of_append (congrArg (fun b => b.store.out) hstate)
      huser rfl]
    constructor
    · intro htone userId' user' hfound' hforbidden
      cases hfound.symm.trans hfound'
      exact absurd htone hforbidden
    · intro hkeeps
      by_contra hforbidden
      rcases hkeeps userId user hfound hforbidden with hnone | hrefuses
      · cases hlink.symm.trans hnone
      · exact htakes hrefuses

theorem LinksOwned.no_link {userId : Int} (h : LinksOwned b)
    (hfresh : b.store.db.users.get userId = none) :
    b.pendingTones.vacancyUrls userId = none := by
  cases hlink : b.pendingTones.vacancyUrls userId with
  | none => rfl
  | some vacancyUrl =>
      rcases h.pending userId vacancyUrl hlink with ⟨_, hget⟩
      cases hfresh.symm.trans hget

/-- An unknown user has no link. -/
theorem toneCallback_queuesAllowed (hlinks : LinksOwned b)
    {callback : IncomingCallback} (now : Instant)
    (hunknown : b.store.db.users.first?
      (fun u => u.telegramId = some callback.fromUser) = none) :
    QueuesAllowed env b (.toneCallback callback now) := by
  have hsilent := (getOrCreateTelegramUser_silent
    env.predictionCostCredits callback.fromUser).transact_out b.store
  apply queuesAllowed_of_out
  rw [ToneRequest.perform]
  rcases getOrCreateTelegramUser_cases env.predictionCostCredits
    callback.fromUser b.store with
    ⟨_, hfound, _⟩ |
      ⟨_, ⟨⟨userId, user⟩, hok, hregisters, _⟩ | ⟨e, herror, _⟩⟩
  · cases hunknown.symm.trans hfound
  · rcases handleToneCallback_of_ok now (Prod.ext hok rfl) with
      ⟨_, hstate⟩ | ⟨vacancyUrl, hlink, _⟩
    · rw [hstate]
      exact hsilent
    · cases hlink.symm.trans (hlinks.no_link hregisters.fresh)
  · rw [handleToneCallback_of_error now (Prod.ext herror rfl)]
    exact hsilent

/-- Whatever a request queues is allowed, unless it is the job of a callback
with a tone its user does not have. -/
theorem queuesAllowed_iff (hlinks : LinksOwned b) (request : ToneRequest) :
    QueuesAllowed env b request <-> KeepsTones env b request := by
  cases request with
  | enqueue userId vacancyUrl tone now =>
      exact iff_of_true (enqueue_queuesAllowed _ _ _ _) trivial
  | vacancyMessage userId user vacancyUrl now =>
      exact iff_of_true (vacancyMessage_queuesAllowed _ _ _ _) trivial
  | toneCallback callback now =>
      rcases getOrCreateTelegramUser_cases env.predictionCostCredits
        callback.fromUser b.store with ⟨entry, hfound, hknown⟩ | ⟨hunknown, _⟩
      · exact toneCallback_queuesAllowed_iff now hfound hknown
      · apply iff_of_true (toneCallback_queuesAllowed hlinks now hunknown)
        intro userId user hfound
        cases hunknown.symm.trans hfound
  | subscription request =>
      apply iff_of_true _ trivial
      apply queuesAllowed_of_out
      exact Silent.transact_out
        (SubscriptionRequest.session_within
          ⟨fun _ _ => trivial, fun _ _ _ => trivial, fun _ _ _ => trivial,
            trivial, fun _ => trivial⟩ request) b.store

end Performed

/-!
# Owners of links
-/

/-- Profiles stay, and no user disappears. -/
structure OwnersKept (db d : Db) : Prop where
  profiles : d.resumeProfiles = db.resumeProfiles
  users : forall id user, db.users.get id = some user ->
    exists user', d.users.get id = some user'

theorem OwnersKept.of_eq {db d : Db} (husers : d.users = db.users)
    (hprofiles : d.resumeProfiles = db.resumeProfiles) : OwnersKept db d := by
  refine ⟨hprofiles, ?_⟩
  intro id user hget
  rw [husers]
  exact ⟨user, hget⟩

theorem RegistersUser.ownersKept {s s' : Store coverAI} {entry : Int × User}
    (h : RegistersUser s entry s') : OwnersKept s.db s'.db := by
  refine ⟨h.profiles, ?_⟩
  intro id user hget
  by_cases hid : id = entry.1
  · rw [hid] at hget
    cases h.fresh.symm.trans hget
  · rw [h.others id hid]
    exact ⟨user, hget⟩

theorem OwnersKept.updateUser {db d : Db} (h : OwnersKept db d) (id : Int)
    (loaded edited : User) :
    OwnersKept db ((CoverAI.updateUser id loaded edited).apply d) := by
  refine ⟨h.profiles, ?_⟩
  intro k user hget
  rcases h.users k user hget with ⟨user', hget'⟩
  rw [updateUser_apply, Table.get_modify]
  split
  · rename_i hk
    rw [← hk, hget']
    exact ⟨_, rfl⟩
  · exact ⟨user', hget'⟩

theorem subscription_ownersKept (request : SubscriptionRequest)
    (s : Store coverAI) :
    OwnersKept s.db (request.session.transact s).2.db := by
  have hkeeps : request.session.Keeps (OwnersKept s.db) :=
    SubscriptionRequest.session_within
      { inserts := fun _ _ _ h => ⟨h.profiles, h.users⟩
        updates := fun _ _ _ _ h => ⟨h.profiles, h.users⟩
        users := fun id loaded edited _ h => h.updateUser id loaded edited
        draws := trivial
        raises := fun _ => trivial } request
  exact hkeeps.transact (OwnersKept.of_eq rfl rfl)

section Links

variable {b : BotState} {s : Store coverAI}

theorem LinksOwned.kept (h : LinksOwned b)
    (hkept : OwnersKept b.store.db s.db) :
    LinksOwned { store := s, pendingTones := b.pendingTones } := by
  constructor
  · intro id profile hget
    rw [hkept.profiles] at hget
    rcases h.profiles id profile hget with ⟨user, huser⟩
    exact hkept.users _ user huser
  · intro userId vacancyUrl hlink
    rcases h.pending userId vacancyUrl hlink with ⟨user, huser⟩
    exact hkept.users _ user huser

theorem LinksOwned.set (h : LinksOwned b) {userId : Int} {user : User}
    (huser : b.store.db.users.get userId = some user) (vacancyUrl : String) :
    LinksOwned { store := b.store
                 pendingTones := b.pendingTones.set userId vacancyUrl } := by
  refine ⟨h.profiles, ?_⟩
  intro id link hlink
  by_cases hid : id = userId
  · rw [hid]
    exact ⟨user, huser⟩
  · apply h.pending id link
    simpa [PendingToneStore.set, Function.update_of_ne hid] using hlink

theorem LinksOwned.pop (h : LinksOwned b) (userId : Int) :
    LinksOwned { store := b.store
                 pendingTones := b.pendingTones.pop userId } := by
  refine ⟨h.profiles, ?_⟩
  intro id link hlink
  by_cases hid : id = userId
  · rw [hid] at hlink
    simp [PendingToneStore.pop] at hlink
  · apply h.pending id link
    simpa [PendingToneStore.pop, Function.update_of_ne hid] using hlink

theorem LinksOwned.toneCallback (env : Env) (h : LinksOwned b)
    (callback : IncomingCallback) (now : Instant) :
    LinksOwned ((ToneRequest.toneCallback callback now).perform env b) := by
  have hkept : OwnersKept b.store.db ((getOrCreateTelegramUser
      env.predictionCostCredits callback.fromUser).transact b.store).2.db := by
    rcases getOrCreateTelegramUser_cases env.predictionCostCredits
      callback.fromUser b.store with
      ⟨_, _, hknown⟩ | ⟨_, ⟨_, _, hregisters, _⟩ | ⟨_, _, hsame⟩⟩
    · rw [hknown]
      exact OwnersKept.of_eq rfl rfl
    · exact hregisters.ownersKept
    · rw [hsame]
      exact OwnersKept.of_eq rfl rfl
  rw [ToneRequest.perform]
  cases hresult : ((getOrCreateTelegramUser env.predictionCostCredits
      callback.fromUser).transact b.store).1 with
  | error e =>
      rw [handleToneCallback_of_error now (Prod.ext hresult rfl)]
      exact h.kept hkept
  | ok entry =>
      rcases entry with ⟨userId, user⟩
      rcases handleToneCallback_of_ok now (Prod.ext hresult rfl) with
        ⟨_, hstate⟩ | ⟨_, _, _, hstate⟩
      · rw [hstate]
        exact (h.kept hkept).pop userId
      · rw [hstate]
        have hpushed := (h.kept hkept).pop userId
        exact ⟨hpushed.profiles, hpushed.pending⟩

theorem LinksOwned.perform (env : Env) (h : LinksOwned b)
    (request : ToneRequest) : LinksOwned (request.perform env b) := by
  cases request with
  | enqueue userId vacancyUrl tone now =>
      rcases createGeneration_transact env userId vacancyUrl tone now b.store
        with ⟨husers, hprofiles, _⟩
      exact h.kept (OwnersKept.of_eq husers hprofiles)
  | vacancyMessage userId user vacancyUrl now =>
      rw [ToneRequest.perform]
      rcases handleVacancyUrl_state env userId user vacancyUrl now b with
        hsame | ⟨id, profile, hget, howner, hstored⟩ | ⟨_, hqueued⟩
      · rw [hsame]
        exact h
      · rw [hstored]
        rcases h.profiles id profile hget with ⟨stored, huser⟩
        rw [howner] at huser
        exact h.set huser vacancyUrl
      · rw [hqueued]
        exact h.kept (OwnersKept.of_eq rfl rfl)
  | toneCallback callback now => exact h.toneCallback env callback now
  | subscription request =>
      exact h.kept (subscription_ownersKept request b.store)

end Links

/-!
# Runs
-/

theorem tonesAllowed_step_iff {env : Env} (t : ToneState)
    (request : ToneRequest) (hlinks : LinksOwned t.bot)
    (h : TonesAllowed t) :
    TonesAllowed (t.step env request) <-> KeepsTones env t.bot request := by
  rw [← queuesAllowed_iff hlinks request]
  constructor
  · exact fun hall entry hentry => hall entry (List.mem_append_right _ hentry)
  · intro hnew entry hentry
    rcases List.mem_append.mp hentry with hold | hnewly
    · exact h entry hold
    · exact hnew entry hnewly

/-- All jobs that reach the queue in a run have allowed tones exactly when no
callback of the run brings a tone its user does not have, a link and enough
credits and quota. -/
theorem tones_allowed_iff {env : Env} {b : BotState} (hlinks : LinksOwned b)
    (requests : List ToneRequest) :
    (forall done, done <+: requests ->
      TonesAllowed (afterToneRequests env b done)) <->
        forall done next, done ++ [next] <+: requests ->
          KeepsTones env (afterToneRequests env b done).bot next := by
  have hempty : TonesAllowed { bot := b, queued := [] } := by
    intro entry hentry
    cases hentry
  exact @foldl_holds_iff ToneState ToneRequest (ToneState.step env)
    (fun t => LinksOwned t.bot) TonesAllowed
    (fun t => KeepsTones env t.bot)
    (fun t request h => h.perform env request) tonesAllowed_step_iff _ hlinks
    hempty requests

/-!
# A subscription that ends before the tone is chosen
-/

def linkStore : Store coverAI :=
  ((createResumeProfile {
    userId := 1, title := "Resume", resumeText := "resume" }).transact
      ((getOrCreateTelegramUser 5 77).transact emptyStore).2).2

def linkBot : BotState where
  store := linkStore
  pendingTones := PendingToneStore.empty

theorem linkBot_linksOwned : LinksOwned linkBot := by
  constructor
  · intro id profile hget
    have hrows : linkStore.db.resumeProfiles.rows =
        [(1, { userId := 1, title := "Resume", resumeText := "resume" })] := rfl
    have hmem := Table.mem_of_get hget
    change (id, profile) ∈ linkStore.db.resumeProfiles.rows at hmem
    rw [hrows] at hmem
    cases List.mem_singleton.mp hmem
    exact ⟨{ newTelegramUser 77 with credits := 5 }, rfl⟩
  · intro userId vacancyUrl hlink
    cases hlink

def proUser : User :=
  { newTelegramUser 77 with credits := 5, plan := .pro }

def month : Instant :=
  paidSubscriptionDuration + 1

def choosesConfident : IncomingCallback :=
  { fromUser := 77, data := some "tone:confident", hasMessage := true }

/-- The link arrives on PRO; the tone is chosen after the sweep. -/
def lateChoice : List ToneRequest :=
  [.subscription (.activate 1 .pro 0), .vacancyMessage 1 proUser "url" 1,
    .subscription (.expire month),
    .toneCallback choosesConfident month]

theorem late_choice_queues_forbidden_tone :
    LinksOwned linkBot ∧
      (afterToneRequests sampleEnv linkBot
        (lateChoice.take 1)).bot.store.db.users.get 1 = some proUser ∧
      (afterToneRequests sampleEnv linkBot lateChoice).queued =
        [(some .free, botJob sampleEnv 1 "url" .confident)] ∧
      ¬ TonesAllowed (afterToneRequests sampleEnv linkBot lateChoice) := by
  have hqueued : (afterToneRequests sampleEnv linkBot lateChoice).queued =
      [(some .free, botJob sampleEnv 1 "url" .confident)] := rfl
  refine ⟨linkBot_linksOwned, rfl, hqueued, ?_⟩
  intro h
  have hallowed := h (some .free, botJob sampleEnv 1 "url" .confident) (by
    rw [hqueued]
    exact List.mem_singleton_self _)
  have hforbidden : Tone.confident ∉ allowedTones .free := by
    decide
  exact hforbidden ((toneAllowed_iff rfl).mp hallowed)

/-- The tone is chosen before the sweep, and pressed again after it. -/
def earlyChoice : List ToneRequest :=
  [.subscription (.activate 1 .pro 0), .vacancyMessage 1 proUser "url" 1,
    .toneCallback choosesConfident 2, .subscription (.expire month),
    .toneCallback choosesConfident month]

/-- The first callback queues a job of the PRO user, and the second one finds no
link. -/
theorem tones_allowed_early_choice :
    TonesAllowed (afterToneRequests sampleEnv linkBot earlyChoice) ∧
      (afterToneRequests sampleEnv linkBot earlyChoice).queued =
        [(some .pro, botJob sampleEnv 1 "url" .confident)] := by
  constructor
  · apply (tones_allowed_iff linkBot_linksOwned earlyChoice).mpr _ _
      List.prefix_rfl
    simp only [earlyChoice, forall_steps_cons]
    refine ⟨trivial, trivial, ?_, trivial, ?_, forall_steps_nil⟩
    · intro userId user hfound hforbidden
      have huser : some (1, proUser) = some (userId, user) := hfound
      cases huser
      have hallowed : Tone.confident ∈ allowedTones .pro := by
        decide
      exact absurd hallowed hforbidden
    · intro userId user hfound _
      have huser : some (1, { proUser with plan := .free }) =
          some (userId, user) := hfound
      cases huser
      exact Or.inl rfl
  · rfl

end CoverAI
