import CoverAI.Bot.Resumes
import CoverAI.Generation.Tones

/-!
# What a handler does to the store

A handler registers its user and may then save a resume or queue a job.  Most
handlers do neither, and nothing that they say promises a letter.
-/

namespace CoverAI

open Txn Program Coop

/-- A text that its sender wants to be kept as the resume. -/
structure ResumeOffer where
  sender : Int
  title : String
  text : String

/-- What everyone has after this offer. -/
def takeOffer (held : Int -> Option HeldResume) :
    Option ResumeOffer -> Int -> Option HeldResume
  | none => held
  | some offer =>
      Function.update held offer.sender
        (acceptResume offer.title offer.text (held offer.sender))

theorem takeOffer_self (held : Int -> Option HeldResume) (sender : Int)
    (title text : String) :
    takeOffer held (some ⟨sender, title, text⟩) sender =
      acceptResume title text (held sender) :=
  Function.update_self _ _ _

theorem takeOffer_of_ne (held : Int -> Option HeldResume) {sender t : Int}
    (h : t ≠ sender) (title text : String) :
    takeOffer held (some ⟨sender, title, text⟩) t = held t :=
  Function.update_of_ne h _ _

/-- Whoever is known stays known, everyone has the resume that the offer gives,
and these jobs have been queued. -/
structure Follows (s s' : Store coverAI) (offer : Option ResumeOffer)
    (jobs : List Job) : Prop where
  kept : Kept s'
  known : forall t id, userOf s.db t = some id -> userOf s'.db t = some id
  resumes : forall t,
    heldResume s'.db t = takeOffer (heldResume s.db) offer t
  out : s'.out = s.out ++ jobs

section Effects

variable {s s' s'' : Store coverAI} {offer : Option ResumeOffer}
  {jobs : List Job}

theorem Follows.refl (h : Kept s) : Follows s s none [] :=
  ⟨h, fun _ _ hknown => hknown, fun _ => rfl, (List.append_nil _).symm⟩

theorem Follows.trans (h : Follows s s' none [])
    (h' : Follows s' s'' offer jobs) :
    Follows s s'' offer jobs := by
  have hheld : heldResume s'.db = heldResume s.db := funext h.resumes
  constructor
  · exact h'.kept
  · intro t id hknown
    exact h'.known t id (h.known t id hknown)
  · intro t
    rw [h'.resumes, hheld]
  · rw [h'.out, h.out, List.append_nil]

theorem Follows.and_then (h : Follows s s' offer jobs)
    (h' : Follows s' s'' none []) : Follows s s'' offer jobs := by
  constructor
  · exact h'.kept
  · intro t id hknown
    exact h'.known t id (h.known t id hknown)
  · intro t
    exact (h'.resumes t).trans (h.resumes t)
  · rw [h'.out, List.append_nil, h.out]

theorem Undisturbed.follows (h : Undisturbed s s') (hs : Kept s) :
    Follows s s' none [] := by
  constructor
  · exact h.kept hs
  · intro t id hknown
    rw [h.users]
    exact hknown
  · exact h.heldResume
  · rw [h.out, List.append_nil]

theorem Registers.follows {telegramId userId : Int}
    (h : Registers s s' telegramId userId) : Follows s s' none [] := by
  constructor
  · exact h.kept
  · exact h.known
  · exact h.resumes
  · rw [h.out, List.append_nil]

theorem follows_push (h : Kept s) (job : Job) :
    Follows s (s.push job) none [job] :=
  ⟨⟨h.users, h.profiles, h.owners⟩, fun _ _ hknown => hknown, fun _ => rfl,
    rfl⟩

end Effects

/-!
# Registered senders
-/

section Handlers

variable {env : Env} {lib : BotLibrary} {message : IncomingMessage}
  {b : BotState} {s : Store coverAI} {offer : Option ResumeOffer}

theorem useCase_bind_ends {α β : Type} {p : Session β}
    {g : Except Exc β -> Bot α} {s' : Store coverAI}
    {Q : List Answer -> Except (Escape Exc) α -> BotState -> Prop}
    {res : Except Exc β} (hrun : p.transact b.store = (res, s'))
    (hg : (g res).Ends Q { b with store := s' })
    (habort : forall e, Q [] (.error (.aborted e)) b) :
    ((useCase p).bind g).Ends Q b := by
  refine Talk.ends_call_bind ?_ habort
  simp only [hrun]
  exact hg

/-- The sender is registered and the handler goes on, or the registration
fails. -/
theorem ensureUser_bind {α : Type} (h : Kept b.store)
    (hcredits : 0 < env.predictionCostCredits) {t : Int}
    (hfrom : message.fromUser = some t) :
    exists entry s, Registers b.store s t entry.1 ∧
      forall (Q : List Answer -> Except (Escape Exc) α -> BotState -> Prop)
        (k : Option (Int × User) -> Bot α),
        (k (some entry)).Ends Q { b with store := s } ->
        (forall e, Q [] (.error (.aborted e)) b) ->
        ((ensureUser env message).bind k).Ends Q b := by
  rcases getOrCreateTelegramUser_registers h hcredits t with
    ⟨entry, s, hrun, hregisters⟩
  refine ⟨entry, s, hregisters, ?_⟩
  intro Q k hk habort
  simp only [ensureUser, hfrom]
  refine Talk.ends_bind
    (R := fun said res b' =>
      said = [] ∧ (res = .ok (some entry) ∧ b' = { b with store := s } ∨
        exists e, res = .error (.aborted e) ∧ b' = b)) ?_ ?_ ?_
  · refine useCase_bind_ends hrun ?_ ?_
    · exact Talk.ends_ret ⟨rfl, Or.inl ⟨rfl, rfl⟩⟩
    · exact fun e => ⟨rfl, Or.inr ⟨e, rfl, rfl⟩⟩
  · intro said found b' hends
    rcases hends with ⟨rfl, ⟨hfound, rfl⟩ | ⟨e, hfound, _⟩⟩
    · cases hfound
      exact hk
    · cases hfound
  · intro said e b' hends
    rcases hends with ⟨rfl, ⟨hfound, _⟩ | ⟨e', hfound, rfl⟩⟩
    · cases hfound
    · cases hfound
      exact habort e'

/-- A sender whose registration is carried out. -/
theorem said_ensureUser_bind {t : Int} {entry : Int × User}
    {s' : Store coverAI} (hfrom : message.fromUser = some t)
    (hrun : (getOrCreateTelegramUser env.predictionCostCredits t).transact
      b.store = (.ok entry, s'))
    (k : Option (Int × User) -> Bot Unit) :
    (((ensureUser env message).bind k) noFaults b).said =
      (k (some entry) noFaults { b with store := s' }).said := by
  simp only [ensureUser, hfrom, Talk.bind_eq, Talk.bind_assoc, useCase]
  rw [Talk.said_call_bind]
  simp only [hrun, Talk.pure_eq, Talk.ret_bind]

theorem ensureUser_bind_of_none {α : Type} (hfrom : message.fromUser = none)
    (k : Option (Int × User) -> Bot α) :
    (ensureUser env message).bind k =
      (answer telegramUserMissingText).bind fun _ => k none := by
  simp only [ensureUser, hfrom, Talk.bind_eq, Talk.pure_eq, Talk.bind_assoc,
    Talk.ret_bind]

/-!
# Quiet handlers
-/

/-- Nothing is saved or queued, and no letter is promised. -/
def Quiet {α : Type} (c : Bot α) : Prop :=
  forall s, c.Keeps (fun b => Follows s b.store none []) fun a => ¬ a.Accepts

theorem quiet_ret {α : Type} (a : α) : Quiet (Talk.ret a : Bot α) :=
  fun _ => Talk.keeps_ret a

theorem quiet_raise {α : Type} (e : Exc) : Quiet (Talk.raise e : Bot α) :=
  fun _ => Talk.keeps_raise e

theorem quiet_answer {text : String} (h : text ≠ generationAcceptedText) :
    Quiet (answer text) := by
  intro s
  apply Talk.keeps_say
  intro haccepts
  rcases haccepts with haccepts | haccepts
  · cases haccepts
    exact h rfl
  · cases haccepts

theorem quiet_answerWithMenu (text : String) : Quiet (answerWithMenu text) := by
  intro s
  apply Talk.keeps_say
  intro haccepts
  rcases haccepts with haccepts | haccepts
  · cases haccepts
  · cases haccepts

theorem quiet_bind {α β : Type} {c : Bot β} {f : β -> Bot α} (hc : Quiet c)
    (hf : forall b, Quiet (f b)) : Quiet (c.bind f) :=
  fun s => Talk.keeps_bind (hc s) fun b => hf b s

theorem quiet_useCase_bind {α β : Type} {P : α -> Prop} {p : Session α}
    {g : Except Exc α -> Bot β} (hp : p.Within leavesResumes P)
    (hok : forall a, P a -> Quiet (g (.ok a)))
    (herror : forall e, Quiet (g (.error e))) : Quiet ((useCase p).bind g) := by
  intro s
  apply Talk.keeps_call_bind (P := P)
  · intro b h
    constructor
    · exact h.trans ((undisturbed_of_within hp b.store).follows h.kept)
    · intro a ha
      exact (transact_of_within hp (fun _ => trivial) b.store).left a ha
  · exact fun a ha => hok a ha s
  · exact fun e => herror e s

theorem quiet_ensureUser_bind {α : Type} {k : Option (Int × User) -> Bot α}
    (hcredits : 0 < env.predictionCostCredits)
    (hk : forall found, Quiet (k found)) :
    Quiet ((ensureUser env message).bind k) := by
  cases hfrom : message.fromUser with
  | none =>
      rw [ensureUser_bind_of_none hfrom]
      exact quiet_bind (quiet_answer (other_text (by decide +kernel)))
        fun _ => hk none
  | some t =>
      intro s b h
      rcases ensureUser_bind h.kept hcredits hfrom with ⟨entry, s', hs, hrun⟩
      apply hrun
      · exact hk _ s _ (h.trans hs.follows)
      · exact fun _ => ⟨h, fun _ hr => absurd hr List.not_mem_nil⟩

theorem quiet_handleStart (hcredits : 0 < env.predictionCostCredits) :
    Quiet (handleStart env message) :=
  quiet_ensureUser_bind hcredits fun _ => quiet_answerWithMenu _

theorem quiet_handleProfileCommand (hcredits : 0 < env.predictionCostCredits) :
    Quiet (handleProfileCommand env message) := by
  apply quiet_ensureUser_bind hcredits
  intro found
  cases found with
  | none => exact quiet_ret _
  | some entry =>
      apply quiet_useCase_bind (getProfile_leaves _)
      · intro profile _
        exact quiet_answer (formatProfile_other profile)
      · intro e
        split
        · exact quiet_answerWithMenu _
        · exact quiet_raise _
        · exact quiet_answer (formatProfile_other _)

theorem quiet_handlePlanCommand (hcredits : 0 < env.predictionCostCredits) :
    Quiet (handlePlanCommand env message) := by
  apply quiet_ensureUser_bind hcredits
  intro found
  cases found with
  | none => exact quiet_ret _
  | some entry =>
      apply quiet_useCase_bind (getCreditBalance_leaves _)
      · intro credits _
        exact quiet_answer (formatCreditBalance_other credits)
      · exact fun e => quiet_raise e

theorem quiet_handleRedeemCommand (hcredits : 0 < env.predictionCostCredits) :
    Quiet (handleRedeemCommand env message) := by
  apply quiet_ensureUser_bind hcredits
  intro found
  split
  · split
    · exact quiet_answer (other_text (by decide +kernel))
    · apply quiet_useCase_bind (redeemPromoCode_leaves _ _ _)
      · exact fun text htext => quiet_answer htext
      · exact fun e => quiet_raise e
  · exact quiet_ret _

theorem quiet_handleTopupCommand (hcredits : 0 < env.predictionCostCredits) :
    Quiet (handleTopupCommand lib env message) := by
  apply quiet_ensureUser_bind hcredits
  intro found
  split
  · split
    · exact quiet_raise _
    · exact quiet_answer (other_text (by decide +kernel))
    · apply quiet_useCase_bind (createMockTopUp_leaves _ _ _)
      · exact fun text htext => quiet_answer htext
      · exact fun e => quiet_raise e
  · exact quiet_ret _

theorem quiet_historyError (e : Exc) : Quiet (historyError e) := by
  unfold historyError
  split
  · exact quiet_answerWithMenu _
  · split
    · exact quiet_answer (other_text (by decide +kernel))
    · exact quiet_raise _

theorem quiet_handleHistoryCommand (hcredits : 0 < env.predictionCostCredits)
    (now : Instant) : Quiet (handleHistoryCommand lib env now message) := by
  apply quiet_ensureUser_bind hcredits
  intro found
  cases found with
  | none => exact quiet_ret _
  | some entry =>
      simp only
      split
      · exact quiet_raise _
      · apply quiet_useCase_bind (getLetter_leaves _ _ _)
        · intro letter _
          exact quiet_answer (formatHistoryDetail_other letter)
        · exact quiet_historyError
      · apply quiet_useCase_bind (listHistory_leaves _ _ _)
        · intro history _
          exact quiet_answer (formatHistoryList_other history)
        · exact quiet_historyError

theorem quiet_commandHandlers (hcredits : 0 < env.predictionCostCredits)
    {now : Instant} {entry : String × (IncomingMessage -> Bot Unit)}
    (h : entry ∈ commandHandlers lib env now) : Quiet (entry.2 message) := by
  simp only [commandHandlers, List.mem_cons, List.not_mem_nil, or_false] at h
  rcases h with rfl | rfl | rfl | rfl | rfl | rfl | rfl | rfl | rfl
  · exact quiet_handleStart hcredits
  · exact quiet_handleProfileCommand hcredits
  · exact quiet_handlePlanCommand hcredits
  · exact quiet_handlePlanCommand hcredits
  · exact quiet_handleRedeemCommand hcredits
  · exact quiet_handleTopupCommand hcredits
  · exact quiet_answerWithMenu _
  · exact quiet_handleHistoryCommand hcredits now
  · exact quiet_answerWithMenu _

theorem quiet_handleMainMenuText (hcredits : 0 < env.predictionCostCredits)
    {now : Instant} {text : String} {reply : Bot Unit}
    (h : handleMainMenuText lib env now message text = some reply) :
    Quiet reply := by
  unfold handleMainMenuText at h
  split at h
  · cases h
    exact quiet_handleProfileCommand hcredits
  · split at h
    · cases h
      exact quiet_handlePlanCommand hcredits
    · split at h
      · cases h
        exact quiet_handleHistoryCommand hcredits now
      · split at h
        · cases h
          exact quiet_answerWithMenu _
        · split at h
          · cases h
            exact quiet_answerWithMenu _
          · cases h

theorem quiet_resumeReply (result : Except Exc ProfileResult) :
    Quiet (resumeReply result) := by
  unfold resumeReply
  split
  · exact quiet_answer (formatProfileSaved_other _)
  · split
    · exact quiet_answer (other_text (by decide +kernel))
    · exact quiet_raise _

/-!
# Handlers that save a resume
-/

/-- A saved resume is what is accepted of the offer. -/
theorem SavesResume.follows {s' : Store coverAI} {sender userId : Int}
    {title text : String} (huser : userOf s.db sender = some userId)
    (h : SavesResume s s' userId title text) :
    Follows s s' (some ⟨sender, title, text⟩) [] := by
  have hsame : forall t, userOf s'.db t = userOf s.db t := by
    intro t
    rw [userOf, h.users]
    rfl
  constructor
  · exact h.kept
  · intro t id hknown
    rw [hsame]
    exact hknown
  · intro t
    by_cases ht : t = sender
    · subst ht
      rw [takeOffer_self]
      unfold heldResume
      rw [hsame, huser]
      exact h.resume
    · rw [takeOffer_of_ne _ ht]
      unfold heldResume
      rw [hsame]
      cases hfound : userOf s.db t with
      | none => rfl
      | some other =>
          apply h.others
          intro heq
          subst heq
          exact ht (userOf_injective hfound huser)
  · rw [h.out, List.append_nil]

/-- A call that the handler awaited has failed, and the exception goes on. -/
def Aborted (result : Except (Escape Exc) Unit) : Prop :=
  exists e, result = .error (.aborted e)

/-- What an update has done: the offer is taken, and the job is queued, which is
one of the sender.  Only a failed call can be the reason that an offer is not
taken, or that the user is not told of a job. -/
structure Effect (s : Store coverAI) (sender : Option Int)
    (offer taken : Option ResumeOffer) (job : Option Job) (said : List Answer)
    (result : Except (Escape Exc) Unit) (b' : BotState) : Prop where
  follows : Follows s b'.store taken job.toList
  taken : taken = offer ∨ (taken = none ∧ Aborted result)
  told : (exists a, a ∈ said ∧ a.Accepts) -> job ≠ none
  queued : job ≠ none -> (exists a, a ∈ said ∧ a.Accepts) ∨ Aborted result
  owner : forall j, job = some j -> exists t, sender = some t ∧
    userOf b'.store.db t = some j.userId

def Affects (s : Store coverAI) (sender : Option Int)
    (offer : Option ResumeOffer) (said : List Answer)
    (result : Except (Escape Exc) Unit) (b' : BotState) : Prop :=
  exists taken job, Effect s sender offer taken job said result b'

/-- Nothing is queued, and nothing is promised. -/
theorem affects_of_quiet {said : List Answer}
    {result : Except (Escape Exc) Unit} {taken : Option ResumeOffer}
    (h : Follows s b.store taken [])
    (htaken : taken = offer ∨ (taken = none ∧ Aborted result))
    (hsaid : forall a, a ∈ said -> ¬ a.Accepts) (sender : Option Int) :
    Affects s sender offer said result b := by
  refine ⟨taken, none, h, htaken, ?_, ?_, ?_⟩
  · intro htold
    rcases htold with ⟨a, hmem, ha⟩
    exact absurd ha (hsaid a hmem)
  · exact fun hnone => absurd rfl hnone
  · intro j hj
    cases hj

theorem affects_of_aborted (h : Follows s b.store none [])
    (sender : Option Int) (offer : Option ResumeOffer) (e : Exc) :
    Affects s sender offer [] (.error (.aborted e)) b :=
  affects_of_quiet h (Or.inr ⟨rfl, e, rfl⟩)
    (fun _ ha => absurd ha List.not_mem_nil) sender

theorem Quiet.affects {c : Bot Unit} (hc : Quiet c)
    (h : Follows s b.store offer []) (sender : Option Int) :
    c.Ends (Affects s sender offer) b := by
  refine Talk.ends_mono (hc b.store b (Follows.refl h.kept)) ?_
  intro said result b' hquiet
  exact affects_of_quiet (h.and_then hquiet.left) (Or.inl rfl) hquiet.right
    sender

theorem affects_ensureUser_bind (h : Kept b.store)
    (hcredits : 0 < env.predictionCostCredits) {t : Int}
    (hfrom : message.fromUser = some t) {k : Option (Int × User) -> Bot Unit}
    (hk : forall entry s, Registers b.store s t entry.1 ->
      (k (some entry)).Ends (Affects b.store (some t) offer)
        { b with store := s }) :
    ((ensureUser env message).bind k).Ends (Affects b.store (some t) offer)
      b := by
  rcases ensureUser_bind h hcredits hfrom with ⟨entry, s, hs, hrun⟩
  exact hrun _ k (hk entry s hs)
    fun e => affects_of_aborted (Follows.refl h) _ _ e

/-- The use case that saves a resume, and the reply to it. -/
theorem affects_save (h : Follows s b.store none []) {sender userId : Int}
    (huser : userOf b.store.db sender = some userId) (title text : String) :
    ((useCase (createOrUpdateProfile userId title text)).bind
      resumeReply).Ends (Affects s (some sender) (some ⟨sender, title, text⟩))
        b := by
  have hsaves := createOrUpdateProfile_saves h.kept (userOf_stored huser) title
    text
  have hfollows := h.trans (hsaves.follows huser)
  refine Talk.ends_call_bind ?_ ?_
  · exact (quiet_resumeReply _).affects hfollows _
  · exact fun e => affects_of_aborted h _ _ e

/-!
# Handlers that queue a job
-/

theorem affects_of_queued {sender userId : Int} {job : Job} {said : List Answer}
    {result : Except (Escape Exc) Unit} {b' : BotState}
    (h : Follows s b.store none [])
    (huser : userOf b.store.db sender = some userId)
    (hjob : job.userId = userId) (hstore : b'.store = b.store.push job)
    (htold : (exists a, a ∈ said ∧ a.Accepts) ∨ Aborted result) :
    Affects s (some sender) none said result b' := by
  refine ⟨none, some job, ?_, Or.inl rfl, ?_, ?_, ?_⟩
  · rw [hstore]
    exact h.trans (follows_push h.kept job)
  · exact fun _ => Option.some_ne_none job
  · exact fun _ => htold
  · intro j hj
    cases hj
    refine ⟨sender, rfl, ?_⟩
    rw [hstore, hjob]
    exact huser

/-- A menu goes with a refusal, not with a promise. -/
theorem not_accepts_menu (text : String) (k : Keyboard) :
    ¬ (Answer.message text (some k)).Accepts := by
  intro h
  rcases h with h | h
  · cases h
  · cases h

theorem not_accepts_alert (text : String) :
    ¬ (Answer.callback text true).Accepts := by
  intro h
  rcases h with h | h
  · cases h
  · cases h

/-- One answer that promises nothing. -/
theorem affects_refusal (h : Follows s b.store none []) {a : Answer}
    (ha : ¬ a.Accepts) (sender : Option Int) :
    ((Talk.say a).bind fun _ => Talk.ret ()).Ends (Affects s sender none) b := by
  refine Talk.ends_say_bind (Talk.ends_ret ?_) ?_
  · apply affects_of_quiet h (Or.inl rfl)
    intro a' ha'
    rw [List.mem_singleton.mp ha']
    exact ha
  · exact fun e => affects_of_aborted h _ _ e

theorem affects_vacancyUrl (h : Follows s b.store none [])
    {sender userId : Int} (huser : userOf b.store.db sender = some userId)
    (user : User) (text : String) (now : Instant) :
    ((handleVacancyUrl userId user text).talk env now).Ends
      (Affects s (some sender) none) b := by
  have habort : forall e, Affects s (some sender) none []
      (.error (.aborted e)) b := fun e => affects_of_aborted h _ _ e
  unfold handleVacancyUrl
  simp only [Handler.talk]
  rcases transact_getProfile userId b.store with
    hmissing | ⟨id, profile, _, _, hfound⟩
  · exact useCase_bind_ends hmissing
      (affects_refusal h (not_accepts_menu _ _) _) habort
  · refine useCase_bind_ends hfound ?_ habort
    simp only
    split
    · refine Talk.ends_update_bind (affects_refusal ?_ (not_accepts_menu _ _) _)
      exact h
    · simp only [Handler.talk]
      rcases transact_botEnqueueGeneration env userId text .formal now
        b.store with ⟨_, e, hrefused⟩ | ⟨_, hqueued⟩
      · refine useCase_bind_ends hrefused ?_ habort
        simp only
        split
        · exact affects_refusal h (not_accepts_menu _ _) _
        · exact affects_refusal h (not_accepts_menu _ _) _
        · exact (quiet_raise _).affects h _
        · rename_i heq
          cases heq
      · refine useCase_bind_ends hqueued ?_ habort
        refine Talk.ends_say_bind (Talk.ends_ret ?_) ?_
        · exact affects_of_queued h huser rfl rfl
            (Or.inl ⟨_, List.mem_singleton_self _, Or.inl rfl⟩)
        · exact fun e => affects_of_queued h huser rfl rfl (Or.inr ⟨e, rfl⟩)

theorem affects_toneCallback (h : Kept b.store)
    (hcredits : 0 < env.predictionCostCredits) (callback : IncomingCallback)
    (now : Instant) :
    ((handleToneCallback callback).talk env now).Ends
      (Affects b.store (some callback.fromUser) none) b := by
  rcases getOrCreateTelegramUser_registers h hcredits callback.fromUser with
    ⟨⟨userId, user⟩, s, hrun, hs⟩
  unfold handleToneCallback
  simp only [Handler.talk]
  refine useCase_bind_ends hrun ?_
    fun e => affects_of_aborted (Follows.refl h) _ _ e
  simp only
  refine Talk.ends_update_bind ?_
  simp only
  cases b.pendingTones.vacancyUrls userId with
  | none => exact affects_refusal hs.follows (not_accepts_alert _) _
  | some vacancyUrl =>
      simp only [Handler.talk]
      rcases transact_botEnqueueGeneration env userId vacancyUrl
        (toneFromCallback callback.data) now s with
        ⟨_, e, hrefused⟩ | ⟨_, hqueued⟩
      · refine useCase_bind_ends hrefused ?_
          fun e => affects_of_aborted hs.follows _ _ e
        simp only
        split
        · exact affects_refusal hs.follows (not_accepts_alert _) _
        · exact affects_refusal hs.follows (not_accepts_alert _) _
        · exact (quiet_raise _).affects hs.follows _
        · rename_i heq
          cases heq
      · refine useCase_bind_ends hqueued ?_
          fun e => affects_of_aborted hs.follows _ _ e
        have hqueue : forall {said : List Answer}
            {result : Except (Escape Exc) Unit},
            (exists a, a ∈ said ∧ a.Accepts) ∨ Aborted result ->
            Affects b.store (some callback.fromUser) none said result
              { store := s.push (botJob env userId vacancyUrl
                  (toneFromCallback callback.data))
                pendingTones := b.pendingTones.pop userId } :=
          affects_of_queued (b := { b with store := s }) hs.follows hs.user rfl
            rfl
        refine Talk.ends_say_bind ?_ fun e => hqueue (Or.inr ⟨e, rfl⟩)
        have htold : Answer.Accepts (.callback "✅ Генерация в очереди." false) :=
          Or.inr rfl
        split
        · refine Talk.ends_say_bind (Talk.ends_ret ?_) ?_
          · exact hqueue (Or.inl ⟨_, List.mem_cons_self, htold⟩)
          · exact fun e => hqueue (Or.inr ⟨e, rfl⟩)
        · exact Talk.ends_ret (hqueue (Or.inl ⟨_, List.mem_cons_self, htold⟩))

end Handlers
end CoverAI
