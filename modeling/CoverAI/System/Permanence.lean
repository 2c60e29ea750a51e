import CoverAI.Generation.Route
import CoverAI.System.Coherence
import CoverAI.Txn.Roster

/-!
# What stays

Of each table a column is left by every update, and no row is deleted.  So what
the column shows of a row stays, whatever entry points run in between.
-/

namespace CoverAI

open Txn Program

/-!
# What is settled when a row is inserted
-/

structure Identity where
  telegramId : Option Int
  email : Option String
  role : UserRole
  deriving DecidableEq

def User.identity (user : User) : Identity where
  telegramId := user.telegramId
  email := user.email
  role := user.role

def ResumeProfile.heading (profile : ResumeProfile) : Int × String :=
  (profile.userId, profile.title)

/-- The request as it was queued. -/
def GenerationRequest.queued (request : GenerationRequest) :
    GenerationRequest :=
  { request with
    status := .pending
    errorMessage := none
    completedAt := none }

def Subscription.terms (subscription : Subscription) : Subscription :=
  { subscription with status := .active }

def PaymentIntent.terms (intent : PaymentIntent) : PaymentIntent :=
  { intent with
    status := .pending
    confirmedAt := none }

def PromoCode.terms (promo : PromoCode) : PromoCode :=
  { promo with activationsCount := 0 }

/-- All rows are there, with what was settled, and in their order.  Letters and
the rows of the ledger are what they were. -/
structure Db.Later (db db' : Db) : Prop where
  users : db.users.column User.identity <+: db'.users.column User.identity
  resumeProfiles : db.resumeProfiles.column ResumeProfile.heading <+:
    db'.resumeProfiles.column ResumeProfile.heading
  employers : db.employers.column Employer.hhId <+:
    db'.employers.column Employer.hhId
  vacancies : db.vacancies.column Vacancy.hhId <+:
    db'.vacancies.column Vacancy.hhId
  generationRequests :
    db.generationRequests.column GenerationRequest.queued <+:
      db'.generationRequests.column GenerationRequest.queued
  coverLetters : db.coverLetters.column id <+: db'.coverLetters.column id
  subscriptions : db.subscriptions.column Subscription.terms <+:
    db'.subscriptions.column Subscription.terms
  creditTransactions : db.creditTransactions <+: db'.creditTransactions
  paymentIntents : db.paymentIntents.column PaymentIntent.terms <+:
    db'.paymentIntents.column PaymentIntent.terms
  promoCodes : db.promoCodes.column PromoCode.terms <+:
    db'.promoCodes.column PromoCode.terms
  promoRedemptions : db.promoRedemptions <+: db'.promoRedemptions

theorem Db.Later.refl (db : Db) : db.Later db := by
  constructor <;> exact List.prefix_refl _

theorem Db.Later.trans {db db' db'' : Db} (h : db.Later db')
    (h' : db'.Later db'') : db.Later db'' where
  users := h.users.trans h'.users
  resumeProfiles := h.resumeProfiles.trans h'.resumeProfiles
  employers := h.employers.trans h'.employers
  vacancies := h.vacancies.trans h'.vacancies
  generationRequests := h.generationRequests.trans h'.generationRequests
  coverLetters := h.coverLetters.trans h'.coverLetters
  subscriptions := h.subscriptions.trans h'.subscriptions
  creditTransactions := h.creditTransactions.trans h'.creditTransactions
  paymentIntents := h.paymentIntents.trans h'.paymentIntents
  promoCodes := h.promoCodes.trans h'.promoCodes
  promoRedemptions := h.promoRedemptions.trans h'.promoRedemptions

instance : Std.Refl Db.Later where
  refl := Db.Later.refl

instance : IsTrans Db Db.Later where
  trans := fun _ _ _ => Db.Later.trans

/-!
# Writes
-/

section Writes

/-- New rows, and updates of old ones; those of a user leave the identity. -/
inductive Retaining : Write coverAI -> Prop where
  | insertUser (id : Int) (r : User) : Retaining (CoverAI.insertUser id r)
  | updateUser {id : Int} {loaded edited : User}
      (h : edited.identity = loaded.identity) :
      Retaining (CoverAI.updateUser id loaded edited)
  | insertResumeProfile (id : Int) (r : ResumeProfile) :
      Retaining (CoverAI.insertResumeProfile id r)
  | updateResumeProfile (id : Int) (loaded edited : ResumeProfile) :
      Retaining (CoverAI.updateResumeProfile id loaded edited)
  | vacancy {w : Write coverAI} (h : VacancyWrite w) : Retaining w
  | insertGenerationRequest (id : Int) (r : GenerationRequest) :
      Retaining (CoverAI.insertGenerationRequest id r)
  | updateGenerationRequest (id : Int) (loaded edited : GenerationRequest) :
      Retaining (CoverAI.updateGenerationRequest id loaded edited)
  | insertCoverLetter (id : Int) (r : CoverLetter) :
      Retaining (CoverAI.insertCoverLetter id r)
  | insertSubscription (id : Int) (r : Subscription) :
      Retaining (CoverAI.insertSubscription id r)
  | updateSubscription (id : Int) (loaded edited : Subscription) :
      Retaining (CoverAI.updateSubscription id loaded edited)
  | insertCreditTransaction (r : CreditTransaction) :
      Retaining (CoverAI.insertCreditTransaction r)
  | insertPaymentIntent (id : Int) (r : PaymentIntent) :
      Retaining (CoverAI.insertPaymentIntent id r)
  | updatePaymentIntent (id : Int) (loaded edited : PaymentIntent) :
      Retaining (CoverAI.updatePaymentIntent id loaded edited)
  | insertPromoCode (id : Int) (r : PromoCode) :
      Retaining (CoverAI.insertPromoCode id r)
  | updatePromoCode (id : Int) (loaded edited : PromoCode) :
      Retaining (CoverAI.updatePromoCode id loaded edited)
  | insertPromoRedemption (r : PromoRedemption) :
      Retaining (CoverAI.insertPromoRedemption r)

theorem User.identity_write {loaded edited : User}
    (h : edited.identity = loaded.identity) (current : User) :
    (User.write loaded edited current).identity = current.identity := by
  simp only [User.identity, Identity.mk.injEq] at h
  rcases h with ⟨htelegram, hemail, hrole⟩
  simp only [User.identity, User.write, htelegram, hemail, hrole, changed_same]

/-- An update that leaves the column of its rows. -/
theorem prefix_modify {row γ : Type} {check : row -> Bool} {f : row -> γ}
    {g : row -> row} (h : forall r, f (g r) = f r) (T : Table row check)
    (id : Int) : T.column f <+: (T.modify id g).column f := by
  refine ⟨[], ?_⟩
  rw [Table.column_modify h, List.append_nil]

theorem VacancyWrite.later {w : Write coverAI} (h : VacancyWrite w) (db : Db) :
    db.Later (w.apply db) := by
  have hrefl := Db.Later.refl db
  cases h with
  | insertEmployer id r =>
      exact { hrefl with employers := Table.column_insert _ _ id r }
  | updateEmployer id loaded edited =>
      exact { hrefl with
        employers :=
          prefix_modify (g := Employer.write loaded edited)
            (fun _ => rfl) _ id }
  | insertVacancy id r =>
      exact { hrefl with vacancies := Table.column_insert _ _ id r }
  | updateVacancy id loaded edited =>
      exact { hrefl with
        vacancies :=
          prefix_modify (g := Vacancy.write loaded edited) (fun _ => rfl) _ id }

theorem Retaining.later {w : Write coverAI} (h : Retaining w) (db : Db) :
    db.Later (w.apply db) := by
  have hrefl := Db.Later.refl db
  cases h with
  | insertUser id r =>
      exact { hrefl with users := Table.column_insert _ _ id r }
  | updateUser h =>
      exact { hrefl with users := prefix_modify (User.identity_write h) _ _ }
  | insertResumeProfile id r =>
      exact { hrefl with resumeProfiles := Table.column_insert _ _ id r }
  | updateResumeProfile id loaded edited =>
      exact { hrefl with
        resumeProfiles :=
          prefix_modify (g := ResumeProfile.write loaded edited)
            (fun _ => rfl) _ id }
  | vacancy h => exact h.later db
  | insertGenerationRequest id r =>
      exact { hrefl with generationRequests := Table.column_insert _ _ id r }
  | updateGenerationRequest id loaded edited =>
      exact { hrefl with
        generationRequests :=
          prefix_modify (g := GenerationRequest.write loaded edited)
            (fun _ => rfl) _ id }
  | insertCoverLetter id r =>
      exact { hrefl with coverLetters := Table.column_insert _ _ id r }
  | insertSubscription id r =>
      exact { hrefl with subscriptions := Table.column_insert _ _ id r }
  | updateSubscription id loaded edited =>
      exact { hrefl with
        subscriptions :=
          prefix_modify (g := Subscription.write loaded edited)
            (fun _ => rfl) _ id }
  | insertCreditTransaction r =>
      exact { hrefl with creditTransactions := List.prefix_append _ _ }
  | insertPaymentIntent id r =>
      exact { hrefl with paymentIntents := Table.column_insert _ _ id r }
  | updatePaymentIntent id loaded edited =>
      exact { hrefl with
        paymentIntents :=
          prefix_modify (g := PaymentIntent.write loaded edited)
            (fun _ => rfl) _ id }
  | insertPromoCode id r =>
      exact { hrefl with promoCodes := Table.column_insert _ _ id r }
  | updatePromoCode id loaded edited =>
      exact { hrefl with
        promoCodes :=
          prefix_modify (g := PromoCode.write loaded edited)
            (fun _ => rfl) _ id }
  | insertPromoRedemption r =>
      exact { hrefl with promoRedemptions := List.prefix_append _ _ }

end Writes

/-!
# Sessions
-/

/-- The session leaves what is settled. -/
def Retains {α : Type} (p : Session α) : Prop :=
  p.Advances Db.Later

section Sessions

variable {α β : Type}

theorem retains_flush {rs : List LockName} {ws : List (Write coverAI)}
    (h : Write.All Retaining ws) : Retains (flushUnit rs ws) :=
  advances_flush fun _ hw => (h.of_mem hw).later

theorem retains_flush_bind {rs : List LockName} {ws : List (Write coverAI)}
    {f : Unit -> Session α} (h : Write.All Retaining ws)
    (hf : Retains (f ())) : Retains ((flushUnit rs ws).bind f) :=
  advances_flush_bind (fun _ hw => (h.of_mem hw).later) hf

theorem retains_ofExcept_bind {res : Except Exc β} {f : β -> Session α}
    (h : forall b, Retains (f b)) : Retains ((ofExcept res).bind f) := by
  cases res with
  | ok b => exact h b
  | error e => exact advances_raise (S := coverAI) e

theorem retains_of_readOnly {Q : α -> Prop} {p : Session α}
    (h : p.Within readOnly Q) : Retains p := by
  apply within_mono h
  · exact fun _ _ => trivial
  · exact fun _ hw => hw.elim
  · exact fun _ ht => ht.elim
  · exact fun _ ho => ho.elim
  · exact fun _ _ => trivial
  · exact fun _ _ => trivial

theorem permitsVacancies :
    PermitsVacancies (Footprint.forward (S := coverAI) Db.Later) where
  vacancyWrites := fun _ hw => hw.later
  drawsEmployers := trivial
  drawsVacancies := trivial
  raisesIntegrity := trivial

/-!
# Registration and profiles
-/

theorem createUser_retains (user : User) : Retains (createUser user) := by
  apply advances_draw_bind
  intro id
  exact retains_flush_bind (.one (.insertUser _ _)) (advances_ret id)

theorem ensureAdminUser_retains (email : String) :
    Retains (ensureAdminUser email) := by
  apply advances_ask_bind
  intro v
  split
  · exact advances_ret ()
  · exact advances_bind (createUser_retains _) fun _ => advances_ret ()

theorem grantBonusTo_retains (welcomeCredits userId : Int) (user : User) :
    Retains (grantBonusTo welcomeCredits userId user) := by
  refine advances_bind ?_ fun _ => advances_ret _
  unfold grantWelcomeBonus
  split
  · exact advances_raise _
  · apply advances_forUpdate_bind
    intro v
    split
    · exact advances_raise _
    · apply retains_flush_bind
      · exact .cons (.updateUser rfl) (.one (.insertCreditTransaction _))
      · exact advances_ret _

theorem registerApiUser_retains (welcomeCredits : Int) (email : String) :
    Retains (registerApiUser welcomeCredits email) := by
  apply advances_ask_bind
  intro v
  split
  · exact advances_raise _
  · exact advances_bind (createUser_retains _)
      fun id => grantBonusTo_retains welcomeCredits id _

theorem getOrCreateTelegramUser_retains (welcomeCredits telegramId : Int) :
    Retains (getOrCreateTelegramUser welcomeCredits telegramId) := by
  apply advances_ask_bind
  intro v
  split
  · exact advances_ret _
  · exact advances_bind (createUser_retains _)
      fun id => grantBonusTo_retains welcomeCredits id _

theorem createProfile_retains (userId : Int) (title resumeText : String) :
    Retains (createProfile userId title resumeText) := by
  apply advances_ask_bind
  intro v
  split
  · exact advances_raise _
  · generalize normalizeProfileTitle title = titleOutcome
    generalize normalizeResumeText resumeText = textOutcome
    apply retains_ofExcept_bind
    intro normalizedTitle
    apply retains_ofExcept_bind
    intro normalizedText
    refine advances_bind ?_ fun _ => advances_ret _
    apply advances_draw_bind
    intro id
    exact retains_flush_bind (.one (.insertResumeProfile _ _)) (advances_ret _)

theorem updateProfile_retains (userId : Int) (resumeText : String) :
    Retains (updateProfile userId resumeText) := by
  apply advances_ask_bind
  intro v
  split
  · exact advances_raise _
  · generalize normalizeResumeText resumeText = textOutcome
    apply retains_ofExcept_bind
    intro normalizedText
    apply advances_bind
    · apply advances_ask_bind
      intro v'
      split
      · exact advances_ret _
      · exact retains_flush_bind (.one (.updateResumeProfile _ _ _))
          (advances_ret _)
    · intro updated
      split
      · exact advances_raise _
      · exact advances_ret _

theorem createOrUpdateProfile_retains (userId : Int)
    (title resumeText : String) :
    Retains (createOrUpdateProfile userId title resumeText) := by
  apply advances_tryCatch (createProfile_retains userId title resumeText)
  intro e
  split
  · exact updateProfile_retains userId resumeText
  · exact advances_raise (S := coverAI) e

theorem currentUser_retains (userId : Int) :
    Retains (currentUser userId) := by
  apply advances_ask_bind
  intro v
  split
  · exact advances_raise _
  · exact advances_ret _

theorem adminUser_retains (adminId : Int) : Retains (adminUser adminId) := by
  apply advances_bind (currentUser_retains adminId)
  intro user
  split
  · exact advances_raise _
  · exact advances_ret _

theorem lockedUser_retains (held : Option User) (userId : Int) :
    Retains (lockedUser held userId) := by
  apply advances_forUpdate_bind
  intro v
  split
  · exact advances_raise _
  · exact advances_ret _

theorem saveProfile_retains (userId : Int) (title resumeText : String) :
    Retains (saveProfile userId title resumeText) := by
  apply advances_bind (currentUser_retains userId)
  intro user
  refine advances_bind ?_ fun _ => advances_ret _
  exact advances_tryCatch
    (createOrUpdateProfile_retains userId title resumeText)
    fun e => advances_raise _

/-!
# Payments
-/

theorem createPayment_retains (env : Env) (userId creditsAmount : Int)
    (uuidHex : String) (now : Instant) :
    Retains (createPayment env userId creditsAmount uuidHex now) := by
  apply advances_bind (currentUser_retains userId)
  intro user
  apply advances_draw_bind
  intro id
  apply retains_flush_bind
  · refine .cons (.updateUser ?_) (.one (.insertPaymentIntent _ _))
    split <;> rfl
  · exact advances_ret _

theorem confirmPayment_retains (externalId : String) (now : Instant) :
    Retains (confirmPayment externalId now) := by
  apply advances_ask_bind
  intro v
  split
  · exact advances_raise _
  · split
    · exact advances_ret _
    · apply advances_bind (lockedUser_retains none _)
      intro user
      apply retains_flush_bind
      · exact .cons (.updateUser rfl) (.cons (.updatePaymentIntent _ _ _)
          (.one (.insertCreditTransaction _)))
      · exact advances_ret _

theorem endPending_retains (status : PaymentStatus) (externalId : String)
    (now : Instant) : Retains (endPending status externalId now) := by
  apply advances_ask_bind
  intro v
  split
  · exact advances_raise _
  · split
    · exact retains_flush_bind (.one (.updatePaymentIntent _ _ _))
        (advances_ret _)
    · exact advances_ret _

theorem refundPayment_retains (paymentId : Int) (now : Instant) :
    Retains (refundPayment paymentId now) := by
  apply advances_ask_bind
  intro v
  split
  · exact advances_raise _
  · split
    · exact advances_raise _
    · split
      · exact advances_ret _
      · apply advances_bind (lockedUser_retains none _)
        intro user
        split
        · exact retains_flush_bind (.one (.updatePaymentIntent _ _ _))
            (advances_ret _)
        · apply retains_flush_bind
          · exact .cons (.updateUser rfl) (.cons (.updatePaymentIntent _ _ _)
              (.one (.insertCreditTransaction _)))
          · exact advances_ret _

theorem createMockTopUp_retains (env : Env) (userId creditsAmount : Int) :
    Retains (createMockTopUp env userId creditsAmount) := by
  apply advances_forUpdate_bind
  intro v
  split
  · exact advances_ret _
  · apply advances_draw_bind
    intro id
    apply retains_flush_bind
    · exact .cons (.updateUser rfl) (.one (.insertPaymentIntent _ _))
    · exact retains_flush_bind (.one (.insertCreditTransaction _))
        (advances_ret _)

/-!
# Promo codes
-/

theorem lockPromo_retains (code : String) : Retains (lockPromo code) := by
  apply advances_ask_bind
  intro v
  split
  · exact advances_ret none
  · exact fun _ _ => trivial

theorem redeemLocked_retains (userId promoId : Int) (user : User)
    (promo : PromoCode) :
    Retains (redeemLocked userId user promoId promo) := by
  apply advances_bind (lockedUser_retains (some user) userId)
  intro locked
  split
  · apply retains_flush_bind
    · exact .cons (.updatePromoCode _ _ _) (.cons (.updateUser rfl)
        (.cons (.insertPromoRedemption _) (.one (.insertCreditTransaction _))))
    · exact advances_ret _
  · apply retains_flush_bind
    · exact .cons (.updatePromoCode _ _ _) (.cons (.updateUser rfl)
        (.one (.insertPromoRedemption _)))
    · exact advances_ret _

theorem redeemPromo_retains (env : Env) (userId : Int) (code : String)
    (now : Instant) : Retains (redeemPromo env userId code now) := by
  apply advances_bind (currentUser_retains userId)
  intro user
  apply advances_bind (lockPromo_retains _)
  intro found
  split
  · exact advances_raise _
  · apply advances_ask_bind
    intro v
    split
    · exact advances_raise _
    · split
      · exact advances_raise _
      · exact redeemLocked_retains userId _ user _

theorem redeemPromoCode_retains (env : Env) (userId : Int) (code : String) :
    Retains (redeemPromoCode env userId code) := by
  apply advances_bind (lockPromo_retains _)
  intro found
  split
  · exact advances_ret _
  · apply advances_ask_bind
    intro v
    split
    · exact advances_ret _
    · apply advances_forUpdate_bind
      intro v'
      split
      · exact advances_ret _
      · split
        · apply retains_flush_bind
          · exact .cons (.updatePromoCode _ _ _) (.cons (.updateUser rfl)
              (.cons (.insertPromoRedemption _)
                (.one (.insertCreditTransaction _))))
          · exact advances_ret _
        · apply retains_flush_bind
          · exact .cons (.updatePromoCode _ _ _) (.cons (.updateUser rfl)
              (.one (.insertPromoRedemption _)))
          · exact advances_ret _

theorem createPromo_retains (env : Env) (adminId : Int)
    (payload : PromoCreateRequest) :
    Retains (createPromo env adminId payload) := by
  apply advances_bind (adminUser_retains adminId)
  intro admin
  apply advances_draw_bind
  intro id
  refine advances_bind ?_ fun _ => advances_ret _
  apply advances_tryCatch (retains_flush (.one (.insertPromoCode _ _)))
  intro e
  unfold promoExists
  split <;> exact advances_raise _

/-!
# Administration
-/

theorem adjustBalance_retains (adminId userId amount : Int)
    (reason : String) :
    Retains (adjustBalance adminId userId amount reason) := by
  apply advances_bind (adminUser_retains adminId)
  intro admin
  apply advances_bind (lockedUser_retains _ userId)
  intro target
  simp only
  split
  · exact advances_raise _
  · apply retains_flush_bind
    · exact .cons (.updateUser rfl) (.one (.insertCreditTransaction _))
    · exact advances_ret _

theorem userById_retains (held : Option User) (userId : Int) :
    Retains (userById held userId) := by
  cases held with
  | none => exact fun _ _ => trivial
  | some user => trivial

theorem expireSubscription_retains (order : LatestFirst)
    (adminId userId : Int) :
    Retains (expireSubscription order adminId userId) := by
  apply advances_bind (adminUser_retains adminId)
  intro admin
  apply advances_bind (userById_retains _ userId)
  intro found
  split
  · exact advances_raise _
  · apply advances_ask_bind
    intro v
    apply retains_flush_bind
    · exact .cons (.updateUser rfl)
        (.map (fun _ => .updateSubscription _ _ _) _)
    · exact advances_ret _

/-!
# Subscriptions
-/

theorem updateSubscriptionStatus_retains (subscriptionId : Int)
    (status : SubscriptionStatus) :
    Retains (updateSubscriptionStatus subscriptionId status) := by
  apply advances_ask_bind
  intro v
  split
  · exact advances_ret _
  · exact retains_flush_bind (.one (.updateSubscription _ _ _)) (advances_ret _)

theorem updatePlan_retains (userId : Int) (plan : Plan) :
    Retains (updatePlan userId plan) := by
  apply advances_ask_bind
  intro v
  split
  · exact advances_ret _
  · exact retains_flush_bind (.one (.updateUser rfl)) (advances_ret _)

theorem activationStart_retains (current : Option (Int × Subscription))
    (plan : Plan) (now : Instant) :
    Retains (activationStart current plan now) := by
  unfold activationStart
  split
  · exact advances_ret now
  · split
    · exact advances_ret _
    · exact advances_bind (updateSubscriptionStatus_retains _ _)
        fun _ => advances_ret now

theorem activateSubscription_retains (userId : Int) (plan : Plan)
    (now : Instant) : Retains (activateSubscription userId plan now) := by
  unfold activateSubscription
  split
  · exact advances_raise _
  · apply advances_bind (userById_retains none userId)
    intro found
    split
    · exact advances_raise _
    · apply advances_ask_bind
      intro v
      apply advances_bind (activationStart_retains _ plan now)
      intro activatedAt
      refine advances_bind ?_ fun _ =>
        advances_bind (updatePlan_retains userId plan) fun _ => advances_ret _
      apply advances_draw_bind
      intro id
      exact retains_flush_bind (.one (.insertSubscription _ _)) (advances_ret _)

theorem expireEach_retains (entries : List (Int × Subscription)) :
    Retains (expireEach entries) := by
  induction entries with
  | nil => exact advances_ret ()
  | cons entry rest ih =>
      refine advances_bind ?_ fun _ => ih
      apply advances_bind (updateSubscriptionStatus_retains _ _)
      intro _
      exact advances_bind (updatePlan_retains _ _) fun _ => advances_ret ()

theorem expireSubscriptions_retains (now : Instant) :
    Retains (expireSubscriptions now) := by
  apply advances_ask_bind
  intro v
  exact advances_bind (expireEach_retains _) fun _ => advances_ret _

/-!
# Generation
-/

theorem createGeneration_retains (env : Env) (userId : Int)
    (vacancyUrl : String) (tone : Tone) (now : Instant) :
    Retains (createGeneration env userId vacancyUrl tone now) := by
  apply createGeneration_within (fun _ _ _ => trivial)
  intro v user _ _
  have hquota : (ensureCanGenerate (some user) userId now).Within
      (Footprint.forward Db.Later) fun _ => True :=
    ensureCanGenerate_within _ _ _ (fun _ => trivial) trivial
  have hpermits : PermitsQueueing (Footprint.forward Db.Later)
      userId :=
    { permitsVacancies with
      requests := fun _ _ _ => (Retaining.insertGenerationRequest _ _).later
      drawsRequests := trivial
      sends := fun _ => trivial }
  exact within_bind (enqueueChecks_within (fun _ _ _ => trivial)
    (fun _ => trivial) (fun _ => trivial) (fun _ _ => trivial) hquota)
    fun _ _ => createAndQueue_within hpermits _ _ _ _ _ _ _

theorem botEnqueueGeneration_retains (env : Env) (userId : Int)
    (vacancyUrl : String) (tone : Tone) (now : Instant) :
    Retains (botEnqueueGeneration env userId vacancyUrl tone now) := by
  apply advances_ask_bind
  intro v
  split
  · exact advances_raise _
  · split
    · exact advances_raise _
    · apply advances_ask_bind
      intro v'
      split
      · exact advances_raise _
      · exact ⟨trivial, trivial⟩

theorem updateStatus_retains (requestId : Int) (status : GenerationStatus)
    (errorMessage : Option String) (completedAt : Option Instant) :
    Retains (updateStatus requestId status errorMessage completedAt) := by
  apply advances_ask_bind
  intro v
  split
  · exact advances_ret ()
  · exact retains_flush (.one (.updateGenerationRequest _ _ _))

theorem onFailure_retains (request : Option Int) (now : Instant) (e : Exc) :
    Retains (onFailure request now e : Session α) := by
  unfold onFailure
  split
  · cases request with
    | none => exact advances_raise (S := coverAI) e
    | some requestId =>
        exact advances_bind (updateStatus_retains _ _ _ _)
          fun _ => advances_raise (S := coverAI) e
  · exact advances_raise (S := coverAI) e

theorem createGenerationRequest_retains (request : GenerationRequest) :
    Retains (createGenerationRequest request) := by
  apply advances_draw_bind
  intro id
  exact retains_flush_bind (.one (.insertGenerationRequest _ _))
    (advances_ret _)

theorem generateAndSaveLetter_retains (env : Env) (clients : Clients)
    (requestId : Int) (request : GenerationRequest) (profile : ResumeProfile)
    (result : VacancyResult) (tone : Tone) (now : Instant) :
    Retains (generateAndSaveLetter env clients requestId request profile
      result tone now) := by
  apply retains_ofExcept_bind
  intro reply
  simp only
  split
  · exact advances_raise _
  · apply advances_draw_bind
    intro id
    exact retains_flush_bind (.one (.insertCoverLetter _ _)) (advances_ret _)

theorem writeLetter_retains (env : Env) (clients : Clients)
    (userId profileId : Int) (profile : ResumeProfile) (tone : Tone)
    (request : Option (Int × GenerationRequest)) (result : VacancyResult)
    (now : Instant) :
    Retains (writeLetter env clients userId profileId profile tone request
      result now) := by
  cases request with
  | some bound =>
      exact advances_tryCatch (generateAndSaveLetter_retains _ _ _ _ _ _ _ _)
        fun e => onFailure_retains _ now e
  | none =>
      apply advances_bind
      · exact advances_tryCatch (createGenerationRequest_retains _)
          fun e => onFailure_retains none now e
      · intro bound
        exact advances_tryCatch (generateAndSaveLetter_retains _ _ _ _ _ _ _ _)
          fun e => onFailure_retains _ now e

theorem loadAndWrite_retains (env : Env) (clients : Clients) (userId : Int)
    (vacancyUrl : String) (user : User) (profileId : Int)
    (profile : ResumeProfile) (tone : Tone)
    (request : Option (Int × GenerationRequest)) (now : Instant) :
    Retains (loadAndWrite env clients userId vacancyUrl user profileId
      profile tone request now) := by
  have hload : Retains (getOrLoadVacancy env clients vacancyUrl now) :=
    getOrLoadVacancy_within permitsVacancies (fun _ _ => trivial) trivial
      vacancyUrl now
  apply advances_bind (advances_tryCatch hload fun e => onFailure_retains _ _ e)
  intro result
  apply advances_bind (writeLetter_retains _ _ _ _ _ _ _ _ _)
  intro entry
  exact advances_bind (updateStatus_retains _ _ _ _) fun _ => advances_ret _

theorem generateForVacancyUrl_retains (env : Env) (clients : Clients)
    (userId : Int) (vacancyUrl : String) (tone : Tone)
    (generationRequestId : Option Int) (enforceQuota : Bool) (now : Instant) :
    Retains (generateForVacancyUrl env clients userId vacancyUrl tone
      generationRequestId enforceQuota now) := by
  apply advances_bind (userById_retains none userId)
  intro found
  split
  · exact advances_raise _
  · split
    · exact advances_raise _
    · apply advances_ask_bind
      intro v
      split
      · exact advances_raise _
      · refine advances_bind (β := Option (Int × GenerationRequest)) ?_ ?_
        · cases generationRequestId with
          | none => exact advances_ret none
          | some requestId =>
              apply advances_ask_bind
              intro v'
              split
              · exact advances_raise _
              · exact advances_ret _
        · intro request
          have hquota : Retains (ensureCanGenerate none userId now) :=
            ensureCanGenerate_within none userId now (fun _ => trivial) trivial
          cases enforceQuota with
          | false => exact loadAndWrite_retains _ _ _ _ _ _ _ _ _ _
          | true =>
              exact advances_bind (advances_void hquota)
                fun _ => loadAndWrite_retains _ _ _ _ _ _ _ _ _ _

theorem keepError_retains (job : Job) (e : Exc) :
    Retains (keepError job e) := by
  unfold keepError
  split
  · exact fun _ _ => trivial
  · split
    · exact fun _ _ => trivial
    · exact advances_raise (S := coverAI) e

theorem chargeForLetter_retains (job : Job) (result : GeneratedCoverLetter) :
    Retains (chargeForLetter job result) := by
  unfold chargeForLetter
  simp only
  split
  · refine advances_bind ?_ fun _ => advances_ret _
    apply advances_forUpdate_bind
    intro v
    split
    · exact advances_raise _
    · split
      · exact advances_raise _
      · exact retains_flush
          (.cons (.updateUser rfl) (.one (.insertCreditTransaction _)))
  · exact advances_ret _

theorem generationSession_retains (env : Env) (clients : Clients) (job : Job)
    (now : Instant) : Retains (generationSession env clients job now) := by
  unfold generationSession
  refine advances_bind (β := GeneratedCoverLetter ⊕ SessionResult) ?_ ?_
  · apply advances_tryCatch
    · refine advances_bind ?_ fun _ => advances_ret _
      unfold generateForJob
      split
      · exact advances_raise _
      · exact generateForVacancyUrl_retains _ _ _ _ _ _ _ _
    · intro e
      exact advances_bind (keepError_retains job e) fun _ => advances_ret _
  · intro outcome
    cases outcome with
    | inl result => exact chargeForLetter_retains job result
    | inr kept => exact advances_ret kept

end Sessions

/-!
# Entry points
-/

theorem EntryPoint.retains {env : Env} {entry : EntryPoint}
    (hlook : forall reading, entry = .look reading ->
      reading.Within readOnly fun _ => True) :
    Retains (entry.session env) := by
  cases entry with
  | ensureAdminUser email => exact ensureAdminUser_retains email
  | registerApiUser email =>
      exact advances_void (registerApiUser_retains _ email)
  | getOrCreateTelegramUser telegramId =>
      exact advances_void (getOrCreateTelegramUser_retains _ telegramId)
  | saveProfile userId title resumeText =>
      exact advances_void (saveProfile_retains userId title resumeText)
  | saveResume userId title resumeText =>
      exact advances_void
        (createOrUpdateProfile_retains userId title resumeText)
  | createGeneration userId vacancyUrl tone now =>
      exact advances_void
        (createGeneration_retains env userId vacancyUrl tone now)
  | botEnqueueGeneration userId vacancyUrl tone now =>
      exact botEnqueueGeneration_retains env userId vacancyUrl tone now
  | generateCoverLetter clients job now =>
      exact advances_void (generationSession_retains env clients job now)
  | createPayment userId creditsAmount uuidHex now =>
      exact advances_void
        (createPayment_retains env userId creditsAmount uuidHex now)
  | confirmPayment externalId now =>
      exact advances_void (confirmPayment_retains externalId now)
  | failPayment externalId now =>
      exact advances_void (endPending_retains .failed externalId now)
  | cancelPayment externalId now =>
      exact advances_void (endPending_retains .canceled externalId now)
  | refundPayment paymentId now =>
      exact advances_void (refundPayment_retains paymentId now)
  | createMockTopUp userId creditsAmount =>
      exact advances_void (createMockTopUp_retains env userId creditsAmount)
  | createPromo adminId payload =>
      exact advances_void (createPromo_retains env adminId payload)
  | redeemPromo userId code now =>
      exact advances_void (redeemPromo_retains env userId code now)
  | redeemPromoCode userId code =>
      exact advances_void (redeemPromoCode_retains env userId code)
  | adjustBalance adminId userId amount reason =>
      exact advances_void (adjustBalance_retains adminId userId amount reason)
  | activateSubscription userId plan now =>
      exact advances_void (activateSubscription_retains userId plan now)
  | expireSubscription order adminId userId =>
      exact advances_void (expireSubscription_retains order adminId userId)
  | expireSubscriptions now =>
      exact advances_void (expireSubscriptions_retains now)
  | look reading => exact retains_of_readOnly (hlook reading rfl)

/-- Whatever is started, no committed row goes away, and what was settled about
it stays. -/
theorem stored_rows_stay {env : Env} {s : Store coverAI}
    {w w' : World coverAI Unit}
    (hrun : World.Reaches (Operates env) (World.init s) w)
    (hlater : World.Reaches (Operates env) w w') :
    w.committed.Later w'.committed := by
  apply hrun.forward hlater
  intro u i p hstart
  rcases hstart with ⟨entry, hadmissible, rfl⟩
  apply EntryPoint.retains
  intro reading hlook
  rw [hlook] at hadmissible
  exact hadmissible

/-- The request is there before its letter is written, and when it has succeeded
it is still what was queued. -/
theorem sample_request_stays : exists (w w' : World coverAI Unit)
    (r r' : GenerationRequest),
    w.committed.generationRequests.get 1 = some r ∧
      w'.committed.generationRequests.get 1 = some r' ∧
      r'.status = .succeeded ∧ r'.queued = r.queued ∧
      w.committed.creditTransactions <+: w'.committed.creditTransactions := by
  rcases sample_run with ⟨w, w', hask, hwork, ⟨r, hr, _⟩, hpaid⟩
  simp only [letterPaid, Bool.and_eq_true] at hpaid
  have hlater := stored_rows_stay hask hwork
  rcases Table.get_of_column_prefix hlater.generationRequests hr with
    ⟨r', hr', hqueued⟩
  rcases Option.map_eq_some_iff.mp (of_decide_eq_true hpaid.right) with
    ⟨found, hfound, hstatus⟩
  cases hr'.symm.trans hfound
  exact ⟨w, w', r, r', hr, hr', hstatus, hqueued, hlater.creditTransactions⟩

end CoverAI
