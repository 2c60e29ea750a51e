import CoverAI.Generation.Snapshot
import CoverAI.System.Permanence

/-!
# Calls that do not depend on a resume text

The other calls of the service read and write other tables, so that none of them
can tell two databases apart that differ in a resume text and in its copies.
-/

namespace CoverAI

open Txn Program

/-!
# Writes to other tables
-/

inductive OutsideWrite : Write coverAI -> Prop where
  | insertUser (id : Int) (r : User) : OutsideWrite (CoverAI.insertUser id r)
  | updateUser (id : Int) (loaded edited : User) :
      OutsideWrite (CoverAI.updateUser id loaded edited)
  | insertSubscription (id : Int) (r : Subscription) :
      OutsideWrite (CoverAI.insertSubscription id r)
  | updateSubscription (id : Int) (loaded edited : Subscription) :
      OutsideWrite (CoverAI.updateSubscription id loaded edited)
  | insertCreditTransaction (r : CreditTransaction) :
      OutsideWrite (CoverAI.insertCreditTransaction r)
  | insertPaymentIntent (id : Int) (r : PaymentIntent) :
      OutsideWrite (CoverAI.insertPaymentIntent id r)
  | updatePaymentIntent (id : Int) (loaded edited : PaymentIntent) :
      OutsideWrite (CoverAI.updatePaymentIntent id loaded edited)
  | insertPromoCode (id : Int) (r : PromoCode) :
      OutsideWrite (CoverAI.insertPromoCode id r)
  | updatePromoCode (id : Int) (loaded edited : PromoCode) :
      OutsideWrite (CoverAI.updatePromoCode id loaded edited)
  | insertPromoRedemption (r : PromoRedemption) :
      OutsideWrite (CoverAI.insertPromoRedemption r)

section Calls

variable {owner : Int} {ids : Set Int} {α β : Type}

theorem OutsideWrite.rowWrite {w : Write coverAI} (h : OutsideWrite w) :
    RowWrite w := by
  cases h with
  | insertUser id r => exact .insertUser id r
  | updateUser id loaded edited => exact .updateUser id loaded edited
  | insertSubscription id r => exact .insertSubscription id r
  | updateSubscription id loaded edited =>
      exact .updateSubscription id loaded edited
  | insertCreditTransaction r => exact .insertCreditTransaction r
  | insertPaymentIntent id r => exact .insertPaymentIntent id r
  | updatePaymentIntent id loaded edited =>
      exact .updatePaymentIntent id loaded edited
  | insertPromoCode id r => exact .insertPromoCode id r
  | updatePromoCode id loaded edited => exact .updatePromoCode id loaded edited
  | insertPromoRedemption r => exact .insertPromoRedemption r

theorem OutsideWrite.agrees {w : Write coverAI} (h : OutsideWrite w) :
    w.Agrees (ResumeBlind owner ids) w := by
  have hrow := h.rowWrite
  -- none of these writes reads or changes the two tables that may differ
  cases h <;>
    exact agrees_of_outside hrow (fun _ => rfl) (fun _ => rfl) (fun _ => rfl)
      fun _ => rfl

/-!
# Statements
-/

theorem ignores_ret (a : α) : IgnoresResume owner ids (ret a : Session α) :=
  Sim.ret rfl

theorem ignores_raise (e : Exc) :
    IgnoresResume owner ids (raise e : Session α) :=
  Sim.raise (S := coverAI) e

theorem ignores_bind {p : Session β} {f : β -> Session α}
    (hp : IgnoresResume owner ids p)
    (hf : forall b, IgnoresResume owner ids (f b)) :
    IgnoresResume owner ids (p.bind f) :=
  sim_bind_eq hp hf

theorem ignores_tryCatch {p : Session α} {h : Exc -> Session α}
    (hp : IgnoresResume owner ids p)
    (hh : forall e, IgnoresResume owner ids (h e)) :
    IgnoresResume owner ids (p.tryCatch h) :=
  sim_tryCatch hp hh

theorem ignores_ask_bind {q : Db -> β} {f : β -> Session α}
    (hq : forall v, q v = q (outsideResume v))
    (hf : forall b, IgnoresResume owner ids (f b)) :
    IgnoresResume owner ids ((Program.ask (S := coverAI) q).bind f) :=
  sim_ask_bind_eq (ResumeBlind.query hq) hf

theorem ignores_forUpdate (r : LockName) {q : Db -> α}
    (hq : forall v, q v = q (outsideResume v)) :
    IgnoresResume owner ids (Program.forUpdate (S := coverAI) r q) :=
  sim_forUpdate_eq (ResumeBlind.query hq)

theorem ignores_forUpdate_bind {r : LockName} {q : Db -> β}
    {f : β -> Session α} (hq : forall v, q v = q (outsideResume v))
    (hf : forall b, IgnoresResume owner ids (f b)) :
    IgnoresResume owner ids ((Program.forUpdate (S := coverAI) r q).bind f) :=
  ignores_bind (ignores_forUpdate r hq) hf

theorem ignores_draw_bind {t : SeqName} {f : Int -> Session α}
    (hf : forall n, IgnoresResume owner ids (f n)) :
    IgnoresResume owner ids ((Program.draw (S := coverAI) t).bind f) :=
  sim_draw_bind hf

theorem ignores_flush {rs : List LockName} {ws : List (Write coverAI)}
    (hws : Write.All OutsideWrite ws) :
    IgnoresResume owner ids (flushUnit rs ws) :=
  sim_flushAll (Write.All.mono (fun _ hw => hw.agrees) hws)

theorem ignores_flush_bind {rs : List LockName} {ws : List (Write coverAI)}
    {f : Unit -> Session α} (hws : Write.All OutsideWrite ws)
    (hf : IgnoresResume owner ids (f ())) :
    IgnoresResume owner ids ((flushUnit rs ws).bind f) :=
  ignores_bind (ignores_flush hws) fun _ => hf

/-!
# Registration
-/

theorem createUser_ignores (user : User) :
    IgnoresResume owner ids (createUser user) := by
  apply ignores_draw_bind
  intro id
  exact ignores_flush_bind (.one (.insertUser _ _)) (ignores_ret id)

theorem ensureAdminUser_ignores (email : String) :
    IgnoresResume owner ids (ensureAdminUser email) := by
  apply ignores_ask_bind fun _ => rfl
  intro found
  split
  · exact ignores_ret ()
  · exact ignores_bind (createUser_ignores _) fun _ => ignores_ret ()

theorem grantBonusTo_ignores (welcomeCredits userId : Int) (user : User) :
    IgnoresResume owner ids (grantBonusTo welcomeCredits userId user) := by
  refine ignores_bind ?_ fun _ => ignores_ret _
  unfold grantWelcomeBonus
  split
  · exact ignores_raise _
  · apply ignores_forUpdate_bind fun _ => rfl
    intro found
    split
    · exact ignores_raise _
    · apply ignores_flush_bind
      · exact .cons (.updateUser _ _ _) (.one (.insertCreditTransaction _))
      · exact ignores_ret _

theorem registerApiUser_ignores (welcomeCredits : Int) (email : String) :
    IgnoresResume owner ids (registerApiUser welcomeCredits email) := by
  apply ignores_ask_bind fun _ => rfl
  intro found
  split
  · exact ignores_raise _
  · exact ignores_bind (createUser_ignores _)
      fun id => grantBonusTo_ignores welcomeCredits id _

theorem getOrCreateTelegramUser_ignores (welcomeCredits telegramId : Int) :
    IgnoresResume owner ids
      (getOrCreateTelegramUser welcomeCredits telegramId) := by
  apply ignores_ask_bind fun _ => rfl
  intro found
  split
  · exact ignores_ret _
  · exact ignores_bind (createUser_ignores _)
      fun id => grantBonusTo_ignores welcomeCredits id _

theorem currentUser_ignores (userId : Int) :
    IgnoresResume owner ids (currentUser userId) := by
  apply ignores_ask_bind fun _ => rfl
  intro found
  split
  · exact ignores_raise _
  · exact ignores_ret _

theorem adminUser_ignores (adminId : Int) :
    IgnoresResume owner ids (adminUser adminId) := by
  apply ignores_bind (currentUser_ignores adminId)
  intro user
  split
  · exact ignores_raise _
  · exact ignores_ret _

theorem lockedUser_ignores (held : Option User) (userId : Int) :
    IgnoresResume owner ids (lockedUser held userId) := by
  apply ignores_forUpdate_bind fun _ => rfl
  intro found
  split
  · exact ignores_raise _
  · exact ignores_ret _

/-!
# Payments
-/

theorem createPayment_ignores (env : Env) (userId creditsAmount : Int)
    (uuidHex : String) (now : Instant) :
    IgnoresResume owner ids
      (createPayment env userId creditsAmount uuidHex now) := by
  apply ignores_bind (currentUser_ignores userId)
  intro user
  apply ignores_draw_bind
  intro id
  apply ignores_flush_bind
  · exact .cons (.updateUser _ _ _) (.one (.insertPaymentIntent _ _))
  · exact ignores_ret _

theorem confirmPayment_ignores (externalId : String) (now : Instant) :
    IgnoresResume owner ids (confirmPayment externalId now) := by
  apply ignores_ask_bind fun _ => rfl
  intro found
  split
  · exact ignores_raise _
  · split
    · exact ignores_ret _
    · apply ignores_bind (lockedUser_ignores none _)
      intro user
      apply ignores_flush_bind
      · exact .cons (.updateUser _ _ _) (.cons (.updatePaymentIntent _ _ _)
          (.one (.insertCreditTransaction _)))
      · exact ignores_ret _

theorem endPending_ignores (status : PaymentStatus) (externalId : String)
    (now : Instant) :
    IgnoresResume owner ids (endPending status externalId now) := by
  apply ignores_ask_bind fun _ => rfl
  intro found
  split
  · exact ignores_raise _
  · split
    · exact ignores_flush_bind (.one (.updatePaymentIntent _ _ _))
        (ignores_ret _)
    · exact ignores_ret _

theorem refundPayment_ignores (paymentId : Int) (now : Instant) :
    IgnoresResume owner ids (refundPayment paymentId now) := by
  apply ignores_ask_bind fun _ => rfl
  intro found
  split
  · exact ignores_raise _
  · split
    · exact ignores_raise _
    · split
      · exact ignores_ret _
      · apply ignores_bind (lockedUser_ignores none _)
        intro user
        split
        · exact ignores_flush_bind (.one (.updatePaymentIntent _ _ _))
            (ignores_ret _)
        · apply ignores_flush_bind
          · exact .cons (.updateUser _ _ _) (.cons (.updatePaymentIntent _ _ _)
              (.one (.insertCreditTransaction _)))
          · exact ignores_ret _

theorem createMockTopUp_ignores (env : Env) (userId creditsAmount : Int) :
    IgnoresResume owner ids (createMockTopUp env userId creditsAmount) := by
  apply ignores_forUpdate_bind fun _ => rfl
  intro found
  split
  · exact ignores_ret _
  · apply ignores_draw_bind
    intro id
    apply ignores_flush_bind
    · exact .cons (.updateUser _ _ _) (.one (.insertPaymentIntent _ _))
    · exact ignores_flush_bind (.one (.insertCreditTransaction _))
        (ignores_ret _)

/-!
# Promo codes
-/

theorem lockPromo_ignores (code : String) :
    IgnoresResume owner ids (lockPromo code) := by
  apply ignores_ask_bind fun _ => rfl
  intro found
  split
  · exact ignores_ret none
  · exact ignores_forUpdate _ fun _ => rfl

theorem redeemLocked_ignores (userId promoId : Int) (user : User)
    (promo : PromoCode) :
    IgnoresResume owner ids (redeemLocked userId user promoId promo) := by
  apply ignores_bind (lockedUser_ignores (some user) userId)
  intro locked
  split
  · apply ignores_flush_bind
    · exact .cons (.updatePromoCode _ _ _) (.cons (.updateUser _ _ _)
        (.cons (.insertPromoRedemption _) (.one (.insertCreditTransaction _))))
    · exact ignores_ret _
  · apply ignores_flush_bind
    · exact .cons (.updatePromoCode _ _ _) (.cons (.updateUser _ _ _)
        (.one (.insertPromoRedemption _)))
    · exact ignores_ret _

theorem redeemPromo_ignores (env : Env) (userId : Int) (code : String)
    (now : Instant) :
    IgnoresResume owner ids (redeemPromo env userId code now) := by
  apply ignores_bind (currentUser_ignores userId)
  intro user
  apply ignores_bind (lockPromo_ignores _)
  intro found
  split
  · exact ignores_raise _
  · apply ignores_ask_bind fun _ => rfl
    intro found
    split
    · exact ignores_raise _
    · split
      · exact ignores_raise _
      · exact redeemLocked_ignores userId _ user _

theorem redeemPromoCode_ignores (env : Env) (userId : Int) (code : String) :
    IgnoresResume owner ids (redeemPromoCode env userId code) := by
  apply ignores_bind (lockPromo_ignores _)
  intro found
  split
  · exact ignores_ret _
  · apply ignores_ask_bind fun _ => rfl
    intro found
    split
    · exact ignores_ret _
    · apply ignores_forUpdate_bind fun _ => rfl
      intro found'
      split
      · exact ignores_ret _
      · split
        · apply ignores_flush_bind
          · exact .cons (.updatePromoCode _ _ _) (.cons (.updateUser _ _ _)
              (.cons (.insertPromoRedemption _)
                (.one (.insertCreditTransaction _))))
          · exact ignores_ret _
        · apply ignores_flush_bind
          · exact .cons (.updatePromoCode _ _ _) (.cons (.updateUser _ _ _)
              (.one (.insertPromoRedemption _)))
          · exact ignores_ret _

theorem createPromo_ignores (env : Env) (adminId : Int)
    (payload : PromoCreateRequest) :
    IgnoresResume owner ids (createPromo env adminId payload) := by
  apply ignores_bind (adminUser_ignores adminId)
  intro admin
  apply ignores_draw_bind
  intro id
  refine ignores_bind ?_ fun _ => ignores_ret _
  apply ignores_tryCatch (ignores_flush (.one (.insertPromoCode _ _)))
  intro e
  unfold promoExists
  split <;> exact ignores_raise _

/-!
# Administration
-/

theorem adjustBalance_ignores (adminId userId amount : Int)
    (reason : String) :
    IgnoresResume owner ids (adjustBalance adminId userId amount reason) := by
  apply ignores_bind (adminUser_ignores adminId)
  intro admin
  apply ignores_bind (lockedUser_ignores _ userId)
  intro target
  simp only
  split
  · exact ignores_raise _
  · apply ignores_flush_bind
    · exact .cons (.updateUser _ _ _) (.one (.insertCreditTransaction _))
    · exact ignores_ret _

theorem expireSubscription_ignores (order : LatestFirst)
    (adminId userId : Int) :
    IgnoresResume owner ids (expireSubscription order adminId userId) := by
  apply ignores_bind (adminUser_ignores adminId)
  intro admin
  apply ignores_bind (userById_ignores _ userId)
  intro found
  split
  · exact ignores_raise _
  · apply ignores_ask_bind fun _ => rfl
    intro found
    apply ignores_flush_bind
    · exact .cons (.updateUser _ _ _)
        (.map (fun _ => .updateSubscription _ _ _) _)
    · exact ignores_ret _

/-!
# Subscriptions
-/

theorem updateSubscriptionStatus_ignores (subscriptionId : Int)
    (status : SubscriptionStatus) :
    IgnoresResume owner ids
      (updateSubscriptionStatus subscriptionId status) := by
  apply ignores_ask_bind fun _ => rfl
  intro found
  split
  · exact ignores_ret _
  · exact ignores_flush_bind (.one (.updateSubscription _ _ _)) (ignores_ret _)

theorem updatePlan_ignores (userId : Int) (plan : Plan) :
    IgnoresResume owner ids (updatePlan userId plan) := by
  apply ignores_ask_bind fun _ => rfl
  intro found
  split
  · exact ignores_ret _
  · exact ignores_flush_bind (.one (.updateUser _ _ _)) (ignores_ret _)

theorem activationStart_ignores (current : Option (Int × Subscription))
    (plan : Plan) (now : Instant) :
    IgnoresResume owner ids (activationStart current plan now) := by
  unfold activationStart
  split
  · exact ignores_ret now
  · split
    · exact ignores_ret _
    · exact ignores_bind (updateSubscriptionStatus_ignores _ _)
        fun _ => ignores_ret now

theorem activateSubscription_ignores (userId : Int) (plan : Plan)
    (now : Instant) :
    IgnoresResume owner ids (activateSubscription userId plan now) := by
  unfold activateSubscription
  split
  · exact ignores_raise _
  · apply ignores_bind (userById_ignores none userId)
    intro found
    split
    · exact ignores_raise _
    · apply ignores_ask_bind fun _ => rfl
      intro found
      apply ignores_bind (activationStart_ignores _ plan now)
      intro activatedAt
      refine ignores_bind ?_ fun _ =>
        ignores_bind (updatePlan_ignores userId plan) fun _ => ignores_ret _
      apply ignores_draw_bind
      intro id
      exact ignores_flush_bind (.one (.insertSubscription _ _)) (ignores_ret _)

theorem expireEach_ignores (entries : List (Int × Subscription)) :
    IgnoresResume owner ids (expireEach entries) := by
  induction entries with
  | nil => exact ignores_ret ()
  | cons entry rest ih =>
      refine ignores_bind ?_ fun _ => ih
      apply ignores_bind (updateSubscriptionStatus_ignores _ _)
      intro _
      exact ignores_bind (updatePlan_ignores _ _) fun _ => ignores_ret ()

theorem expireSubscriptions_ignores (now : Instant) :
    IgnoresResume owner ids (expireSubscriptions now) := by
  apply ignores_ask_bind fun _ => rfl
  intro found
  exact ignores_bind (expireEach_ignores _) fun _ => ignores_ret _

/-!
# Generation
-/

/-- A request of the owner copies the text that is there, which the answer does
not show. -/
theorem createGeneration_ignores (env : Env) (userId : Int)
    (vacancyUrl : String) (tone : Tone) (now : Instant) :
    IgnoresResume owner ids
      (createGeneration env userId vacancyUrl tone now).void := by
  apply sim_void (B := fun _ _ => True)
  apply sim_bind_eq (currentUser_ignores userId)
  intro user
  refine sim_bind (sim_tryCatch
    (enqueueGeneration_sim env (some user) userId vacancyUrl tone now) ?_) ?_
  · exact fun _ => Sim.raise (S := coverAI) _
  · exact fun _ _ _ => Sim.ret trivial

theorem botEnqueueGeneration_ignores (env : Env) (userId : Int)
    (vacancyUrl : String) (tone : Tone) (now : Instant) :
    IgnoresResume owner ids
      (botEnqueueGeneration env userId vacancyUrl tone now) := by
  apply ignores_ask_bind fun _ => rfl
  intro found
  split
  · exact ignores_raise _
  · split
    · exact ignores_raise _
    · apply sim_ask_bind_eq
      · intro v v' h
        exact Table.alike_count h.requests fun _ _ _ => countsSince_alike
      · intro existingRequests
        split
        · exact ignores_raise _
        · exact Sim.emit _ (Sim.ret rfl)

/-!
# Profiles of other users
-/

theorem insertResumeProfile_agrees (id : Int) (profile : ResumeProfile) :
    (insertResumeProfile id profile).Agrees (ResumeBlind owner ids)
      (insertResumeProfile id profile) := by
  constructor
  · intro v v' h
    have hget := Table.alike_get_eq_none h.profiles id
    have hfirst := first?_profile_alike profile.userId h
    simp only [insertResumeProfile, insertInto, noChecks_eq, and_true, hget]
    generalize v.resumeProfiles.first? _ = found at hfirst ⊢
    generalize v'.resumeProfiles.first? _ = found' at hfirst ⊢
    cases hfirst with
    | none => rfl
    | some _ => rfl
  · intro v v' h
    refine ⟨h.held.apply (.insertResumeProfile id profile), ?_, h.requests,
      h.outside⟩
    exact Table.alike_insert h.profiles ⟨rfl, fun _ => rfl⟩ rfl

theorem createProfile_tracks {userId : Int} (hne : userId ≠ owner)
    (title resumeText : String) :
    Tracks (ResumeBlind owner ids) (createProfile userId title resumeText)
      (createProfile userId title resumeText) := by
  apply tracks_of_sim (A := Eq)
  apply sim_ask_bind_eq
  · exact fun _ _ h => (first?_profile_of_ne hne h).symm
  · intro found
    split
    · exact ignores_raise _
    · generalize normalizeProfileTitle title = titleOutcome
      generalize normalizeResumeText resumeText = textOutcome
      apply ignores_bind (ofExcept_ignores _)
      intro normalizedTitle
      apply ignores_bind (ofExcept_ignores _)
      intro normalizedText
      refine ignores_bind ?_ fun _ => ignores_ret _
      apply ignores_draw_bind
      intro id
      exact sim_flushOne_bind (insertResumeProfile_agrees id _) (Sim.ret rfl)

theorem createOrUpdateProfile_tracks {userId : Int} (hne : userId ≠ owner)
    (title resumeText : String) :
    Tracks (ResumeBlind owner ids)
      (createOrUpdateProfile userId title resumeText)
      (createOrUpdateProfile userId title resumeText) := by
  apply tracks_tryCatch (createProfile_tracks hne title resumeText)
  intro e
  split
  · exact updateProfile_tracks hne resumeText
  · exact tracks_of_sim (A := Eq) (Sim.raise (S := coverAI) e)

theorem saveProfile_tracks {userId : Int} (hne : userId ≠ owner)
    (title resumeText : String) :
    Tracks (ResumeBlind owner ids) (saveProfile userId title resumeText)
      (saveProfile userId title resumeText) := by
  apply tracks_bind (tracks_of_sim (currentUser_ignores userId))
  intro _ _
  refine tracks_bind (tracks_tryCatch
    (createOrUpdateProfile_tracks hne title resumeText) ?_) ?_
  · exact fun e => tracks_of_sim (A := Eq) (Sim.raise (S := coverAI) _)
  · exact fun _ _ => tracks_of_sim (A := fun _ _ => True) (Sim.ret trivial)

end Calls
end CoverAI
