import CoverAI.Generation.Footprints
import CoverAI.Services.Profile
import CoverAI.Services.Users
import CoverAI.Services.Subscriptions
import CoverAI.System.Writes

/-!
# What the services learn

One rule for each function of the repositories and the services: which facts it
needs to be known, and which it makes known.  None of them but the one that
stores a letter and the one that charges for it changes the accounts.
-/

namespace CoverAI

open Txn Program

/-- Any exception will do, at any later state of knowledge. -/
def Tolerates (E : Exc -> Knows -> Prop) (st : Knows) : Prop :=
  forall e st', st.Extends st' -> E e st'

section Rules

variable {α : Type} {price : Int} {Q : α -> Knows -> Prop}
  {E : Exc -> Knows -> Prop} {st : Knows}

theorem Tolerates.mono {st' : Knows} (h : Tolerates E st)
    (hst : st.Extends st') : Tolerates E st' :=
  fun e st'' hst' => h e st'' (hst.trans hst')

theorem Tolerates.see {db : Db} (h : Tolerates E st)
    (hdb : (system price).Shows st db) : Tolerates E ((system price).see st db) :=
  h.mono (Knowledge.extends_see hdb)

/-- A write that makes no fact and leaves the accounts. -/
theorem flushes_neutral {st' : Knows} {w : Write coverAI}
    {ws : List (Write coverAI)}
    (hw : (system price).Makes st w.apply ∅ ∅ fun _ => 0)
    (hws : (system price).Flushes st ws st') :
    (system price).Flushes st (w :: ws) st' := by
  rw [← Known.record_nothing st] at hws
  exact .cons (fun _ => hw) hws

theorem flushes_update {w : Write coverAI}
    (hw : (system price).Makes st w.apply ∅ ∅ fun _ => 0) :
    (system price).Flushes st [w] st :=
  flushes_neutral hw .nil

/-- A row that does not pay for a letter leaves the accounts. -/
theorem insertCreditTransaction_neutral {t : CreditTransaction}
    (htype : t.type ≠ .spend) (hrefs : forall f, f ∈ t.refs -> f ∈ st.facts) :
    (system price).Makes st (insertCreditTransaction t).apply ∅ ∅
      fun _ => 0 := by
  have hweight : t.weight = fun _ => 0 := by
    funext a
    cases a with
    | request id =>
        simp [CreditTransaction.weight, CreditTransaction.paysFor, htype]
    | user id =>
        simp [CreditTransaction.weight, CreditTransaction.isSpendOf, htype]
  rw [← hweight]
  exact insertCreditTransaction_makes hrefs

theorem learns_flush_bind {st' : Knows} {rs : List LockName}
    {ws : List (Write coverAI)} {f : Unit -> Session α}
    (hws : (system price).Flushes st ws st')
    (hE : forall e, E e st) (h : (f ()).Learns (system price) Q E st') :
    ((flushUnit rs ws).bind f).Learns (system price) Q E st :=
  learns_flushUnit_bind hws h fun _ _ _ e _ => hE e

/-- A row under a key of the session's own. -/
theorem learns_insert_bind {t : SeqName} {rs : Int -> List LockName}
    {w : Int -> Write coverAI} {f : Int -> Session α} {new : Int -> Set Fact}
    {d : Tally -> Int}
    (hw : forall id (st' : Knows), st'.facts = st.facts ->
      (t, id) ∈ st'.drawn ->
      (exists db, (w id).violation db = none) ->
      (system price).Makes st' (w id).apply (new id) {(t, id)} d)
    (hE : Tolerates E st)
    (hf : forall id st', st.facts ⊆ st'.facts ->
      (forall f, f ∈ new id -> f ∈ st'.facts) ->
      (forall a, st'.change a = st.change a + d a) ->
      (f id).Learns (system price) Q E st') :
    ((draw t).bind fun id => (flushUnit (rs id) [w id]).bind fun _ =>
      f id).Learns (system price) Q E st := by
  apply learns_draw_bind
  intro id _
  have hkey : (t, id) ∈ (st.draw t id).drawn := Set.mem_insert _ _
  apply learns_flush_bind (.cons (hw id (st.draw t id) rfl hkey) .nil)
  · exact fun e => hE e _ (Known.extends_draw st t id)
  · exact hf id _ (fun _ h => Or.inl h) (fun _ h => Or.inr h) fun _ => rfl

/-- The same for a row that leaves the accounts. -/
theorem learns_insert_neutral {t : SeqName} {rs : Int -> List LockName}
    {w : Int -> Write coverAI} {f : Int -> Session α} {new : Int -> Set Fact}
    (hw : forall id (st' : Knows), st'.facts = st.facts ->
      (t, id) ∈ st'.drawn ->
      (exists db, (w id).violation db = none) ->
      (system price).Makes st' (w id).apply (new id) {(t, id)} fun _ => 0)
    (hE : Tolerates E st)
    (hf : forall id st', st.Extends st' ->
      (forall f, f ∈ new id -> f ∈ st'.facts) ->
      (f id).Learns (system price) Q E st') :
    ((draw t).bind fun id => (flushUnit (rs id) [w id]).bind fun _ =>
      f id).Learns (system price) Q E st := by
  apply learns_insert_bind hw hE
  intro id st' hfacts hnew hchange
  apply hf id st' _ hnew
  exact ⟨hfacts, funext fun a => (hchange a).trans (Int.add_zero _)⟩

/-!
# Users
-/

theorem createUser_learns {Q : Int -> Knows -> Prop} {user : User}
    (hpromo : user.pendingTopUpDiscountPromoCodeId = none)
    (hE : Tolerates E st)
    (hQ : forall id st', st.Extends st' -> .user id ∈ st'.facts -> Q id st') :
    (createUser user).Learns (system price) Q E st := by
  apply learns_insert_neutral (fun id st' _ hkey => insertUser_makes hkey ?_) hE
  · intro id st' hst hnew
    exact hQ id st' hst (hnew _ (List.mem_singleton_self _))
  · intro f hf
    simp [User.refs, hpromo] at hf

/-- The row a session has loaded keeps its references when other columns are
edited. -/
theorem updateUser_known {db : Db} {id : Int} {user edited : User}
    (hdb : (system price).Shows st db) (hget : db.users.get id = some user)
    (hpromo : edited.pendingTopUpDiscountPromoCodeId =
      user.pendingTopUpDiscountPromoCodeId) (id' : Int) (loaded : User) :
    (system price).Makes ((system price).see st db)
      (updateUser id' loaded edited).apply ∅ ∅ fun _ => 0 := by
  apply updateUser_makes
  intro f hf
  have hf' : f ∈ user.refs id := by
    simpa only [User.refs, hpromo] using hf
  exact Slot.users.holds_of_refs hdb.ok hget hf'

theorem holds_user {db : Db} {id : Int} {user : User}
    (hget : db.users.get id = some user) : db.Holds (.user id) :=
  Slot.users.holds_of_get hget (List.mem_singleton_self _)

theorem flushes_updateUser {db : Db} {id : Int} {user edited : User}
    (hdb : (system price).Shows st db) (hget : db.users.get id = some user)
    (hpromo : edited.pendingTopUpDiscountPromoCodeId =
      user.pendingTopUpDiscountPromoCodeId) :
    (system price).Flushes ((system price).see st db)
      [updateUser id user edited] ((system price).see st db) :=
  flushes_update (updateUser_known hdb hget hpromo id user)

/-- A change of the balance with its row of the ledger. -/
theorem flushes_posting {db : Db} {id : Int} {user edited : User}
    {t : CreditTransaction} (hdb : (system price).Shows st db)
    (hget : db.users.get id = some user)
    (hpromo : edited.pendingTopUpDiscountPromoCodeId =
      user.pendingTopUpDiscountPromoCodeId) (htype : t.type ≠ .spend)
    (hrefs : forall f, f ∈ t.refs -> db.Holds f) :
    (system price).Flushes ((system price).see st db)
      [updateUser id user edited, insertCreditTransaction t]
      ((system price).see st db) :=
  flushes_neutral (updateUser_known hdb hget hpromo id user)
    (flushes_update (insertCreditTransaction_neutral htype hrefs))

theorem grantWelcomeBonus_learns {Q : CreditTransaction -> Knows -> Prop}
    (userId amount : Int) (hE : Tolerates E st)
    (hQ : forall t st', st.Extends st' -> Q t st') :
    (grantWelcomeBonus userId amount).Learns (system price) Q E st := by
  unfold grantWelcomeBonus
  split
  · exact hE _ st (Known.Extends.refl st)
  · apply learns_forUpdate_bind
    intro v hv
    have hst := Knowledge.extends_see hv
    cases hget : v.users.get userId with
    | none => exact hE _ _ hst
    | some user =>
        refine learns_flush_bind (flushes_posting hv hget rfl ?_ ?_)
          (fun e => hE e _ hst) ?_
        · intro htype
          cases htype
        · intro f hf
          rw [List.mem_singleton.mp hf]
          exact holds_user hget
        · exact hQ _ _ hst

theorem grantBonusTo_learns {Q : Int × User -> Knows -> Prop}
    (welcomeCredits userId : Int) (user : User) (hE : Tolerates E st)
    (hQ : forall entry st', st.Extends st' -> Q entry st') :
    (grantBonusTo welcomeCredits userId user).Learns (system price) Q E st := by
  apply learns_bind
  exact grantWelcomeBonus_learns userId welcomeCredits hE
    fun t st' hst => hQ _ st' hst

theorem registerApiUser_learns {Q : Int × User -> Knows -> Prop}
    (welcomeCredits : Int) (email : String) (hE : Tolerates E st)
    (hQ : forall entry st', st.Extends st' -> Q entry st') :
    (registerApiUser welcomeCredits email).Learns (system price) Q E st := by
  apply learns_ask_bind
  intro v hv
  have hst := Knowledge.extends_see hv
  split
  · exact hE _ _ hst
  · apply learns_bind
    apply createUser_learns rfl (hE.mono hst)
    intro id st' hst' _
    exact grantBonusTo_learns _ _ _ (hE.mono (hst.trans hst'))
      fun entry st'' h => hQ entry st'' ((hst.trans hst').trans h)

theorem getOrCreateTelegramUser_learns {Q : Int × User -> Knows -> Prop}
    (welcomeCredits telegramId : Int) (hE : Tolerates E st)
    (hQ : forall entry st', st.Extends st' -> Q entry st') :
    (getOrCreateTelegramUser welcomeCredits telegramId).Learns (system price)
      Q E st := by
  apply learns_ask_bind
  intro v hv
  have hst := Knowledge.extends_see hv
  split
  · exact hQ _ _ hst
  · apply learns_bind
    apply createUser_learns rfl (hE.mono hst)
    intro id st' hst' _
    exact grantBonusTo_learns _ _ _ (hE.mono (hst.trans hst'))
      fun entry st'' h => hQ entry st'' ((hst.trans hst').trans h)

theorem updatePlan_learns {Q : Option User -> Knows -> Prop} (userId : Int)
    (plan : Plan) (hE : Tolerates E st)
    (hQ : forall found st', st.Extends st' -> Q found st') :
    (updatePlan userId plan).Learns (system price) Q E st := by
  apply learns_ask_bind
  intro v hv
  have hst := Knowledge.extends_see hv
  cases hget : v.users.get userId with
  | none => exact hQ _ _ hst
  | some user =>
      exact learns_flush_bind (flushes_updateUser hv hget rfl)
        (fun e => hE e _ hst) (hQ _ _ hst)

/-!
# Profiles
-/

theorem createResumeProfile_learns {Q : Int × ResumeProfile -> Knows -> Prop}
    {profile : ResumeProfile} (huser : .user profile.userId ∈ st.facts)
    (hE : Tolerates E st)
    (hQ : forall entry st', st.Extends st' -> Q entry st') :
    (createResumeProfile profile).Learns (system price) Q E st := by
  apply learns_insert_neutral
    (fun id st' hfacts hkey _ => insertResumeProfile_makes hkey ?_) hE
  · intro id st' hst _
    exact hQ _ st' hst
  · intro f hf
    rw [List.mem_singleton.mp hf, hfacts]
    exact huser

theorem updateProfileText_learns {Q : Option ResumeProfile -> Knows -> Prop}
    (profileId : Int) (resumeText : String) (hE : Tolerates E st)
    (hQ : forall found st', st.Extends st' -> Q found st') :
    (updateProfileText profileId resumeText).Learns (system price) Q E st := by
  apply learns_ask_bind
  intro v hv
  have hst := Knowledge.extends_see hv
  cases v.resumeProfiles.get profileId with
  | none => exact hQ _ _ hst
  | some row =>
      exact learns_flush_bind
        (flushes_update (updateResumeProfile_makes profileId row _))
        (fun e => hE e _ hst) (hQ _ _ hst)

/-- The outcome of a computation without statements. -/
theorem learns_ofExcept_bind {β : Type} {res : Except Exc β}
    {f : β -> Session α} (hE : Tolerates E st)
    (h : forall b, res = .ok b -> (f b).Learns (system price) Q E st) :
    ((ofExcept res).bind f).Learns (system price) Q E st := by
  cases res with
  | ok b => exact h b rfl
  | error e => exact hE e st (Known.Extends.refl st)

theorem createProfile_learns {Q : ProfileResult -> Knows -> Prop}
    {userId : Int} (title resumeText : String)
    (huser : .user userId ∈ st.facts) (hE : Tolerates E st)
    (hQ : forall result st', st.Extends st' -> Q result st') :
    (createProfile userId title resumeText).Learns (system price) Q E st := by
  apply learns_ask_bind
  intro v hv
  have hst := Knowledge.extends_see hv
  split
  · exact hE _ _ hst
  · generalize normalizeProfileTitle title = titleOutcome
    generalize normalizeResumeText resumeText = textOutcome
    refine learns_ofExcept_bind (hE.mono hst) ?_
    intro normalizedTitle _
    refine learns_ofExcept_bind (hE.mono hst) ?_
    intro normalizedText _
    apply learns_bind
    apply createResumeProfile_learns (hst.facts huser) (hE.mono hst)
    exact fun entry st' hst' => hQ _ st' (hst.trans hst')

theorem updateProfile_learns {Q : ProfileResult -> Knows -> Prop}
    (userId : Int) (resumeText : String) (hE : Tolerates E st)
    (hQ : forall result st', st.Extends st' -> Q result st') :
    (updateProfile userId resumeText).Learns (system price) Q E st := by
  apply learns_ask_bind
  intro v hv
  have hst := Knowledge.extends_see hv
  split
  · exact hE _ _ hst
  · generalize normalizeResumeText resumeText = textOutcome
    refine learns_ofExcept_bind (hE.mono hst) ?_
    intro normalizedText _
    apply learns_bind
    apply updateProfileText_learns _ _ (hE.mono hst)
    intro found st' hst'
    cases found with
    | none => exact hE _ st' (hst.trans hst')
    | some updated => exact hQ _ st' (hst.trans hst')

/-!
# Subscriptions
-/

theorem createSubscription_learns {Q : Int × Subscription -> Knows -> Prop}
    {subscription : Subscription}
    (huser : .user subscription.userId ∈ st.facts) (hE : Tolerates E st)
    (hQ : forall entry st', st.Extends st' -> Q entry st') :
    (createSubscription subscription).Learns (system price) Q E st := by
  apply learns_insert_neutral
    (fun id st' hfacts hkey _ => insertSubscription_makes hkey ?_) hE
  · intro id st' hst _
    exact hQ _ st' hst
  · intro f hf
    rw [List.mem_singleton.mp hf, hfacts]
    exact huser

theorem updateSubscriptionStatus_learns
    {Q : Option Subscription -> Knows -> Prop} (subscriptionId : Int)
    (status : SubscriptionStatus) (hE : Tolerates E st)
    (hQ : forall found st', st.Extends st' -> Q found st') :
    (updateSubscriptionStatus subscriptionId status).Learns (system price) Q E
      st := by
  apply learns_ask_bind
  intro v hv
  have hst := Knowledge.extends_see hv
  cases v.subscriptions.get subscriptionId with
  | none => exact hQ _ _ hst
  | some row =>
      exact learns_flush_bind
        (flushes_update (updateSubscription_makes subscriptionId row _))
        (fun e => hE e _ hst) (hQ _ _ hst)

theorem activationStart_learns {Q : Instant -> Knows -> Prop}
    (current : Option (Int × Subscription)) (plan : Plan) (now : Instant)
    (hE : Tolerates E st)
    (hQ : forall start st', st.Extends st' -> Q start st') :
    (activationStart current plan now).Learns (system price) Q E st := by
  unfold activationStart
  split
  · exact hQ _ st (Known.Extends.refl st)
  · split
    · exact hQ _ st (Known.Extends.refl st)
    · apply learns_bind
      exact updateSubscriptionStatus_learns _ _ hE fun _ st' hst => hQ _ st' hst

theorem activateSubscription_learns {Q : Int × Subscription -> Knows -> Prop}
    (userId : Int) (plan : Plan) (now : Instant) (hE : Tolerates E st)
    (hQ : forall entry st', st.Extends st' -> Q entry st') :
    (activateSubscription userId plan now).Learns (system price) Q E st := by
  unfold activateSubscription
  split
  · exact hE _ st (Known.Extends.refl st)
  · apply learns_ask_bind
    intro v hv
    have hst := Knowledge.extends_see hv
    cases hget : v.users.get userId with
    | none => exact hE _ _ hst
    | some user =>
        apply learns_ask_bind
        intro v' hv'
        have hst' := hst.trans (Knowledge.extends_see hv')
        apply learns_bind
        apply activationStart_learns _ _ _ (hE.mono hst')
        intro start st₁ hst₁
        apply learns_bind
        refine createSubscription_learns ?_ (hE.mono (hst'.trans hst₁)) ?_
        · exact hst₁.facts ((Knowledge.extends_see hv').facts (holds_user hget))
        · intro entry st₂ hst₂
          have hall := (hst'.trans hst₁).trans hst₂
          apply learns_bind
          exact updatePlan_learns _ _ (hE.mono hall)
            fun _ st₃ hst₃ => hQ entry st₃ (hall.trans hst₃)

theorem expireEach_learns {Q : Unit -> Knows -> Prop}
    (entries : List (Int × Subscription)) (hE : Tolerates E st)
    (hQ : forall st', st.Extends st' -> Q () st') :
    (expireEach entries).Learns (system price) Q E st := by
  induction entries generalizing st with
  | nil => exact hQ st (Known.Extends.refl st)
  | cons entry rest ih =>
      apply learns_bind
      apply learns_bind
      apply updateSubscriptionStatus_learns _ _ hE
      intro _ st₁ hst₁
      apply learns_bind
      apply updatePlan_learns _ _ (hE.mono hst₁)
      intro _ st₂ hst₂
      have hst := hst₁.trans hst₂
      exact ih (hE.mono hst) fun st₃ hst₃ => hQ st₃ (hst.trans hst₃)

theorem expireSubscriptions_learns
    {Q : List (Int × Subscription) -> Knows -> Prop} (now : Instant)
    (hE : Tolerates E st)
    (hQ : forall entries st', st.Extends st' -> Q entries st') :
    (expireSubscriptions now).Learns (system price) Q E st := by
  apply learns_ask_bind
  intro v hv
  have hst := Knowledge.extends_see hv
  apply learns_bind
  exact expireEach_learns _ (hE.mono hst)
    fun st' hst' => hQ _ st' (hst.trans hst')

/-!
# Vacancies
-/

theorem holds_employer {db : Db} {id : Int} {employer : Employer}
    (hget : db.employers.get id = some employer) : db.Holds (.employer id) :=
  Slot.employers.holds_of_get hget (List.mem_singleton_self _)

theorem holds_vacancy {db : Db} {id : Int} {vacancy : Vacancy}
    (hget : db.vacancies.get id = some vacancy) : db.Holds (.vacancy id) :=
  Slot.vacancies.holds_of_get hget (List.mem_singleton_self _)

theorem createEmployer_learns {Q : Int × Employer -> Knows -> Prop}
    (employer : Employer) (hE : Tolerates E st)
    (hQ : forall id st', st.Extends st' -> .employer id ∈ st'.facts ->
      Q (id, employer) st') :
    (createEmployer employer).Learns (system price) Q E st := by
  apply learns_insert_neutral
    (fun id st' _ hkey _ => insertEmployer_makes hkey) hE
  intro id st' hst hnew
  exact hQ id st' hst (hnew _ (List.mem_singleton_self _))

theorem createVacancy_learns {Q : Int × Vacancy -> Knows -> Prop}
    {vacancy : Vacancy} (hemployer : .employer vacancy.employerId ∈ st.facts)
    (hE : Tolerates E st)
    (hQ : forall id st', st.Extends st' -> .vacancy id ∈ st'.facts ->
      Q (id, vacancy) st') :
    (createVacancy vacancy).Learns (system price) Q E st := by
  apply learns_insert_neutral
    (fun id st' hfacts hkey _ => insertVacancy_makes hkey ?_) hE
  · intro id st' hst hnew
    exact hQ id st' hst (hnew _ (List.mem_singleton_self _))
  · intro f hf
    rw [List.mem_singleton.mp hf, hfacts]
    exact hemployer

theorem getOrCreatePlaceholderVacancy_learns
    {Q : Int × Vacancy -> Knows -> Prop} (hhId : Int) (vacancyUrl : String)
    (hE : Tolerates E st)
    (hQ : forall entry st', st.Extends st' -> .vacancy entry.1 ∈ st'.facts ->
      Q entry st') :
    (getOrCreatePlaceholderVacancy hhId vacancyUrl).Learns (system price) Q E
      st := by
  apply learns_ask_bind
  intro v hv
  have hst := Knowledge.extends_see hv
  split
  · rename_i existing heq
    exact hQ existing _ hst (holds_vacancy (Table.get_of_first? heq))
  · apply learns_bind
    apply createEmployer_learns _ (hE.mono hst)
    intro employerId st₁ hst₁ hemployer
    apply createVacancy_learns hemployer (hE.mono (hst.trans hst₁))
    intro id st₂ hst₂ hvacancy
    exact hQ _ st₂ ((hst.trans hst₁).trans hst₂) hvacancy

theorem updateEmployerCache_learns {Q : Option Employer -> Knows -> Prop}
    (employerId : Int) (name : String) (url : Option String)
    (rawPayload : Option (List (String × PyObject)))
    (cachedAt : Option Instant) (hE : Tolerates E st)
    (hQ : forall found st', st.Extends st' -> Q found st') :
    (updateEmployerCache employerId name url rawPayload cachedAt).Learns
      (system price) Q E st := by
  apply learns_ask_bind
  intro v hv
  have hst := Knowledge.extends_see hv
  cases v.employers.get employerId with
  | none => exact hQ _ _ hst
  | some row =>
      exact learns_flush_bind
        (flushes_update (updateEmployer_makes employerId row _))
        (fun e => hE e _ hst) (hQ _ _ hst)

theorem updateVacancyCache_learns {Q : Option Vacancy -> Knows -> Prop}
    {employerId : Int} (vacancyId : Int) (title : String)
    (url : Option String) (rawPayload : Option (List (String × PyObject)))
    (cachedAt : Option Instant) (hemployer : .employer employerId ∈ st.facts)
    (hE : Tolerates E st)
    (hQ : forall found st', st.Extends st' -> Q found st') :
    (updateVacancyCache vacancyId title url rawPayload cachedAt
      employerId).Learns (system price) Q E st := by
  apply learns_ask_bind
  intro v hv
  have hst := Knowledge.extends_see hv
  cases v.vacancies.get vacancyId with
  | none => exact hQ _ _ hst
  | some row =>
      exact learns_flush_bind
        (flushes_update (updateVacancy_makes (hst.facts hemployer)))
        (fun e => hE e _ hst) (hQ _ _ hst)

theorem upsertEmployer_learns {Q : Int × Employer -> Knows -> Prop}
    (payload : HHEmployerPayload) (cachedAt : Instant) (hE : Tolerates E st)
    (hQ : forall entry st', st.Extends st' -> .employer entry.1 ∈ st'.facts ->
      Q entry st') :
    (upsertEmployer payload cachedAt).Learns (system price) Q E st := by
  apply learns_ask_bind
  intro v hv
  have hst := Knowledge.extends_see hv
  split
  · apply createEmployer_learns _ (hE.mono hst)
    exact fun id st' hst' hnew => hQ _ st' (hst.trans hst') hnew
  · rename_i employerId existing heq
    have hknown : v.Holds (.employer employerId) :=
      holds_employer (Table.get_of_first? heq)
    apply learns_bind
    apply updateEmployerCache_learns _ _ _ _ _ (hE.mono hst)
    intro updated st' hst'
    exact hQ _ st' (hst.trans hst') (hst'.facts hknown)

theorem upsertVacancy_learns {Q : Int × Vacancy -> Knows -> Prop}
    {employerId : Int} (payload : HHVacancyPayload) (cachedAt : Instant)
    (hemployer : .employer employerId ∈ st.facts) (hE : Tolerates E st)
    (hQ : forall entry st', st.Extends st' -> .vacancy entry.1 ∈ st'.facts ->
      Q entry st') :
    (upsertVacancy payload employerId cachedAt).Learns (system price) Q E
      st := by
  apply learns_ask_bind
  intro v hv
  have hst := Knowledge.extends_see hv
  split
  · apply createVacancy_learns (hst.facts hemployer) (hE.mono hst)
    exact fun id st' hst' hnew => hQ _ st' (hst.trans hst') hnew
  · rename_i vacancyId existing heq
    have hknown : v.Holds (.vacancy vacancyId) :=
      holds_vacancy (Table.get_of_first? heq)
    apply learns_bind
    apply updateVacancyCache_learns _ _ _ _ _ (hst.facts hemployer)
      (hE.mono hst)
    intro updated st' hst'
    exact hQ _ st' (hst.trans hst') (hst'.facts hknown)

/-- The rows of a vacancy result are there. -/
def VacancyResult.refs (result : VacancyResult) : List Fact :=
  [.vacancy result.vacancyId, .employer result.employerId]

theorem cachedResult_learns {Q : Option VacancyResult -> Knows -> Prop}
    (hhId : Int) (now : Instant)
    (hQ : forall found st', st.Extends st' ->
      (forall result, found = some result ->
        forall f, f ∈ result.refs -> f ∈ st'.facts) -> Q found st') :
    (cachedResult hhId now).Learns (system price) Q E st := by
  have hnone : forall st' : Knows, forall result : VacancyResult,
      none = some result -> forall f, f ∈ result.refs -> f ∈ st'.facts :=
    fun _ _ heq => nomatch heq
  apply learns_ask_bind
  intro v hv
  have hst := Knowledge.extends_see hv
  split
  · exact hQ none _ hst (hnone _)
  · rename_i vacancyId vacancy heq
    split
    · apply learns_ask_bind
      intro v' hv'
      have hst' := hst.trans (Knowledge.extends_see hv')
      split
      · exact hQ none _ hst' (hnone _)
      · rename_i employer hemployer
        split
        · apply hQ _ _ hst'
          intro result hresult f hf
          cases hresult
          rcases List.mem_cons.mp hf with hvacancy | hrest
          · rw [hvacancy]
            exact (Knowledge.extends_see hv').facts
              (holds_vacancy (Table.get_of_first? heq))
          · rw [List.mem_singleton.mp hrest]
            exact holds_employer hemployer
        · exact hQ none _ hst' (hnone _)
    · exact hQ none _ hst (hnone _)

theorem getOrLoadVacancy_learns {Q : VacancyResult -> Knows -> Prop}
    (env : Env) (clients : Clients) (messageText : String) (now : Instant)
    (hE : Tolerates E st)
    (hQ : forall result st', st.Extends st' ->
      (forall f, f ∈ result.refs -> f ∈ st'.facts) -> Q result st') :
    (getOrLoadVacancy env clients messageText now).Learns (system price) Q E
      st := by
  apply learns_ofExcept_bind hE
  intro hhId _
  apply learns_bind
  apply cachedResult_learns
  intro found st₁ hst₁ hfound
  cases found with
  | some result => exact hQ result st₁ hst₁ (hfound result rfl)
  | none =>
      apply learns_ofExcept_bind (hE.mono hst₁)
      intro vacancyPayload _
      split
      · exact hE _ st₁ hst₁
      · apply learns_ofExcept_bind (hE.mono hst₁)
        intro employerPayload _
        apply learns_bind
        apply upsertEmployer_learns _ _ (hE.mono hst₁)
        intro employer st₂ hst₂ hemployer
        apply learns_bind
        apply upsertVacancy_learns _ _ hemployer (hE.mono (hst₁.trans hst₂))
        intro vacancy st₃ hst₃ hvacancy
        apply hQ _ st₃ ((hst₁.trans hst₂).trans hst₃)
        intro f hf
        rcases List.mem_cons.mp hf with hfirst | hrest
        · rw [hfirst]
          exact hvacancy
        · rw [List.mem_singleton.mp hrest]
          exact hst₃.facts hemployer

/-!
# Generation requests
-/

/-- The rows a request gives and refers to are there. -/
def Bound (st : Knows) (entry : Int × GenerationRequest) : Prop :=
  forall f, f ∈ entry.2.gives entry.1 ++ entry.2.refs entry.1 -> f ∈ st.facts

theorem Bound.mono {st' : Knows} {entry : Int × GenerationRequest}
    (h : Bound st entry) (hst : st.facts ⊆ st'.facts) : Bound st' entry :=
  fun f hf => hst (h f hf)

theorem Bound.owner {entry : Int × GenerationRequest} (h : Bound st entry) :
    .request entry.1 entry.2.userId ∈ st.facts :=
  h _ (List.mem_append_left _ List.mem_cons_self)

theorem createGenerationRequest_learns
    {Q : Int × GenerationRequest -> Knows -> Prop} {request : GenerationRequest}
    (hrefs : forall id f, f ∈ request.refs id -> f ∈ st.facts)
    (hE : Tolerates E st)
    (hQ : forall entry st', st.Extends st' -> entry.2 = request ->
      Bound st' entry -> Q entry st') :
    (createGenerationRequest request).Learns (system price) Q E st := by
  apply learns_insert_neutral
    (fun id st' hfacts hkey _ => insertGenerationRequest_makes hkey ?_) hE
  · intro id st' hst hnew
    apply hQ _ st' hst rfl
    intro f hf
    rcases List.mem_append.mp hf with hgives | hrefs'
    · exact hnew f hgives
    · exact hst.facts (hrefs id f hrefs')
  · intro f hf
    rw [hfacts]
    exact hrefs id f hf

/-- What a request refers to that is created with the status pending. -/
theorem pendingRequest_refs {userId profileId vacancyId : Int}
    (tone : Tone) (profile : ResumeProfile) (vacancy : Vacancy) (now : Instant)
    (huser : .user userId ∈ st.facts)
    (hprofile : .profile profileId userId ∈ st.facts)
    (hvacancy : .vacancy vacancyId ∈ st.facts) (id : Int) (f : Fact)
    (hf : f ∈ (pendingRequest userId profileId vacancyId tone profile vacancy
      now).refs id) : f ∈ st.facts := by
  rcases GenerationRequest.mem_refs.mp hf with hrow | hstatus
  · simp only [pendingRequest, List.mem_cons, List.not_mem_nil,
      or_false] at hrow
    rcases hrow with rfl | rfl | rfl
    · exact huser
    · exact hprofile
    · exact hvacancy
  · cases hstatus.left

theorem profile_of_first? {db : Db} {userId profileId : Int}
    {profile : ResumeProfile}
    (h : db.resumeProfiles.first? (fun p => p.userId = userId) =
      some (profileId, profile)) : db.Holds (.profile profileId userId) := by
  have howner : profile.userId = userId := by
    simpa using Table.property_of_first? h
  apply Slot.resumeProfiles.holds_of_get (Table.get_of_first? h)
  rw [← howner]
  exact List.mem_singleton_self _

theorem ensureCanGenerate_learns {Q : PlanUsage -> Knows -> Prop}
    (held : Option User) (userId : Int) (now : Instant) (hE : Tolerates E st)
    (hQ : forall usage st', st.Extends st' -> Q usage st') :
    (ensureCanGenerate held userId now).Learns (system price) Q E st :=
  learns_of_within
    (ensureCanGenerate_within (F := readOnly) held userId now
      (fun _ => trivial) trivial)
    (fun _ => trivial) (fun _ h => h) (fun _ h => h) (fun _ h => h)
    (fun usage st' _ hst => hQ usage st' hst) fun e st' _ hst => hE e st' hst

theorem enqueueChecks_learns {Q : Int × ResumeProfile × Int -> Knows -> Prop}
    (env : Env) (user : User) (userId : Int) (vacancyUrl : String)
    (tone : Tone) (now : Instant) (hE : Tolerates E st)
    (hQ : forall found st', st.Extends st' ->
      .profile found.1 userId ∈ st'.facts -> Q found st') :
    (enqueueChecks env (some user) userId vacancyUrl tone now).Learns
      (system price) Q E st := by
  apply learns_ask_bind
  intro v hv
  have hst := Knowledge.extends_see hv
  split
  · exact hE _ _ hst
  · rename_i profileId profile heq
    split
    · exact hE _ _ hst
    · split
      · exact hE _ _ hst
      · apply learns_ofExcept_bind (hE.mono hst)
        intro hhId _
        apply learns_bind
        apply ensureCanGenerate_learns _ _ _ (hE.mono hst)
        intro usage st' hst'
        exact hQ _ st' (hst.trans hst') (hst'.facts (profile_of_first? heq))

theorem createAndQueue_learns {Q : Int × GenerationRequest -> Knows -> Prop}
    {env : Env} {userId profileId : Int} (hhId : Int) (profile : ResumeProfile)
    (vacancyUrl : String) (tone : Tone) (now : Instant)
    (huser : .user userId ∈ st.facts)
    (hprofile : .profile profileId userId ∈ st.facts) (hE : Tolerates E st)
    (hQ : forall entry st', st.Extends st' -> Q entry st') :
    (createAndQueue env userId profileId hhId profile vacancyUrl tone
      now).Learns (system env.predictionCostCredits) Q E st := by
  apply learns_bind
  apply getOrCreatePlaceholderVacancy_learns _ _ hE
  intro vacancy st₁ hst₁ hvacancy
  apply learns_bind
  apply createGenerationRequest_learns (pendingRequest_refs _ _ _ _
    (hst₁.facts huser) (hst₁.facts hprofile) hvacancy) (hE.mono hst₁)
  intro entry st₂ hst₂ _ _
  constructor
  · exact ⟨rfl, rfl⟩
  · exact hQ _ st₂ (hst₁.trans hst₂)

theorem enqueueGeneration_learns {Q : Int × GenerationRequest -> Knows -> Prop}
    {env : Env} {userId : Int} (user : User) (vacancyUrl : String) (tone : Tone)
    (now : Instant) (huser : .user userId ∈ st.facts) (hE : Tolerates E st)
    (hQ : forall entry st', st.Extends st' -> Q entry st') :
    (enqueueGeneration env (some user) userId vacancyUrl tone now).Learns
      (system env.predictionCostCredits) Q E st := by
  apply learns_bind
  apply enqueueChecks_learns _ _ _ _ _ _ hE
  intro found st' hst hprofile
  exact createAndQueue_learns _ _ _ _ _ (hst.facts huser) hprofile (hE.mono hst)
    fun entry st'' hst' => hQ entry st'' (hst.trans hst')

end Rules
end CoverAI
