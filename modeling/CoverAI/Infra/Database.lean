import CoverAI.Domain.Entities
import CoverAI.Txn.Table
import CoverAI.Txn.Program

/-!
# The database

The tables with their CHECK constraints, the names of row locks, unique keys
and sequences, and the row writes a session flushes.  No operation deletes a
row, so a foreign key that held when a row was written holds ever after and is
not a separate constraint here.
-/

namespace CoverAI

open Txn

/-!
# Schema
-/

def userChecks (u : User) : Bool :=
  decide (0 ≤ u.credits) && decide (0 ≤ u.pendingTopUpDiscountPercent) &&
    decide (u.pendingTopUpDiscountPercent ≤ 100)

def paymentIntentChecks (i : PaymentIntent) : Bool :=
  decide (0 < i.creditsAmount) && decide (0 ≤ i.amountRub)

def promoCodeChecks (p : PromoCode) : Bool :=
  decide (0 < p.value) && decide (0 < p.maxActivations) &&
    decide (0 ≤ p.activationsCount)

/-- The enumeration columns have enumeration types, so their CHECK constraints
are built in. -/
def noChecks {row : Type} (_ : row) : Bool :=
  true

@[simp] theorem noChecks_eq {row : Type} (r : row) : noChecks r = true := rfl

@[simp] theorem userChecks_iff (u : User) :
    userChecks u = true <->
      0 ≤ u.credits ∧ 0 ≤ u.pendingTopUpDiscountPercent ∧
        u.pendingTopUpDiscountPercent ≤ 100 := by
  simp [userChecks, and_assoc]

@[simp] theorem paymentIntentChecks_iff (i : PaymentIntent) :
    paymentIntentChecks i = true <-> 0 < i.creditsAmount ∧ 0 ≤ i.amountRub := by
  simp [paymentIntentChecks]

@[simp] theorem promoCodeChecks_iff (p : PromoCode) :
    promoCodeChecks p = true <->
      0 < p.value ∧ 0 < p.maxActivations ∧ 0 ≤ p.activationsCount := by
  simp [promoCodeChecks, and_assoc]

structure Db where
  users : Table User userChecks
  resumeProfiles : Table ResumeProfile noChecks
  employers : Table Employer noChecks
  vacancies : Table Vacancy noChecks
  generationRequests : Table GenerationRequest noChecks
  coverLetters : Table CoverLetter noChecks
  subscriptions : Table Subscription noChecks
  creditTransactions : List CreditTransaction
  paymentIntents : Table PaymentIntent paymentIntentChecks
  promoCodes : Table PromoCode promoCodeChecks
  promoRedemptions : List PromoRedemption

def Db.empty : Db where
  users := Table.empty
  resumeProfiles := Table.empty
  employers := Table.empty
  vacancies := Table.empty
  generationRequests := Table.empty
  coverLetters := Table.empty
  subscriptions := Table.empty
  creditTransactions := []
  paymentIntents := Table.empty
  promoCodes := Table.empty
  promoRedemptions := []

/-- Row locks, and the entries of the unique indexes, which a second insertion
of the same key waits for. -/
inductive LockName where
  | user (id : Int)
  | paymentIntent (id : Int)
  | promoCode (id : Int)
  | generationRequest (id : Int)
  | employer (id : Int)
  | vacancy (id : Int)
  | subscription (id : Int)
  | resumeProfile (id : Int)
  | resumeProfileOwner (userId : Int)
  | employerHhId (hhId : Int)
  | vacancyHhId (hhId : Int)
  | userEmail (email : String)
  | userTelegramId (telegramId : Int)
  | promoRedemption (promoCodeId userId : Int)
  | promoCodeKey (code : String)
  deriving DecidableEq

inductive SeqName where
  | users
  | paymentIntents
  | generationRequests
  | coverLetters
  | employers
  | vacancies
  | subscriptions
  | resumeProfiles
  | promoCodes
  deriving DecidableEq

/-- The messages that leave the database are the queued jobs. -/
abbrev coverAI : Signature where
  Db := Db
  Lock := LockName
  Seq := SeqName
  Out := Job
  Exc := Exc
  lockDecidableEq := inferInstance
  seqDecidableEq := inferInstance

abbrev Session (α : Type) := Program coverAI α

def select {α : Type} (q : Db -> α) : Session α :=
  Program.ask q

def selectForUpdate {α : Type} (r : LockName) (q : Db -> α) : Session α :=
  Program.forUpdate r q

def ofExcept {α : Type} : Except Exc α -> Session α
  | .ok a => Program.ret a
  | .error e => Program.raise e

/-!
# Row writes
-/

def insertInto {row : Type} {check : row -> Bool} (table : Db -> Table row check)
    (put : Table row check -> Db -> Db) (id : Int) (r : row) :
    Write coverAI where
  violation := fun db =>
    if (table db).get id = none ∧ check r = true then none
    else some Exc.integrityError
  apply := fun db => put ((table db).insert id r) db

/-- The unit of work sends the columns whose value differs from the loaded one;
the other columns keep what the row holds when the update is applied. -/
def changed {α : Type} [DecidableEq α] (loaded edited current : α) : α :=
  if edited = loaded then current else edited

@[simp] theorem changed_loaded {α : Type} [DecidableEq α] (loaded edited : α) :
    changed loaded edited loaded = edited := by
  unfold changed
  split
  · rename_i h
    exact h.symm
  · rfl

@[simp] theorem changed_same {α : Type} [DecidableEq α] (loaded current : α) :
    changed loaded loaded current = current := by
  simp [changed]

def updateIn {row : Type} {check : row -> Bool} (table : Db -> Table row check)
    (put : Table row check -> Db -> Db) (id : Int) (f : row -> row) :
    Write coverAI where
  violation := fun db =>
    if ((table db).get id).all (fun r => check (f r)) = true then none
    else some Exc.integrityError
  apply := fun db => put ((table db).modify id f) db

theorem violation_insertInto {row : Type} {check : row -> Bool}
    {table : Db -> Table row check} {put : Table row check -> Db -> Db}
    {id : Int} {r : row} {db : Db} :
    (insertInto table put id r).violation db = none <->
      (table db).get id = none ∧ check r = true := by
  simp [insertInto]

theorem violation_updateIn {row : Type} {check : row -> Bool}
    {table : Db -> Table row check} {put : Table row check -> Db -> Db}
    {id : Int} {f : row -> row} {db : Db} :
    (updateIn table put id f).violation db = none <->
      forall r, (table db).get id = some r -> check (f r) = true := by
  simp only [updateIn, ite_eq_left_iff, Option.all_eq_true, reduceCtorEq,
    imp_false, not_not]

section Insertions

/-- A unique column of a new row; NULL never conflicts. -/
def takenBy {row : Type} {check : row -> Bool} (T : Table row check)
    {α : Type} [DecidableEq α] (column : row -> Option α) (r : row) : Bool :=
  (column r).isSome && (T.first? fun old => column old = column r).isSome

/-- `uq_users_email` and `uq_users_telegram_id`. -/
def insertUser (id : Int) (u : User) : Write coverAI :=
  let w := insertInto Db.users (fun T db => { db with users := T }) id u
  { w with
    violation := fun (db : Db) =>
      if takenBy db.users User.email u || takenBy db.users User.telegramId u then
        some Exc.integrityError
      else w.violation db }

def insertPaymentIntent (id : Int) (i : PaymentIntent) : Write coverAI :=
  insertInto Db.paymentIntents (fun T db => { db with paymentIntents := T }) id i

def insertGenerationRequest (id : Int) (r : GenerationRequest) :
    Write coverAI :=
  insertInto Db.generationRequests
    (fun T db => { db with generationRequests := T }) id r

def insertCoverLetter (id : Int) (l : CoverLetter) : Write coverAI :=
  insertInto Db.coverLetters (fun T db => { db with coverLetters := T }) id l

/-- `uq_resume_profiles_user_id`. -/
def insertResumeProfile (id : Int) (p : ResumeProfile) : Write coverAI :=
  let w :=
    insertInto Db.resumeProfiles (fun T db => { db with resumeProfiles := T })
      id p
  { w with
    violation := fun db =>
      if db.resumeProfiles.first? (fun r => r.userId = p.userId) = none then
        w.violation db
      else some Exc.integrityError }

def insertSubscription (id : Int) (r : Subscription) : Write coverAI :=
  insertInto Db.subscriptions (fun T db => { db with subscriptions := T }) id r

/-- `uq_employers_hh_id`. -/
def insertEmployer (id : Int) (e : Employer) : Write coverAI :=
  let w :=
    insertInto Db.employers (fun T db => { db with employers := T }) id e
  { w with
    violation := fun db =>
      if db.employers.first? (fun r => r.hhId = e.hhId) = none then
        w.violation db
      else some Exc.integrityError }

/-- `uq_vacancies_hh_id`. -/
def insertVacancy (id : Int) (v : Vacancy) : Write coverAI :=
  let w :=
    insertInto Db.vacancies (fun T db => { db with vacancies := T }) id v
  { w with
    violation := fun db =>
      if db.vacancies.first? (fun r => r.hhId = v.hhId) = none then
        w.violation db
      else some Exc.integrityError }

/-- `uq_promo_codes_code`. -/
def insertPromoCode (id : Int) (p : PromoCode) : Write coverAI :=
  let w :=
    insertInto Db.promoCodes (fun T db => { db with promoCodes := T }) id p
  { w with
    violation := fun db =>
      if db.promoCodes.first? (fun r => r.code = p.code) = none then
        w.violation db
      else some Exc.integrityError }

def insertCreditTransaction (t : CreditTransaction) : Write coverAI where
  violation := fun _ => none
  apply := fun (db : Db) =>
    { db with creditTransactions := db.creditTransactions ++ [t] }

/-- `uq_promo_redemptions_code_user`. -/
def insertPromoRedemption (r : PromoRedemption) : Write coverAI where
  violation := fun (db : Db) =>
    if r ∈ db.promoRedemptions then some Exc.integrityError else none
  apply := fun (db : Db) =>
    { db with promoRedemptions := db.promoRedemptions ++ [r] }

end Insertions

section Updates

def User.write (loaded edited current : User) : User where
  telegramId := changed loaded.telegramId edited.telegramId current.telegramId
  email := changed loaded.email edited.email current.email
  role := changed loaded.role edited.role current.role
  credits := changed loaded.credits edited.credits current.credits
  pendingTopUpDiscountPercent :=
    changed loaded.pendingTopUpDiscountPercent
      edited.pendingTopUpDiscountPercent current.pendingTopUpDiscountPercent
  pendingTopUpDiscountValidUntil :=
    changed loaded.pendingTopUpDiscountValidUntil
      edited.pendingTopUpDiscountValidUntil
      current.pendingTopUpDiscountValidUntil
  pendingTopUpDiscountPromoCodeId :=
    changed loaded.pendingTopUpDiscountPromoCodeId
      edited.pendingTopUpDiscountPromoCodeId
      current.pendingTopUpDiscountPromoCodeId
  plan := changed loaded.plan edited.plan current.plan

def PaymentIntent.write (loaded edited current : PaymentIntent) :
    PaymentIntent :=
  { current with
    status := changed loaded.status edited.status current.status
    confirmedAt :=
      changed loaded.confirmedAt edited.confirmedAt current.confirmedAt }

def PromoCode.write (loaded edited current : PromoCode) : PromoCode :=
  { current with
    activationsCount :=
      changed loaded.activationsCount edited.activationsCount
        current.activationsCount }

def GenerationRequest.write (loaded edited current : GenerationRequest) :
    GenerationRequest :=
  { current with
    status := changed loaded.status edited.status current.status
    errorMessage :=
      changed loaded.errorMessage edited.errorMessage current.errorMessage
    completedAt :=
      changed loaded.completedAt edited.completedAt current.completedAt }

def Subscription.write (loaded edited current : Subscription) : Subscription :=
  { current with
    status := changed loaded.status edited.status current.status }

def ResumeProfile.write (loaded edited current : ResumeProfile) :
    ResumeProfile :=
  { current with
    resumeText := changed loaded.resumeText edited.resumeText current.resumeText }

/-- The payload column is compared by value in the source; here it is always
sent. -/
def Employer.write (loaded edited current : Employer) : Employer :=
  { current with
    name := changed loaded.name edited.name current.name
    url := changed loaded.url edited.url current.url
    rawPayload := edited.rawPayload
    cachedAt := changed loaded.cachedAt edited.cachedAt current.cachedAt }

def Vacancy.write (loaded edited current : Vacancy) : Vacancy :=
  { current with
    employerId := changed loaded.employerId edited.employerId current.employerId
    title := changed loaded.title edited.title current.title
    url := changed loaded.url edited.url current.url
    rawPayload := edited.rawPayload
    cachedAt := changed loaded.cachedAt edited.cachedAt current.cachedAt }

def updateUser (id : Int) (loaded edited : User) : Write coverAI :=
  updateIn Db.users (fun T db => { db with users := T }) id
    (User.write loaded edited)

def updatePaymentIntent (id : Int) (loaded edited : PaymentIntent) :
    Write coverAI :=
  updateIn Db.paymentIntents (fun T db => { db with paymentIntents := T }) id
    (PaymentIntent.write loaded edited)

def updatePromoCode (id : Int) (loaded edited : PromoCode) : Write coverAI :=
  updateIn Db.promoCodes (fun T db => { db with promoCodes := T }) id
    (PromoCode.write loaded edited)

def updateGenerationRequest (id : Int) (loaded edited : GenerationRequest) :
    Write coverAI :=
  updateIn Db.generationRequests
    (fun T db => { db with generationRequests := T }) id
    (GenerationRequest.write loaded edited)

def updateResumeProfile (id : Int) (loaded edited : ResumeProfile) :
    Write coverAI :=
  updateIn Db.resumeProfiles (fun T db => { db with resumeProfiles := T }) id
    (ResumeProfile.write loaded edited)

def updateSubscription (id : Int) (loaded edited : Subscription) :
    Write coverAI :=
  updateIn Db.subscriptions (fun T db => { db with subscriptions := T }) id
    (Subscription.write loaded edited)

def updateEmployer (id : Int) (loaded edited : Employer) : Write coverAI :=
  updateIn Db.employers (fun T db => { db with employers := T }) id
    (Employer.write loaded edited)

def updateVacancy (id : Int) (loaded edited : Vacancy) : Write coverAI :=
  updateIn Db.vacancies (fun T db => { db with vacancies := T }) id
    (Vacancy.write loaded edited)

end Updates

/-!
# Effects of the writes
-/

section Effects

variable (id : Int) (db : Db)

@[simp] theorem insertUser_apply (u : User) :
    (insertUser id u).apply db =
      { db with users := db.users.insert id u } := rfl

@[simp] theorem insertPaymentIntent_apply (i : PaymentIntent) :
    (insertPaymentIntent id i).apply db =
      { db with paymentIntents := db.paymentIntents.insert id i } := rfl

@[simp] theorem insertGenerationRequest_apply (r : GenerationRequest) :
    (insertGenerationRequest id r).apply db =
      { db with generationRequests := db.generationRequests.insert id r } := rfl

@[simp] theorem insertCoverLetter_apply (l : CoverLetter) :
    (insertCoverLetter id l).apply db =
      { db with coverLetters := db.coverLetters.insert id l } := rfl

@[simp] theorem insertResumeProfile_apply (p : ResumeProfile) :
    (insertResumeProfile id p).apply db =
      { db with resumeProfiles := db.resumeProfiles.insert id p } := rfl

@[simp] theorem insertSubscription_apply (r : Subscription) :
    (insertSubscription id r).apply db =
      { db with subscriptions := db.subscriptions.insert id r } := rfl

@[simp] theorem insertEmployer_apply (e : Employer) :
    (insertEmployer id e).apply db =
      { db with employers := db.employers.insert id e } := rfl

@[simp] theorem insertVacancy_apply (v : Vacancy) :
    (insertVacancy id v).apply db =
      { db with vacancies := db.vacancies.insert id v } := rfl

@[simp] theorem insertPromoCode_apply (p : PromoCode) :
    (insertPromoCode id p).apply db =
      { db with promoCodes := db.promoCodes.insert id p } := rfl

@[simp] theorem insertCreditTransaction_apply (t : CreditTransaction) :
    (insertCreditTransaction t).apply db =
      { db with creditTransactions := db.creditTransactions ++ [t] } := rfl

@[simp] theorem insertPromoRedemption_apply (r : PromoRedemption) :
    (insertPromoRedemption r).apply db =
      { db with promoRedemptions := db.promoRedemptions ++ [r] } := rfl

@[simp] theorem updateUser_apply (loaded edited : User) :
    (updateUser id loaded edited).apply db =
      { db with users := db.users.modify id (User.write loaded edited) } := rfl

@[simp] theorem updatePaymentIntent_apply (loaded edited : PaymentIntent) :
    (updatePaymentIntent id loaded edited).apply db =
      { db with
        paymentIntents :=
          db.paymentIntents.modify id (PaymentIntent.write loaded edited) } :=
  rfl

@[simp] theorem updatePromoCode_apply (loaded edited : PromoCode) :
    (updatePromoCode id loaded edited).apply db =
      { db with
        promoCodes := db.promoCodes.modify id (PromoCode.write loaded edited) } :=
  rfl

@[simp] theorem updateGenerationRequest_apply
    (loaded edited : GenerationRequest) :
    (updateGenerationRequest id loaded edited).apply db =
      { db with
        generationRequests :=
          db.generationRequests.modify id
            (GenerationRequest.write loaded edited) } := rfl

@[simp] theorem updateResumeProfile_apply (loaded edited : ResumeProfile) :
    (updateResumeProfile id loaded edited).apply db =
      { db with
        resumeProfiles :=
          db.resumeProfiles.modify id (ResumeProfile.write loaded edited) } :=
  rfl

@[simp] theorem updateSubscription_apply (loaded edited : Subscription) :
    (updateSubscription id loaded edited).apply db =
      { db with
        subscriptions :=
          db.subscriptions.modify id (Subscription.write loaded edited) } := rfl

@[simp] theorem updateEmployer_apply (loaded edited : Employer) :
    (updateEmployer id loaded edited).apply db =
      { db with
        employers := db.employers.modify id (Employer.write loaded edited) } :=
  rfl

@[simp] theorem updateVacancy_apply (loaded edited : Vacancy) :
    (updateVacancy id loaded edited).apply db =
      { db with
        vacancies := db.vacancies.modify id (Vacancy.write loaded edited) } :=
  rfl

@[simp] theorem insertCreditTransaction_violation (t : CreditTransaction) :
    (insertCreditTransaction t).violation db = none := rfl

end Effects

/-- An update of the loaded row stores the edited one. -/
@[simp] theorem User.write_loaded (loaded edited : User) :
    User.write loaded edited loaded = edited := by
  simp [User.write]

theorem updateUser_violation {id : Int} {db : Db} {user edited : User}
    (hget : db.users.get id = some user) (hcheck : userChecks edited = true) :
    (updateUser id user edited).violation db = none := by
  apply violation_updateIn.mpr
  intro r hr
  rw [hget] at hr
  cases hr
  rwa [User.write_loaded]

end CoverAI
