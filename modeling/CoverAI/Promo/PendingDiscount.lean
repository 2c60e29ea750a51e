import CoverAI.Billing.IntentLifeCycle
import CoverAI.Promo.Redemption

/-!
# The pending discount of a user

Three columns of the users row describe the discount of the next top-up.  The
API writes the three of them together.  The bot writes the percent alone, so
the columns stay those of one promo code in the runs whose bot operations leave
the percent as it is.
-/

namespace CoverAI

open Txn Program

structure PendingDiscount where
  percent : Int
  validUntil : Option Instant
  promoCodeId : Option Int
  deriving DecidableEq

def User.pendingDiscount (user : User) : PendingDiscount where
  percent := user.pendingTopUpDiscountPercent
  validUntil := user.pendingTopUpDiscountValidUntil
  promoCodeId := user.pendingTopUpDiscountPromoCodeId

namespace PendingDiscount

def cleared : PendingDiscount where
  percent := 0
  validUntil := none
  promoCodeId := none

def ofPromo (promoId : Int) (promo : PromoCode) : PendingDiscount where
  percent := promo.value
  validUntil := some promo.validUntil
  promoCodeId := some promoId

/-- There is no discount, or it is that of a stored discount code. -/
def Consistent (v : PendingDiscount) (db : Db) : Prop :=
  v = cleared ∨ exists id promo, v = ofPromo id promo ∧
    db.promoCodes.get id = some promo ∧ promo.type = .topUpDiscount

end PendingDiscount

/-!
# What the payment routes write
-/

theorem get_updated_user {db d : Db} {owner : Int} {user edited : User}
    (hget : db.users.get owner = some user) (hcheck : userChecks edited = true)
    (husers : d.users = db.users.modify owner (User.write user edited))
    (id : Int) :
    d.users.get id = if id = owner then some edited else db.users.get id := by
  have hwritten : userChecks (user.write edited user) = true := by
    rw [User.write_loaded]
    exact hcheck
  rw [husers, Table.get_modify, hget, Option.map_some,
    Table.checkedUpdate_of_check hwritten, User.write_loaded]

/-- The caller's row as `create_payment` leaves it. -/
def User.dropExpired (user : User) (now : Instant) : User :=
  if discountExpired user.pendingTopUpDiscountValidUntil now then
    user.clearDiscount
  else user

/-- A payment is created: the row under a fresh key, and the caller's row
without a discount that has expired. -/
structure CreatesIntent (userId : Int) (now : Instant) (user : User) (id : Int)
    (intent : PaymentIntent) (db d : Db) : Prop where
  registered : db.users.get userId = some user
  checked : userChecks (user.dropExpired now) = true
  users : d.users =
    db.users.modify userId (User.write user (user.dropExpired now))
  new : db.paymentIntents.get id = none
  intentChecked : paymentIntentChecks intent = true
  intents : d.paymentIntents = db.paymentIntents.insert id intent
  owner : intent.userId = userId
  pending : intent.status = .pending
  discount : intent.discountPercent =
    (user.dropExpired now).pendingTopUpDiscountPercent
  promoCodes : d.promoCodes = db.promoCodes
  redemptions : d.promoRedemptions = db.promoRedemptions

/-- An intent that is not confirmed yet is confirmed: the discount of its owner
is cleared. -/
structure SettlesIntent (externalId : String) (now : Instant) (id : Int)
    (intent : PaymentIntent) (user : User) (db d : Db) : Prop where
  found : db.paymentIntents.first? (fun i => i.externalId = externalId) =
    some (id, intent)
  unsettled : intent.status ≠ .succeeded
  registered : db.users.get intent.userId = some user
  checked : userChecks { user.clearDiscount with
    credits := user.credits + intent.creditsAmount } = true
  users : d.users = db.users.modify intent.userId (User.write user
    { user.clearDiscount with credits := user.credits + intent.creditsAmount })
  intents : d.paymentIntents = db.paymentIntents.modify id
    (PaymentIntent.write intent (intent.settle .succeeded now))
  promoCodes : d.promoCodes = db.promoCodes
  redemptions : d.promoRedemptions = db.promoRedemptions

/-- A pending intent is ended without a payment. -/
structure EndsIntent (now : Instant) (status : PaymentStatus) (id : Int)
    (intent : PaymentIntent) (db d : Db) : Prop where
  found : db.paymentIntents.get id = some intent
  pending : intent.status = .pending
  users : d.users = db.users
  intents : d.paymentIntents = db.paymentIntents.modify id
    (PaymentIntent.write intent (intent.settle status now))
  promoCodes : d.promoCodes = db.promoCodes
  redemptions : d.promoRedemptions = db.promoRedemptions

section Routes

variable {s : Store coverAI}

theorem createPayment_creates (env : Env) (userId creditsAmount : Int)
    (uuidHex : String) (now : Instant) :
    (createPayment env userId creditsAmount uuidHex now).Ensures
      (fun _ s' => exists user id intent,
        CreatesIntent userId now user id intent s.db s'.db) s := by
  simp only [createPayment, bind_eq, ensures_currentUser_bind,
    ensures_draw_bind, ensures_flushUnit_bind, pure_eq, ensures_ret]
  intro user hget d hd
  rcases Write.attempt_cons_eq_ok.mp hd with ⟨huser, hrest⟩
  rcases Write.attempt_cons_eq_ok.mp hrest with ⟨hviolation, _⟩
  rcases violation_insertInto.mp hviolation with ⟨hnew, hcheck⟩
  rw [Write.applyAll_of_attempt hd]
  exact ⟨user, _, _, hget, userChecks_of_violation hget huser, rfl, hnew,
    hcheck, rfl, rfl, rfl, rfl, rfl, rfl⟩

theorem confirmPayment_settles (externalId : String) (now : Instant) :
    (confirmPayment externalId now).Ensures
      (fun _ s' => s'.db = s.db ∨ exists id intent user,
        SettlesIntent externalId now id intent user s.db s'.db) s := by
  simp only [confirmPayment, paymentByExternalId, bind_eq, ensures_select_bind]
  split
  · exact ensures_raise _ _
  · rename_i id intent hfirst
    split
    · rw [pure_eq, ensures_ret]
      exact Or.inl rfl
    · rename_i hstatus
      simp only [confirmLocked, bind_eq, ensures_lockedUser_bind,
        ensures_flushUnit_bind, Option.getD_none, pure_eq, ensures_ret]
      intro user hget d hd
      rcases Write.attempt_cons_eq_ok.mp hd with ⟨huser, _⟩
      have hcheck := userChecks_of_violation hget huser
      rw [Write.applyAll_of_attempt hd]
      exact Or.inr ⟨id, intent, user, hfirst, hstatus, hget, hcheck, rfl, rfl,
        rfl, rfl⟩

theorem endPending_ends (status : PaymentStatus) (externalId : String)
    (now : Instant) :
    (endPending status externalId now).Ensures
      (fun _ s' => s'.db = s.db ∨ exists id intent,
        EndsIntent now status id intent s.db s'.db) s := by
  simp only [endPending, paymentByExternalId, bind_eq, ensures_select_bind]
  split
  · exact ensures_raise _ _
  · rename_i id intent hfirst
    split
    · rename_i hstatus
      simp only [ensures_flushUnit_bind, pure_eq, ensures_ret]
      intro d hd
      rw [Write.applyAll_of_attempt hd]
      exact Or.inr ⟨id, intent, Table.get_of_first? hfirst, hstatus, rfl, rfl,
        rfl, rfl⟩
    · rw [pure_eq, ensures_ret]
      exact Or.inl rfl

/-- The bot's top-up resets the percent alone. -/
theorem createMockTopUp_resets (env : Env) (userId creditsAmount : Int) :
    (createMockTopUp env userId creditsAmount).Ensures
      (fun _ s' => s'.db = s.db ∨ exists user edited,
        s.db.users.get userId = some user ∧ userChecks edited = true ∧
          s'.db.users = s.db.users.modify userId (User.write user edited) ∧
          edited.pendingDiscount = {
            percent := 0
            validUntil := user.pendingTopUpDiscountValidUntil
            promoCodeId := user.pendingTopUpDiscountPromoCodeId } ∧
          paymentIntentChecks (mockTopUpIntent env userId creditsAmount
            user.pendingTopUpDiscountPercent) = true ∧
          s'.db.promoCodes = s.db.promoCodes) s := by
  simp only [createMockTopUp, userForUpdate, bind_eq,
    ensures_selectForUpdate_bind]
  split
  · rw [pure_eq, ensures_ret]
    exact Or.inl rfl
  · rename_i user hget
    simp only [ensures_draw_bind, ensures_flushUnit_bind, pure_eq, ensures_ret]
    intro d hd d' hd'
    rcases Write.attempt_cons_eq_ok.mp hd with ⟨huser, hrest⟩
    rcases Write.attempt_cons_eq_ok.mp hrest with ⟨hviolation, _⟩
    have hcheck := (violation_insertInto.mp hviolation).right
    rw [Write.applyAll_of_attempt hd', Write.applyAll_of_attempt hd]
    exact Or.inr ⟨user, _, hget, userChecks_of_violation hget huser, rfl, rfl,
      hcheck, rfl⟩

end Routes

/-!
# Consistency
-/

/-- What the promo codes say about discounts is not written. -/
def KeepsTerms (db d : Db) : Prop :=
  forall id promo, db.promoCodes.get id = some promo ->
    exists promo', d.promoCodes.get id = some promo' ∧
      promo'.type = promo.type ∧ promo'.value = promo.value ∧
      promo'.validUntil = promo.validUntil

theorem KeepsTerms.of_eq {db d : Db} (h : d.promoCodes = db.promoCodes) :
    KeepsTerms db d := by
  intro id promo hget
  exact ⟨promo, by rw [h, hget], rfl, rfl, rfl⟩

theorem Redeems.keepsTerms {key : String} {userId promoId : Int}
    {promo : PromoCode} {user edited : User} {db d : Db}
    (h : Redeems key userId promoId promo user edited db d) :
    KeepsTerms db d := by
  intro id stored hget
  by_cases hid : id = promoId
  · have heq : promo = stored := by
      have hfound := Table.get_of_first? h.found
      rw [hid] at hget
      exact Option.some.inj (hfound.symm.trans hget)
    refine ⟨promo.activate, ?_, ?_⟩
    · rw [h.get_promo, if_pos hid]
    · rw [← heq]
      exact ⟨rfl, rfl, rfl⟩
  · refine ⟨stored, ?_, rfl, rfl, rfl⟩
    rw [h.get_promo, if_neg hid, hget]

theorem PendingDiscount.Consistent.mono {v : PendingDiscount} {db d : Db}
    (h : v.Consistent db) (hterms : KeepsTerms db d) : v.Consistent d := by
  rcases h with hcleared | ⟨id, promo, hv, hget, htype⟩
  · exact Or.inl hcleared
  · rcases hterms id promo hget with ⟨promo', hget', htype', hvalue, huntil⟩
    refine Or.inr ⟨id, promo', ?_, hget', htype'.trans htype⟩
    rw [hv, PendingDiscount.ofPromo, PendingDiscount.ofPromo, hvalue, huntil]

/-- There is a code exactly when there is a percent. -/
theorem PendingDiscount.Consistent.percent_eq_zero_iff {v : PendingDiscount}
    {db : Db} (h : v.Consistent db) : v.percent = 0 <-> v.promoCodeId = none := by
  rcases h with hcleared | ⟨id, promo, hv, hget, _⟩
  · rw [hcleared]
    exact ⟨fun _ => rfl, fun _ => rfl⟩
  · have hvalue := (promoCodeChecks_iff promo).mp (Table.check_of_get hget)
    rw [hv]
    constructor
    · intro hzero
      change promo.value = 0 at hzero
      omega
    · intro hnone
      cases hnone

def DiscountConsistent (userId : Int) (db : Db) : Prop :=
  forall user, db.users.get userId = some user ->
    user.pendingDiscount.Consistent db

/-- An update of one users row. -/
theorem DiscountConsistent.update {userId owner : Int} {db d : Db}
    {user edited : User} (h : DiscountConsistent userId db)
    (hget : db.users.get owner = some user) (hcheck : userChecks edited = true)
    (husers : d.users = db.users.modify owner (User.write user edited))
    (hterms : KeepsTerms db d)
    (hnew : owner = userId -> user.pendingDiscount.Consistent db ->
      edited.pendingDiscount.Consistent d) : DiscountConsistent userId d := by
  intro row hrow
  rw [get_updated_user hget hcheck husers] at hrow
  by_cases howner : userId = owner
  · rw [if_pos howner] at hrow
    cases hrow
    rw [← howner] at hget
    exact hnew howner.symm (h user hget)
  · rw [if_neg howner] at hrow
    exact (h row hrow).mono hterms

theorem User.pendingDiscount_dropExpired (user : User) (now : Instant) :
    (user.dropExpired now).pendingDiscount = PendingDiscount.cleared ∨
      (user.dropExpired now).pendingDiscount = user.pendingDiscount := by
  unfold User.dropExpired
  split
  · exact Or.inl rfl
  · exact Or.inr rfl

theorem CreatesIntent.discountConsistent {userId caller id : Int}
    {now : Instant} {user : User} {intent : PaymentIntent} {db d : Db}
    (hcreates : CreatesIntent caller now user id intent db d)
    (h : DiscountConsistent userId db) : DiscountConsistent userId d := by
  have hterms := KeepsTerms.of_eq hcreates.promoCodes
  apply h.update hcreates.registered hcreates.checked hcreates.users hterms
  intro _ hold
  rcases user.pendingDiscount_dropExpired now with hcleared | hsame
  · exact Or.inl hcleared
  · rw [hsame]
    exact hold.mono hterms

theorem SettlesIntent.discountConsistent {userId id : Int} {externalId : String}
    {now : Instant} {user : User} {intent : PaymentIntent} {db d : Db}
    (hsettles : SettlesIntent externalId now id intent user db d)
    (h : DiscountConsistent userId db) : DiscountConsistent userId d :=
  h.update hsettles.registered hsettles.checked hsettles.users
    (KeepsTerms.of_eq hsettles.promoCodes) fun _ _ => Or.inl rfl

/-- The API writes the three columns together. -/
theorem Redeems.discountConsistent {key : String} {userId caller promoId : Int}
    {promo : PromoCode} {user : User} {db d : Db}
    (hredeems : Redeems key caller promoId promo user
      (user.redeemed promoId promo) db d)
    (h : DiscountConsistent userId db) : DiscountConsistent userId d := by
  apply h.update hredeems.registered hredeems.checked hredeems.users
    hredeems.keepsTerms
  intro _ hold
  cases htype : promo.type with
  | fixedCredits =>
      have hsame : (user.redeemed promoId promo).pendingDiscount =
          user.pendingDiscount := by
        rw [User.redeemed, htype]
        rfl
      rw [hsame]
      exact hold.mono hredeems.keepsTerms
  | topUpDiscount =>
      refine Or.inr ⟨promoId, promo.activate, ?_, ?_, htype⟩
      · rw [User.redeemed, htype]
        rfl
      · rw [hredeems.get_promo, if_pos rfl]

/-- The bot writes the percent: the columns stay together when it was the
percent of the code before. -/
theorem Redeems.discountConsistent_bot {key : String}
    {userId caller promoId : Int} {promo : PromoCode} {user : User} {db d : Db}
    (hredeems : Redeems key caller promoId promo user (user.redeemedInBot promo)
      db d)
    (hsame : caller = userId -> promo.type = .topUpDiscount ->
      user.pendingTopUpDiscountPercent = promo.value)
    (h : DiscountConsistent userId db) : DiscountConsistent userId d := by
  apply h.update hredeems.registered hredeems.checked hredeems.users
    hredeems.keepsTerms
  intro hcaller hold
  have hkept : (user.redeemedInBot promo).pendingDiscount =
      user.pendingDiscount := by
    unfold User.redeemedInBot
    split
    · rfl
    · rename_i htype
      rw [← hsame hcaller htype]
  rw [hkept]
  exact hold.mono hredeems.keepsTerms

/-!
# Runs
-/

/-- The operations that write the columns of the discount. -/
def BillingRequest.WritesDiscount : BillingRequest -> Prop
  | redeemPromo _ _ _ | redeemPromoCode _ _ | createPayment _ _ _ _
  | confirmPayment _ _ | createMockTopUp _ _ => True
  | _ => False

/-- An operation of the bot that goes through for the user leaves the percent
as it is. -/
def KeepsPercent (env : Env) (userId : Int) (db : Db) : BillingRequest -> Prop
  | .redeemPromoCode caller code =>
      caller = userId ->
        forall promoId promo user,
          promoOfKey (promoKey env code) db = some (promoId, promo) ->
          promo.type = .topUpDiscount ->
          { promoCodeId := promoId, userId := caller } ∉ db.promoRedemptions ->
          db.users.get caller = some user ->
          userChecks (user.redeemedInBot promo) = true ->
          user.pendingTopUpDiscountPercent = promo.value
  | .createMockTopUp caller creditsAmount =>
      caller = userId ->
        forall user, db.users.get caller = some user ->
          paymentIntentChecks (mockTopUpIntent env caller creditsAmount
            user.pendingTopUpDiscountPercent) = true ->
          user.pendingTopUpDiscountPercent = 0
  | _ => True

theorem DiscountConsistent.request {env : Env} {userId : Int}
    {s : Store coverAI} {request : BillingRequest}
    (h : DiscountConsistent userId s.db) (hwrites : request.WritesDiscount)
    (hkeeps : KeepsPercent env userId s.db request) :
    DiscountConsistent userId ((request.session env).transact s).2.db := by
  have hcommitted : (request.session env).Ensures
      (fun _ s' => DiscountConsistent userId s'.db) s := by
    cases request with
    | redeemPromo caller code now =>
        apply ensures_void
        refine ensures_mono (redeemPromo_redeems env caller code now) ?_
        intro _ s' hends
        rcases hends with ⟨promoId, promo, user, _, hredeems⟩
        exact hredeems.discountConsistent h
    | redeemPromoCode caller code =>
        apply ensures_void
        refine ensures_mono (redeemPromoCode_redeems env caller code) ?_
        intro _ s' hends
        rcases hends with hsame | ⟨promoId, promo, user, hredeems⟩
        · rw [hsame]
          exact h
        · apply hredeems.discountConsistent_bot _ h
          intro hcaller htype
          exact hkeeps hcaller promoId promo user hredeems.found htype
            hredeems.new hredeems.registered hredeems.checked
    | createPayment caller creditsAmount uuidHex now =>
        apply ensures_void
        refine ensures_mono
          (createPayment_creates env caller creditsAmount uuidHex now) ?_
        intro _ s' hends
        rcases hends with ⟨user, id, intent, hcreates⟩
        exact hcreates.discountConsistent h
    | confirmPayment externalId now =>
        apply ensures_void
        refine ensures_mono (confirmPayment_settles externalId now) ?_
        intro _ s' hends
        rcases hends with hsame | ⟨id, intent, user, hsettles⟩
        · rw [hsame]
          exact h
        · exact hsettles.discountConsistent h
    | createMockTopUp caller creditsAmount =>
        apply ensures_void
        refine ensures_mono (createMockTopUp_resets env caller creditsAmount) ?_
        intro _ s' hends
        rcases hends with hsame |
          ⟨user, edited, hget, hcheck, husers, hpercent, hintent, hcodes⟩
        · rw [hsame]
          exact h
        · have hterms := KeepsTerms.of_eq hcodes
          apply h.update hget hcheck husers hterms
          intro hcaller hold
          have hzero := hkeeps hcaller user hget hintent
          have hkept : edited.pendingDiscount = user.pendingDiscount := by
            rw [hpercent, ← hzero]
            rfl
          rw [hkept]
          exact hold.mono hterms
    | failPayment externalId now => exact hwrites.elim
    | cancelPayment externalId now => exact hwrites.elim
    | refundPayment paymentId now => exact hwrites.elim
    | adjustBalance adminId id amount reason => exact hwrites.elim
    | grantWelcomeBonus id amount => exact hwrites.elim
    | debitGenerationCredits id amount requestId => exact hwrites.elim
  rcases ensures_transact hcommitted with ⟨_, _, hends⟩ | ⟨_, _, hdb⟩
  · exact hends
  · rw [hdb]
    exact h

/-- If the bot's operations leave the percent as it is, the three columns are
cleared or those of one stored discount code, in every reachable state. -/
theorem pending_discount_consistent {env : Env} {userId : Int}
    {s₀ s : Store coverAI}
    (hstart : forall user, s₀.db.users.get userId = some user ->
      user.pendingDiscount = PendingDiscount.cleared)
    (hrun : SerialRun env (fun s request => request.WritesDiscount ∧
      KeepsPercent env userId s.db request) s₀ s) :
    DiscountConsistent userId s.db := by
  induction hrun with
  | refl => exact fun user hget => Or.inl (hstart user hget)
  | step request _ hallowed ih =>
      exact ih.request hallowed.left hallowed.right

/-!
# A discount code
-/

def discountPromo : PromoCode where
  code := "SALE"
  type := .topUpDiscount
  value := 20
  validUntil := 100
  maxActivations := 5
  activationsCount := 0
  isActive := true

def discountStore : Store coverAI :=
  registeredStore.setDb { registeredStore.db with
    promoCodes := registeredStore.db.promoCodes.insert 1 discountPromo }

def discountAfter (requests : List BillingRequest) : Option PendingDiscount :=
  ((afterRequests discountStore requests).db.users.get 1).map
    User.pendingDiscount

/-- The bot sets a discount without a code and a date; its top-up clears the
percent of a discount and leaves the code and the date. -/
theorem bot_splits_pending_discount :
    discountAfter [.redeemPromoCode 1 "SALE"] =
        some { percent := 20, validUntil := none, promoCodeId := none } ∧
      discountAfter [.redeemPromo 1 "SALE" 5, .createMockTopUp 1 10] =
        some { percent := 0, validUntil := some 100, promoCodeId := some 1 } ∧
      ¬ DiscountConsistent 1
        (afterRequests discountStore [.redeemPromoCode 1 "SALE"]).db ∧
      ¬ DiscountConsistent 1
        (afterRequests discountStore
          [.redeemPromo 1 "SALE" 5, .createMockTopUp 1 10]).db := by
  refine ⟨rfl, rfl, ?_, ?_⟩
  · intro h
    have hwhole := (h _ rfl).percent_eq_zero_iff
    revert hwhole
    decide
  · intro h
    have hwhole := (h _ rfl).percent_eq_zero_iff
    revert hwhole
    decide

theorem pending_discount_consistent_sale :
    discountAfter [.redeemPromo 1 "SALE" 5, .createPayment 1 100 "a" 6] =
        some (PendingDiscount.ofPromo 1 discountPromo) ∧
      DiscountConsistent 1 (afterRequests discountStore
        [.redeemPromo 1 "SALE" 5, .createPayment 1 100 "a" 6]).db := by
  have hstart : forall user, discountStore.db.users.get 1 = some user ->
      user.pendingDiscount = PendingDiscount.cleared := by
    intro user hget
    cases (rfl : discountStore.db.users.get 1 = some sampleUser).symm.trans hget
    rfl
  have hrun : SerialRun sampleEnv (fun s request => request.WritesDiscount ∧
      KeepsPercent sampleEnv 1 s.db request) discountStore
      (afterRequests discountStore
        [.redeemPromo 1 "SALE" 5, .createPayment 1 100 "a" 6]) :=
    SerialRun.step (.createPayment 1 100 "a" 6)
      (SerialRun.step (.redeemPromo 1 "SALE" 5) SerialRun.refl
        ⟨trivial, trivial⟩) ⟨trivial, trivial⟩
  exact ⟨rfl, pending_discount_consistent hstart hrun⟩

end CoverAI
