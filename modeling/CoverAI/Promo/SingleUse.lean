import CoverAI.Promo.PendingDiscount

/-!
# A discount is used once

A payment takes its price from the discount that is pending when it is created,
and the discount is cleared when some payment of the user is confirmed.  The
history of a run records which discount each payment was priced with and what
each confirmation made of the pending discount.  Nothing ties a confirmation to
the discount of its payment, so single use holds in the runs that keep the
payments and the discounts apart: no payment is created under a discount that an
open payment carries, and no discount is redeemed over an open payment without
one.
-/

namespace CoverAI

open Txn Program

/-!
# Requests and what they leave in the history
-/

inductive TopUpRequest where
  | redeemPromo (userId : Int) (code : String) (now : Instant)
  | createPayment (userId creditsAmount : Int) (uuidHex : String)
      (now : Instant)
  | confirmPayment (externalId : String) (now : Instant)
  | failPayment (externalId : String) (now : Instant)
  | cancelPayment (externalId : String) (now : Instant)

namespace TopUpRequest

def session (env : Env) : TopUpRequest -> Session Unit
  | redeemPromo userId code now =>
      (CoverAI.redeemPromo env userId code now).void
  | createPayment userId creditsAmount uuidHex now =>
      (CoverAI.createPayment env userId creditsAmount uuidHex now).void
  | confirmPayment externalId now =>
      (CoverAI.confirmPayment externalId now).void
  | failPayment externalId now => (CoverAI.failPayment externalId now).void
  | cancelPayment externalId now => (CoverAI.cancelPayment externalId now).void

def instant : TopUpRequest -> Instant
  | redeemPromo _ _ now | createPayment _ _ _ now | confirmPayment _ now
  | failPayment _ now | cancelPayment _ now => now

end TopUpRequest

/-- A payment was created with a discount: the promo code of the discount that
was pending.  A user redeems a promo code once, so the code names the
redemption. -/
structure Pricing where
  intentId : Int
  promoCodeId : Option Int
  deriving DecidableEq

/-- A payment has reached `succeeded`. -/
structure Confirmation where
  intentId : Int
  discountPercent : Int
  before : Option PendingDiscount
  after : Option PendingDiscount
  instant : Instant
  deriving DecidableEq

structure TopUpHistory where
  pricings : List Pricing
  confirmations : List Confirmation

def pendingDiscountOf (userId : Int) (db : Db) : Option PendingDiscount :=
  (db.users.get userId).map User.pendingDiscount

/-- The payments of the user that are new in `d` and have a discount. -/
def newPricings (userId : Int) (db d : Db) : List Pricing :=
  ((d.paymentIntents.rows.drop db.paymentIntents.rows.length).filter
    fun entry => entry.2.userId = userId && entry.2.discountPercent ≠ 0).map
      fun entry => {
        intentId := entry.1
        promoCodeId :=
          (pendingDiscountOf userId db).bind PendingDiscount.promoCodeId }

/-- The payments of the user that have succeeded in `d` and not before. -/
def newConfirmations (userId : Int) (instant : Instant) (db d : Db) :
    List Confirmation :=
  (d.paymentIntents.rows.filter fun entry =>
    entry.2.userId = userId && entry.2.status = .succeeded &&
      (db.paymentIntents.get entry.1).map PaymentIntent.status ≠
        some .succeeded).map
      fun entry => {
        intentId := entry.1
        discountPercent := entry.2.discountPercent
        before := pendingDiscountOf userId db
        after := pendingDiscountOf userId d
        instant := instant }

def TopUpHistory.observe (h : TopUpHistory) (userId : Int) (instant : Instant)
    (db d : Db) : TopUpHistory where
  pricings := h.pricings ++ newPricings userId db d
  confirmations := h.confirmations ++ newConfirmations userId instant db d

/-- Serial runs of requests by any users, with the history of one user. -/
inductive TopUpRun (env : Env) (userId : Int)
    (allowed : Db -> TopUpRequest -> Prop) (s₀ : Store coverAI) :
    TopUpHistory -> Store coverAI -> Prop where
  | start : TopUpRun env userId allowed s₀
      { pricings := [], confirmations := [] } s₀
  | request {history : TopUpHistory} {s : Store coverAI} (request : TopUpRequest)
      (h : TopUpRun env userId allowed s₀ history s)
      (hallowed : allowed s.db request) :
      TopUpRun env userId allowed s₀
        (history.observe userId request.instant s.db
          ((request.session env).transact s).2.db)
        ((request.session env).transact s).2

/-!
# What a request can do
-/

inductive TopUpMoves (env : Env) (request : TopUpRequest) (db d : Db) :
    Prop where
  | keep (h : d = db)
  | redeem {caller : Int} {code : String} {now : Instant} {promoId : Int}
      {promo : PromoCode} {user : User}
      (hrequest : request = .redeemPromo caller code now)
      (h : Redeems (promoKey env code) caller promoId promo user
        (user.redeemed promoId promo) db d)
  | create {caller creditsAmount : Int} {uuidHex : String} {now : Instant}
      {user : User} {id : Int} {intent : PaymentIntent}
      (hrequest : request = .createPayment caller creditsAmount uuidHex now)
      (h : CreatesIntent caller now user id intent db d)
  | settle {externalId : String} {now : Instant} {id : Int}
      {intent : PaymentIntent} {user : User}
      (hrequest : request = .confirmPayment externalId now)
      (h : SettlesIntent externalId now id intent user db d)
  | ended {status : PaymentStatus} {now : Instant} {id : Int}
      {intent : PaymentIntent} (hstatus : status ≠ .succeeded)
      (h : EndsIntent now status id intent db d)

theorem TopUpMoves.of_ended {env : Env} {request : TopUpRequest}
    {status : PaymentStatus} (hstatus : status ≠ .succeeded)
    {externalId : String} {now : Instant} {s : Store coverAI} :
    (endPending status externalId now).Ensures
      (fun _ s' => TopUpMoves env request s.db s'.db) s := by
  refine ensures_mono (endPending_ends status externalId now) ?_
  intro _ s' hends
  rcases hends with hsame | ⟨id, intent, hended⟩
  · exact TopUpMoves.keep hsame
  · exact TopUpMoves.ended hstatus hended

theorem TopUpRequest.moves (env : Env) (request : TopUpRequest)
    (s : Store coverAI) :
    TopUpMoves env request s.db ((request.session env).transact s).2.db := by
  have hcommitted : (request.session env).Ensures
      (fun _ s' => TopUpMoves env request s.db s'.db) s := by
    cases request with
    | redeemPromo caller code now =>
        apply ensures_void
        refine ensures_mono (redeemPromo_redeems env caller code now) ?_
        intro _ s' hends
        rcases hends with ⟨promoId, promo, user, _, hredeems⟩
        exact TopUpMoves.redeem rfl hredeems
    | createPayment caller creditsAmount uuidHex now =>
        apply ensures_void
        refine ensures_mono
          (createPayment_creates env caller creditsAmount uuidHex now) ?_
        intro _ s' hends
        rcases hends with ⟨user, id, intent, hcreates⟩
        exact TopUpMoves.create rfl hcreates
    | confirmPayment externalId now =>
        apply ensures_void
        refine ensures_mono (confirmPayment_settles externalId now) ?_
        intro _ s' hends
        rcases hends with hsame | ⟨id, intent, user, hsettles⟩
        · exact TopUpMoves.keep hsame
        · exact TopUpMoves.settle rfl hsettles
    | failPayment externalId now =>
        apply ensures_void
        apply TopUpMoves.of_ended
        decide
    | cancelPayment externalId now =>
        apply ensures_void
        apply TopUpMoves.of_ended
        decide
  rcases ensures_transact hcommitted with ⟨_, _, hends⟩ | ⟨_, _, hdb⟩
  · exact hends
  · exact TopUpMoves.keep hdb

/-!
# What a request adds to the history
-/

section Observed

variable {userId : Int} {now instant : Instant} {db d : Db}

theorem mem_newConfirmations {c : Confirmation} :
    c ∈ newConfirmations userId instant db d <->
      exists id intent, d.paymentIntents.get id = some intent ∧
        intent.userId = userId ∧ intent.status = .succeeded ∧
        (db.paymentIntents.get id).map PaymentIntent.status ≠
          some .succeeded ∧
        c = {
          intentId := id
          discountPercent := intent.discountPercent
          before := pendingDiscountOf userId db
          after := pendingDiscountOf userId d
          instant := instant } := by
  simp only [newConfirmations, List.mem_map, List.mem_filter, Bool.and_eq_true,
    decide_eq_true_eq]
  constructor
  · intro h
    rcases h with ⟨entry, ⟨hmem, ⟨howner, hstatus⟩, hbefore⟩, rfl⟩
    exact ⟨entry.1, entry.2, Table.get_of_mem hmem, howner, hstatus, hbefore,
      rfl⟩
  · intro h
    rcases h with ⟨id, intent, hget, howner, hstatus, hbefore, rfl⟩
    exact ⟨(id, intent), ⟨Table.mem_of_get hget, ⟨howner, hstatus⟩, hbefore⟩,
      rfl⟩

theorem newConfirmations_eq_nil
    (h : forall id intent, d.paymentIntents.get id = some intent ->
      intent.status = .succeeded ->
      (db.paymentIntents.get id).map PaymentIntent.status = some .succeeded) :
    newConfirmations userId instant db d = [] := by
  apply List.eq_nil_iff_forall_not_mem.mpr
  intro c hc
  rcases mem_newConfirmations.mp hc with
    ⟨id, intent, hget, _, hstatus, hbefore, _⟩
  exact hbefore (h id intent hget hstatus)

theorem newPricings_eq_nil
    (h : d.paymentIntents.rows.length ≤ db.paymentIntents.rows.length) :
    newPricings userId db d = [] := by
  rw [newPricings, List.drop_eq_nil_of_le h]
  rfl

theorem newPricings_of_modify {id : Int} {f : PaymentIntent -> PaymentIntent}
    (h : d.paymentIntents = db.paymentIntents.modify id f) :
    newPricings userId db d = [] := by
  apply newPricings_eq_nil
  rw [h, Table.modify, List.length_map]

theorem EndsIntent.get_intent {status : PaymentStatus} {id : Int}
    {intent : PaymentIntent} (h : EndsIntent now status id intent db d)
    (k : Int) :
    d.paymentIntents.get k = if k = id then some (intent.settle status now)
      else db.paymentIntents.get k :=
  get_updated_intent h.found (intent.write_settle status now) h.intents

theorem SettlesIntent.get_intent {externalId : String} {id : Int}
    {intent : PaymentIntent} {user : User}
    (h : SettlesIntent externalId now id intent user db d) (k : Int) :
    d.paymentIntents.get k = if k = id then some (intent.settle .succeeded now)
      else db.paymentIntents.get k :=
  get_updated_intent (Table.get_of_first? h.found)
    (intent.write_settle .succeeded now) h.intents

theorem CreatesIntent.get_intent {caller id : Int} {user : User}
    {intent : PaymentIntent} (h : CreatesIntent caller now user id intent db d)
    (k : Int) :
    d.paymentIntents.get k = if k = id then some intent
      else db.paymentIntents.get k := by
  rw [h.intents, Table.get_insert]
  simp [h.new, h.intentChecked]

theorem newConfirmations_of_create {caller id : Int} {user : User}
    {intent : PaymentIntent}
    (h : CreatesIntent caller now user id intent db d) :
    newConfirmations userId instant db d = [] := by
  apply newConfirmations_eq_nil
  intro k stored hget hstatus
  rw [h.get_intent] at hget
  split at hget
  · cases hget
    rw [h.pending] at hstatus
    cases hstatus
  · rw [hget, Option.map_some, hstatus]

theorem newPricings_of_create {caller id : Int} {user : User}
    {intent : PaymentIntent} (h : CreatesIntent caller now user id intent db d)
    {p : Pricing} (hp : p ∈ newPricings userId db d) :
    caller = userId ∧ intent.discountPercent ≠ 0 ∧
      p = {
        intentId := id
        promoCodeId :=
          (pendingDiscountOf userId db).bind PendingDiscount.promoCodeId } := by
  rw [newPricings, h.intents, Table.rows_insert h.new h.intentChecked,
    List.drop_left] at hp
  rcases List.mem_map.mp hp with ⟨entry, hmem, rfl⟩
  rcases List.mem_filter.mp hmem with ⟨hentry, hkeep⟩
  rw [List.mem_singleton.mp hentry] at hkeep ⊢
  simp only [Bool.and_eq_true, decide_eq_true_eq] at hkeep
  exact ⟨h.owner.symm.trans hkeep.left, hkeep.right, rfl⟩

theorem newConfirmations_of_settle {externalId : String} {id : Int}
    {intent : PaymentIntent} {user : User}
    (h : SettlesIntent externalId now id intent user db d) {c : Confirmation}
    (hc : c ∈ newConfirmations userId instant db d) :
    intent.userId = userId ∧ c.intentId = id ∧
      c.discountPercent = intent.discountPercent ∧
      c.before = pendingDiscountOf userId db := by
  rcases mem_newConfirmations.mp hc with
    ⟨k, stored, hget, howner, hstatus, hbefore, rfl⟩
  rw [h.get_intent] at hget
  split at hget
  · rename_i hk
    cases hget
    exact ⟨howner, hk, rfl, rfl⟩
  · rw [hget, Option.map_some, hstatus] at hbefore
    exact (hbefore rfl).elim

theorem newConfirmations_of_ended {status : PaymentStatus} {id : Int}
    {intent : PaymentIntent} (hstatus : status ≠ .succeeded)
    (h : EndsIntent now status id intent db d) :
    newConfirmations userId instant db d = [] := by
  apply newConfirmations_eq_nil
  intro k stored hget hsucceeded
  rw [h.get_intent] at hget
  split at hget
  · cases hget
    exact (hstatus hsucceeded).elim
  · rw [hget, Option.map_some, hsucceeded]

theorem pendingDiscountOf_update {owner : Int} {user edited : User}
    (hget : db.users.get owner = some user) (hcheck : userChecks edited = true)
    (husers : d.users = db.users.modify owner (User.write user edited)) :
    pendingDiscountOf userId d =
      if userId = owner then some edited.pendingDiscount
      else pendingDiscountOf userId db := by
  rw [pendingDiscountOf, get_updated_user hget hcheck husers]
  split <;> rfl

end Observed

/-!
# Single use
-/

/-- A discount that is pending and not expired. -/
def PendingDiscount.Live (v : PendingDiscount) (now : Instant) : Prop :=
  v.percent ≠ 0 ∧ discountExpired v.validUntil now = false

/-- At most one of the payments priced with a discount has succeeded, and the
confirmation of a payment without a discount has left a live one alone. -/
structure TopUpHistory.UsedOnce (history : TopUpHistory) : Prop where
  once : forall c c', c ∈ history.confirmations ->
    c' ∈ history.confirmations ->
    forall code, { intentId := c.intentId, promoCodeId := code } ∈
        history.pricings ->
      { intentId := c'.intentId, promoCodeId := code } ∈ history.pricings ->
      c.intentId = c'.intentId
  kept : forall c, c ∈ history.confirmations -> c.discountPercent = 0 ->
    forall v, c.before = some v -> v.Live c.instant -> c.after = c.before

/-- A payment of the user that a confirmation would still credit. -/
def OpenPayment (userId percent id : Int) (db : Db) : Prop :=
  exists intent, db.paymentIntents.get id = some intent ∧
    intent.userId = userId ∧ intent.status ≠ .succeeded ∧
    intent.discountPercent = percent

/-- The user creates no payment under a live discount whose percent an open
payment carries, and redeems no discount over an open payment without one. -/
def KeepsApart (env : Env) (userId : Int) (db : Db) : TopUpRequest -> Prop
  | .redeemPromo caller code _ =>
      caller = userId ->
        forall promoId promo,
          promoOfKey (promoKey env code) db = some (promoId, promo) ->
          promo.type = .topUpDiscount ->
          { promoCodeId := promoId, userId := userId } ∉ db.promoRedemptions ->
          forall id, ¬ OpenPayment userId 0 id db
  | .createPayment caller _ _ now =>
      caller = userId ->
        forall v, pendingDiscountOf userId db = some v -> v.Live now ->
          forall id, ¬ OpenPayment userId v.percent id db
  | _ => True

/-- A discount that is pending, expired or not. -/
def Pends (userId : Int) (db : Db) (v : PendingDiscount) : Prop :=
  pendingDiscountOf userId db = some v ∧ v.percent ≠ 0

/-- The pending discount has been redeemed by the user, and there is no open
payment without a discount beside it. -/
structure DiscountReady (userId : Int) (db : Db) : Prop where
  redeemed : forall v, Pends userId db v -> forall promoId,
    v.promoCodeId = some promoId ->
    { promoCodeId := promoId, userId := userId } ∈ db.promoRedemptions
  apart : forall v, Pends userId db v -> forall id, ¬ OpenPayment userId 0 id db

/-- The payment priced with a discount that is still pending is open, and it is
the only one priced with it. -/
structure TopUpHistory.Kept (userId : Int) (history : TopUpHistory) (db : Db) :
    Prop where
  ready : DiscountReady userId db
  redeemed : forall p, p ∈ history.pricings -> forall promoId,
    p.promoCodeId = some promoId ->
    { promoCodeId := promoId, userId := userId } ∈ db.promoRedemptions
  carried : forall p, p ∈ history.pricings -> forall v, Pends userId db v ->
    v.promoCodeId = p.promoCodeId ->
    OpenPayment userId v.percent p.intentId db
  alone : forall p p', p ∈ history.pricings -> p' ∈ history.pricings ->
    p.promoCodeId = p'.promoCodeId -> p.intentId = p'.intentId
  kept : forall c, c ∈ history.confirmations -> c.discountPercent = 0 ->
    forall v, c.before = some v -> v.Live c.instant -> c.after = c.before

/-- The discount is the one that was pending before, if there is one, and the
payments that are open beside it are those of before. -/
structure DiscountFramed (userId : Int) (db d : Db) : Prop where
  pends : forall v, Pends userId d v -> Pends userId db v
  redemptions : forall r, r ∈ db.promoRedemptions -> r ∈ d.promoRedemptions
  stays : forall v, Pends userId d v -> forall percent id,
    OpenPayment userId percent id db -> OpenPayment userId percent id d
  undiscounted : forall v, Pends userId d v -> forall id,
    OpenPayment userId 0 id d -> OpenPayment userId 0 id db

section Framed

variable {userId : Int} {now : Instant} {db d : Db}

theorem openPayment_congr {percent id : Int}
    (h : d.paymentIntents.get id = db.paymentIntents.get id) :
    OpenPayment userId percent id d <-> OpenPayment userId percent id db := by
  unfold OpenPayment
  rw [h]

/-- An update of one users row that adds no discount, beside payments that keep
their owner, their discount and whether they are open. -/
theorem DiscountFramed.of_update {owner : Int} {user edited : User}
    (hget : db.users.get owner = some user) (hcheck : userChecks edited = true)
    (husers : d.users = db.users.modify owner (User.write user edited))
    (hsame : owner = userId -> edited.pendingDiscount = PendingDiscount.cleared ∨
      edited.pendingDiscount = user.pendingDiscount)
    (hredemptions : forall r, r ∈ db.promoRedemptions ->
      r ∈ d.promoRedemptions)
    (hstays : forall v, Pends userId d v -> forall percent id,
      OpenPayment userId percent id db -> OpenPayment userId percent id d)
    (hundiscounted : forall v, Pends userId d v -> forall id,
      OpenPayment userId 0 id d -> OpenPayment userId 0 id db) :
    DiscountFramed userId db d := by
  refine ⟨?_, hredemptions, hstays, hundiscounted⟩
  intro v hv
  rcases hv with ⟨hpending, hpercent⟩
  rw [pendingDiscountOf_update hget hcheck husers] at hpending
  by_cases howner : userId = owner
  · rw [if_pos howner] at hpending
    have hedited := Option.some.inj hpending
    rcases hsame howner.symm with hcleared | hsame
    · rw [← hedited, hcleared] at hpercent
      exact (hpercent rfl).elim
    · refine ⟨?_, hpercent⟩
      rw [pendingDiscountOf, howner, hget, ← hedited, hsame]
      rfl
  · rw [if_neg howner] at hpending
    exact ⟨hpending, hpercent⟩

theorem DiscountFramed.refl : DiscountFramed userId db db :=
  ⟨fun _ hv => hv, fun _ hr => hr, fun _ _ _ _ hopen => hopen,
    fun _ _ _ hopen => hopen⟩

theorem Redeems.framed {key : String} {caller promoId : Int} {promo : PromoCode}
    {user : User}
    (h : Redeems key caller promoId promo user (user.redeemed promoId promo) db
      d)
    (hother : caller = userId -> promo.type = .fixedCredits) :
    DiscountFramed userId db d := by
  have hopen : forall percent id, OpenPayment userId percent id d <->
      OpenPayment userId percent id db := by
    intro percent id
    apply openPayment_congr
    rw [h.intents]
  apply DiscountFramed.of_update h.registered h.checked h.users
  · intro hcaller
    rw [User.redeemed, hother hcaller]
    exact Or.inr rfl
  · intro r hr
    rw [h.redemptions]
    exact List.mem_append_left _ hr
  · exact fun _ _ percent id => (hopen percent id).mpr
  · exact fun _ _ id => (hopen 0 id).mp

theorem CreatesIntent.framed {caller id : Int} {user : User}
    {intent : PaymentIntent} (h : CreatesIntent caller now user id intent db d) :
    DiscountFramed userId db d := by
  apply DiscountFramed.of_update h.registered h.checked h.users
  · exact fun _ => user.pendingDiscount_dropExpired now
  · intro r hr
    rw [h.redemptions]
    exact hr
  · intro v _ percent k hopen
    rcases hopen with ⟨stored, hget, howner⟩
    have hne : k ≠ id := by
      intro heq
      rw [heq, h.new] at hget
      cases hget
    refine ⟨stored, ?_, howner⟩
    rw [h.get_intent, if_neg hne, hget]
  · intro v hv k hopen
    by_cases hk : k = id
    -- the new payment has the discount that is pending after it
    · rcases hopen with ⟨stored, hget, howner, _, hzero⟩
      rw [h.get_intent, if_pos hk] at hget
      cases hget
      rcases hv with ⟨hpending, hpercent⟩
      rw [pendingDiscountOf_update h.registered h.checked h.users,
        if_pos (howner.symm.trans h.owner)] at hpending
      rw [h.discount] at hzero
      rw [← Option.some.inj hpending] at hpercent
      exact (hpercent hzero).elim
    · apply (openPayment_congr _).mp hopen
      rw [h.get_intent, if_neg hk]

theorem SettlesIntent.framed {externalId : String} {id : Int} {user : User}
    {intent : PaymentIntent}
    (h : SettlesIntent externalId now id intent user db d) :
    DiscountFramed userId db d := by
  -- beside a pending discount the payment is another user's
  have hopen : forall v, Pends userId d v -> forall percent k,
      OpenPayment userId percent k d <-> OpenPayment userId percent k db := by
    intro v hv percent k
    rcases hv with ⟨hpending, hpercent⟩
    have howner : intent.userId ≠ userId := by
      intro heq
      rw [pendingDiscountOf_update h.registered h.checked h.users,
        if_pos heq.symm] at hpending
      rw [← Option.some.inj hpending] at hpercent
      exact hpercent rfl
    by_cases hk : k = id
    · rw [hk]
      apply iff_of_false
      · intro hopen
        rcases hopen with ⟨stored, hget, hstored, _⟩
        rw [h.get_intent, if_pos rfl] at hget
        cases hget
        exact howner hstored
      · intro hopen
        rcases hopen with ⟨stored, hget, hstored, _⟩
        cases (Table.get_of_first? h.found).symm.trans hget
        exact howner hstored
    · apply openPayment_congr
      rw [h.get_intent, if_neg hk]
  apply DiscountFramed.of_update h.registered h.checked h.users
  · exact fun _ => Or.inl rfl
  · intro r hr
    rw [h.redemptions]
    exact hr
  · exact fun v hv percent k => (hopen v hv percent k).mpr
  · exact fun v hv k => (hopen v hv 0 k).mp

theorem EndsIntent.framed {status : PaymentStatus} {id : Int}
    {intent : PaymentIntent} (h : EndsIntent now status id intent db d)
    (hstatus : status ≠ .succeeded) : DiscountFramed userId db d := by
  have hopen : forall percent k, OpenPayment userId percent k d <->
      OpenPayment userId percent k db := by
    intro percent k
    by_cases hk : k = id
    · rw [hk]
      constructor
      · intro hopen
        rcases hopen with ⟨stored, hget, howner, _, hpercent⟩
        rw [h.get_intent, if_pos rfl] at hget
        cases hget
        have hunpaid : intent.status ≠ .succeeded := by
          rw [h.pending]
          exact fun hpaid => nomatch hpaid
        exact ⟨intent, h.found, howner, hunpaid, hpercent⟩
      · intro hopen
        rcases hopen with ⟨stored, hget, howner, _, hpercent⟩
        cases h.found.symm.trans hget
        refine ⟨intent.settle status now, ?_, howner, hstatus, hpercent⟩
        rw [h.get_intent, if_pos rfl]
    · apply openPayment_congr
      rw [h.get_intent, if_neg hk]
  have hpending : pendingDiscountOf userId d = pendingDiscountOf userId db := by
    rw [pendingDiscountOf, h.users]
    rfl
  refine ⟨?_, ?_, ?_, ?_⟩
  · intro v hv
    exact ⟨hpending.symm.trans hv.left, hv.right⟩
  · intro r hr
    rw [h.redemptions]
    exact hr
  · exact fun _ _ percent k => (hopen percent k).mpr
  · exact fun _ _ k => (hopen 0 k).mp

end Framed

section Steps

variable {env : Env} {userId : Int} {history : TopUpHistory} {db d : Db}

theorem TopUpHistory.Kept.framed (h : history.Kept userId db)
    (hframed : DiscountFramed userId db d) : history.Kept userId d := by
  refine ⟨⟨?_, ?_⟩, ?_, ?_, h.alone, h.kept⟩
  · intro v hv promoId hcode
    exact hframed.redemptions _
      (h.ready.redeemed v (hframed.pends v hv) promoId hcode)
  · intro v hv id hopen
    exact h.ready.apart v (hframed.pends v hv) id
      (hframed.undiscounted v hv id hopen)
  · intro p hp promoId hcode
    exact hframed.redemptions _ (h.redeemed p hp promoId hcode)
  · intro p hp v hv hcode
    exact hframed.stays v hv _ _ (h.carried p hp v (hframed.pends v hv) hcode)

theorem TopUpHistory.observe_of_nil {instant : Instant}
    (hpricings : newPricings userId db d = [])
    (hconfirmations : newConfirmations userId instant db d = []) :
    history.observe userId instant db d = history := by
  rw [TopUpHistory.observe, hpricings, hconfirmations, List.append_nil,
    List.append_nil]

/-- The discount of a code that is redeemed for the first time has priced no
payment. -/
theorem TopUpHistory.Kept.redeem {key : String} {promoId : Int}
    {promo : PromoCode} {user : User} (h : history.Kept userId db)
    (hredeems : Redeems key userId promoId promo user
      (user.redeemed promoId promo) db d)
    (htype : promo.type = .topUpDiscount)
    (hapart : forall id, ¬ OpenPayment userId 0 id db) :
    history.Kept userId d := by
  have hpends : forall v, Pends userId d v -> v.promoCodeId = some promoId := by
    intro v hv
    have hpending := hv.left
    rw [pendingDiscountOf_update hredeems.registered hredeems.checked
      hredeems.users, if_pos rfl, User.redeemed, htype] at hpending
    rw [← Option.some.inj hpending]
    rfl
  refine ⟨⟨?_, ?_⟩, ?_, ?_, h.alone, h.kept⟩
  · intro v hv code hcode
    rw [hpends v hv] at hcode
    cases hcode
    rw [hredeems.redemptions]
    exact List.mem_append_right _ List.mem_cons_self
  · intro v _ id hopen
    apply hapart id
    apply (openPayment_congr _).mp hopen
    rw [hredeems.intents]
  · intro p hp code hcode
    rw [hredeems.redemptions]
    exact List.mem_append_left _ (h.redeemed p hp code hcode)
  · intro p hp v hv hcode
    have hbefore := h.redeemed p hp promoId (hcode.symm.trans (hpends v hv))
    exact (hredeems.new hbefore).elim

/-- The discount a new payment is priced with is live, and no other payment is
priced with it. -/
theorem TopUpHistory.Kept.priced {caller creditsAmount id : Int}
    {uuidHex : String} {now : Instant} {user : User} {intent : PaymentIntent}
    (h : history.Kept userId db)
    (hcreates : CreatesIntent caller now user id intent db d)
    (hapart : KeepsApart env userId db
      (.createPayment caller creditsAmount uuidHex now))
    {p : Pricing} (hp : p ∈ newPricings userId db d) :
    exists v, Pends userId db v ∧
      p = { intentId := id, promoCodeId := v.promoCodeId } ∧
      OpenPayment userId v.percent id d ∧
      forall q, q ∈ history.pricings -> q.promoCodeId ≠ v.promoCodeId := by
  rcases newPricings_of_create hcreates hp with ⟨rfl, hdiscount, rfl⟩
  have hpending : pendingDiscountOf caller db = some user.pendingDiscount := by
    rw [pendingDiscountOf, hcreates.registered]
    rfl
  have hprice := hcreates.discount
  cases hexpired : discountExpired user.pendingTopUpDiscountValidUntil now with
  | true =>
      rw [User.dropExpired, if_pos hexpired] at hprice
      exact (hdiscount hprice).elim
  | false =>
      rw [User.dropExpired, if_neg (by simp [hexpired])] at hprice
      have hpercent : user.pendingDiscount.percent ≠ 0 := by
        intro hzero
        exact hdiscount (hprice.trans hzero)
      refine ⟨user.pendingDiscount, ⟨hpending, hpercent⟩, ?_, ?_, ?_⟩
      · rw [hpending]
        rfl
      · refine ⟨intent, ?_, hcreates.owner, ?_, hprice⟩
        · rw [hcreates.get_intent, if_pos rfl]
        · rw [hcreates.pending]
          exact fun hpaid => nomatch hpaid
      · intro q hq hcode
        exact hapart rfl user.pendingDiscount hpending ⟨hpercent, hexpired⟩ _
          (h.carried q hq user.pendingDiscount ⟨hpending, hpercent⟩ hcode.symm)

theorem TopUpHistory.Kept.create {caller creditsAmount id : Int}
    {uuidHex : String} {now instant : Instant} {user : User}
    {intent : PaymentIntent} (h : history.Kept userId db)
    (hcreates : CreatesIntent caller now user id intent db d)
    (hapart : KeepsApart env userId db
      (.createPayment caller creditsAmount uuidHex now)) :
    (history.observe userId instant db d).Kept userId d := by
  have hframed : DiscountFramed userId db d := hcreates.framed
  have hkept := h.framed hframed
  rw [TopUpHistory.observe, newConfirmations_of_create hcreates,
    List.append_nil]
  refine ⟨hkept.ready, ?_, ?_, ?_, h.kept⟩
  · intro p hp promoId hcode
    rcases List.mem_append.mp hp with hbefore | hnew
    · exact hkept.redeemed p hbefore promoId hcode
    · rcases h.priced hcreates hapart hnew with ⟨v, hv, rfl, _, _⟩
      rw [hcreates.redemptions]
      exact h.ready.redeemed v hv promoId hcode
  · intro p hp v hv hcode
    rcases List.mem_append.mp hp with hbefore | hnew
    · exact hkept.carried p hbefore v hv hcode
    · rcases h.priced hcreates hapart hnew with ⟨w, hw, rfl, hopen, _⟩
      have hsame := (hframed.pends v hv).left.symm.trans hw.left
      rw [Option.some.inj hsame]
      exact hopen
  · intro p p' hp hp' hcode
    rcases List.mem_append.mp hp with hbefore | hnew
    · rcases List.mem_append.mp hp' with hbefore' | hnew'
      · exact h.alone p p' hbefore hbefore' hcode
      · rcases h.priced hcreates hapart hnew' with ⟨v, _, rfl, _, hfirst⟩
        exact (hfirst p hbefore hcode).elim
    · rcases h.priced hcreates hapart hnew with ⟨v, _, rfl, _, hfirst⟩
      rcases List.mem_append.mp hp' with hbefore' | hnew'
      · exact (hfirst p' hbefore' hcode.symm).elim
      · rcases h.priced hcreates hapart hnew' with ⟨w, _, rfl, _, _⟩
        rfl

theorem TopUpHistory.Kept.settle {externalId : String} {id : Int}
    {now instant : Instant} {user : User} {intent : PaymentIntent}
    (h : history.Kept userId db)
    (hsettles : SettlesIntent externalId now id intent user db d) :
    (history.observe userId instant db d).Kept userId d := by
  have hframed : DiscountFramed userId db d := hsettles.framed
  have hkept := h.framed hframed
  rw [TopUpHistory.observe, newPricings_of_modify hsettles.intents,
    List.append_nil]
  refine ⟨hkept.ready, hkept.redeemed, hkept.carried, hkept.alone, ?_⟩
  intro c hc hzero v hv hlive
  rcases List.mem_append.mp hc with hbefore | hnew
  · exact h.kept c hbefore hzero v hv hlive
  · rcases newConfirmations_of_settle hsettles hnew with
      ⟨howner, _, hpercent, hpending⟩
    rw [hpending] at hv
    have hopen : OpenPayment userId 0 id db :=
      ⟨intent, Table.get_of_first? hsettles.found, howner, hsettles.unsettled,
        hpercent.symm.trans hzero⟩
    exact (h.ready.apart v ⟨hv, hlive.left⟩ id hopen).elim

theorem TopUpHistory.Kept.moves {request : TopUpRequest}
    (h : history.Kept userId db) (hmoves : TopUpMoves env request db d)
    (hapart : KeepsApart env userId db request) :
    (history.observe userId request.instant db d).Kept userId d := by
  cases hmoves with
  | keep hsame =>
      rw [hsame, TopUpHistory.observe_of_nil]
      · exact h
      · exact newPricings_eq_nil (Nat.le_refl _)
      · apply newConfirmations_eq_nil
        intro k stored hget hstatus
        rw [hget, Option.map_some, hstatus]
  | @redeem caller code now promoId promo user hrequest hredeems =>
      subst hrequest
      rw [TopUpHistory.observe_of_nil]
      · by_cases hcaller : caller = userId
        · subst hcaller
          cases htype : promo.type with
          | fixedCredits => exact h.framed (hredeems.framed fun _ => htype)
          | topUpDiscount =>
              apply h.redeem hredeems htype
              exact hapart rfl promoId promo hredeems.found htype hredeems.new
        · exact h.framed (hredeems.framed fun heq => (hcaller heq).elim)
      · apply newPricings_eq_nil
        rw [hredeems.intents]
      · apply newConfirmations_eq_nil
        intro k stored hget hstatus
        rw [hredeems.intents] at hget
        rw [hget, Option.map_some, hstatus]
  | create hrequest hcreates =>
      subst hrequest
      exact h.create hcreates hapart
  | settle hrequest hsettles => exact h.settle hsettles
  | ended hstatus hends =>
      rw [TopUpHistory.observe_of_nil]
      · exact h.framed (hends.framed hstatus)
      · exact newPricings_of_modify hends.intents
      · exact newConfirmations_of_ended hstatus hends

end Steps

/-- If no payment is created under a live discount that an open payment carries
and no discount is redeemed over an open payment without one, then every
discount is used by one payment at most and no live discount is lost to a
payment without one. -/
theorem discount_used_once {env : Env} {userId : Int} {history : TopUpHistory}
    {s₀ s : Store coverAI} (hstart : DiscountReady userId s₀.db)
    (hrun : TopUpRun env userId (KeepsApart env userId) s₀ history s) :
    history.UsedOnce := by
  have hkept : history.Kept userId s.db := by
    induction hrun with
    | start =>
        refine ⟨hstart, ?_, ?_, ?_, ?_⟩
        · intro p hp
          cases hp
        · intro p hp
          cases hp
        · intro p p' hp
          cases hp
        · intro c hc
          cases hc
    | request request _ hallowed ih =>
        exact ih.moves (request.moves env _) hallowed
  constructor
  · intro c c' _ _ code hmem hmem'
    exact hkept.alone _ _ hmem hmem' rfl
  · exact hkept.kept

/-!
# Two payments under one discount
-/

def topUpsAfter (history : TopUpHistory) (s : Store coverAI) :
    List TopUpRequest -> TopUpHistory × Store coverAI
  | [] => (history, s)
  | request :: rest =>
      let s' := ((request.session sampleEnv).transact s).2
      topUpsAfter (history.observe 1 request.instant s.db s'.db) s' rest

theorem topUpRun_after {s₀ s : Store coverAI} {history : TopUpHistory}
    (h : TopUpRun sampleEnv 1 (fun _ _ => True) s₀ history s)
    (requests : List TopUpRequest) :
    TopUpRun sampleEnv 1 (fun _ _ => True) s₀
      (topUpsAfter history s requests).1 (topUpsAfter history s requests).2 := by
  induction requests generalizing history s with
  | nil => exact h
  | cons request rest ih => exact ih (h.request request trivial)

def discountHistory (requests : List TopUpRequest) : TopUpHistory :=
  (topUpsAfter { pricings := [], confirmations := [] } discountStore requests).1

def salePending : Option PendingDiscount :=
  some (PendingDiscount.ofPromo 1 discountPromo)

/-- Two payments are created under one discount and both are confirmed. -/
def confirmsTwo : List TopUpRequest :=
  [.redeemPromo 1 "SALE" 5, .createPayment 1 100 "a" 6,
    .createPayment 1 100 "b" 7, .confirmPayment "mock_a" 8,
    .confirmPayment "mock_b" 9]

/-- A payment is created before the discount and confirmed after it. -/
def confirmsUndiscounted : List TopUpRequest :=
  [.createPayment 1 100 "a" 4, .redeemPromo 1 "SALE" 5,
    .confirmPayment "mock_a" 6]

/-- A discount is used by two payments, and a live discount is lost to the
confirmation of a payment without one. -/
theorem discount_used_twice :
    (exists s, TopUpRun sampleEnv 1 (fun _ _ => True) discountStore
        (discountHistory confirmsTwo) s ∧
      ¬ (discountHistory confirmsTwo).UsedOnce) ∧
      exists s, TopUpRun sampleEnv 1 (fun _ _ => True) discountStore
          (discountHistory confirmsUndiscounted) s ∧
        ¬ (discountHistory confirmsUndiscounted).UsedOnce := by
  constructor
  · refine ⟨_, topUpRun_after TopUpRun.start confirmsTwo, ?_⟩
    have hhistory : discountHistory confirmsTwo = {
        pricings := [⟨1, some 1⟩, ⟨2, some 1⟩]
        confirmations := [
          ⟨1, 20, salePending, some PendingDiscount.cleared, 8⟩,
          ⟨2, 20, some PendingDiscount.cleared, some PendingDiscount.cleared,
            9⟩] } := by
      rfl
    rw [hhistory]
    intro h
    have hsame := h.once _ _ List.mem_cons_self
      (List.mem_cons_of_mem _ List.mem_cons_self) (some 1) List.mem_cons_self
      (List.mem_cons_of_mem _ List.mem_cons_self)
    revert hsame
    decide
  · refine ⟨_, topUpRun_after TopUpRun.start confirmsUndiscounted, ?_⟩
    have hhistory : discountHistory confirmsUndiscounted = {
        pricings := []
        confirmations := [
          ⟨1, 0, salePending, some PendingDiscount.cleared, 6⟩] } := by
      rfl
    rw [hhistory]
    intro h
    have hlive : (PendingDiscount.ofPromo 1 discountPromo).Live 6 := by
      constructor
      · decide
      · rfl
    have hsame := h.kept _ List.mem_cons_self rfl _ rfl hlive
    revert hsame
    decide

theorem discountStore_ready : DiscountReady 1 discountStore.db := by
  have hcleared : forall v, ¬ Pends 1 discountStore.db v := by
    intro v hv
    rcases hv with ⟨hpending, hpercent⟩
    cases (rfl : pendingDiscountOf 1 discountStore.db =
      some PendingDiscount.cleared).symm.trans hpending
    exact hpercent rfl
  exact ⟨fun v hv => (hcleared v hv).elim, fun v hv => (hcleared v hv).elim⟩

/-- The discount prices one payment, which is confirmed; the next payment is
created and confirmed without one. -/
theorem discount_used_once_sale :
    exists history s,
      TopUpRun sampleEnv 1 (KeepsApart sampleEnv 1) discountStore history s ∧
        history.pricings = [⟨1, some 1⟩] ∧
        history.confirmations = [
          ⟨1, 20, salePending, some PendingDiscount.cleared, 8⟩,
          ⟨2, 0, some PendingDiscount.cleared, some PendingDiscount.cleared,
            10⟩] ∧
        history.UsedOnce := by
  have hstart : TopUpRun sampleEnv 1 (KeepsApart sampleEnv 1) discountStore _
      _ := TopUpRun.start
  have hredeemed := hstart.request (.redeemPromo 1 "SALE" 5) (by
    intro _ promoId promo _ _ _ id hopen
    rcases hopen with ⟨intent, hget, _⟩
    cases (rfl : discountStore.db.paymentIntents.get id = none).symm.trans hget)
  have hpriced := hredeemed.request (.createPayment 1 100 "a" 6) (by
    intro _ v _ _ id hopen
    rcases hopen with ⟨intent, hget, _⟩
    change none = some intent at hget
    cases hget)
  have hconfirmed := hpriced.request (.confirmPayment "mock_a" 8) trivial
  have hcreated := hconfirmed.request (.createPayment 1 50 "b" 9) (by
    intro _ v hpending hlive
    change some PendingDiscount.cleared = some v at hpending
    cases hpending
    exact (hlive.left rfl).elim)
  have hrun := hcreated.request (.confirmPayment "mock_b" 10) trivial
  exact ⟨_, _, hrun, rfl, rfl, discount_used_once discountStore_ready hrun⟩

end CoverAI
