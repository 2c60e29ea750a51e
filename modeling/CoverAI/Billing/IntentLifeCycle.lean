import CoverAI.Billing.Books

/-!
# The life cycle of a payment intent

An intent moves between six statuses.  The view of an intent is its row and the
sum of the top-ups entered for it; a case analysis over the requests says how a
request can change the view.  The routes that end, cancel and refund test for
the one status they start from.  The confirmation route tests only that the
intent is not confirmed yet, so a terminal status is left again by a late
confirmation; the run theorem holds as long as no confirmation meets one.
-/

namespace CoverAI

open Txn Program

/-- The statuses after which nothing more should happen to an intent. -/
def PaymentStatus.IsTerminal : PaymentStatus -> Prop
  | failed | canceled | refunded | refundManualReview => True
  | pending | succeeded => False

instance : DecidablePred PaymentStatus.IsTerminal := fun status => by
  cases status <;> unfold PaymentStatus.IsTerminal <;> infer_instance

/-!
# The view of one intent
-/

def isTopUpOf (intentId : Int) (t : CreditTransaction) : Bool :=
  t.type = .topUp && t.paymentIntentId = some intentId

def topUpTotal (db : Db) (intentId : Int) : Int :=
  amounts (db.creditTransactions.filter (isTopUpOf intentId))

structure IntentView where
  intent : Option PaymentIntent
  topUps : Int

def intentView (intentId : Int) (db : Db) : IntentView where
  intent := db.paymentIntents.get intentId
  topUps := topUpTotal db intentId

/-- How a request can change the view; `mayConfirm` says whether it is a
confirmation of this intent. -/
inductive IntentMoves (mayConfirm : Prop) (v : IntentView) :
    IntentView -> Prop where
  | keep : IntentMoves mayConfirm v v
  | confirm {intent : PaymentIntent} (now : Instant) (h : mayConfirm)
      (hintent : v.intent = some intent) (hstatus : intent.status ≠ .succeeded) :
      IntentMoves mayConfirm v {
        intent := some (intent.settle .succeeded now)
        topUps := v.topUps + intent.creditsAmount }
  | ended {intent : PaymentIntent} (status : PaymentStatus) (now : Instant)
      (hintent : v.intent = some intent) (hstatus : intent.status = .pending)
      (hended : status.IsTerminal) :
      IntentMoves mayConfirm v {
        intent := some (intent.settle status now)
        topUps := v.topUps }
  | refund {intent : PaymentIntent} (now : Instant)
      (hintent : v.intent = some intent) (hstatus : intent.status = .succeeded) :
      IntentMoves mayConfirm v {
        intent := some (intent.settle .refunded now)
        topUps := v.topUps }
  | review {intent : PaymentIntent} (hintent : v.intent = some intent)
      (hstatus : intent.status = .succeeded) :
      IntentMoves mayConfirm v {
        intent := some { intent with status := .refundManualReview }
        topUps := v.topUps }

theorem IntentMoves.of_eq {mayConfirm : Prop} {v v' : IntentView}
    (h : v' = v) : IntentMoves mayConfirm v v' :=
  h ▸ IntentMoves.keep

theorem topUpTotal_append {db d : Db} {t : CreditTransaction}
    (h : d.creditTransactions = db.creditTransactions ++ [t])
    (intentId : Int) :
    topUpTotal d intentId =
      topUpTotal db intentId + if isTopUpOf intentId t then t.amount else 0 := by
  unfold topUpTotal amounts
  rw [h, List.filter_append, List.map_append, List.sum_append]
  by_cases ht : isTopUpOf intentId t = true
  · simp [ht]
  · simp [ht]

theorem intentView_of_ledger {db d : Db} {t : CreditTransaction}
    {intentId : Int}
    (hget : d.paymentIntents.get intentId = db.paymentIntents.get intentId)
    (hledger : d.creditTransactions = db.creditTransactions ++ [t])
    (ht : isTopUpOf intentId t = false) :
    intentView intentId d = intentView intentId db := by
  simp [intentView, hget, topUpTotal_append hledger, ht]

theorem intentView_congr {db d : Db} {intentId : Int}
    (hget : d.paymentIntents.get intentId = db.paymentIntents.get intentId)
    (hledger : d.creditTransactions = db.creditTransactions) :
    intentView intentId d = intentView intentId db := by
  simp [intentView, hget, topUpTotal, hledger]

theorem PaymentIntent.write_settle (intent : PaymentIntent)
    (status : PaymentStatus) (now : Instant) :
    intent.write (intent.settle status now) intent =
      intent.settle status now := by
  simp [PaymentIntent.write, PaymentIntent.settle]

theorem PaymentIntent.write_review (intent : PaymentIntent) :
    intent.write { intent with status := .refundManualReview } intent =
      { intent with status := .refundManualReview } := by
  simp [PaymentIntent.write]

/-- An update of an intent keeps its amounts, and so its CHECK constraint. -/
theorem get_updated_intent {db d : Db} {id intentId : Int}
    {intent edited : PaymentIntent}
    (hget : db.paymentIntents.get id = some intent)
    (hwrite : intent.write edited intent = edited)
    (hintents : d.paymentIntents =
      db.paymentIntents.modify id (PaymentIntent.write intent edited)) :
    d.paymentIntents.get intentId =
      if intentId = id then some edited
      else db.paymentIntents.get intentId := by
  have hamounts := (paymentIntentChecks_iff intent).mp (Table.check_of_get hget)
  have hcheck : paymentIntentChecks (intent.write edited intent) = true :=
    (paymentIntentChecks_iff _).mpr hamounts
  rw [hintents, Table.get_modify]
  split
  · rw [hget, Option.map_some, Table.checkedUpdate_of_check hcheck, hwrite]
  · rfl

theorem intentView_updated {db d : Db} {id : Int}
    {intent edited : PaymentIntent}
    (hget : db.paymentIntents.get id = some intent)
    (hwrite : intent.write edited intent = edited)
    (hintents : d.paymentIntents =
      db.paymentIntents.modify id (PaymentIntent.write intent edited))
    {topUps : Int} (htopUps : topUpTotal d id = topUps) :
    intentView id d = { intent := some edited, topUps := topUps } := by
  unfold intentView
  rw [get_updated_intent hget hwrite hintents, if_pos rfl, htopUps]

theorem isTopUpOf_topUpRow (intentId id : Int) (intent : PaymentIntent)
    (balance : Int) :
    isTopUpOf intentId (topUpRow id intent balance) = decide (id = intentId) := by
  simp [isTopUpOf, topUpRow]

/-- A unit of work that only updates one intent. -/
theorem intentView_of_update {db d : Db} {id : Int}
    {intent edited : PaymentIntent} (intentId : Int)
    (hget : db.paymentIntents.get id = some intent)
    (hwrite : intent.write edited intent = edited)
    (hd : Write.attempt [updatePaymentIntent id intent edited] db = .ok d) :
    (id = intentId ∧ intentView intentId d =
      { intent := some edited, topUps := topUpTotal db intentId }) ∨
      intentView intentId d = intentView intentId db := by
  have hintents : d.paymentIntents =
      db.paymentIntents.modify id (PaymentIntent.write intent edited) := by
    rw [Write.applyAll_of_attempt hd]
    rfl
  have hledger : d.creditTransactions = db.creditTransactions := by
    rw [Write.applyAll_of_attempt hd]
    rfl
  have htopUps : topUpTotal d intentId = topUpTotal db intentId := by
    rw [topUpTotal, hledger]
    rfl
  by_cases hid : id = intentId
  · subst hid
    exact Or.inl ⟨rfl, intentView_updated hget hwrite hintents htopUps⟩
  · apply Or.inr
    apply intentView_congr ?_ hledger
    exact (get_updated_intent hget hwrite hintents).trans
      (if_neg fun h => hid h.symm)

/-!
# What each request does to an intent
-/

/-- The request confirms this intent. -/
def BillingRequest.Confirms (db : Db) (intentId : Int) :
    BillingRequest -> Prop
  | confirmPayment externalId _ =>
      exists intent,
        db.paymentIntents.first? (fun i => i.externalId = externalId) =
          some (intentId, intent)
  | _ => False

def MovesIntent {α : Type} (p : Session α) (intentId : Int) (mayConfirm : Prop)
    (s : Store coverAI) : Prop :=
  p.Ensures (fun _ s' =>
    IntentMoves mayConfirm (intentView intentId s.db) (intentView intentId s'.db))
    s

section Requests

variable {s : Store coverAI} {intentId : Int} {mayConfirm : Prop}
  {intent : PaymentIntent}

theorem MovesIntent.void {α : Type} {p : Session α}
    (h : MovesIntent p intentId mayConfirm s) :
    MovesIntent p.void intentId mayConfirm s :=
  ensures_void h

theorem createPayment_movesIntent (env : Env) (userId creditsAmount : Int)
    (uuidHex : String) (now : Instant)
    (hget : s.db.paymentIntents.get intentId = some intent) :
    MovesIntent (createPayment env userId creditsAmount uuidHex now) intentId
      mayConfirm s := by
  simp only [MovesIntent, createPayment, bind_eq, ensures_currentUser_bind,
    ensures_draw_bind, ensures_flushUnit_bind, pure_eq, ensures_ret]
  intro user _ d hd
  rw [Write.applyAll_of_attempt hd]
  apply IntentMoves.of_eq
  apply intentView_congr
  · exact (Table.get_insert_of_some hget _ _).trans hget.symm
  · rfl

theorem confirmLocked_movesIntent {id : Int} {confirmed : PaymentIntent}
    (now : Instant) (hmay : id = intentId -> mayConfirm)
    (hget : s.db.paymentIntents.get id = some confirmed)
    (hstatus : confirmed.status ≠ .succeeded) :
    MovesIntent (confirmLocked id confirmed now) intentId mayConfirm s := by
  simp only [MovesIntent, confirmLocked, bind_eq, ensures_lockedUser_bind,
    ensures_flushUnit_bind, Option.getD_none, pure_eq, ensures_ret]
  intro user _ d hd
  have hwrite := confirmed.write_settle .succeeded now
  have hintents : d.paymentIntents = s.db.paymentIntents.modify id
      (confirmed.write (confirmed.settle .succeeded now)) := by
    rw [Write.applyAll_of_attempt hd]
    rfl
  have hledger : d.creditTransactions = s.db.creditTransactions ++
      [topUpRow id confirmed (user.credits + confirmed.creditsAmount)] := by
    rw [Write.applyAll_of_attempt hd]
    rfl
  by_cases hid : id = intentId
  · subst hid
    have htopUps := topUpTotal_append hledger id
    rw [isTopUpOf_topUpRow, decide_eq_true rfl, if_pos rfl] at htopUps
    rw [Store.setDb_db, intentView_updated hget hwrite hintents htopUps]
    exact IntentMoves.confirm now (hmay rfl) hget hstatus
  · apply IntentMoves.of_eq
    apply intentView_of_ledger ?_ hledger
    · rw [isTopUpOf_topUpRow, decide_eq_false hid]
    · exact (get_updated_intent hget hwrite hintents).trans
        (if_neg fun h => hid h.symm)

theorem confirmPayment_movesIntent (externalId : String) (now : Instant)
    (hmay : BillingRequest.Confirms s.db intentId
      (.confirmPayment externalId now) -> mayConfirm) :
    MovesIntent (confirmPayment externalId now) intentId mayConfirm s := by
  simp only [MovesIntent, confirmPayment, paymentByExternalId, bind_eq,
    ensures_select_bind]
  split
  · exact ensures_raise _ _
  · rename_i id confirmed hfirst
    split
    · rw [pure_eq, ensures_ret]
      exact IntentMoves.keep
    · rename_i hstatus
      apply confirmLocked_movesIntent now ?_ (Table.get_of_first? hfirst) hstatus
      intro hid
      exact hmay ⟨confirmed, hid ▸ hfirst⟩

theorem endPending_movesIntent {status : PaymentStatus}
    (hended : status.IsTerminal) (externalId : String) (now : Instant) :
    MovesIntent (endPending status externalId now) intentId mayConfirm s := by
  simp only [MovesIntent, endPending, paymentByExternalId, bind_eq,
    ensures_select_bind]
  split
  · exact ensures_raise _ _
  · rename_i id pending hfirst
    have hget := Table.get_of_first? hfirst
    split
    · rename_i hstatus
      simp only [ensures_flushUnit_bind, pure_eq, ensures_ret]
      intro d hd
      have hwrite := pending.write_settle status now
      rcases intentView_of_update intentId hget hwrite hd with
        ⟨hid, hview⟩ | hsame
      · rw [Store.setDb_db, hview]
        exact IntentMoves.ended status now (hid ▸ hget) hstatus hended
      · exact IntentMoves.of_eq hsame
    · rw [pure_eq, ensures_ret]
      exact IntentMoves.keep

theorem refundLocked_movesIntent {id : Int} {refunded : PaymentIntent}
    (now : Instant) (hget : s.db.paymentIntents.get id = some refunded)
    (hstatus : refunded.status = .succeeded) :
    MovesIntent (refundLocked id refunded now) intentId mayConfirm s := by
  simp only [MovesIntent, refundLocked, bind_eq, ensures_lockedUser_bind,
    Option.getD_none]
  intro locked _
  split
  · simp only [ensures_flushUnit_bind, pure_eq, ensures_ret]
    intro d hd
    rcases intentView_of_update intentId hget refunded.write_review hd with
      ⟨hid, hview⟩ | hsame
    · rw [Store.setDb_db, hview]
      exact IntentMoves.review (hid ▸ hget) hstatus
    · exact IntentMoves.of_eq hsame
  · simp only [ensures_flushUnit_bind, pure_eq, ensures_ret]
    intro d hd
    have hwrite := refunded.write_settle .refunded now
    have hintents : d.paymentIntents = s.db.paymentIntents.modify id
        (refunded.write (refunded.settle .refunded now)) := by
      rw [Write.applyAll_of_attempt hd]
      rfl
    have hledger : d.creditTransactions = s.db.creditTransactions ++
        [refundRow id refunded (locked.credits - refunded.creditsAmount)] := by
      rw [Write.applyAll_of_attempt hd]
      rfl
    by_cases hid : id = intentId
    · subst hid
      have htopUps : topUpTotal d id = topUpTotal s.db id := by
        rw [topUpTotal_append hledger id]
        simp [isTopUpOf, refundRow]
      rw [Store.setDb_db, intentView_updated hget hwrite hintents htopUps]
      exact IntentMoves.refund now hget hstatus
    · apply IntentMoves.of_eq
      apply intentView_of_ledger ?_ hledger
      · rfl
      · exact (get_updated_intent hget hwrite hintents).trans
          (if_neg fun h => hid h.symm)

theorem refundPayment_movesIntent (paymentId : Int) (now : Instant) :
    MovesIntent (refundPayment paymentId now) intentId mayConfirm s := by
  simp only [MovesIntent, refundPayment, paymentById, bind_eq,
    ensures_select_bind]
  split
  · exact ensures_raise _ _
  · rename_i refunded hget
    split
    · exact ensures_raise _ _
    · split
      · rw [pure_eq, ensures_ret]
        exact IntentMoves.keep
      · rename_i hstatus
        exact refundLocked_movesIntent now hget (not_not.mp hstatus)

end Requests

/-!
# Requests that have nothing to do with intents
-/

/-- No intent is touched and no top-up is entered. -/
structure LeavesIntents (db d : Db) : Prop where
  intents : d.paymentIntents = db.paymentIntents
  ledger : d.creditTransactions = db.creditTransactions ∨
    exists t, t.type ≠ .topUp ∧
      d.creditTransactions = db.creditTransactions ++ [t]

theorem LeavesIntents.refl (db : Db) : LeavesIntents db db :=
  ⟨rfl, Or.inl rfl⟩

theorem LeavesIntents.of_row {db d : Db} {t : CreditTransaction}
    (hintents : d.paymentIntents = db.paymentIntents) (ht : t.type ≠ .topUp)
    (hledger : d.creditTransactions = db.creditTransactions ++ [t]) :
    LeavesIntents db d :=
  ⟨hintents, Or.inr ⟨t, ht, hledger⟩⟩

theorem LeavesIntents.view {db d : Db} (h : LeavesIntents db d)
    (intentId : Int) : intentView intentId d = intentView intentId db := by
  have hget : d.paymentIntents.get intentId =
      db.paymentIntents.get intentId := by
    rw [h.intents]
  rcases h.ledger with hsame | ⟨t, ht, hrow⟩
  · exact intentView_congr hget hsame
  · exact intentView_of_ledger hget hrow (by simp [isTopUpOf, ht])

section OtherRequests

variable (s : Store coverAI)

theorem redeemPromo_leavesIntents (env : Env) (userId : Int) (code : String)
    (now : Instant) :
    (redeemPromo env userId code now).Ensures
      (fun _ s' => LeavesIntents s.db s'.db) s := by
  simp only [redeemPromo, promoByCode, bind_eq, ensures_currentUser_bind]
  intro user _
  apply ensures_lockPromo_bind
  intro found _
  cases found with
  | none => exact ensures_raise _ _
  | some entry =>
      rcases entry with ⟨promoId, promo⟩
      simp only [promoWasRedeemed, ensures_select_bind]
      split
      · exact ensures_raise _ _
      · split
        · exact ensures_raise _ _
        · simp only [redeemLocked, bind_eq, ensures_lockedUser_bind]
          intro _ _
          cases promo.type with
          | fixedCredits =>
              simp only [ensures_flushUnit_bind, pure_eq, ensures_ret]
              intro d hd
              rw [Write.applyAll_of_attempt hd]
              exact LeavesIntents.of_row rfl (by simp [promoRow]) rfl
          | topUpDiscount =>
              simp only [ensures_flushUnit_bind, pure_eq, ensures_ret]
              intro d hd
              rw [Write.applyAll_of_attempt hd]
              exact ⟨rfl, Or.inl rfl⟩

theorem redeemPromoCode_leavesIntents (env : Env) (userId : Int)
    (code : String) :
    (redeemPromoCode env userId code).Ensures
      (fun _ s' => LeavesIntents s.db s'.db) s := by
  simp only [redeemPromoCode, bind_eq]
  apply ensures_lockPromo_bind
  intro found _
  cases found with
  | none => exact (ensures_ret _ _).mpr (LeavesIntents.refl _)
  | some entry =>
      rcases entry with ⟨promoId, promo⟩
      simp only [promoWasRedeemed, ensures_select_bind]
      split
      · exact (ensures_ret _ _).mpr (LeavesIntents.refl _)
      · simp only [userForUpdate, ensures_selectForUpdate_bind]
        split
        · exact (ensures_ret _ _).mpr (LeavesIntents.refl _)
        · cases promo.type with
          | fixedCredits =>
              simp only [ensures_flushUnit_bind, pure_eq, ensures_ret]
              intro d hd
              rw [Write.applyAll_of_attempt hd]
              exact LeavesIntents.of_row rfl (by simp [promoRow]) rfl
          | topUpDiscount =>
              simp only [ensures_flushUnit_bind, pure_eq, ensures_ret]
              intro d hd
              rw [Write.applyAll_of_attempt hd]
              exact ⟨rfl, Or.inl rfl⟩

theorem adjustBalance_leavesIntents (adminId userId amount : Int)
    (reason : String) :
    (adjustBalance adminId userId amount reason).Ensures
      (fun _ s' => LeavesIntents s.db s'.db) s := by
  simp only [adjustBalance, adminUser, bind_eq, bind_assoc,
    ensures_currentUser_bind]
  intro admin _
  split
  · exact ensures_raise _ _
  · simp only [pure_eq, ret_bind, ensures_lockedUser_bind]
    intro row _
    generalize (if userId = adminId then some admin else none).getD row = target
    split
    · exact ensures_raise _ _
    · simp only [ensures_flushUnit_bind, ensures_ret]
      intro d hd
      rw [Write.applyAll_of_attempt hd]
      exact LeavesIntents.of_row rfl (by simp [adjustmentRow]) rfl

theorem grantWelcomeBonus_leavesIntents (userId amount : Int) :
    (grantWelcomeBonus userId amount).Ensures
      (fun _ s' => LeavesIntents s.db s'.db) s := by
  unfold grantWelcomeBonus
  split
  · exact ensures_raise _ _
  · simp only [grantWelcomeBonusRow, userForUpdate, bind_eq,
      ensures_selectForUpdate_bind]
    split
    · exact ensures_raise _ _
    · simp only [ensures_flushUnit_bind, pure_eq, ensures_ret]
      intro d hd
      rw [Write.applyAll_of_attempt hd]
      exact LeavesIntents.of_row rfl (by simp [welcomeBonusRow]) rfl

theorem debitGenerationCredits_leavesIntents
    (userId amount generationRequestId : Int) :
    (debitGenerationCredits userId amount generationRequestId).Ensures
      (fun _ s' => LeavesIntents s.db s'.db) s := by
  simp only [debitGenerationCredits, userForUpdate, bind_eq,
    ensures_selectForUpdate_bind]
  split
  · exact ensures_raise _ _
  · split
    · exact ensures_raise _ _
    · simp only [ensures_flushUnit]
      intro d hd
      rw [Write.applyAll_of_attempt hd]
      exact LeavesIntents.of_row rfl (by simp [spendRow]) rfl

/-- The bot's top-up is entered for the intent it inserts. -/
theorem createMockTopUp_movesIntent {mayConfirm : Prop} {intentId : Int}
    {intent : PaymentIntent} (env : Env) (userId creditsAmount : Int)
    (hget : s.db.paymentIntents.get intentId = some intent) :
    MovesIntent (createMockTopUp env userId creditsAmount) intentId mayConfirm
      s := by
  simp only [MovesIntent, createMockTopUp, userForUpdate, bind_eq,
    ensures_selectForUpdate_bind]
  split
  · exact (ensures_ret _ _).mpr IntentMoves.keep
  · rename_i user _
    simp only [ensures_draw_bind, ensures_flushUnit_bind, pure_eq, ensures_ret]
    intro d hd d' hd'
    rcases Write.attempt_cons_eq_ok.mp hd with ⟨_, hrest⟩
    rcases Write.attempt_cons_eq_ok.mp hrest with ⟨hviolation, _⟩
    have hfresh : s.db.paymentIntents.get (s.seq SeqName.paymentIntents) =
        none := (violation_insertInto.mp hviolation).left
    have hne : ¬ s.seq SeqName.paymentIntents = intentId := by
      intro heq
      rw [heq, hget] at hfresh
      cases hfresh
    rw [Write.applyAll_of_attempt hd', Write.applyAll_of_attempt hd]
    apply IntentMoves.of_eq
    apply intentView_of_ledger
    · exact (Table.get_insert_of_some hget _ _).trans hget.symm
    · rfl
    · simp [isTopUpOf, mockTopUpRow, hne]

end OtherRequests

/-- The case analysis over all requests. -/
theorem BillingRequest.session_movesIntent (env : Env)
    (request : BillingRequest) {s : Store coverAI} {intentId : Int}
    {intent : PaymentIntent}
    (hget : s.db.paymentIntents.get intentId = some intent) :
    MovesIntent (request.session env) intentId (request.Confirms s.db intentId)
      s := by
  cases request with
  | createPayment userId creditsAmount uuidHex now =>
      exact (createPayment_movesIntent env userId creditsAmount uuidHex now
        hget).void
  | confirmPayment externalId now =>
      exact (confirmPayment_movesIntent externalId now id).void
  | failPayment externalId now =>
      have hended : PaymentStatus.failed.IsTerminal := trivial
      exact (endPending_movesIntent hended externalId now).void
  | cancelPayment externalId now =>
      have hended : PaymentStatus.canceled.IsTerminal := trivial
      exact (endPending_movesIntent hended externalId now).void
  | refundPayment paymentId now =>
      exact (refundPayment_movesIntent paymentId now).void
  | createMockTopUp userId creditsAmount =>
      exact (createMockTopUp_movesIntent s env userId creditsAmount hget).void
  | redeemPromo userId code now =>
      have h := redeemPromo_leavesIntents s env userId code now
      exact MovesIntent.void (ensures_mono h fun _ _ hleaves =>
        IntentMoves.of_eq (hleaves.view intentId))
  | redeemPromoCode userId code =>
      have h := redeemPromoCode_leavesIntents s env userId code
      exact MovesIntent.void (ensures_mono h fun _ _ hleaves =>
        IntentMoves.of_eq (hleaves.view intentId))
  | adjustBalance adminId userId amount reason =>
      have h := adjustBalance_leavesIntents s adminId userId amount reason
      exact MovesIntent.void (ensures_mono h fun _ _ hleaves =>
        IntentMoves.of_eq (hleaves.view intentId))
  | grantWelcomeBonus userId amount =>
      have h := grantWelcomeBonus_leavesIntents s userId amount
      exact MovesIntent.void (ensures_mono h fun _ _ hleaves =>
        IntentMoves.of_eq (hleaves.view intentId))
  | debitGenerationCredits userId amount generationRequestId =>
      have h := debitGenerationCredits_leavesIntents s userId amount
        generationRequestId
      exact ensures_mono h fun _ _ hleaves =>
        IntentMoves.of_eq (hleaves.view intentId)

/-!
# Runs
-/

/-- Serial runs of requests, each allowed where it is executed. -/
inductive SerialRun (env : Env)
    (allowed : Store coverAI -> BillingRequest -> Prop) (s₀ : Store coverAI) :
    Store coverAI -> Prop where
  | refl : SerialRun env allowed s₀ s₀
  | step {s : Store coverAI} (request : BillingRequest)
      (h : SerialRun env allowed s₀ s) (hallowed : allowed s request) :
      SerialRun env allowed s₀ ((request.session env).transact s).2

/-- No confirmation of the intent is executed while the intent is in a terminal
status. -/
def ConfirmsLive (intentId : Int) (s : Store coverAI)
    (request : BillingRequest) : Prop :=
  request.Confirms s.db intentId ->
    forall intent, s.db.paymentIntents.get intentId = some intent ->
      ¬ intent.status.IsTerminal

/-- While the intent is pending nothing was topped up for it, and never more
than its amount. -/
def IntentView.Settling (amount : Int) (v : IntentView) : Prop :=
  exists intent, v.intent = some intent ∧ intent.creditsAmount = amount ∧
    (intent.status = .pending -> v.topUps = 0) ∧ v.topUps ≤ amount

theorem IntentView.Settling.moves {amount : Int} {mayConfirm : Prop}
    {v v' : IntentView} (h : v.Settling amount)
    (hmoves : IntentMoves mayConfirm v v')
    (hlive : mayConfirm -> forall intent, v.intent = some intent ->
      ¬ intent.status.IsTerminal) : v'.Settling amount := by
  rcases h with ⟨intent, hintent, hamount, hpending, hle⟩
  cases hmoves with
  | keep => exact ⟨intent, hintent, hamount, hpending, hle⟩
  | @confirm confirmed now hmay hconfirmed hstatus =>
      have heq : confirmed = intent :=
        Option.some.inj (hconfirmed.symm.trans hintent)
      subst heq
      -- not confirmed yet and not terminal: the intent is pending
      have hzero : v.topUps = 0 := by
        apply hpending
        have hnot := hlive hmay confirmed hconfirmed
        cases hcase : confirmed.status <;>
          simp_all [PaymentStatus.IsTerminal]
      refine ⟨_, rfl, hamount, ?_, ?_⟩
      · intro hs
        cases hs
      · change v.topUps + confirmed.creditsAmount ≤ amount
        omega
  | @ended ended status now hended hstatus hterminal =>
      have heq : ended = intent := Option.some.inj (hended.symm.trans hintent)
      subst heq
      refine ⟨_, rfl, hamount, fun _ => hpending hstatus, hle⟩
  | @refund refunded now hrefunded hstatus =>
      have heq : refunded = intent :=
        Option.some.inj (hrefunded.symm.trans hintent)
      subst heq
      refine ⟨_, rfl, hamount, ?_, hle⟩
      intro hs
      cases hs
  | @review reviewed hreviewed hstatus =>
      have heq : reviewed = intent :=
        Option.some.inj (hreviewed.symm.trans hintent)
      subst heq
      refine ⟨_, rfl, hamount, ?_, hle⟩
      intro hs
      cases hs

/-- A terminal intent stays as it is, unless it is confirmed. -/
theorem IntentMoves.eq_of_terminal {mayConfirm : Prop} {v v' : IntentView}
    (hmoves : IntentMoves mayConfirm v v') {intent : PaymentIntent}
    (hintent : v.intent = some intent) (hterminal : intent.status.IsTerminal)
    (hmay : ¬ mayConfirm) : v' = v := by
  cases hmoves with
  | keep => rfl
  | confirm now h _ _ => exact (hmay h).elim
  | @ended ended status now hended hstatus _ =>
      have heq : ended = intent := Option.some.inj (hended.symm.trans hintent)
      rw [← heq, hstatus] at hterminal
      exact hterminal.elim
  | @refund refunded now hrefunded hstatus =>
      have heq : refunded = intent :=
        Option.some.inj (hrefunded.symm.trans hintent)
      rw [← heq, hstatus] at hterminal
      exact hterminal.elim
  | @review reviewed hreviewed hstatus =>
      have heq : reviewed = intent :=
        Option.some.inj (hreviewed.symm.trans hintent)
      rw [← heq, hstatus] at hterminal
      exact hterminal.elim

theorem BillingRequest.transact_movesIntent (env : Env)
    (request : BillingRequest) {s : Store coverAI} {intentId : Int}
    {intent : PaymentIntent}
    (hget : s.db.paymentIntents.get intentId = some intent) :
    IntentMoves (request.Confirms s.db intentId) (intentView intentId s.db)
      (intentView intentId ((request.session env).transact s).2.db) := by
  rcases ensures_transact (request.session_movesIntent env hget) with
    ⟨_, _, hmoves⟩ | ⟨_, _, hdb⟩
  · exact hmoves
  · rw [hdb]
    exact IntentMoves.keep

theorem SerialRun.settling {env : Env} {intentId amount : Int}
    {s₀ s : Store coverAI}
    (h : SerialRun env (ConfirmsLive intentId) s₀ s)
    (h₀ : (intentView intentId s₀.db).Settling amount) :
    (intentView intentId s.db).Settling amount := by
  induction h with
  | refl => exact h₀
  | step request _ hallowed ih =>
      rcases ih with ⟨intent, hintent, hrest⟩
      exact IntentView.Settling.moves ⟨intent, hintent, hrest⟩
        (request.transact_movesIntent env hintent) hallowed

/-!
# From creation on
-/

/-- The foreign key of `credit_transactions.payment_intent_id`. -/
def LedgerReferencesIntents (db : Db) : Prop :=
  forall t, t ∈ db.creditTransactions -> forall id,
    t.paymentIntentId = some id -> db.paymentIntents.get id ≠ none

theorem topUpTotal_of_new {db : Db} (h : LedgerReferencesIntents db) {id : Int}
    (hnew : db.paymentIntents.get id = none) : topUpTotal db id = 0 := by
  have hnil : db.creditTransactions.filter (isTopUpOf id) = [] := by
    rw [List.filter_eq_nil_iff]
    intro t ht hrow
    simp only [isTopUpOf, Bool.and_eq_true, decide_eq_true_eq] at hrow
    exact h t ht id hrow.right hnew
  rw [topUpTotal, hnil]
  rfl

theorem createPayment_settling (env : Env) (userId creditsAmount : Int)
    (uuidHex : String) (now : Instant) {s : Store coverAI}
    (hforeign : LedgerReferencesIntents s.db) :
    (createPayment env userId creditsAmount uuidHex now).Ensures
      (fun response s' =>
        (intentView response.id s'.db).Settling creditsAmount) s := by
  simp only [createPayment, bind_eq, ensures_currentUser_bind,
    ensures_draw_bind, ensures_flushUnit_bind, pure_eq, ensures_ret]
  intro user _ d hd
  rcases Write.attempt_cons_eq_ok.mp hd with ⟨_, hrest⟩
  rcases Write.attempt_cons_eq_ok.mp hrest with ⟨hviolation, _⟩
  rcases violation_insertInto.mp hviolation with ⟨hnew, hcheck⟩
  have hamount := ((paymentIntentChecks_iff _).mp hcheck).left
  have hledger : d.creditTransactions = s.db.creditTransactions := by
    rw [Write.applyAll_of_attempt hd]
    rfl
  have hzero : topUpTotal d (s.seq SeqName.paymentIntents) = 0 := by
    rw [topUpTotal, hledger]
    exact topUpTotal_of_new hforeign hnew
  have hget := Table.get_insert_self hnew hcheck
  rw [Write.applyAll_of_attempt hd] at hzero ⊢
  exact ⟨_, hget, rfl, fun _ => hzero, hzero.trans_le (Int.le_of_lt hamount)⟩

/-- If no confirmation is executed in a terminal status, a terminal intent is
never changed again and the top-ups entered for an intent never exceed its
amount. -/
theorem intent_settles_once {env : Env} {s s₀ s₁ : Store coverAI}
    {userId creditsAmount : Int} {uuidHex : String} {now : Instant}
    {response : PaymentResponse} (hforeign : LedgerReferencesIntents s.db)
    (hcreate : (createPayment env userId creditsAmount uuidHex now).transact s =
      (.ok response, s₀))
    (hrun : SerialRun env (ConfirmsLive response.id) s₀ s₁) :
    topUpTotal s₁.db response.id ≤ creditsAmount ∧
      forall intent, s₁.db.paymentIntents.get response.id = some intent ->
        intent.status.IsTerminal ->
        forall request, ConfirmsLive response.id s₁ request ->
          intentView response.id ((request.session env).transact s₁).2.db =
            intentView response.id s₁.db := by
  have h₀ := ensures_of_run
    (createPayment_settling env userId creditsAmount uuidHex now hforeign)
    (run_of_transact_ok hcreate)
  constructor
  · rcases hrun.settling h₀ with ⟨_, _, _, _, hle⟩
    exact hle
  · intro intent hget hterminal request hlive
    have hmoves := request.transact_movesIntent env hget
    exact hmoves.eq_of_terminal hget hterminal
      fun hconfirms => hlive hconfirms intent hget hterminal

/-!
# A late confirmation
-/

def sampleCreation : Session PaymentResponse :=
  createPayment sampleEnv 1 100 "a" 0

def createdStore : Store coverAI :=
  (sampleCreation.transact registeredStore).2

def afterRequests (s : Store coverAI) (requests : List BillingRequest) :
    Store coverAI :=
  transactAll s (requests.map (BillingRequest.session sampleEnv))

def statusAfter (requests : List BillingRequest) : Option PaymentStatus :=
  ((afterRequests createdStore requests).db.paymentIntents.get 1).map
    PaymentIntent.status

/-- Confirmed, refunded and confirmed again: the refunded intent is moved back
to succeeded and its amount is credited a second time. -/
theorem late_confirmation_tops_up_again :
    statusAfter [.confirmPayment "mock_a" 1, .refundPayment 1 2] =
        some .refunded ∧
      statusAfter [.confirmPayment "mock_a" 1, .refundPayment 1 2,
        .confirmPayment "mock_a" 3] = some .succeeded ∧
      topUpTotal (afterRequests createdStore
        [.confirmPayment "mock_a" 1, .refundPayment 1 2,
          .confirmPayment "mock_a" 3]).db 1 = 200 := by
  decide

theorem confirmsLive_of_status {intentId : Int} {s : Store coverAI}
    {request : BillingRequest} (status : PaymentStatus)
    (hstatus : (s.db.paymentIntents.get intentId).map PaymentIntent.status =
      some status) (hlive : ¬ status.IsTerminal) :
    ConfirmsLive intentId s request := by
  intro _ intent hget
  rw [hget] at hstatus
  rw [Option.some.inj hstatus]
  exact hlive

/-- Two deliveries of the confirmation, a refund, and a late failure beside
another payment of the user. -/
def refundedOnce : List BillingRequest :=
  [.createPayment 1 50 "b" 1, .confirmPayment "mock_a" 2,
    .confirmPayment "mock_a" 3, .refundPayment 1 4, .failPayment "mock_a" 5]

/-- A hundred credits were topped up, and another refund changes nothing. -/
theorem intent_settles_once_refunded :
    topUpTotal (afterRequests createdStore refundedOnce).db 1 ≤ 100 ∧
      topUpTotal (afterRequests createdStore refundedOnce).db 1 ≠ 0 ∧
      statusAfter refundedOnce = some .refunded ∧
      intentView 1 (afterRequests createdStore
          (refundedOnce ++ [.refundPayment 1 6])).db =
        intentView 1 (afterRequests createdStore refundedOnce).db := by
  have hforeign : LedgerReferencesIntents registeredStore.db := by
    intro t ht
    cases ht
  have hother : SerialRun sampleEnv (ConfirmsLive 1) createdStore
      (afterRequests createdStore [.createPayment 1 50 "b" 1]) :=
    SerialRun.step (.createPayment 1 50 "b" 1) SerialRun.refl False.elim
  have hconfirmed : SerialRun sampleEnv (ConfirmsLive 1) createdStore
      (afterRequests createdStore [.createPayment 1 50 "b" 1,
        .confirmPayment "mock_a" 2]) :=
    SerialRun.step (.confirmPayment "mock_a" 2) hother
      (confirmsLive_of_status .pending rfl not_false)
  have hagain : SerialRun sampleEnv (ConfirmsLive 1) createdStore
      (afterRequests createdStore [.createPayment 1 50 "b" 1,
        .confirmPayment "mock_a" 2, .confirmPayment "mock_a" 3]) :=
    SerialRun.step (.confirmPayment "mock_a" 3) hconfirmed
      (confirmsLive_of_status .succeeded rfl not_false)
  have hrun : SerialRun sampleEnv (ConfirmsLive 1) createdStore
      (afterRequests createdStore refundedOnce) :=
    SerialRun.step (.failPayment "mock_a" 5)
      (SerialRun.step (.refundPayment 1 4) hagain False.elim) False.elim
  have hsettled := intent_settles_once hforeign
    (rfl : sampleCreation.transact registeredStore = (.ok _, createdStore)) hrun
  have hkept := hsettled.right _ rfl trivial (.refundPayment 1 6) False.elim
  exact ⟨hsettled.left, by decide, by decide, hkept⟩

end CoverAI
