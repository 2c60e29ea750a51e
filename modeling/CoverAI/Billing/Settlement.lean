import CoverAI.Billing.IntentLifeCycle
import CoverAI.Txn.LockDiscipline

/-!
# Concurrent deliveries for one payment intent

Any number of confirmations, or of refunds, of one intent run interleaved.  A
delivery reads the status before it waits for the users row, and the lock is on
another row than the status, so the status may have changed when the lock is
granted; a confirmation then credits a second time.  Where the status is still
the one that was read at every grant, the deliveries are disciplined: the first
critical section settles the intent and no second one is entered.
-/

namespace CoverAI

open Txn Program

/-!
# What the deliveries share
-/

structure SettlementView where
  selectedId : Option Int
  intent : Option PaymentIntent
  owner : Option User
  rows : List CreditTransaction

def isRowOf (type : CreditTransactionType) (intentId : Int)
    (t : CreditTransaction) : Bool :=
  t.type = type && t.paymentIntentId = some intentId

def rowsOf (type : CreditTransactionType) (intentId : Int) (db : Db) :
    List CreditTransaction :=
  db.creditTransactions.filter (isRowOf type intentId)

/-- One intent, its owner, and the ledger rows of one type that belong to it. -/
structure SettlementKey where
  externalId : String
  intentId : Int
  userId : Int
  type : CreditTransactionType

/-- The intent and its owner after a unit of work that enters one row. -/
def SettlementView.settled (v : SettlementView) (intent : PaymentIntent)
    (owner : User) (row : CreditTransaction) : SettlementView where
  selectedId := v.selectedId
  intent := some intent
  owner := some owner
  rows := v.rows ++ [row]

def settlementView (key : SettlementKey) (db : Db) : SettlementView where
  selectedId :=
    (db.paymentIntents.first? fun i => i.externalId = key.externalId).map
      Prod.fst
  intent := db.paymentIntents.get key.intentId
  owner := db.users.get key.userId
  rows := rowsOf key.type key.intentId db

/-- The deliveries settle the intent once: from `base` to one of the
views in `ends`. -/
def settlement (key : SettlementKey) (base : SettlementView)
    (ends : SettlementView -> Prop) :
    Discipline coverAI PaymentResponse SettlementView where
  lock := LockName.user key.userId
  obs := settlementView key
  Good := fun v => v = base ∨ ends v
  Post := fun v v' => v = base ∧ ends v'
  Final := ends
  Raises := fun e => e = Exc.connectionLost
  Grant := fun p v =>
    p.awaits (LockName.user key.userId) = true ->
      v.intent.map PaymentIntent.status = base.intent.map PaymentIntent.status
  good_post := fun _ h => Or.inr h.right
  final_post := fun _ h => h.right

theorem outside_select_bind {α : Type} {key : SettlementKey}
    {base : SettlementView} {ends : SettlementView -> Prop} {known : Prop}
    {q : Db -> α} {f : α -> Session PaymentResponse}
    (h : forall v, (settlementView key v = base ∨ ends (settlementView key v)) ->
      (settlement key base ends).Outside (known ∨ ends (settlementView key v))
        (f (q v))) :
    (settlement key base ends).Outside known ((select q).bind f) :=
  Discipline.outside_ask_bind (settlement key base ends) h

theorem outside_lockedUser_bind {key : SettlementKey} {base : SettlementView}
    {ends : SettlementView -> Prop} {known : Prop}
    {f : User -> Session PaymentResponse}
    (h : forall v, (settlementView key v = base ∨ ends (settlementView key v)) ->
      (settlementView key v).intent.map PaymentIntent.status =
        base.intent.map PaymentIntent.status ->
      exists user, v.users.get key.userId = some user ∧
        (settlement key base ends).Inside (settlementView key v)
          (settlementView key v) (f user)) :
    (settlement key base ends).Outside known
      ((lockedUser none key.userId).bind f) := by
  rw [lockedUser, bind_assoc]
  apply Discipline.outside_forUpdate_lock_bind
  intro v hgood hgrant
  rcases h v hgood (hgrant (decide_eq_true rfl)) with ⟨user, hget, hin⟩
  rw [hget]
  exact hin

/-!
# Effects on the shared view
-/

section Effects

variable {key : SettlementKey} {db : Db} {user edited : User}
  {intent settled : PaymentIntent} {row : CreditTransaction}

theorem selectedId_modify (externalId : String) (id : Int) :
    (((db.paymentIntents.modify id (PaymentIntent.write intent settled)).first?
      fun i => i.externalId = externalId).map Prod.fst) =
        (db.paymentIntents.first? fun i => i.externalId = externalId).map
          Prod.fst := by
  rw [Table.first?_modify]
  · simp [Function.comp_def]
  · intro r
    rfl

theorem settlementView_settle (howner : db.users.get key.userId = some user)
    (hcheck : userChecks edited = true)
    (hintent : db.paymentIntents.get key.intentId = some intent)
    (hwrite : intent.write settled intent = settled)
    (hrow : isRowOf key.type key.intentId row = true) :
    settlementView key (Write.applyAll
      [updateUser key.userId user edited,
        updatePaymentIntent key.intentId intent settled,
        insertCreditTransaction row] db) =
      (settlementView key db).settled settled edited row := by
  unfold settlementView SettlementView.settled
  congr 1
  · exact selectedId_modify key.externalId key.intentId
  · exact (get_updated_intent hintent hwrite rfl).trans (if_pos rfl)
  · change (db.users.modify key.userId (User.write user edited)).get key.userId =
      some edited
    rw [Table.get_modify_self, howner, Option.map_some,
      Table.checkedUpdate_of_check]
    · rw [User.write_loaded]
    · rwa [User.write_loaded]
  · change (db.creditTransactions ++ [row]).filter _ = _
    rw [List.filter_append]
    simp [rowsOf, hrow]

theorem settlementView_review
    (hintent : db.paymentIntents.get key.intentId = some intent)
    (hwrite : intent.write settled intent = settled) :
    settlementView key (Write.applyAll
      [updatePaymentIntent key.intentId intent settled] db) =
      { settlementView key db with intent := some settled } := by
  unfold settlementView
  congr 1
  · exact selectedId_modify key.externalId key.intentId
  · exact (get_updated_intent hintent hwrite rfl).trans (if_pos rfl)

theorem updatePaymentIntent_violation (id : Int) (db : Db) :
    (updatePaymentIntent id intent settled).violation db = none := by
  apply violation_updateIn.mpr
  intro r hr
  exact (paymentIntentChecks_iff _).mpr
    ((paymentIntentChecks_iff r).mp (Table.check_of_get hr))

theorem attempt_settle (howner : db.users.get key.userId = some user)
    (hcheck : userChecks edited = true) (e : Exc) :
    Write.attempt
      [updateUser key.userId user edited,
        updatePaymentIntent key.intentId intent settled,
        insertCreditTransaction row] db ≠ .error e := by
  rw [Write.attempt_cons_of_none (updateUser_violation howner hcheck),
    Write.attempt_cons_of_none (updatePaymentIntent_violation _ _),
    Write.attempt_cons_of_none rfl, Write.attempt_nil]
  exact fun h => nomatch h

theorem attempt_review (e : Exc) :
    Write.attempt [updatePaymentIntent key.intentId intent settled] db ≠
      .error e := by
  rw [Write.attempt_cons_of_none (updatePaymentIntent_violation _ _),
    Write.attempt_nil]
  exact fun h => nomatch h

/-- The unit of work that settles the intent, done where the view is still the
one before. -/
theorem settle_inside {base : SettlementView} {ends : SettlementView -> Prop}
    {rs : List LockName} {response : PaymentResponse}
    (hstored : base.intent = some intent) (howned : base.owner = some user)
    (hcheck : userChecks user = true -> paymentIntentChecks intent = true ->
      userChecks edited = true)
    (hwrite : intent.write settled intent = settled)
    (hrow : isRowOf key.type key.intentId row = true)
    (hend : ends (base.settled settled edited row)) :
    (settlement key base ends).Inside base base
      ((flushUnit rs
        [updateUser key.userId user edited,
          updatePaymentIntent key.intentId intent settled,
          insertCreditTransaction row]).bind fun _ => ret response) := by
  have howner : forall v, settlementView key v = base ->
      v.users.get key.userId = some user :=
    fun _ hv => (congrArg SettlementView.owner hv).trans howned
  have hintent : forall v, settlementView key v = base ->
      v.paymentIntents.get key.intentId = some intent :=
    fun _ hv => (congrArg SettlementView.intent hv).trans hstored
  have hchecked : forall v, settlementView key v = base ->
      userChecks edited = true :=
    fun v hv => hcheck (Table.check_of_get (howner v hv))
      (Table.check_of_get (hintent v hv))
  apply Discipline.inside_flushUnit_bind
  · intro v _ hv _
    refine ⟨base.settled settled edited row, ?_, ⟨rfl, hend⟩, hend⟩
    intro db hdb
    have hbase : settlementView key db = base := hdb
    have hview := settlementView_settle (howner db hdb) (hchecked db hdb)
      (hintent db hdb) hwrite hrow
    rw [hbase] at hview
    exact hview
  · intro v e hv he
    exact (attempt_settle (howner v hv) (hchecked v hv) e he).elim

end Effects

/-!
# Confirmations
-/

def SettlementView.confirmed (base : SettlementView) (id : Int)
    (intent : PaymentIntent) (user : User) (now : Instant) :
    SettlementView :=
  base.settled (intent.settle .succeeded now)
    { user.clearDiscount with credits := user.credits + intent.creditsAmount }
    (topUpRow id intent (user.credits + intent.creditsAmount))

/-- The view before: the intent is pending, the external id selects it, and its
owner is there. -/
structure Confirmable (key : SettlementKey) (intent : PaymentIntent)
    (user : User) (base : SettlementView) : Prop where
  selected : base.selectedId = some key.intentId
  stored : base.intent = some intent
  pending : intent.status = .pending
  owned : base.owner = some user
  ownerKey : intent.userId = key.userId
  rowType : key.type = .topUp

section Confirmations

variable {key : SettlementKey} {intent : PaymentIntent} {user : User}
  {base : SettlementView}

def confirmations (key : SettlementKey) (intent : PaymentIntent) (user : User)
    (base : SettlementView) :
    Discipline coverAI PaymentResponse SettlementView :=
  settlement key base fun v =>
    exists now, v = base.confirmed key.intentId intent user now

theorem confirmLocked_inside (h : Confirmable key intent user base)
    (now : Instant) :
    (confirmations key intent user base).Inside base base
      ((flushUnit [LockName.user intent.userId, LockName.paymentIntent key.intentId]
        [updateUser intent.userId user { user.clearDiscount with
            credits := user.credits + intent.creditsAmount },
          updatePaymentIntent key.intentId intent (intent.settle .succeeded now),
          insertCreditTransaction (topUpRow key.intentId intent
            (user.credits + intent.creditsAmount))]).bind
        fun _ => ret (paymentResponse key.intentId
          (intent.settle .succeeded now))) := by
  rw [h.ownerKey]
  refine settle_inside h.stored h.owned ?_ (intent.write_settle .succeeded now)
    ?_ ⟨now, rfl⟩
  · intro huser hintent
    rw [userChecks_iff] at huser ⊢
    rw [paymentIntentChecks_iff] at hintent
    simp only [User.clearDiscount]
    omega
  · simp [isRowOf, topUpRow, h.rowType]

theorem first?_of_view {v : Db} {stored : PaymentIntent}
    (hselected : (settlementView key v).selectedId = some key.intentId)
    (hstored : (settlementView key v).intent = some stored) :
    (v.paymentIntents.first? fun i => i.externalId = key.externalId) =
      some (key.intentId, stored) := by
  rcases Option.map_eq_some_iff.mp hselected with ⟨⟨id, found⟩, hfirst, hid⟩
  change id = key.intentId at hid
  rw [hid] at hfirst
  have hget := Table.get_of_first? hfirst
  rw [hfirst, Option.some.inj (hget.symm.trans hstored)]

/-- Before the first commit a delivery finds the pending intent, afterwards the
settled one. -/
theorem confirmPayment_outside (h : Confirmable key intent user base)
    (now : Instant) :
    (confirmations key intent user base).Outside False
      (confirmPayment key.externalId now) := by
  apply outside_select_bind
  intro v hgood
  rcases hgood with hbase | ⟨first, hend⟩
  · rw [first?_of_view (by rw [hbase]; exact h.selected)
      (by rw [hbase]; exact h.stored)]
    simp only [h.pending, reduceCtorEq, if_false]
    rw [confirmLocked, h.ownerKey]
    apply outside_lockedUser_bind
    intro u hgood' hstatus
    rcases hgood' with hbase' | ⟨first, hend'⟩
    · refine ⟨user, (congrArg SettlementView.owner hbase').trans h.owned, ?_⟩
      rw [hbase', ← h.ownerKey]
      exact confirmLocked_inside h now
    · -- the lock is not granted once the intent is settled
      rw [hend', h.stored, Option.map_some, h.pending] at hstatus
      have hsettled : some PaymentStatus.succeeded = some .pending := hstatus
      cases hsettled
  · rw [first?_of_view (by rw [hend]; exact h.selected) (by rw [hend]; rfl)]
    exact Or.inr ⟨first, hend⟩

end Confirmations

/-!
# Refunds
-/

def SettlementView.refunded (base : SettlementView) (id : Int)
    (intent : PaymentIntent) (user : User) (now : Instant) :
    SettlementView :=
  base.settled (intent.settle .refunded now)
    { user with credits := user.credits - intent.creditsAmount }
    (refundRow id intent (user.credits - intent.creditsAmount))

def SettlementView.reviewed (base : SettlementView) (intent : PaymentIntent) :
    SettlementView :=
  { base with intent := some { intent with status := .refundManualReview } }

/-- The view before: the intent is settled and its owner is there. -/
structure Refundable (key : SettlementKey) (intent : PaymentIntent)
    (user : User) (base : SettlementView) : Prop where
  stored : base.intent = some intent
  succeeded : intent.status = .succeeded
  owned : base.owner = some user
  ownerKey : intent.userId = key.userId
  rowType : key.type = .refund

section Refunds

variable {key : SettlementKey} {intent : PaymentIntent} {user : User}
  {base : SettlementView}

/-- The owner's balance decides how the first refund ends. -/
def refunds (key : SettlementKey) (intent : PaymentIntent) (user : User)
    (base : SettlementView) :
    Discipline coverAI PaymentResponse SettlementView :=
  settlement key base fun v =>
    (exists now, v = base.refunded key.intentId intent user now) ∨
      v = base.reviewed intent

theorem refundReview_inside (h : Refundable key intent user base) :
    (refunds key intent user base).Inside base base
      ((flushUnit [LockName.paymentIntent key.intentId]
        [updatePaymentIntent key.intentId intent
          { intent with status := .refundManualReview }]).bind
        fun _ => ret (paymentResponse key.intentId
          { intent with status := .refundManualReview })) := by
  apply Discipline.inside_flushUnit_bind
  · intro v _ hv _
    refine ⟨base.reviewed intent, ?_, ?_⟩
    · intro db hdb
      have hbase : settlementView key db = base := hdb
      have hstored : db.paymentIntents.get key.intentId = some intent :=
        (congrArg SettlementView.intent hbase).trans h.stored
      have hview := settlementView_review hstored intent.write_review
      rw [hbase] at hview
      exact hview
    · exact ⟨⟨rfl, Or.inr rfl⟩, Or.inr rfl⟩
  · intro v e _ he
    exact (attempt_review e he).elim

theorem refundWrite_inside (h : Refundable key intent user base)
    (hcovered : ¬ user.credits < intent.creditsAmount) (now : Instant) :
    (refunds key intent user base).Inside base base
      ((flushUnit
        [LockName.user intent.userId, LockName.paymentIntent key.intentId]
        [updateUser intent.userId user { user with
            credits := user.credits - intent.creditsAmount },
          updatePaymentIntent key.intentId intent (intent.settle .refunded now),
          insertCreditTransaction (refundRow key.intentId intent
            (user.credits - intent.creditsAmount))]).bind
        fun _ => ret (paymentResponse key.intentId
          (intent.settle .refunded now))) := by
  rw [h.ownerKey]
  refine settle_inside h.stored h.owned ?_ (intent.write_settle .refunded now)
    ?_ (Or.inl ⟨now, rfl⟩)
  · intro huser _
    rw [userChecks_iff] at huser ⊢
    simp only
    omega
  · simp [isRowOf, refundRow, h.rowType]

theorem refundPayment_outside (h : Refundable key intent user base)
    (now : Instant) :
    (refunds key intent user base).Outside False
      (refundPayment key.intentId now) := by
  apply outside_select_bind
  intro v hgood
  rcases hgood with hbase | hend
  · have hstored : v.paymentIntents.get key.intentId = some intent :=
      (congrArg SettlementView.intent hbase).trans h.stored
    rw [hstored]
    simp only [h.succeeded, List.mem_cons, true_or, not_true_eq_false, if_false,
      ne_eq]
    rw [refundLocked, h.ownerKey]
    apply outside_lockedUser_bind
    intro u hgood' hstatus
    rcases hgood' with hbase' | ⟨first, hend'⟩ | hend'
    · refine ⟨user, (congrArg SettlementView.owner hbase').trans h.owned, ?_⟩
      rw [hbase']
      split
      · exact refundReview_inside h
      · rename_i hcovered
        rw [← h.ownerKey]
        exact refundWrite_inside h hcovered now
    · rw [hend', h.stored, Option.map_some, h.succeeded] at hstatus
      have hsettled : some PaymentStatus.refunded = some .succeeded := hstatus
      cases hsettled
    · rw [hend', h.stored, Option.map_some, h.succeeded] at hstatus
      have hsettled : some PaymentStatus.refundManualReview =
          some .succeeded := hstatus
      cases hsettled
  · -- a later delivery answers with the status it finds
    have hfinal : (refunds key intent user base).Final (settlementView key v) :=
      hend
    rcases hend with ⟨first, hend⟩ | hend
    · have hstored : v.paymentIntents.get key.intentId =
          some (intent.settle .refunded first) :=
        congrArg SettlementView.intent hend
      rw [hstored]
      exact Or.inr hfinal
    · have hstored : v.paymentIntents.get key.intentId =
          some { intent with status := .refundManualReview } :=
        congrArg SettlementView.intent hend
      rw [hstored]
      exact Or.inr hfinal

end Refunds

/-!
# Runs of deliveries
-/

/-- Deliveries of one request, at any instants; each may be lost before its
commit. -/
def Delivers (request : Instant -> Session PaymentResponse) :
    Act coverAI PaymentResponse -> Prop
  | .start _ p => exists now, p = request now
  | .step _ => True
  | .fail _ e => e = Exc.connectionLost

/-- A delivery that is granted the users row finds the intent in the status in
which it has read it. -/
def StatusKept (intentId userId : Int) (status : PaymentStatus)
    (w : World coverAI PaymentResponse) : Act coverAI PaymentResponse -> Prop
  | .step i =>
      (w.procs i).awaits (LockName.user userId) = true ->
        (w.committed.paymentIntents.get intentId).map PaymentIntent.status =
          some status
  | _ => True

instance (intentId userId : Int) (status : PaymentStatus)
    (w : World coverAI PaymentResponse) (a : Act coverAI PaymentResponse) :
    Decidable (StatusKept intentId userId status w a) :=
  match a with
  | .start _ _ | .fail _ _ => inferInstanceAs (Decidable True)
  | .step i =>
      inferInstanceAs (Decidable
        ((w.procs i).awaits (LockName.user userId) = true ->
          (w.committed.paymentIntents.get intentId).map PaymentIntent.status =
            some status))

/-- The deliveries entered the rows `new`, at most one, and changed the
balance by the amount of each. -/
structure SettledBy (type : CreditTransactionType) (intentId userId amount : Int)
    (s : Store coverAI) (w : World coverAI PaymentResponse)
    (new : List CreditTransaction) : Prop where
  rows : rowsOf type intentId w.committed = rowsOf type intentId s.db ++ new
  once : new.length ≤ 1
  balance : creditsOf w.committed userId =
    (creditsOf s.db userId).map fun credits => credits + amount * new.length
  failures : forall i e, w.procs i = .done (.error e) -> e = Exc.connectionLost

section Runs

variable {key : SettlementKey} {base : SettlementView}
  {ends : SettlementView -> Prop} {request : Instant -> Session PaymentResponse}
  {status : PaymentStatus} {w : World coverAI PaymentResponse}
  {s : Store coverAI}

theorem settlement_admissible
    (hstatus : base.intent.map PaymentIntent.status = some status)
    (houtside : forall now, (settlement key base ends).Outside False (request now))
    {a : Act coverAI PaymentResponse} (hdelivers : Delivers request a)
    (hkept : StatusKept key.intentId key.userId status w a) :
    (settlement key base ends).Admissible w a := by
  cases a with
  | start i p =>
      rcases hdelivers with ⟨now, rfl⟩
      exact houtside now
  | step i =>
      intro own p hproc hawaits
      rw [hstatus]
      apply hkept
      rw [hproc]
      exact hawaits
  | fail i e => exact hdelivers

theorem settlement_kept
    (hstatus : (settlementView key s.db).intent.map PaymentIntent.status =
      some status)
    (houtside : forall now,
      (settlement key (settlementView key s.db) ends).Outside False
        (request now))
    (hrun : World.Reaches
      (fun w a => Delivers request a ∧
        StatusKept key.intentId key.userId status w a)
      (World.init s) w) :
    (settlement key (settlementView key s.db) ends).Kept (World.init s) w :=
  Discipline.kept_of_reaches (Or.inl rfl)
    (hrun.mono fun _ _ h => settlement_admissible hstatus houtside h.left h.right)

theorem creditsOf_eq_of_view {db : Db} {v : SettlementView}
    (h : settlementView key db = v) :
    creditsOf db key.userId = v.owner.map User.credits := by
  rw [← h]
  rfl

theorem rowsOf_eq_of_view {db : Db} {v : SettlementView}
    (h : settlementView key db = v) :
    rowsOf key.type key.intentId db = v.rows := by
  rw [← h]
  rfl

theorem settledBy_nil {amount : Int}
    (hkept : (settlement key (settlementView key s.db) ends).Kept
      (World.init s) w)
    (hrows : rowsOf key.type key.intentId w.committed =
      rowsOf key.type key.intentId s.db)
    (hcredits : creditsOf w.committed key.userId = creditsOf s.db key.userId) :
    SettledBy key.type key.intentId key.userId amount s w [] where
  rows := by rw [hrows, List.append_nil]
  once := Nat.zero_le 1
  balance := by simp [hcredits]
  failures := fun _ _ hdone => hkept.raises_of_error hdone

theorem settledBy_singleton {amount : Int} {user edited : User}
    {settled : PaymentIntent} {row : CreditTransaction}
    (hkept : (settlement key (settlementView key s.db) ends).Kept
      (World.init s) w)
    (howned : s.db.users.get key.userId = some user)
    (hview : settlementView key w.committed =
      (settlementView key s.db).settled settled edited row)
    (hcredits : edited.credits = user.credits + amount) :
    SettledBy key.type key.intentId key.userId amount s w [row] where
  rows := rowsOf_eq_of_view hview
  once := Nat.le_refl 1
  balance := by
    rw [creditsOf_eq_of_view hview, creditsOf, howned]
    simp [SettlementView.settled, hcredits]
  failures := fun _ _ hdone => hkept.raises_of_error hdone

end Runs

theorem confirmations_settle_once {s : Store coverAI} {externalId : String}
    {id : Int} {intent : PaymentIntent} {user : User}
    {w : World coverAI PaymentResponse}
    (hfound : (s.db.paymentIntents.first? fun i => i.externalId = externalId) =
      some (id, intent))
    (hpending : intent.status = .pending)
    (howner : s.db.users.get intent.userId = some user)
    (hrun : World.Reaches
      (fun w a => Delivers (confirmPayment externalId) a ∧
        StatusKept id intent.userId .pending w a)
      (World.init s) w) :
    exists new,
      SettledBy .topUp id intent.userId intent.creditsAmount s w new ∧
        forall i response, w.procs i = .done (.ok response) ->
          new.length = 1 := by
  let key : SettlementKey :=
    { externalId := externalId
      intentId := id
      userId := intent.userId
      type := .topUp }
  have hget : s.db.paymentIntents.get id = some intent :=
    Table.get_of_first? hfound
  have hready : Confirmable key intent user (settlementView key s.db) :=
    { selected := by
        change ((s.db.paymentIntents.first? fun i =>
          i.externalId = externalId).map Prod.fst) = some id
        rw [hfound]
        rfl
      stored := hget
      pending := hpending
      owned := howner
      ownerKey := rfl
      rowType := rfl }
  have hstatus : (settlementView key s.db).intent.map PaymentIntent.status =
      some .pending := by
    rw [hready.stored, Option.map_some, hpending]
  have hkept := settlement_kept hstatus
    (fun now => confirmPayment_outside hready now) hrun
  rcases hkept.good with hbase | ⟨now, hend⟩
  · refine ⟨[], settledBy_nil hkept ?_ ?_, ?_⟩
    · exact congrArg SettlementView.rows hbase
    · exact congrArg (fun v : SettlementView => v.owner.map User.credits) hbase
    · intro i response hdone
      -- a delivery that has ended has seen the settled intent
      rcases hkept.final_of_ok hdone with ⟨now, hend⟩
      have hrows := congrArg (fun v : SettlementView => v.rows.length)
        (hbase.symm.trans hend)
      simp [SettlementView.confirmed, SettlementView.settled] at hrows
  · exact ⟨_, settledBy_singleton hkept howner hend rfl, fun _ _ _ => rfl⟩

theorem refunds_settle_once {s : Store coverAI} {id : Int}
    {intent : PaymentIntent} {user : User} {w : World coverAI PaymentResponse}
    (hfound : s.db.paymentIntents.get id = some intent)
    (hsucceeded : intent.status = .succeeded)
    (howner : s.db.users.get intent.userId = some user)
    (hrun : World.Reaches
      (fun w a => Delivers (refundPayment id) a ∧
        StatusKept id intent.userId .succeeded w a)
      (World.init s) w) :
    exists new,
      SettledBy .refund id intent.userId (-intent.creditsAmount) s w new := by
  let key : SettlementKey :=
    { externalId := intent.externalId
      intentId := id
      userId := intent.userId
      type := .refund }
  have hready : Refundable key intent user (settlementView key s.db) :=
    { stored := hfound
      succeeded := hsucceeded
      owned := howner
      ownerKey := rfl
      rowType := rfl }
  have hstatus : (settlementView key s.db).intent.map PaymentIntent.status =
      some .succeeded := by
    rw [hready.stored, Option.map_some, hsucceeded]
  have hkept := settlement_kept hstatus
    (fun now => refundPayment_outside hready now) hrun
  rcases hkept.good with hbase | ⟨now, hend⟩ | hend
  · exact ⟨[], settledBy_nil hkept (congrArg SettlementView.rows hbase)
      (congrArg (fun v : SettlementView => v.owner.map User.credits) hbase)⟩
  · exact ⟨_, settledBy_singleton hkept howner hend rfl⟩
  · exact ⟨[], settledBy_nil hkept (congrArg SettlementView.rows hend)
      (congrArg (fun v : SettlementView => v.owner.map User.credits) hend)⟩

/-- Where no delivery is granted the users row after the status has changed,
concurrent confirmations of a pending intent credit it once and concurrent
refunds of a settled intent debit it at most once. -/
theorem concurrent_deliveries_settle_once (s : Store coverAI)
    (w : World coverAI PaymentResponse) (id : Int) (intent : PaymentIntent)
    (user : User) (howner : s.db.users.get intent.userId = some user) :
    (forall externalId,
      (s.db.paymentIntents.first? fun i => i.externalId = externalId) =
        some (id, intent) ->
      intent.status = .pending ->
      World.Reaches
        (fun w a => Delivers (confirmPayment externalId) a ∧
          StatusKept id intent.userId .pending w a)
        (World.init s) w ->
      exists new,
        SettledBy .topUp id intent.userId intent.creditsAmount s w new ∧
          forall i response, w.procs i = .done (.ok response) ->
            new.length = 1) ∧
      (s.db.paymentIntents.get id = some intent ->
        intent.status = .succeeded ->
        World.Reaches
          (fun w a => Delivers (refundPayment id) a ∧
            StatusKept id intent.userId .succeeded w a)
          (World.init s) w ->
        exists new,
          SettledBy .refund id intent.userId (-intent.creditsAmount) s w
            new) := by
  constructor
  · intro externalId hfound hpending hrun
    exact confirmations_settle_once hfound hpending howner hrun
  · intro hfound hsucceeded hrun
    exact refunds_settle_once hfound hsucceeded howner hrun

/-!
# Two deliveries of one webhook
-/

def twoDeliveries (request : Instant -> Session PaymentResponse)
    (steps : List Nat) : List (Act coverAI PaymentResponse) :=
  .start 0 (request 1) :: .start 1 (request 1) :: steps.map .step

theorem delivers_of_mem_twoDeliveries
    {request : Instant -> Session PaymentResponse} {steps : List Nat}
    {a : Act coverAI PaymentResponse} (h : a ∈ twoDeliveries request steps) :
    Delivers request a := by
  simp only [twoDeliveries, List.mem_cons, List.mem_map] at h
  rcases h with rfl | rfl | ⟨i, _, rfl⟩
  · exact ⟨1, rfl⟩
  · exact ⟨1, rfl⟩
  · trivial

def sampleIntent : PaymentIntent where
  userId := 1
  creditsAmount := 100
  amountRub := 1000
  discountPercent := 0
  status := .pending
  provider := "mock"
  externalId := "mock_a"
  confirmedAt := none

def readBoth : List Nat := [0, 1, 0, 0, 0, 1, 1, 1]

def readAfterCommit : List Nat := [0, 0, 0, 0, 1, 1]

def refundableStore : Store coverAI :=
  afterRequests createdStore
    [.confirmPayment "mock_a" 1, .grantWelcomeBonus 1 100]

/-- Both deliveries read the status before either is granted the lock: the
intent is credited twice, and a settled one is refunded twice. -/
theorem concurrent_deliveries_settle_twice :
    (exists w,
      World.Reaches (fun _ a => Delivers (confirmPayment "mock_a") a)
          (World.init createdStore) w ∧
        (rowsOf .topUp 1 w.committed).length = 2 ∧
        creditsOf w.committed 1 = some 200) ∧
      exists w,
        World.Reaches (fun _ a => Delivers (refundPayment 1) a)
            (World.init refundableStore) w ∧
          (rowsOf .refund 1 w.committed).length = 2 ∧
          creditsOf w.committed 1 = some 0 := by
  have hconfirm : ((World.init createdStore).runActs
      (twoDeliveries (confirmPayment "mock_a") readBoth)).map
      (fun w => ((rowsOf .topUp 1 w.committed).length,
        creditsOf w.committed 1)) = some (2, some 200) := by
    decide
  have hrefund : ((World.init refundableStore).runActs
      (twoDeliveries (refundPayment 1) readBoth)).map
      (fun w => ((rowsOf .refund 1 w.committed).length,
        creditsOf w.committed 1)) = some (2, some 0) := by
    decide
  rcases Option.map_eq_some_iff.mp hconfirm with ⟨w, hrun, hend⟩
  rcases Option.map_eq_some_iff.mp hrefund with ⟨w', hrun', hend'⟩
  refine ⟨⟨w, ?_, Prod.mk.inj hend⟩, w', ?_, Prod.mk.inj hend'⟩
  · exact World.reaches_of_runActs
      (fun _ ha _ => delivers_of_mem_twoDeliveries ha) hrun
  · exact World.reaches_of_runActs
      (fun _ ha _ => delivers_of_mem_twoDeliveries ha) hrun'

/-- The second delivery reads the status after the first commit. -/
theorem concurrent_deliveries_settle_once_in_order :
    exists w new,
      SettledBy .topUp 1 1 100 createdStore w new ∧ new.length = 1 := by
  have hsteps : (((World.init createdStore).runChecked
      (fun w a => decide (StatusKept 1 1 .pending w a))
      (twoDeliveries (confirmPayment "mock_a") readAfterCommit)).map
      fun w => (w.procs 0).succeeded) = some true := by
    decide
  rcases Option.map_eq_some_iff.mp hsteps with ⟨w, hrun, hend⟩
  have hreach : World.Reaches
      (fun w a => Delivers (confirmPayment "mock_a") a ∧
        StatusKept 1 1 .pending w a) (World.init createdStore) w :=
    World.reaches_of_runChecked
      (fun _ ha _ hkept => ⟨delivers_of_mem_twoDeliveries ha,
        of_decide_eq_true hkept⟩) hrun
  have howner : createdStore.db.users.get 1 = some sampleUser := rfl
  rcases (concurrent_deliveries_settle_once createdStore w 1
    sampleIntent sampleUser howner).left "mock_a" rfl rfl hreach with
    ⟨new, hsettled, hended⟩
  rcases Process.exists_of_succeeded hend with ⟨response, hdone⟩
  exact ⟨w, new, hsettled, hended 0 response hdone⟩

end CoverAI
