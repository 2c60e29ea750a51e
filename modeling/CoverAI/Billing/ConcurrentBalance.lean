import CoverAI.Billing.IntentLifeCycle
import CoverAI.Txn.LockDiscipline

/-!
# Concurrent balance updates of one user

Redemptions, confirmations and debits run interleaved, for any users.  A
confirmation or a debit computes the new balance from the row it reads under the
lock.  A redemption computes it from the row it loaded before; where that
balance is still the committed one when the lock is granted, every critical
section posts one entry to the books.
-/

namespace CoverAI

open Txn Program Ledger

/-- A session that is granted the users row of a user posts to the books of
that user. -/
def postings (userId : Int) : Discipline coverAI Unit BooksView where
  lock := LockName.user userId
  obs := booksView userId
  Good := fun _ => True
  Post := Posts
  Final := fun _ => True
  Raises := fun _ => True
  Grant := fun p v =>
    forall user promoId promo,
      p = (redeemLocked userId user promoId promo).void ->
        promo.type = .fixedCredits -> v.credits = some user.credits
  good_post := fun _ _ => trivial
  final_post := fun _ _ => trivial

namespace Postings

/-!
# Rules
-/

section Rules

variable {userId : Int} {known : Prop}

theorem outside_select_bind {α : Type} {q : Db -> α} {f : α -> Session Unit}
    (h : forall v, (postings userId).Outside True (f (q v))) :
    (postings userId).Outside known ((select q).bind f) := by
  apply Discipline.outside_ask_bind
  intro v _
  exact (h v).mono _ Or.inr

theorem outside_selectForUpdate_bind {α : Type} {r : LockName} {q : Db -> α}
    {f : α -> Session Unit} (hr : r ≠ LockName.user userId)
    (h : forall v, (postings userId).Outside True (f (q v))) :
    (postings userId).Outside known ((selectForUpdate r q).bind f) := by
  apply Discipline.outside_forUpdate_bind _ hr
  intro v _
  exact (h v).mono _ Or.inr

theorem outside_currentUser_bind {id : Int} {f : User -> Session Unit}
    (h : forall user, userChecks user = true ->
      (postings userId).Outside True (f user)) :
    (postings userId).Outside known ((currentUser id).bind f) := by
  rw [currentUser, bind_assoc]
  apply outside_select_bind
  intro v
  cases hget : v.users.get id with
  | none => trivial
  | some user => exact h user (Table.check_of_get hget)

theorem outside_lockPromo_bind {code : String}
    {f : Option (Int × PromoCode) -> Session Unit}
    (h : forall found,
      (forall id promo, found = some (id, promo) ->
        promoCodeChecks promo = true) ->
      (postings userId).Outside True (f found)) :
    (postings userId).Outside known ((lockPromo code).bind f) := by
  rw [lockPromo, bind_assoc]
  apply outside_select_bind
  intro v
  cases v.promoCodes.first? (fun p => decide (p.code = code)) with
  | none =>
      apply h
      intro id promo heq
      cases heq
  | some entry =>
      apply outside_selectForUpdate_bind
      · intro heq
        cases heq
      · intro u
        apply h
        intro id promo heq
        rcases Option.map_eq_some_iff.mp heq with ⟨stored, hget, hpair⟩
        cases hpair
        exact Table.check_of_get hget

/-- The owner's row: the session enters the critical section. -/
theorem outside_lockedUser_bind {held : Option User} {f : User -> Session Unit}
    (h : forall v row, v.users.get userId = some row ->
      (postings userId).Grant ((lockedUser held userId).bind f)
        (booksView userId v) ->
      (postings userId).Inside (booksView userId v) (booksView userId v)
        (f (held.getD row))) :
    (postings userId).Outside known ((lockedUser held userId).bind f) := by
  unfold lockedUser at h ⊢
  rw [bind_assoc] at h ⊢
  apply Discipline.outside_forUpdate_lock_bind
  intro v _ hgrant
  have hv := h v
  cases hget : v.users.get userId with
  | none => trivial
  | some row => exact hv row hget hgrant

theorem outside_lockedUser_bind_other {held : Option User} {id : Int}
    {f : User -> Session Unit} (hid : id ≠ userId)
    (h : forall row, (postings userId).Outside True (f (held.getD row))) :
    (postings userId).Outside known ((lockedUser held id).bind f) := by
  rw [lockedUser, bind_assoc]
  apply outside_selectForUpdate_bind
  · intro heq
    cases heq
    exact hid rfl
  · intro v
    cases v.users.get id with
    | none => trivial
    | some row => exact h row

/-- A unit of work that updates the owner's balance, computed from the one that
is committed, and enters the row for it. -/
theorem inside_post {b : BooksView} {loaded edited : User}
    {t : CreditTransaction} {rs : List LockName} {ws : List (Write coverAI)}
    (amount : Int)
    (husers : forall db : Db, (Write.applyAll ws db).users =
      db.users.modify userId (User.write loaded edited))
    (hledger : forall db : Db, (Write.applyAll ws db).creditTransactions =
      db.creditTransactions ++ [t])
    (hbalance : b.credits = some loaded.credits)
    (hcheck : userChecks edited = true)
    (hcredits : edited.credits = loaded.credits + amount)
    (hentry : t.entry =
      { amount := amount, balanceAfter := loaded.credits + amount })
    (howner : t.userId = userId) :
    (postings userId).Inside b b
      ((flushUnit rs ws).bind fun _ => ret ()) := by
  apply Discipline.inside_flushUnit_bind
  · intro _ _ _ _
    refine ⟨b.post loaded.credits amount, ?_, Posts.post amount hbalance,
      trivial⟩
    intro db hdb
    have hview : booksView userId db = b := hdb
    have hold : creditsOf db userId = some loaded.credits :=
      (congrArg BooksView.credits hview).trans hbalance
    rw [← hview]
    exact booksView_of_update amount hold hcheck hcredits hentry howner
      (husers db) (hledger db)
  · intro _ _ _ _
    trivial

/-- A unit of work that leaves the books of the user alone. -/
theorem inside_keep {b : BooksView} {rs : List LockName}
    {ws : List (Write coverAI)}
    (hsame : forall db : Db,
      booksView userId (Write.applyAll ws db) = booksView userId db) :
    (postings userId).Inside b b
      ((flushUnit rs ws).bind fun _ => ret ()) := by
  apply Discipline.inside_flushUnit_bind
  · intro _ _ _ _
    refine ⟨b, ?_, Posts.keep, trivial⟩
    intro db hdb
    exact (hsame db).trans hdb
  · intro _ _ _ _
    trivial

theorem outside_keep {rs : List LockName} {ws : List (Write coverAI)}
    (hfree : LockName.user userId ∉ rs)
    (hsame : forall db : Db,
      booksView userId (Write.applyAll ws db) = booksView userId db) :
    (postings userId).Outside True
      ((flushUnit rs ws).bind fun _ => ret ()) :=
  Discipline.outside_flushUnit_bind _ hfree hsame trivial fun _ => trivial

end Rules

/-!
# The three sessions
-/

section Sessions

variable {userId : Int} {known : Prop}

theorem outside_confirmLocked {id : Int} {intent : PaymentIntent}
    (hintent : paymentIntentChecks intent = true) (now : Instant) :
    (postings userId).Outside known (confirmLocked id intent now).void := by
  by_cases howner : intent.userId = userId
  · simp only [confirmLocked, void, bind_eq, pure_eq, bind_assoc, ret_bind,
      howner]
    apply outside_lockedUser_bind
    intro v row hget _
    refine inside_post intent.creditsAmount (fun _ => rfl) (fun _ => rfl)
      (creditsOf_of_get hget) ?_ rfl rfl howner
    have hrow := (userChecks_iff row).mp (Table.check_of_get hget)
    have hamount := (paymentIntentChecks_iff intent).mp hintent
    rw [userChecks_iff]
    simp only [Option.getD_none, User.clearDiscount]
    omega
  · simp only [confirmLocked, void, bind_eq, pure_eq, bind_assoc, ret_bind]
    apply outside_lockedUser_bind_other howner
    intro row
    apply outside_keep
    · simp [Ne.symm howner]
    · intro db
      exact booksView_of_update_other rfl rfl rfl (Ne.symm howner)

theorem outside_confirmPayment (externalId : String) (now : Instant) :
    (postings userId).Outside known (confirmPayment externalId now).void := by
  simp only [confirmPayment, paymentByExternalId, void, bind_eq, bind_assoc]
  apply outside_select_bind
  intro v
  split
  · trivial
  · rename_i id intent hfirst
    have hintent := Table.check_of_get (Table.get_of_first? hfirst)
    split
    · trivial
    · exact outside_confirmLocked hintent now

theorem outside_debitGenerationCredits (id amount generationRequestId : Int) :
    (postings userId).Outside known
      (debitGenerationCredits id amount generationRequestId) := by
  by_cases hid : id = userId
  · rw [debitGenerationCredits, hid]
    apply Discipline.outside_forUpdate_lock_bind
    intro v _ _
    cases hget : v.users.get userId with
    | none => trivial
    | some user =>
        simp only
        split
        · trivial
        · rename_i hcovered
          have huser := (userChecks_iff user).mp (Table.check_of_get hget)
          rw [← bind_ret (flushUnit _ _)]
          refine inside_post (-amount) (fun _ => rfl) (fun _ => rfl)
            (creditsOf_of_get hget) ?_ rfl rfl rfl
          rw [userChecks_iff]
          simp only
          omega
  · apply outside_selectForUpdate_bind
    · intro heq
      cases heq
      exact hid rfl
    · intro v
      cases v.users.get id with
      | none => trivial
      | some user =>
          simp only
          split
          · trivial
          · rw [← bind_ret (flushUnit _ _)]
            apply outside_keep
            · simp [Ne.symm hid]
            · intro db
              exact booksView_of_update_other rfl rfl rfl (Ne.symm hid)

/-- The balance the session has loaded is still the committed one when the lock
is granted. -/
theorem outside_redeemLocked_fixedCredits {user : User} {promoId : Int}
    {promo : PromoCode} (huser : userChecks user = true)
    (hpromo : promoCodeChecks promo = true) (htype : promo.type = .fixedCredits) :
    (postings userId).Outside known
      (redeemLocked userId user promoId promo).void := by
  have heq : (redeemLocked userId user promoId promo).void =
      (lockedUser (some user) userId).bind _ := bind_assoc _ _ _
  rw [heq]
  apply outside_lockedUser_bind
  intro v row _ hgrant
  have hbalance := hgrant user promoId promo heq.symm htype
  simp only [Option.getD_some, htype, bind_eq, pure_eq, bind_assoc, ret_bind]
  refine inside_post promo.value (fun _ => rfl) (fun _ => rfl) hbalance ?_ rfl
    rfl rfl
  have hvalue := (promoCodeChecks_iff promo).mp hpromo
  rw [userChecks_iff] at huser ⊢
  simp only
  omega

theorem outside_redeemLocked_topUpDiscount {user : User} {promoId : Int}
    {promo : PromoCode} (htype : promo.type = .topUpDiscount) :
    (postings userId).Outside known
      (redeemLocked userId user promoId promo).void := by
  simp only [redeemLocked, void, bind_eq, pure_eq, bind_assoc]
  apply outside_lockedUser_bind
  intro v row _ _
  simp only [Option.getD_some, htype, bind_assoc, ret_bind]
  apply inside_keep
  intro db
  apply booksView_of_kept_credits
  · rfl
  · rfl
  · rfl

theorem outside_redeemLocked_other {id promoId : Int} {user : User}
    {promo : PromoCode} (hid : id ≠ userId) :
    (postings userId).Outside known
      (redeemLocked id user promoId promo).void := by
  simp only [redeemLocked, void, bind_eq, pure_eq, bind_assoc]
  apply outside_lockedUser_bind_other hid
  intro row
  cases promo.type with
  | fixedCredits =>
      simp only [bind_assoc, ret_bind]
      apply outside_keep
      · simp [Ne.symm hid]
      · intro db
        exact booksView_of_update_other rfl rfl rfl (Ne.symm hid)
  | topUpDiscount =>
      simp only [bind_assoc, ret_bind]
      apply outside_keep
      · simp [Ne.symm hid]
      · intro db
        apply booksView_of_kept_credits
        · rfl
        · rfl
        · rfl

theorem outside_redeemPromo (env : Env) (id : Int) (code : String)
    (now : Instant) :
    (postings userId).Outside known (redeemPromo env id code now).void := by
  simp only [redeemPromo, promoByCode, promoWasRedeemed, void, bind_eq,
    bind_assoc]
  apply outside_currentUser_bind
  intro user huser
  apply outside_lockPromo_bind
  intro found hfound
  cases found with
  | none => trivial
  | some entry =>
      rcases entry with ⟨promoId, promo⟩
      have hpromo := hfound promoId promo rfl
      simp only [bind_assoc]
      apply outside_select_bind
      intro v
      split
      · trivial
      · split
        · trivial
        · by_cases hid : id = userId
          · subst hid
            cases htype : promo.type with
            | fixedCredits =>
                exact outside_redeemLocked_fixedCredits huser hpromo htype
            | topUpDiscount => exact outside_redeemLocked_topUpDiscount htype
          · exact outside_redeemLocked_other hid

end Sessions

end Postings

/-!
# Runs
-/

def ChangesBalance (env : Env) : Act coverAI Unit -> Prop
  | .start _ p =>
      (exists userId code now, p = (redeemPromo env userId code now).void) ∨
        (exists externalId now, p = (confirmPayment externalId now).void) ∨
        exists userId amount generationRequestId,
          p = debitGenerationCredits userId amount generationRequestId
  | .step _ => True
  | .fail _ _ => True

/-- A redemption of credits that is granted the users row has loaded the
committed balance. -/
def LoadedBalanceKept (userId : Int) (w : World coverAI Unit) :
    Act coverAI Unit -> Prop
  | .step i =>
      forall own user promoId promo,
        w.procs i =
            .running own (redeemLocked userId user promoId promo).void ->
          promo.type = .fixedCredits ->
          creditsOf w.committed userId = some user.credits
  | _ => True

theorem postings_admissible {env : Env} {userId : Int}
    {w : World coverAI Unit} {a : Act coverAI Unit}
    (hchanges : ChangesBalance env a) (hkept : LoadedBalanceKept userId w a) :
    (postings userId).Admissible w a := by
  cases a with
  | start i p =>
      rcases hchanges with ⟨id, code, now, rfl⟩ | ⟨externalId, now, rfl⟩ |
        ⟨id, amount, requestId, rfl⟩
      · exact Postings.outside_redeemPromo env id code now
      · exact Postings.outside_confirmPayment externalId now
      · exact Postings.outside_debitGenerationCredits id amount requestId
  | step i =>
      intro own p hproc user promoId promo hp htype
      exact hkept own user promoId promo (hp ▸ hproc) htype
  | fail i e => trivial

/-- Every interleaving of redemptions, confirmations and debits leaves a
balance that is the one before plus the amounts entered since, and each entry
carries the balance it led to. -/
theorem concurrent_requests_balanced {env : Env} {userId credits : Int}
    {s : Store coverAI} {w : World coverAI Unit}
    (hcredits : creditsOf s.db userId = some credits)
    (hrun : World.Reaches
      (fun w a => ChangesBalance env a ∧ LoadedBalanceKept userId w a)
      (World.init s) w) :
    exists new : List Entry,
      (booksView userId w.committed).entries =
          (booksView userId s.db).entries ++ new ∧
        creditsOf w.committed userId = some (credits + total new) ∧
        Running credits new := by
  have hkept : (postings userId).Kept (World.init s) w :=
    Discipline.kept_of_reaches trivial
      (hrun.mono fun _ _ h => postings_admissible h.left h.right)
  rcases exists_represents_of_path hcredits hkept.path with
    ⟨account, hopening, hbalance, hentries⟩
  refine ⟨account.entries, hentries, ?_, ?_⟩
  · rw [← hopening]
    exact hbalance
  · rw [← hopening]
    exact account.running

/-!
# A redemption beside a confirmation
-/

def samplePromo : PromoCode where
  code := "WELCOME"
  type := .fixedCredits
  value := 10
  validUntil := 100
  maxActivations := 5
  activationsCount := 0
  isActive := true

def promoStore : Store coverAI :=
  createdStore.setDb { createdStore.db with
    promoCodes := createdStore.db.promoCodes.insert 1 samplePromo }

def sampleRedemption : Session Unit :=
  (redeemPromo sampleEnv 1 "WELCOME" 5).void

def sampleConfirmation : Session Unit :=
  (confirmPayment "mock_a" 5).void

/-- The redemption loads the user, the confirmation runs from its start to its
commit, and the redemption goes on with the balance it has loaded: the
credits of the confirmation are lost. -/
theorem redemption_overwrites_confirmation :
    exists w : World coverAI Unit,
      World.Reaches (fun _ a => ChangesBalance sampleEnv a)
          (World.init promoStore) w ∧
        (w.procs 0).succeeded = true ∧ (w.procs 1).succeeded = true ∧
        creditsOf promoStore.db 1 = some 0 ∧
        creditsOf w.committed 1 = some 10 ∧
        (booksView 1 promoStore.db).entries = [] ∧
        total (booksView 1 w.committed).entries = 110 := by
  have hends : ((World.init promoStore).runActs
      (.start 0 sampleRedemption :: .step 0 :: .start 1 sampleConfirmation ::
        ([1, 1, 1, 1, 0, 0, 0, 0, 0, 0].map Act.step))).map
      (fun w => ((w.procs 0).succeeded, (w.procs 1).succeeded,
        creditsOf w.committed 1, total (booksView 1 w.committed).entries)) =
      some (true, true, some 10, 110) := by
    decide
  rcases Option.map_eq_some_iff.mp hends with ⟨w, hrun, hend⟩
  simp only [Prod.mk.injEq] at hend
  refine ⟨w, World.reaches_of_runActs ?_ hrun, hend.left, hend.right.left, rfl,
    hend.right.right.left, rfl, hend.right.right.right⟩
  intro a ha _
  simp only [List.mem_cons, List.mem_map] at ha
  rcases ha with rfl | rfl | rfl | ⟨i, _, rfl⟩
  · exact Or.inl ⟨1, "WELCOME", 5, rfl⟩
  · trivial
  · exact Or.inr (Or.inl ⟨"mock_a", 5, rfl⟩)
  · trivial

/-!
# A redemption that overtakes the confirmation
-/

/-- The writes of a session that is granted the lock it waits for and finds
`v`. -/
def writesOnGrant (v : Db) : Session Unit -> List (Write coverAI)
  | .lock _ k =>
      match k v with
      | .flush _ ws _ => ws
      | _ => []
  | _ => []

/-- The ledger rows among these writes. -/
def postsOnGrant (v : Db) (p : Session Unit) : List CreditTransaction :=
  (Write.applyAll (writesOnGrant v p)
    { v with creditTransactions := [] }).creditTransactions

theorem postsOnGrant_redeemLocked {userId promoId : Int} {user row : User}
    {promo : PromoCode} {v : Db} (hget : v.users.get userId = some row)
    (htype : promo.type = .fixedCredits) :
    postsOnGrant v (redeemLocked userId user promoId promo).void =
      [promoRow userId promoId promo (user.credits + promo.value)
        ("Promo code " ++ promo.code)] := by
  simp only [postsOnGrant, redeemLocked, lockedUser, selectForUpdate, forUpdate,
    void, bind_eq, bind_assoc, lock_bind, ret_bind, writesOnGrant, hget,
    Option.getD_some, htype, flushUnit, flush_bind, Write.applyAll_cons,
    Write.applyAll_nil, updatePromoCode_apply, updateUser_apply,
    insertPromoRedemption_apply, insertCreditTransaction_apply, List.nil_append]

/-- The rows that a granted session adds were computed from the balance that is
committed. -/
def postsFromBalance (userId : Int) (w : World coverAI Unit) :
    Act coverAI Unit -> Bool
  | .step i =>
      match w.procs i with
      | .running _ p =>
          (w.committed.users.get userId).any fun row =>
            (postsOnGrant w.committed p).all fun t =>
              t.balanceAfter = row.credits + t.amount
      | _ => true
  | _ => true

theorem loadedBalanceKept_of_postsFromBalance {userId : Int}
    {w : World coverAI Unit} {a : Act coverAI Unit}
    (h : postsFromBalance userId w a = true) : LoadedBalanceKept userId w a := by
  cases a with
  | start i p => trivial
  | step i =>
      intro own user promoId promo hproc htype
      simp only [postsFromBalance, hproc, Option.any_eq_true] at h
      rcases h with ⟨row, hget, hposts⟩
      rw [postsOnGrant_redeemLocked hget htype] at hposts
      have hbalance : user.credits + promo.value = row.credits + promo.value :=
        of_decide_eq_true (List.all_eq_true.mp hposts _ List.mem_cons_self)
      rw [creditsOf, hget, Option.map_some, add_right_cancel hbalance]
  | fail i e => trivial

/-- Both have started when the redemption is granted the users row; the
confirmation waits for it and goes on from the balance it finds then. -/
def overlappingSteps : List (Act coverAI Unit) :=
  .start 0 sampleRedemption :: .start 1 sampleConfirmation ::
    [0, 1, 0, 0, 0, 0, 0, 0, 1, 1, 1].map .step

theorem concurrent_requests_balanced_overlapping :
    exists w : World coverAI Unit,
      (w.procs 0).succeeded = true ∧ (w.procs 1).succeeded = true ∧
        creditsOf w.committed 1 = some 110 ∧
        exists new : List Entry,
          (booksView 1 w.committed).entries =
              (booksView 1 promoStore.db).entries ++ new ∧
            creditsOf w.committed 1 = some (0 + total new) ∧
            Running 0 new := by
  have hends : ((World.init promoStore).runChecked (postsFromBalance 1)
      overlappingSteps).map (fun w => ((w.procs 0).succeeded,
        (w.procs 1).succeeded, creditsOf w.committed 1)) =
      some (true, true, some 110) := by
    decide
  rcases Option.map_eq_some_iff.mp hends with ⟨w, hrun, hend⟩
  simp only [Prod.mk.injEq] at hend
  have hreaches : World.Reaches
      (fun w a => ChangesBalance sampleEnv a ∧ LoadedBalanceKept 1 w a)
      (World.init promoStore) w := by
    refine World.reaches_of_runChecked ?_ hrun
    intro a ha u hposts
    refine ⟨?_, loadedBalanceKept_of_postsFromBalance hposts⟩
    simp only [overlappingSteps, List.mem_cons, List.mem_map] at ha
    rcases ha with hredemption | hconfirmation | ⟨i, _, hstep⟩
    · rw [hredemption]
      exact Or.inl ⟨1, "WELCOME", 5, rfl⟩
    · rw [hconfirmation]
      exact Or.inr (Or.inl ⟨"mock_a", 5, rfl⟩)
    · rw [← hstep]
      trivial
  exact ⟨w, hend.left, hend.right.left, hend.right.right,
    concurrent_requests_balanced rfl hreaches⟩

end CoverAI
