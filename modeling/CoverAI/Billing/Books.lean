import CoverAI.Billing.Posting
import Mathlib.Logic.Relation

/-!
# The books of every user balance

The requests that reach the billing tables are executed one at a time, in any
order and with any arguments, from a store without users.  The account of a
user opens with the credits its row was inserted with; the balance column and
the ledger rows are those of that account in every reachable state.
-/

namespace CoverAI

open Txn Program Ledger

/-!
# Requests
-/

inductive BillingRequest where
  | createPayment (userId creditsAmount : Int) (uuidHex : String)
      (now : Instant)
  | confirmPayment (externalId : String) (now : Instant)
  | failPayment (externalId : String) (now : Instant)
  | cancelPayment (externalId : String) (now : Instant)
  | refundPayment (paymentId : Int) (now : Instant)
  | redeemPromo (userId : Int) (code : String) (now : Instant)
  | redeemPromoCode (userId : Int) (code : String)
  | createMockTopUp (userId creditsAmount : Int)
  | adjustBalance (adminId userId amount : Int) (reason : String)
  | grantWelcomeBonus (userId amount : Int)
  | debitGenerationCredits (userId amount generationRequestId : Int)

def BillingRequest.session (env : Env) : BillingRequest -> Session Unit
  | createPayment userId creditsAmount uuidHex now =>
      (CoverAI.createPayment env userId creditsAmount uuidHex now).void
  | confirmPayment externalId now =>
      (CoverAI.confirmPayment externalId now).void
  | failPayment externalId now => (CoverAI.failPayment externalId now).void
  | cancelPayment externalId now => (CoverAI.cancelPayment externalId now).void
  | refundPayment paymentId now => (CoverAI.refundPayment paymentId now).void
  | redeemPromo userId code now =>
      (CoverAI.redeemPromo env userId code now).void
  | redeemPromoCode userId code =>
      (CoverAI.redeemPromoCode env userId code).void
  | createMockTopUp userId creditsAmount =>
      (CoverAI.createMockTopUp env userId creditsAmount).void
  | adjustBalance adminId userId amount reason =>
      (CoverAI.adjustBalance adminId userId amount reason).void
  | grantWelcomeBonus userId amount =>
      (CoverAI.grantWelcomeBonus userId amount).void
  | debitGenerationCredits userId amount generationRequestId =>
      CoverAI.debitGenerationCredits userId amount generationRequestId

theorem KeepsBooks.void {α : Type} {p : Session α} (h : KeepsBooks p) :
    KeepsBooks p.void :=
  fun s => ensures_void (h s)

theorem BillingRequest.session_keepsBooks (env : Env)
    (request : BillingRequest) : KeepsBooks (request.session env) := by
  cases request with
  | createPayment userId creditsAmount uuidHex now =>
      exact (createPayment_keepsBooks env userId creditsAmount uuidHex now).void
  | confirmPayment externalId now =>
      exact (confirmPayment_keepsBooks externalId now).void
  | failPayment externalId now =>
      exact (endPending_keepsBooks .failed externalId now).void
  | cancelPayment externalId now =>
      exact (endPending_keepsBooks .canceled externalId now).void
  | refundPayment paymentId now =>
      exact (refundPayment_keepsBooks paymentId now).void
  | redeemPromo userId code now =>
      exact (redeemPromo_keepsBooks env userId code now).void
  | redeemPromoCode userId code =>
      exact (redeemPromoCode_keepsBooks env userId code).void
  | createMockTopUp userId creditsAmount =>
      exact (createMockTopUp_keepsBooks env userId creditsAmount).void
  | adjustBalance adminId userId amount reason =>
      exact (adjustBalance_keepsBooks adminId userId amount reason).void
  | grantWelcomeBonus userId amount =>
      exact (grantWelcomeBonus_keepsBooks userId amount).void
  | debitGenerationCredits userId amount generationRequestId =>
      exact debitGenerationCredits_keepsBooks userId amount generationRequestId

/-- A session that keeps the books keeps them through its commit or rollback. -/
theorem KeepsBooks.transact {α : Type} {p : Session α} (h : KeepsBooks p)
    (s : Store coverAI) (userId : Int) :
    Posts (booksView userId s.db) (booksView userId (p.transact s).2.db) := by
  rcases ensures_transact (h s) with ⟨_, _, hposts⟩ | ⟨_, _, hdb⟩
  · exact hposts userId
  · rw [hdb]
    exact Posts.keep

/-!
# Accounts behind the view
-/

/-- The view is that of an account whose entries follow the rows
`before`. -/
def Represents (before : List Entry) (account : Account) (v : BooksView) :
    Prop :=
  v.credits = some account.balance ∧ v.entries = before ++ account.entries

theorem represents_openAt {v : BooksView} {credits : Int}
    (h : v.credits = some credits) :
    Represents v.entries (Account.openAt credits) v :=
  ⟨by rw [h, Account.balance_openAt], (List.append_nil _).symm⟩

theorem Represents.posts {before : List Entry} {account : Account}
    {v v' : BooksView} (h : Represents before account v)
    (hposts : Posts v v') :
    exists next : Account, next.opening = account.opening ∧
      Represents before next v' := by
  cases hposts with
  | keep => exact ⟨account, rfl, h⟩
  | @post balance amount hbalance =>
      have heq : account.balance = balance := by
        have hsome := h.left.symm.trans hbalance
        exact Option.some.inj hsome
      refine ⟨account.post amount, rfl, ?_, ?_⟩
      · rw [Account.balance_post, heq, BooksView.post]
      · simp [BooksView.post, h.right, heq]

/-- Any number of postings make up one account. -/
theorem exists_represents_of_path {v v' : BooksView} {credits : Int}
    (hcredits : v.credits = some credits)
    (h : Relation.ReflTransGen Posts v v') :
    exists account : Account, account.opening = credits ∧
      Represents v.entries account v' := by
  induction h with
  | refl => exact ⟨Account.openAt credits, rfl, represents_openAt hcredits⟩
  | tail _ hposts ih =>
      rcases ih with ⟨account, hopening, hrep⟩
      rcases hrep.posts hposts with ⟨next, hnext, hrep'⟩
      exact ⟨next, hnext.trans hopening, hrep'⟩

/-- A user has an account that opened with `opening`; without a users row
there are no ledger rows either. -/
def Booked (opening : Int) (v : BooksView) : Prop :=
  match v.credits with
  | none => v.entries = []
  | some _ => exists account : Account, account.opening = opening ∧
      Represents [] account v

theorem Booked.posts {opening : Int} {v v' : BooksView}
    (h : Booked opening v) (hposts : Posts v v') : Booked opening v' := by
  cases hposts with
  | keep => exact h
  | @post balance amount hbalance =>
      unfold Booked at h
      rw [hbalance] at h
      rcases h with ⟨account, hopening, hrep⟩
      rcases hrep.posts (Posts.post amount hbalance) with ⟨next, hnext, hrep'⟩
      exact ⟨next, hnext.trans hopening, hrep'⟩

theorem booked_openAt {v : BooksView} {credits : Int}
    (hcredits : v.credits = some credits) (hentries : v.entries = []) :
    Booked credits v := by
  unfold Booked
  rw [hcredits]
  have hrep := represents_openAt hcredits
  rw [hentries] at hrep
  exact ⟨Account.openAt credits, rfl, hrep⟩

/-!
# Runs
-/

/-- Serial runs of registrations and requests; `opening` records the
credits each users row was inserted with. -/
inductive LedgerRun (env : Env) : (Int -> Int) -> Store coverAI -> Prop where
  | start {s : Store coverAI} (opening : Int -> Int)
      (husers : s.db.users = Table.empty)
      (hledger : s.db.creditTransactions = []) : LedgerRun env opening s
  | register {opening : Int -> Int} {s s' : Store coverAI} {id : Int}
      (user : User) (h : LedgerRun env opening s)
      (hrun : (createUser user).transact s = (.ok id, s')) :
      LedgerRun env (Function.update opening id user.credits) s'
  | request {opening : Int -> Int} {s : Store coverAI}
      (request : BillingRequest) (h : LedgerRun env opening s) :
      LedgerRun env opening ((request.session env).transact s).2

theorem createUser_ensures (user : User) (s : Store coverAI) :
    (createUser user).Ensures
      (fun id s' => s.db.users.get id = none ∧ userChecks user = true ∧
        s'.db = { s.db with users := s.db.users.insert id user }) s := by
  simp only [createUser, bind_eq, ensures_draw_bind, ensures_flushUnit_bind,
    pure_eq, ensures_ret]
  intro d hd
  rcases Write.attempt_cons_eq_ok.mp hd with ⟨hviolation, _⟩
  rw [Write.applyAll_of_attempt hd]
  simp only [insertUser] at hviolation
  split at hviolation
  · cases hviolation
  · rcases violation_insertInto.mp hviolation with ⟨hnone, hcheck⟩
    exact ⟨hnone, hcheck, rfl⟩

theorem booked_register {opening : Int -> Int} {s s' : Store coverAI}
    {id : Int} {user : User}
    (h : forall userId, Booked (opening userId) (booksView userId s.db))
    (hrun : (createUser user).transact s = (.ok id, s')) (userId : Int) :
    Booked (Function.update opening id user.credits userId)
      (booksView userId s'.db) := by
  rcases ensures_of_run (createUser_ensures user s) (run_of_transact_ok hrun)
    with ⟨hnone, hcheck, hdb⟩
  have hcredits : creditsOf s'.db userId =
      if userId = id then some user.credits else creditsOf s.db userId := by
    rw [creditsOf, hdb, Table.get_insert]
    by_cases heq : userId = id
    · simp [heq, hnone, hcheck]
    · simp [heq, creditsOf]
  have hledger : ledgerOf s'.db userId = ledgerOf s.db userId := by
    rw [ledgerOf, hdb]
    rfl
  by_cases heq : userId = id
  · have hold := h userId
    have hnocredits : creditsOf s.db userId = none := by
      rw [creditsOf, heq, hnone]
      rfl
    simp only [Booked, booksView, hnocredits] at hold
    rw [heq, Function.update_self, ← heq]
    apply booked_openAt
    · change creditsOf s'.db userId = some user.credits
      rw [hcredits, if_pos heq]
    · simp only [booksView, hledger]
      exact hold
  · rw [Function.update_of_ne heq]
    have hview : booksView userId s'.db = booksView userId s.db := by
      simp [booksView, hcredits, heq, hledger]
    rw [hview]
    exact h userId

theorem LedgerRun.booked {env : Env} {opening : Int -> Int}
    {s : Store coverAI} (h : LedgerRun env opening s) (userId : Int) :
    Booked (opening userId) (booksView userId s.db) := by
  induction h generalizing userId with
  | start opening husers hledger =>
      simp [Booked, booksView, creditsOf, ledgerOf, husers, hledger]
  | register user _ hrun ih => exact booked_register ih hrun userId
  | request request _ ih =>
      exact (ih userId).posts
        ((request.session_keepsBooks env).transact _ userId)

/-!
# The ledger invariant
-/

/-- The amounts of ledger rows, summed. -/
def amounts (ts : List CreditTransaction) : Int :=
  (ts.map CreditTransaction.amount).sum

theorem total_map_entry (ts : List CreditTransaction) :
    total (ts.map CreditTransaction.entry) = amounts ts := by
  simp [total, amounts, Function.comp_def, CreditTransaction.entry]

/-- In every reachable state the credits of every user are the opening balance
plus the amounts of the ledger rows, every row carries the balance it led to,
and no balance is negative. -/
theorem ledger_run_balanced {env : Env} {opening : Int -> Int}
    {s : Store coverAI} (h : LedgerRun env opening s) {userId : Int}
    {user : User} (hget : s.db.users.get userId = some user) :
    user.credits = opening userId + amounts (ledgerOf s.db userId) ∧
      (forall k t, (ledgerOf s.db userId)[k]? = some t ->
        t.balanceAfter =
          opening userId + amounts ((ledgerOf s.db userId).take (k + 1))) ∧
      0 ≤ user.credits := by
  have hbooked := h.booked userId
  have hcredits : creditsOf s.db userId = some user.credits := by
    simp [creditsOf, hget]
  simp only [Booked, booksView, hcredits] at hbooked
  rcases hbooked with ⟨account, hopening, hbalance, hentries⟩
  rw [List.nil_append] at hentries
  refine ⟨?_, ?_, ?_⟩
  · have heq : user.credits = account.balance := Option.some.inj hbalance
    rw [heq, Account.balance, hopening, ← hentries, total_map_entry]
  · intro k t ht
    have hentry : account.entries[k]? = some t.entry := by
      rw [← hentries, List.getElem?_map, ht]
      rfl
    have hrunning := account.running k t.entry hentry
    rw [hopening, ← hentries, ← List.map_take, total_map_entry] at hrunning
    exact hrunning
  · have hcheck := (userChecks_iff user).mp (Table.check_of_get hget)
    exact hcheck.left

def emptyStore : Store coverAI where
  db := Db.empty
  seq := fun _ => 1
  out := []

def sampleUser : User where
  telegramId := none
  email := some "user@example.com"
  role := .user
  credits := 0
  pendingTopUpDiscountPercent := 0
  pendingTopUpDiscountValidUntil := none
  pendingTopUpDiscountPromoCodeId := none
  plan := .free

def registeredStore : Store coverAI :=
  ((createUser sampleUser).transact emptyStore).2

def sampleEnv : Env where
  creditPriceRub := 10
  predictionCostCredits := 5
  upper := id
  parseHhVacancyId := fun _ => .ok 7
  buildCoverLetterPrompt := fun _ _ _ _ => .ok "prompt"

def bonusStore : Store coverAI :=
  (((BillingRequest.grantWelcomeBonus 1 5).session sampleEnv).transact
    registeredStore).2

theorem registered_run :
    LedgerRun sampleEnv (Function.update (fun _ => 0) 1 0) registeredStore := by
  have hstart : LedgerRun sampleEnv (fun _ => 0) emptyStore :=
    LedgerRun.start (fun _ => 0) rfl rfl
  exact LedgerRun.register sampleUser hstart rfl

/-- A registration and a welcome bonus. -/
theorem ledger_run_balanced_welcome_bonus :
    bonusStore.db.users.get 1 = some { sampleUser with credits := 5 } ∧
      (5 : Int) = 0 + amounts (ledgerOf bonusStore.db 1) := by
  have hget : bonusStore.db.users.get 1 = some { sampleUser with credits := 5 } :=
    rfl
  have hrun := LedgerRun.request (.grantWelcomeBonus 1 5) registered_run
  exact ⟨hget, (ledger_run_balanced hrun hget).left⟩

end CoverAI
