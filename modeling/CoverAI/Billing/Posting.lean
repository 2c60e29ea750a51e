import CoverAI.Api.Admin
import CoverAI.Api.Payments
import CoverAI.Bot.Runtime
import CoverAI.Ledger.Account
import CoverAI.Workers.Tasks

/-!
# Postings

What the books of a user depend on is the balance column of the users row and
the user's ledger rows, in insertion order.  Every writer of balances, at each
of its normal exits, either leaves this view alone or posts one entry to it.
-/

namespace CoverAI

open Txn Program Ledger

/-!
# The view of one user
-/

def CreditTransaction.entry (t : CreditTransaction) : Entry where
  amount := t.amount
  balanceAfter := t.balanceAfter

def creditsOf (db : Db) (userId : Int) : Option Int :=
  (db.users.get userId).map User.credits

def ledgerOf (db : Db) (userId : Int) : List CreditTransaction :=
  db.creditTransactions.filter fun t => t.userId = userId

structure BooksView where
  credits : Option Int
  entries : List Entry

def booksView (userId : Int) (db : Db) : BooksView where
  credits := creditsOf db userId
  entries := (ledgerOf db userId).map CreditTransaction.entry

theorem booksView_congr {db db' : Db} (husers : db'.users = db.users)
    (hledger : db'.creditTransactions = db.creditTransactions)
    (userId : Int) : booksView userId db' = booksView userId db := by
  simp [booksView, creditsOf, ledgerOf, husers, hledger]

def BooksView.post (v : BooksView) (balance amount : Int) : BooksView where
  credits := some (balance + amount)
  entries := v.entries ++
    [{ amount := amount, balanceAfter := balance + amount }]

/-- One entry is posted to a view, or none. -/
inductive Posts (v : BooksView) : BooksView -> Prop where
  | keep : Posts v v
  | post {balance : Int} (amount : Int) (h : v.credits = some balance) :
      Posts v (v.post balance amount)

theorem Posts.of_eq {v v' : BooksView} (h : v' = v) : Posts v v' :=
  h ▸ Posts.keep

/-!
# Effects of the row writes on the view
-/

theorem ledgerOf_append (db : Db) (userId : Int) (t : CreditTransaction)
    {d : Db} (h : d.creditTransactions = db.creditTransactions ++ [t]) :
    ledgerOf d userId =
      if t.userId = userId then ledgerOf db userId ++ [t]
      else ledgerOf db userId := by
  unfold ledgerOf
  rw [h, List.filter_append]
  by_cases ht : t.userId = userId
  · simp [ht]
  · simp [ht]

theorem creditsOf_of_get {db : Db} {userId : Int} {user : User}
    (h : db.users.get userId = some user) :
    creditsOf db userId = some user.credits := by
  rw [creditsOf, h, Option.map_some]

/-- An update changes each column to the edited value or not at all. -/
theorem userChecks_write {loaded edited current : User}
    (hedited : userChecks edited = true) (hcurrent : userChecks current = true) :
    userChecks (User.write loaded edited current) = true := by
  rw [userChecks_iff] at hedited hcurrent ⊢
  simp only [User.write, changed]
  split <;> split <;> omega

/-- The row may have changed since it was loaded, but not in its balance. -/
theorem creditsOf_update {db d : Db} {owner : Int} {user edited : User}
    (hbalance : creditsOf db owner = some user.credits)
    (hcheck : userChecks edited = true)
    (husers : d.users = db.users.modify owner (User.write user edited))
    (userId : Int) :
    creditsOf d userId =
      if userId = owner then some edited.credits else creditsOf db userId := by
  rcases Option.map_eq_some_iff.mp hbalance with ⟨current, hget, hcredits⟩
  unfold creditsOf
  rw [husers, Table.get_modify]
  split
  · rw [hget, Option.map_some, Table.checkedUpdate_of_check]
    · simp [User.write, hcredits]
    · exact userChecks_write hcheck (Table.check_of_get hget)
  · rfl

/-- Only the owner's view changes. -/
theorem booksView_of_update_other {db d : Db} {owner : Int}
    {f : User -> User} {t : CreditTransaction}
    (husers : d.users = db.users.modify owner f)
    (hledger : d.creditTransactions = db.creditTransactions ++ [t])
    (howner : t.userId = owner) {userId : Int} (huser : userId ≠ owner) :
    booksView userId d = booksView userId db := by
  have hcredits : creditsOf d userId = creditsOf db userId := by
    rw [creditsOf, husers, Table.get_modify_of_ne _ huser, creditsOf]
  have hrows : ledgerOf d userId = ledgerOf db userId := by
    rw [ledgerOf_append db userId t hledger, if_neg]
    rw [howner]
    exact fun h => huser h.symm
  simp [booksView, hcredits, hrows]

/-- The owner's balance changes by the amount of the row that is entered. -/
theorem booksView_of_update {db d : Db} {owner : Int} {user edited : User}
    {t : CreditTransaction} (amount : Int)
    (hbalance : creditsOf db owner = some user.credits)
    (hcheck : userChecks edited = true)
    (hcredits : edited.credits = user.credits + amount)
    (hentry : t.entry =
      { amount := amount, balanceAfter := user.credits + amount })
    (howner : t.userId = owner)
    (husers : d.users = db.users.modify owner (User.write user edited))
    (hledger : d.creditTransactions = db.creditTransactions ++ [t]) :
    booksView owner d = (booksView owner db).post user.credits amount := by
  have hnew : creditsOf d owner = some (user.credits + amount) := by
    rw [creditsOf_update hbalance hcheck husers, if_pos rfl, hcredits]
  unfold booksView BooksView.post
  rw [hnew, ledgerOf_append db owner t hledger, if_pos howner, List.map_append,
    List.map_singleton, hentry]

/-- An update that keeps the balance column. -/
theorem booksView_of_kept_credits {db d : Db} {owner : Int}
    {user edited : User}
    (husers : d.users = db.users.modify owner (User.write user edited))
    (hledger : d.creditTransactions = db.creditTransactions)
    (hcredits : edited.credits = user.credits) (userId : Int) :
    booksView userId d = booksView userId db := by
  have hsame : creditsOf d userId = creditsOf db userId := by
    unfold creditsOf
    rw [husers, Table.get_modify]
    split
    · rename_i h
      rw [h]
      cases hget : db.users.get owner with
      | none => rfl
      | some current =>
          rw [Option.map_some, Option.map_some, Option.map_some,
            Table.checkedUpdate]
          split
          · simp [User.write, hcredits]
          · rfl
    · rfl
  simp [booksView, hsame, ledgerOf, hledger]

theorem posts_of_kept_credits {db d : Db} {owner : Int} {user edited : User}
    (husers : d.users = db.users.modify owner (User.write user edited))
    (hledger : d.creditTransactions = db.creditTransactions)
    (hcredits : edited.credits = user.credits) (userId : Int) :
    Posts (booksView userId db) (booksView userId d) :=
  Posts.of_eq (booksView_of_kept_credits husers hledger hcredits userId)

theorem posts_of_update {db d : Db} {owner : Int} {user edited : User}
    {t : CreditTransaction} (amount : Int) (hget : db.users.get owner = some user)
    (hcheck : userChecks edited = true)
    (hcredits : edited.credits = user.credits + amount)
    (hentry : t.entry =
      { amount := amount, balanceAfter := user.credits + amount })
    (howner : t.userId = owner)
    (husers : d.users = db.users.modify owner (User.write user edited))
    (hledger : d.creditTransactions = db.creditTransactions ++ [t])
    (userId : Int) :
    Posts (booksView userId db) (booksView userId d) := by
  by_cases huser : userId = owner
  · have hbalance := creditsOf_of_get hget
    rw [huser, booksView_of_update amount hbalance hcheck hcredits hentry howner
      husers hledger]
    exact Posts.post amount hbalance
  · apply Posts.of_eq
    exact booksView_of_update_other husers hledger howner huser

/-!
# Reading rules
-/

section Rules

variable {α : Type} {R : α -> Store coverAI -> Prop} {s : Store coverAI}

theorem ensures_select_bind {β : Type} (q : Db -> β) (f : β -> Session α) :
    ((select q).bind f).Ensures R s <-> (f (q s.db)).Ensures R s := Iff.rfl

theorem ensures_selectForUpdate_bind {β : Type} (r : LockName) (q : Db -> β)
    (f : β -> Session α) :
    ((selectForUpdate r q).bind f).Ensures R s <-> (f (q s.db)).Ensures R s :=
  Iff.rfl

theorem ensures_draw_bind (t : SeqName) (f : Int -> Session α) :
    ((draw t : Session Int).bind f).Ensures R s <->
      (f (s.seq t)).Ensures R (s.draw t) := Iff.rfl

theorem ensures_currentUser_bind (userId : Int) (f : User -> Session α) :
    ((currentUser userId).bind f).Ensures R s <->
      forall user, s.db.users.get userId = some user -> (f user).Ensures R s := by
  rw [currentUser, bind_assoc, ensures_select_bind]
  cases s.db.users.get userId with
  | none => simp
  | some user => simp

theorem ensures_lockedUser_bind (held : Option User) (userId : Int)
    (f : User -> Session α) :
    ((lockedUser held userId).bind f).Ensures R s <->
      forall row, s.db.users.get userId = some row ->
        (f (held.getD row)).Ensures R s := by
  rw [lockedUser, bind_assoc, ensures_selectForUpdate_bind]
  cases s.db.users.get userId with
  | none => simp
  | some user => simp

/-- The locked promo is the stored one. -/
theorem ensures_lockPromo_bind {code : String}
    {f : Option (Int × PromoCode) -> Session α}
    (h : forall found,
      (forall id promo, found = some (id, promo) ->
        s.db.promoCodes.get id = some promo) -> (f found).Ensures R s) :
    ((lockPromo code).bind f).Ensures R s := by
  rw [lockPromo, bind_assoc, ensures_select_bind]
  cases s.db.promoCodes.first? (fun p => decide (p.code = code)) with
  | none =>
      rw [ret_bind]
      apply h
      intro id promo heq
      cases heq
  | some entry =>
      rw [ensures_selectForUpdate_bind]
      apply h
      intro id promo heq
      rcases Option.map_eq_some_iff.mp heq with ⟨stored, hget, hpair⟩
      cases hpair
      exact hget

end Rules

/-!
# What each writer posts
-/

/-- A session that posts at most one entry to every user. -/
def KeepsBooks {α : Type} (p : Session α) : Prop :=
  forall s, p.Ensures
    (fun _ s' => forall userId,
      Posts (booksView userId s.db) (booksView userId s'.db)) s

theorem userChecks_of_violation {db : Db} {owner : Int} {user edited : User}
    (hget : db.users.get owner = some user)
    (h : (updateUser owner user edited).violation db = none) :
    userChecks edited = true := by
  have hcheck := violation_updateIn.mp h user hget
  rwa [User.write_loaded] at hcheck

theorem createPayment_keepsBooks (env : Env) (userId creditsAmount : Int)
    (uuidHex : String) (now : Instant) :
    KeepsBooks (createPayment env userId creditsAmount uuidHex now) := by
  intro s
  simp only [createPayment, bind_eq, ensures_currentUser_bind,
    ensures_draw_bind, ensures_flushUnit_bind, pure_eq, ensures_ret]
  intro user _ d hd
  rw [Write.applyAll_of_attempt hd]
  refine posts_of_kept_credits rfl rfl ?_
  split <;> rfl

theorem confirmLocked_keepsBooks (id : Int) (intent : PaymentIntent)
    (now : Instant) : KeepsBooks (confirmLocked id intent now) := by
  intro s
  simp only [confirmLocked, bind_eq, ensures_lockedUser_bind,
    ensures_flushUnit_bind, Option.getD_none, pure_eq, ensures_ret]
  intro user hget d hd
  rcases Write.attempt_cons_eq_ok.mp hd with ⟨huser, _⟩
  have hcheck := userChecks_of_violation hget huser
  rw [Write.applyAll_of_attempt hd]
  exact posts_of_update intent.creditsAmount hget hcheck rfl rfl rfl rfl rfl

theorem confirmPayment_keepsBooks (externalId : String) (now : Instant) :
    KeepsBooks (confirmPayment externalId now) := by
  intro s
  simp only [confirmPayment, paymentByExternalId, bind_eq, ensures_select_bind]
  split
  · exact ensures_raise _ _
  · split
    · rw [pure_eq, ensures_ret]
      exact fun _ => Posts.keep
    · exact confirmLocked_keepsBooks _ _ now s

theorem endPending_keepsBooks (status : PaymentStatus) (externalId : String)
    (now : Instant) : KeepsBooks (endPending status externalId now) := by
  intro s
  simp only [endPending, paymentByExternalId, bind_eq, ensures_select_bind]
  split
  · exact ensures_raise _ _
  · split
    · simp only [ensures_flushUnit_bind, pure_eq, ensures_ret]
      intro d hd userId
      rw [Write.applyAll_of_attempt hd]
      exact Posts.of_eq (booksView_congr rfl rfl userId)
    · rw [pure_eq, ensures_ret]
      exact fun _ => Posts.keep

theorem refundLocked_keepsBooks (id : Int) (intent : PaymentIntent)
    (now : Instant) : KeepsBooks (refundLocked id intent now) := by
  intro s
  simp only [refundLocked, bind_eq, ensures_lockedUser_bind, Option.getD_none]
  intro locked hget
  split
  · simp only [ensures_flushUnit_bind, pure_eq, ensures_ret]
    intro d hd userId
    rw [Write.applyAll_of_attempt hd]
    exact Posts.of_eq (booksView_congr rfl rfl userId)
  · simp only [ensures_flushUnit_bind, pure_eq, ensures_ret]
    intro d hd
    rcases Write.attempt_cons_eq_ok.mp hd with ⟨huser, _⟩
    have hcheck := userChecks_of_violation hget huser
    rw [Write.applyAll_of_attempt hd]
    exact posts_of_update (-intent.creditsAmount) hget hcheck rfl rfl rfl rfl rfl

theorem refundPayment_keepsBooks (paymentId : Int) (now : Instant) :
    KeepsBooks (refundPayment paymentId now) := by
  intro s
  simp only [refundPayment, paymentById, bind_eq, ensures_select_bind]
  split
  · exact ensures_raise _ _
  · split
    · exact ensures_raise _ _
    · split
      · rw [pure_eq, ensures_ret]
        exact fun _ => Posts.keep
      · exact refundLocked_keepsBooks _ _ now s

/-- Alone, the session finds under the lock the row it had loaded. -/
theorem redeemLocked_ensures {userId promoId : Int} {user : User}
    {promo : PromoCode} {s : Store coverAI}
    (hget : s.db.users.get userId = some user) :
    (redeemLocked userId user promoId promo).Ensures
      (fun _ s' => forall id,
        Posts (booksView id s.db) (booksView id s'.db)) s := by
  simp only [redeemLocked, bind_eq, ensures_lockedUser_bind, Option.getD_some]
  intro _ _
  cases promo.type with
  | fixedCredits =>
      simp only [ensures_flushUnit_bind, pure_eq, ensures_ret]
      intro d hd
      rcases Write.attempt_cons_eq_ok.mp hd with ⟨_, hrest⟩
      rcases Write.attempt_cons_eq_ok.mp hrest with ⟨huser, _⟩
      have hcheck := userChecks_of_violation hget huser
      rw [Write.applyAll_of_attempt hd]
      exact posts_of_update promo.value hget hcheck rfl rfl rfl rfl rfl
  | topUpDiscount =>
      simp only [ensures_flushUnit_bind, pure_eq, ensures_ret]
      intro d hd
      rw [Write.applyAll_of_attempt hd]
      exact posts_of_kept_credits rfl rfl rfl

theorem redeemPromo_keepsBooks (env : Env) (userId : Int) (code : String)
    (now : Instant) : KeepsBooks (redeemPromo env userId code now) := by
  intro s
  simp only [redeemPromo, promoByCode, bind_eq, ensures_currentUser_bind]
  intro user hget
  apply ensures_lockPromo_bind
  intro found _
  cases found with
  | none => exact ensures_raise _ _
  | some entry =>
      rcases entry with ⟨promoId, promo⟩
      simp only [promoWasRedeemed, ensures_select_bind]
      split
      · exact ensures_raise _ _
      · split
        · exact ensures_raise _ _
        · exact redeemLocked_ensures hget

theorem adjustBalance_keepsBooks (adminId userId amount : Int)
    (reason : String) :
    KeepsBooks (adjustBalance adminId userId amount reason) := by
  intro s
  simp only [adjustBalance, adminUser, bind_eq, bind_assoc,
    ensures_currentUser_bind]
  intro admin hadmin
  split
  · exact ensures_raise _ _
  · simp only [pure_eq, ret_bind, ensures_lockedUser_bind]
    intro row hget
    have htarget :
        (if userId = adminId then some admin else none).getD row = row := by
      split
      · rename_i h
        rw [h, hadmin] at hget
        simpa using hget
      · rfl
    rw [htarget]
    split
    · exact ensures_raise _ _
    · simp only [ensures_flushUnit_bind, ensures_ret]
      intro d hd
      rcases Write.attempt_cons_eq_ok.mp hd with ⟨huser, _⟩
      have hcheck := userChecks_of_violation hget huser
      rw [Write.applyAll_of_attempt hd]
      exact posts_of_update amount hget hcheck rfl rfl rfl rfl rfl

theorem grantWelcomeBonusRow_keepsBooks (userId amount : Int)
    (description : String) :
    KeepsBooks (grantWelcomeBonusRow userId amount description) := by
  intro s
  simp only [grantWelcomeBonusRow, userForUpdate, bind_eq,
    ensures_selectForUpdate_bind]
  split
  · exact ensures_raise _ _
  · rename_i user hget
    simp only [ensures_flushUnit_bind, pure_eq, ensures_ret]
    intro d hd
    rcases Write.attempt_cons_eq_ok.mp hd with ⟨huser, _⟩
    have hcheck := userChecks_of_violation hget huser
    rw [Write.applyAll_of_attempt hd]
    exact posts_of_update amount hget hcheck rfl rfl rfl rfl rfl

theorem grantWelcomeBonus_keepsBooks (userId amount : Int) :
    KeepsBooks (grantWelcomeBonus userId amount) := by
  intro s
  unfold grantWelcomeBonus
  split
  · exact ensures_raise _ _
  · exact grantWelcomeBonusRow_keepsBooks _ _ _ s

theorem redeemPromoCode_keepsBooks (env : Env) (userId : Int)
    (code : String) : KeepsBooks (redeemPromoCode env userId code) := by
  intro s
  simp only [redeemPromoCode, bind_eq]
  apply ensures_lockPromo_bind
  intro found _
  cases found with
  | none =>
      rw [pure_eq, ensures_ret]
      exact fun _ => Posts.keep
  | some entry =>
      rcases entry with ⟨promoId, promo⟩
      simp only [promoWasRedeemed, ensures_select_bind]
      split
      · rw [pure_eq, ensures_ret]
        exact fun _ => Posts.keep
      · simp only [userForUpdate, ensures_selectForUpdate_bind]
        split
        · rw [pure_eq, ensures_ret]
          exact fun _ => Posts.keep
        · rename_i user hget
          cases promo.type with
          | fixedCredits =>
              simp only [ensures_flushUnit_bind, pure_eq, ensures_ret]
              intro d hd
              rcases Write.attempt_cons_eq_ok.mp hd with ⟨_, hrest⟩
              rcases Write.attempt_cons_eq_ok.mp hrest with ⟨huser, _⟩
              have hcheck := userChecks_of_violation hget huser
              rw [Write.applyAll_of_attempt hd]
              exact posts_of_update promo.value hget hcheck rfl rfl rfl rfl rfl
          | topUpDiscount =>
              simp only [ensures_flushUnit_bind, pure_eq, ensures_ret]
              intro d hd
              rw [Write.applyAll_of_attempt hd]
              exact posts_of_kept_credits rfl rfl rfl

/-- The balance is flushed first and the ledger row with the commit. -/
theorem createMockTopUp_keepsBooks (env : Env) (userId creditsAmount : Int) :
    KeepsBooks (createMockTopUp env userId creditsAmount) := by
  intro s
  simp only [createMockTopUp, userForUpdate, bind_eq,
    ensures_selectForUpdate_bind]
  split
  · rw [pure_eq, ensures_ret]
    exact fun _ => Posts.keep
  · rename_i user hget
    simp only [ensures_draw_bind, ensures_flushUnit_bind, pure_eq, ensures_ret]
    intro d hd d' hd'
    rcases Write.attempt_cons_eq_ok.mp hd with ⟨huser, _⟩
    have hcheck := userChecks_of_violation hget huser
    rw [Write.applyAll_of_attempt hd', Write.applyAll_of_attempt hd]
    exact posts_of_update creditsAmount hget hcheck rfl rfl rfl rfl rfl

theorem debitGenerationCredits_keepsBooks
    (userId amount generationRequestId : Int) :
    KeepsBooks (debitGenerationCredits userId amount generationRequestId) := by
  intro s
  simp only [debitGenerationCredits, userForUpdate, bind_eq,
    ensures_selectForUpdate_bind]
  split
  · exact ensures_raise _ _
  · rename_i user hget
    split
    · exact ensures_raise _ _
    · simp only [ensures_flushUnit]
      intro d hd
      rcases Write.attempt_cons_eq_ok.mp hd with ⟨huser, _⟩
      have hcheck := userChecks_of_violation hget huser
      rw [Write.applyAll_of_attempt hd]
      exact posts_of_update (-amount) hget hcheck rfl rfl rfl rfl rfl

end CoverAI
