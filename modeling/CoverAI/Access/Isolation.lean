import CoverAI.Api.Analytics
import CoverAI.Api.Billing
import CoverAI.Billing.Subscriptions
import CoverAI.Billing.Books
import CoverAI.Services.Generation
import CoverAI.Services.History
import CoverAI.Txn.Relational

/-!
# Reads of one user

A read path answers its caller from rows of several tables.  Two databases that
hold the same rows of the caller may differ in all other rows; the paths are
compared on the two, query by query.
-/

namespace CoverAI

open Txn Program

/-- The rows of one user are the same.  Those of the ledger are also in the
same order, since its listing breaks ties by it. -/
structure SameRows (userId : Int) (stamps stamps' : Stamps) (db db' : Db) :
    Prop where
  user : db.users.get userId = db'.users.get userId
  requests : Table.AgreeOn (fun r => r.userId = userId) db.generationRequests
    db'.generationRequests
  letters : Table.AgreeOn (fun l => l.userId = userId) db.coverLetters
    db'.coverLetters
  subscriptions : Table.AgreeOn (fun r => r.userId = userId) db.subscriptions
    db'.subscriptions
  transactions :
    (stampedTransactions stamps db).filter (fun e => e.2.userId = userId) =
      (stampedTransactions stamps' db').filter fun e => e.2.userId = userId

/-!
# Queries
-/

section Queries

variable {userId : Int} {stamps stamps' : Stamps} {db db' : Db}

theorem SameRows.requestForUser (h : SameRows userId stamps stamps' db db')
    (requestId : Int) :
    (db.generationRequests.get requestId).filter (fun r => r.userId = userId) =
      (db'.generationRequests.get requestId).filter fun r =>
        r.userId = userId :=
  h.requests.filter_get requestId

theorem SameRows.letter (h : SameRows userId stamps stamps' db db')
    (letterId : Int) :
    (db.coverLetters.get letterId).filter (fun l => l.userId = userId) =
      (db'.coverLetters.get letterId).filter fun l => l.userId = userId :=
  h.letters.filter_get letterId

theorem SameRows.countRequests (h : SameRows userId stamps stamps' db db')
    {q : GenerationRequest -> Bool}
    (hq : forall r, q r = true -> r.userId = userId) :
    db.generationRequests.count q = db'.generationRequests.count q :=
  Table.agreeOn_count h.requests fun r hr => decide_eq_true (hq r hr)

/-- The order of the rows in which the current subscription comes first. -/
def ExpiresLater (x y : Int × Subscription) : Prop :=
  y.2.expiresAt < x.2.expiresAt ∨
    (y.2.expiresAt = x.2.expiresAt ∧ y.1 < x.1)

theorem laterSubscription_some (old entry : Int × Subscription) :
    (ExpiresLater entry old ∧
      laterSubscription (some old) entry = some entry) ∨
    (¬ ExpiresLater entry old ∧
      laterSubscription (some old) entry = some old) := by
  simp only [laterSubscription]
  by_cases h : ExpiresLater entry old
  · exact Or.inl ⟨h, if_pos h⟩
  · exact Or.inr ⟨h, if_neg h⟩

theorem ExpiresLater.trans {x y z : Int × Subscription}
    (hxy : ExpiresLater x y) (hyz : ExpiresLater y z) : ExpiresLater x z := by
  unfold ExpiresLater Instant at *
  omega

theorem ExpiresLater.not_symm {x y : Int × Subscription}
    (h : ExpiresLater x y) : ¬ ExpiresLater y x := by
  unfold ExpiresLater Instant at *
  omega

theorem ExpiresLater.of_not {x y : Int × Subscription} (hkey : x.1 ≠ y.1)
    (h : ¬ ExpiresLater x y) : ExpiresLater y x := by
  unfold ExpiresLater Instant at *
  omega

/-- The later of two rows does not depend on which is met first. -/
theorem laterSubscription_comm {x y : Int × Subscription} (hkey : x.1 ≠ y.1)
    (best : Option (Int × Subscription)) :
    laterSubscription (laterSubscription best x) y =
      laterSubscription (laterSubscription best y) x := by
  have hpair : laterSubscription (some x) y = laterSubscription (some y) x := by
    rcases laterSubscription_some x y with ⟨hyx, hy⟩ | ⟨hyx, hy⟩
    · rcases laterSubscription_some y x with ⟨hxy, _⟩ | ⟨_, hx⟩
      · exact absurd hxy hyx.not_symm
      · rw [hy, hx]
    · rcases laterSubscription_some y x with ⟨_, hx⟩ | ⟨hxy, _⟩
      · rw [hy, hx]
      · exact absurd (ExpiresLater.of_not (Ne.symm hkey) hyx) hxy
  cases best with
  | none => exact hpair
  | some z =>
      rcases laterSubscription_some z x with ⟨hxz, hx⟩ | ⟨hxz, hx⟩
      · rcases laterSubscription_some z y with ⟨_, hy⟩ | ⟨hyz, hy⟩
        · rw [hx, hy]
          exact hpair
        · rw [hx, hy, hx]
          rcases laterSubscription_some x y with ⟨hyx, _⟩ | ⟨_, hxy⟩
          · exact absurd (hyx.trans hxz) hyz
          · exact hxy
      · rcases laterSubscription_some z y with ⟨hyz, hy⟩ | ⟨_, hy⟩
        · rw [hx, hy]
          rcases laterSubscription_some y x with ⟨hxy, _⟩ | ⟨_, hyx⟩
          · exact absurd (hxy.trans hyz) hxz
          · exact hyx.symm
        · rw [hx, hy, hx]

theorem SameRows.latestActive (h : SameRows userId stamps stamps' db db') :
    latestActive userId db = CoverAI.latestActive userId db' := by
  have hperm : (db.subscriptions.rows.filter fun entry =>
      entry.2.userId = userId && entry.2.status = .active).Perm _ :=
    Table.agreeOn_perm h.subscriptions
      (q := fun r => r.userId = userId && r.status = .active)
      fun r hr => (Bool.and_eq_true_iff.mp hr).left
  apply hperm.foldl_eq'
  intro entry hr entry' hr' best
  rcases entry with ⟨id, r⟩
  rcases entry' with ⟨id', r'⟩
  by_cases hid : id = id'
  · subst hid
    have hstored := (mem_active_iff.mp hr).stored
    cases hstored.symm.trans (mem_active_iff.mp hr').stored
    rfl
  · exact laterSubscription_comm hid best

/-- The listing of letters is sorted by a key that no two letters share. -/
theorem SameRows.listedLetters (h : SameRows userId stamps stamps' db db')
    (since : Option Instant) :
    (db.coverLetters.rows.filter fun entry =>
      listedSince userId since entry.2).mergeSort newerLetter =
    (db'.coverLetters.rows.filter fun entry =>
      listedSince userId since entry.2).mergeSort newerLetter := by
  have hperm := Table.agreeOn_perm h.letters
    (q := listedSince userId since) fun l hl =>
      (Bool.and_eq_true_iff.mp hl).left
  have hsorted : forall ls : List (Int × CoverLetter),
      (ls.mergeSort newerLetter).Pairwise fun a b => newerLetter a b := by
    apply List.pairwise_mergeSort
    · intro a b c hab hbc
      simp only [newerLetter, Instant, Bool.or_eq_true, Bool.and_eq_true,
        decide_eq_true_eq] at hab hbc ⊢
      omega
    · intro a b
      simp only [newerLetter, Instant, Bool.or_eq_true, Bool.and_eq_true,
        decide_eq_true_eq]
      omega
  refine List.Perm.eq_of_pairwise ?_ (hsorted _) (hsorted _)
    ((List.mergeSort_perm _ _).trans
      (hperm.trans (List.mergeSort_perm _ _).symm))
  intro entry entry' hl hl' hle hge
  rcases entry with ⟨id, l⟩
  rcases entry' with ⟨id', l'⟩
  have hstored := Table.get_of_mem
    (List.mem_of_mem_filter (List.mem_mergeSort.mp hl))
  have hstored' := Table.get_of_mem (List.mem_of_mem_filter
    (hperm.mem_iff.mpr (List.mem_mergeSort.mp hl')))
  have hid : id = id' := by
    simp only [newerLetter, Instant, Bool.or_eq_true, Bool.and_eq_true,
      decide_eq_true_eq] at hle hge
    omega
  subst hid
  cases hstored.symm.trans hstored'
  rfl

theorem SameRows.listedTransactions
    (h : SameRows userId stamps stamps' db db') :
    ((stampedTransactions stamps db).filter fun entry =>
      entry.2.userId = userId).mergeSort newerTransaction =
    ((stampedTransactions stamps' db').filter fun entry =>
      entry.2.userId = userId).mergeSort newerTransaction := by
  rw [h.transactions]

theorem map_snd_stampedTransactions (stamps : Stamps) (db : Db) :
    (stampedTransactions stamps db).map Prod.snd = db.creditTransactions := by
  apply List.ext_getElem?
  intro n
  simp [stampedTransactions, Option.map_map, Function.comp_def]

/-- What is asked of the ledger without the columns of the listing. -/
theorem SameRows.ledgerRows (h : SameRows userId stamps stamps' db db')
    {q : CreditTransaction -> Bool}
    (hq : forall t, q t = true -> t.userId = userId) :
    db.creditTransactions.filter q = db'.creditTransactions.filter q := by
  have hrows : forall (sts : Stamps) (d : Db),
      d.creditTransactions.filter q =
        (((stampedTransactions sts d).filter fun e =>
          e.2.userId = userId).filter fun e => q e.2).map Prod.snd := by
    intro sts d
    rw [List.filter_filter, ← map_snd_stampedTransactions sts d,
      List.filter_map]
    congr 1
    apply List.filter_congr
    intro e _
    cases hqe : q e.2 with
    | false => simp [hqe]
    | true => simp [hqe, hq e.2 hqe]
  rw [hrows stamps db, hrows stamps' db', h.transactions]

end Queries

/-!
# Read paths
-/

section Paths

variable {userId : Int} {stamps stamps' : Stamps}

theorem userById_sameReads (held : Option User) :
    (userById held userId).SameReads (SameRows userId stamps stamps')
      (userById held userId) := by
  cases held with
  | none => exact sameReads_ask fun _ _ h => h.user
  | some user => exact SameReads.ret _

theorem currentUser_sameReads :
    (currentUser userId).SameReads (SameRows userId stamps stamps')
      (currentUser userId) := by
  apply sameReads_bind (sameReads_ask fun _ _ h => h.user)
  intro found
  cases found with
  | none => exact SameReads.raise _
  | some user => exact SameReads.ret _

/-- The request that is asked for may go by another id. -/
theorem getRequestForUser_sameReads {R : Db -> Db -> Prop}
    {requestId requestId' : Int}
    (h : forall db db' : Db, R db db' ->
      (db.generationRequests.get requestId).filter
          (fun r => r.userId = userId) =
        (db'.generationRequests.get requestId').filter fun r =>
          r.userId = userId) :
    (getRequestForUser requestId userId).SameReads R
      (getRequestForUser requestId' userId) := by
  apply sameReads_bind (sameReads_ask h)
  intro found
  cases found with
  | none => exact SameReads.raise _
  | some request => exact SameReads.ret _

theorem historyCutoff_sameReads (held : Option User) (now : Instant) :
    (historyCutoff held userId now).SameReads (SameRows userId stamps stamps')
      (historyCutoff held userId now) := by
  apply sameReads_bind (userById_sameReads held)
  intro found
  cases found with
  | none => exact SameReads.raise _
  | some user =>
      cases hplan : user.plan with
      | free =>
          simp only [hplan]
          exact SameReads.raise _
      | standard =>
          simp only [hplan]
          exact SameReads.ret _
      | pro =>
          simp only [hplan]
          exact SameReads.ret _

theorem listHistory_sameReads (held : Option User) (now : Instant)
    (limit : Int) :
    (listHistory held userId now limit).SameReads
      (SameRows userId stamps stamps')
      (listHistory held userId now limit) := by
  apply sameReads_bind (historyCutoff_sameReads held now)
  intro cutoff
  apply sameReads_bind
  · unfold listByUserIdSince
    split
    · exact SameReads.raise _
    · exact sameReads_ask fun _ _ h => by rw [h.listedLetters cutoff]
  · exact fun _ => SameReads.ret _

/-- The letter that is asked for may go by another id. -/
theorem getLetter_sameReads {R : Db -> Db -> Prop} {letterId letterId' : Int}
    (hrows : forall db db', R db db' -> SameRows userId stamps stamps' db db')
    (h : forall db db' : Db, R db db' ->
      (db.coverLetters.get letterId).filter (fun l => l.userId = userId) =
        (db'.coverLetters.get letterId').filter fun l => l.userId = userId)
    (held : Option User) (now : Instant) :
    (getLetter held userId letterId now).SameReads R
      (getLetter held userId letterId' now) := by
  apply sameReads_bind
    (sameReads_mono (historyCutoff_sameReads held now) hrows)
  intro cutoff
  apply SameReads.read
  intro db db' hdb
  change (letterOf userId cutoff _).SameReads R (letterOf userId cutoff _)
  rw [← letterOf_filter, ← letterOf_filter userId cutoff
    (db'.coverLetters.get letterId'), h db db' hdb]
  cases (db'.coverLetters.get letterId').filter (fun l => l.userId = userId) with
  | none => exact SameReads.raise _
  | some letter =>
      simp only [letterOf]
      split_ifs
      · exact SameReads.raise _
      · exact SameReads.raise _
      · exact SameReads.ret _

theorem getPlanUsage_sameReads (held : Option User) (now : Instant) :
    (getPlanUsage held userId now).SameReads (SameRows userId stamps stamps')
      (getPlanUsage held userId now) := by
  apply sameReads_bind (userById_sameReads held)
  intro found
  cases found with
  | none => exact SameReads.raise _
  | some user =>
      apply sameReads_bind (sameReads_ask fun _ _ h => h.latestActive)
      intro subscription
      cases (planLimits user.plan).limit with
      | none => exact SameReads.ret _
      | some limit =>
          apply sameReads_bind
          · apply sameReads_ask
            intro db db' h
            apply h.countRequests
            intro r hr
            simp only [countsSince, Bool.and_eq_true, decide_eq_true_eq] at hr
            exact hr.left.left
          · exact fun _ => SameReads.ret _

theorem countRequests_sameReads (status : Option GenerationStatus) :
    (countRequests userId status).SameReads (SameRows userId stamps stamps')
      (countRequests userId status) := by
  apply sameReads_ask
  intro db db' h
  apply h.countRequests
  intro r hr
  rw [Bool.and_eq_true, decide_eq_true_eq] at hr
  exact hr.left

theorem sumTransactions_sameReads (type : CreditTransactionType) :
    (sumTransactions userId type).SameReads (SameRows userId stamps stamps')
      (sumTransactions userId type) := by
  apply sameReads_ask
  intro db db' h
  rw [h.ledgerRows]
  intro t ht
  rw [Bool.and_eq_true, decide_eq_true_eq] at ht
  exact ht.left

theorem analytics_sameReads :
    (analytics userId).SameReads (SameRows userId stamps stamps')
      (analytics userId) := by
  apply sameReads_bind currentUser_sameReads
  intro _
  apply sameReads_bind (countRequests_sameReads _)
  intro total
  apply sameReads_bind (countRequests_sameReads _)
  intro succeeded
  apply sameReads_bind (countRequests_sameReads _)
  intro failed
  apply sameReads_bind (sumTransactions_sameReads _)
  exact fun spent => SameReads.ret _

theorem transactions_sameReads :
    (transactions stamps userId).SameReads (SameRows userId stamps stamps')
      (transactions stamps' userId) := by
  apply sameReads_bind currentUser_sameReads
  intro _
  apply sameReads_bind (sameReads_ask fun _ _ h => h.listedTransactions)
  exact fun rows => SameReads.ret _

theorem balance_sameReads (env : Env) (now : Instant) :
    (balance env stamps userId now).SameReads (SameRows userId stamps stamps')
      (balance env stamps' userId now) := by
  apply sameReads_bind currentUser_sameReads
  intro user
  apply sameReads_bind (getPlanUsage_sameReads (some user) now)
  intro usage
  apply sameReads_bind (sameReads_ask fun _ _ h => h.listedTransactions)
  exact fun rows => SameReads.ret _

end Paths

/-!
# Isolation
-/

/-- The row, if there is one, belongs to another user. -/
def Foreign {row : Type} {check : row -> Bool} (owner : row -> Int)
    (userId : Int) (T : Table row check) (id : Int) : Prop :=
  forall r, T.get id = some r -> owner r ≠ userId

theorem Foreign.filter_eq_none {row : Type} {check : row -> Bool}
    {owner : row -> Int} {userId id : Int} {T : Table row check}
    (h : Foreign owner userId T id) :
    (T.get id).filter (fun r => owner r = userId) = none := by
  cases hget : T.get id with
  | none => rfl
  | some r => simp [h r hget]

/-- The read paths of a user answer alike in two states. -/
structure SameAnswers (userId : Int) (stamps stamps' : Stamps)
    (s t : Store coverAI) : Prop where
  request : forall requestId,
    ((getRequestForUser requestId userId).transact s).1 =
      ((getRequestForUser requestId userId).transact t).1
  history : forall held now limit,
    ((listHistory held userId now limit).transact s).1 =
      ((listHistory held userId now limit).transact t).1
  letter : forall held letterId now,
    ((getLetter held userId letterId now).transact s).1 =
      ((getLetter held userId letterId now).transact t).1
  usage : forall held now,
    ((getPlanUsage held userId now).transact s).1 =
      ((getPlanUsage held userId now).transact t).1
  analytics : ((analytics userId).transact s).1 =
    ((CoverAI.analytics userId).transact t).1
  transactions : ((transactions stamps userId).transact s).1 =
    ((CoverAI.transactions stamps' userId).transact t).1
  balance : forall env now,
    ((balance env stamps userId now).transact s).1 =
      ((CoverAI.balance env stamps' userId now).transact t).1
  /-- An id of another user's request is like an id without a request. -/
  foreignRequest : forall requestId requestId',
    Foreign GenerationRequest.userId userId s.db.generationRequests requestId ->
    Foreign GenerationRequest.userId userId t.db.generationRequests requestId' ->
      ((getRequestForUser requestId userId).transact s).1 =
        ((getRequestForUser requestId' userId).transact t).1
  foreignLetter : forall held letterId letterId' now,
    Foreign CoverLetter.userId userId s.db.coverLetters letterId ->
    Foreign CoverLetter.userId userId t.db.coverLetters letterId' ->
      ((getLetter held userId letterId now).transact s).1 =
        ((getLetter held userId letterId' now).transact t).1

/-- What a user reads depends on the user's own rows. -/
theorem reads_isolated {userId : Int} {stamps stamps' : Stamps}
    {s t : Store coverAI} (h : SameRows userId stamps stamps' s.db t.db) :
    SameAnswers userId stamps stamps' s t where
  request := fun requestId => sameReads_transact
    (getRequestForUser_sameReads fun _ _ hdb => hdb.requestForUser requestId) h
  history := fun held now limit =>
    sameReads_transact (listHistory_sameReads held now limit) h
  letter := fun held letterId now => sameReads_transact
    (getLetter_sameReads (fun _ _ hdb => hdb)
      (fun _ _ hdb => hdb.letter letterId) held now) h
  usage := fun held now => sameReads_transact (getPlanUsage_sameReads held now) h
  analytics := sameReads_transact analytics_sameReads h
  transactions := sameReads_transact transactions_sameReads h
  balance := fun env now => sameReads_transact (balance_sameReads env now) h
  foreignRequest := by
    intro requestId requestId' hs ht
    apply sameReads_transact (R := fun db db' => db = s.db ∧ db' = t.db)
    · apply getRequestForUser_sameReads
      intro db db' hsame
      rcases hsame with ⟨rfl, rfl⟩
      rw [hs.filter_eq_none, ht.filter_eq_none]
    · exact ⟨rfl, rfl⟩
  foreignLetter := by
    intro held letterId letterId' now hs ht
    apply sameReads_transact (R := fun db db' => db = s.db ∧ db' = t.db)
    · apply @getLetter_sameReads userId stamps stamps'
      · intro db db' hsame
        rcases hsame with ⟨rfl, rfl⟩
        exact h
      · intro db db' hsame
        rcases hsame with ⟨rfl, rfl⟩
        rw [hs.filter_eq_none, ht.filter_eq_none]
    · exact ⟨rfl, rfl⟩

/-!
# Rows of another user
-/

def sampleStamps : Stamps :=
  fun n => { id := n + 1, createdAt := 0 }

def foreignRequest : GenerationRequest where
  userId := 2
  profileId := 1
  vacancyId := 1
  status := .succeeded
  tone := .formal
  errorMessage := none
  snapshotProfileText := none
  snapshotVacancyText := none
  snapshotTone := none
  completedAt := none
  createdAt := 0

def crowdedStore : Store coverAI :=
  bonusStore.setDb { bonusStore.db with
    generationRequests :=
      bonusStore.db.generationRequests.insert 5 foreignRequest
    creditTransactions :=
      bonusStore.db.creditTransactions ++ [welcomeBonusRow 2 7 7 ""] }

theorem crowdedStore_sameRows :
    SameRows 1 sampleStamps sampleStamps crowdedStore.db bonusStore.db where
  user := rfl
  requests := by
    intro id r hr
    have hempty : bonusStore.db.generationRequests = Table.empty := rfl
    have hget : crowdedStore.db.generationRequests.get id =
        if id = 5 then some foreignRequest else none := by
      simp [crowdedStore, hempty, Table.get_insert]
    rw [hget, hempty, Table.get_empty]
    split
    · constructor
      · intro h
        cases h
        cases hr
      · intro h
        cases h
    · rfl
  letters := fun _ _ _ => Iff.rfl
  subscriptions := fun _ _ _ => Iff.rfl
  transactions := rfl

/-- User 1 does not see that user 2 has a request and a ledger row. -/
theorem reads_isolated_crowded :
    crowdedStore.db.generationRequests.get 5 = some foreignRequest ∧
      ((getRequestForUser 5 1).transact crowdedStore).1 =
        ((getRequestForUser 6 1).transact bonusStore).1 ∧
      ((transactions sampleStamps 1).transact crowdedStore).1 =
        ((transactions sampleStamps 1).transact bonusStore).1 := by
  have hget : crowdedStore.db.generationRequests.get 5 = some foreignRequest :=
    rfl
  have h := reads_isolated crowdedStore_sameRows
  refine ⟨hget, h.foreignRequest 5 6 ?_ ?_, h.transactions⟩
  · intro r hr
    cases hget.symm.trans hr
    decide
  · intro r hr
    cases hr

end CoverAI
