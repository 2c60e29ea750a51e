import CoverAI.Api.Analytics
import CoverAI.Generation.Charge
import CoverAI.System.Entries

/-!
# Rows that agree with each other

In every interleaving of the entry points, the rows of the committed database
refer to rows that are there and that belong to the same user.
-/

namespace CoverAI

open Txn Program

/-!
# What a fact says
-/

/-- The row the fact is about, in the columns of its table. -/
def Fact.StoredIn (db : Db) : Fact -> Prop
  | user id => exists u, db.users.get id = some u
  | profile id owner =>
      exists p, db.resumeProfiles.get id = some p ∧ p.userId = owner
  | employer id => exists e, db.employers.get id = some e
  | vacancy id => exists v, db.vacancies.get id = some v
  | request id owner =>
      exists r, db.generationRequests.get id = some r ∧ r.userId = owner
  | requestInputs id profileId vacancyId =>
      exists r, db.generationRequests.get id = some r ∧
        r.profileId = profileId ∧ r.vacancyId = vacancyId
  | letter requestId =>
      exists id l, db.coverLetters.get id = some l ∧
        l.generationRequestId = requestId
  | paymentIntent id owner credits =>
      exists i, db.paymentIntents.get id = some i ∧ i.userId = owner ∧
        i.creditsAmount = credits
  | promoCode id => exists p, db.promoCodes.get id = some p
  | promoValue id value =>
      exists p, db.promoCodes.get id = some p ∧ p.value = value
  | redemption promoCodeId userId =>
      exists r, r ∈ db.promoRedemptions ∧ r.promoCodeId = promoCodeId ∧
        r.userId = userId

theorem storedIn_of_tableGives {db : Db} {f : Fact} {t : SeqName}
    (h : db.TableGives f t) : f.StoredIn db := by
  cases t with
  | users =>
      rcases h with ⟨id, u, hget, hf⟩
      rw [List.mem_singleton.mp hf]
      exact ⟨u, hget⟩
  | resumeProfiles =>
      rcases h with ⟨id, p, hget, hf⟩
      rw [List.mem_singleton.mp hf]
      exact ⟨p, hget, rfl⟩
  | employers =>
      rcases h with ⟨id, e, hget, hf⟩
      rw [List.mem_singleton.mp hf]
      exact ⟨e, hget⟩
  | vacancies =>
      rcases h with ⟨id, v, hget, hf⟩
      rw [List.mem_singleton.mp hf]
      exact ⟨v, hget⟩
  | generationRequests =>
      rcases h with ⟨id, r, hget, hf⟩
      rcases List.mem_cons.mp hf with howner | hinputs
      · rw [howner]
        exact ⟨r, hget, rfl⟩
      · rw [List.mem_singleton.mp hinputs]
        exact ⟨r, hget, rfl, rfl⟩
  | coverLetters =>
      rcases h with ⟨id, l, hget, hf⟩
      rw [List.mem_singleton.mp hf]
      exact ⟨id, l, hget, rfl⟩
  | subscriptions =>
      rcases h with ⟨id, s, hget, hf⟩
      cases hf
  | paymentIntents =>
      rcases h with ⟨id, i, hget, hf⟩
      rw [List.mem_singleton.mp hf]
      exact ⟨i, hget, rfl, rfl⟩
  | promoCodes =>
      rcases h with ⟨id, p, hget, hf⟩
      rcases List.mem_cons.mp hf with hcode | hvalue
      · rw [hcode]
        exact ⟨p, hget⟩
      · rw [List.mem_singleton.mp hvalue]
        exact ⟨p, hget, rfl⟩

theorem storedIn_of_holds {db : Db} {f : Fact} (h : db.Holds f) :
    f.StoredIn db := by
  rcases h with htable | hredemption
  · rcases htable with ⟨t, ht⟩
    exact storedIn_of_tableGives ht
  · rcases hredemption with ⟨r, hmem, rfl⟩
    exact ⟨r, hmem, rfl, rfl⟩

/-!
# Rows that agree
-/

/-- The letter is about the vacancy and the profile its request is about, and
all of them belong to one user. -/
structure CoverLetter.Agrees (db : Db) (l : CoverLetter) : Prop where
  user : exists u, db.users.get l.userId = some u
  request : exists r, db.generationRequests.get l.generationRequestId = some r ∧
    r.userId = l.userId ∧ r.profileId = l.profileId ∧
      r.vacancyId = l.vacancyId
  profile : exists p, db.resumeProfiles.get l.profileId = some p ∧
    p.userId = l.userId
  vacancy : exists v, db.vacancies.get l.vacancyId = some v
  employer : exists e, db.employers.get l.employerId = some e

/-- What a row of the ledger is about belongs to the user of the row, and the
amount is that of the payment or the promo code. -/
structure CreditTransaction.Agrees (db : Db) (t : CreditTransaction) :
    Prop where
  user : exists u, db.users.get t.userId = some u
  request : forall id, t.generationRequestId = some id ->
    exists r, db.generationRequests.get id = some r ∧ r.userId = t.userId
  payment : forall id, t.paymentIntentId = some id ->
    exists i, db.paymentIntents.get id = some i ∧ i.userId = t.userId ∧
      i.creditsAmount = t.intentCredits
  promo : forall id, t.promoCodeId = some id ->
    (exists p, db.promoCodes.get id = some p ∧ p.value = t.amount) ∧
      exists r, r ∈ db.promoRedemptions ∧ r.promoCodeId = id ∧
        r.userId = t.userId

section Agreement

variable {db : Db}

theorem letter_agrees (hok : db.Referential) {id : Int} {l : CoverLetter}
    (hget : db.coverLetters.get id = some l) : l.Agrees db := by
  have hstored : forall f, f ∈ l.refs id -> f.StoredIn db := fun f hf =>
    storedIn_of_holds (Slot.coverLetters.holds_of_refs hok hget hf)
  have howner := hstored (.request l.generationRequestId l.userId)
    (by simp [CoverLetter.refs])
  have hinputs := hstored
    (.requestInputs l.generationRequestId l.profileId l.vacancyId)
    (by simp [CoverLetter.refs])
  constructor
  case user => exact hstored (.user l.userId) (by simp [CoverLetter.refs])
  case request =>
    rcases howner with ⟨r, hr, huser⟩
    rcases hinputs with ⟨r', hr', hprofile, hvacancy⟩
    cases hr.symm.trans hr'
    exact ⟨r, hr, huser, hprofile, hvacancy⟩
  case profile =>
    exact hstored (.profile l.profileId l.userId) (by simp [CoverLetter.refs])
  case vacancy =>
    exact hstored (.vacancy l.vacancyId) (by simp [CoverLetter.refs])
  case employer =>
    exact hstored (.employer l.employerId) (by simp [CoverLetter.refs])

theorem transaction_agrees (hok : db.Referential) {t : CreditTransaction}
    (hmem : t ∈ db.creditTransactions) : t.Agrees db := by
  have hstored : forall f, f ∈ t.refs -> f.StoredIn db := fun f hf =>
    storedIn_of_holds (hok f (Or.inr (Or.inl ⟨t, hmem, hf⟩)))
  constructor
  case user => exact hstored (.user t.userId) (by simp [CreditTransaction.refs])
  case request =>
    intro id hid
    exact hstored (.request id t.userId) (by simp [CreditTransaction.refs, hid])
  case payment =>
    intro id hid
    exact hstored (.paymentIntent id t.userId t.intentCredits)
      (by simp [CreditTransaction.refs, hid])
  case promo =>
    intro id hid
    constructor
    · exact hstored (.promoValue id t.amount)
        (by simp [CreditTransaction.refs, hid])
    · exact hstored (.redemption id t.userId)
        (by simp [CreditTransaction.refs, hid])

theorem succeeded_has_letter (hok : db.Referential) {id : Int}
    {r : GenerationRequest} (hget : db.generationRequests.get id = some r)
    (hstatus : r.status = .succeeded) :
    exists k l, db.coverLetters.get k = some l ∧ l.generationRequestId = id :=
  storedIn_of_holds (f := .letter id)
    (Slot.generationRequests.holds_of_refs hok hget
      (GenerationRequest.mem_refs.mpr (Or.inr ⟨hstatus, rfl⟩)))

end Agreement

/-!
# Letters that are paid for
-/

/-- The letters of each request and of each user are those the ledger has
payments for. -/
structure Db.LettersPaid (price : Int) (db : Db) : Prop where
  request : forall id, db.coverLetters.count (CoverLetter.isFor id) =
    db.creditTransactions.countP (CreditTransaction.paysFor id)
  user : forall id,
    db.spent id = -(price * db.coverLetters.count (CoverLetter.isOf id))

theorem lettersPaid_iff {price : Int} {db : Db} :
    db.LettersPaid price <-> forall a, db.measure price a = 0 := by
  constructor
  · intro h a
    cases a with
    | request id =>
        simp only [Db.measure, h.request id]
        omega
    | user id =>
        simp only [Db.measure, h.user id]
        omega
  · intro h
    constructor
    · intro id
      have hzero := h (.request id)
      simp only [Db.measure] at hzero
      omega
    · intro id
      have hzero := h (.user id)
      simp only [Db.measure] at hzero
      omega

/-!
# A run
-/

/-- An empty database may be put to use. -/
theorem consistent_empty (price : Int) : Consistent price emptyStore := by
  constructor
  case referential =>
    intro f h
    rcases h with htable | hledger | hredemption
    · rcases htable with ⟨t, ht⟩
      cases t <;>
        · rcases ht with ⟨id, r, hget, _⟩
          cases hget
    · rcases hledger with ⟨t, hmem, _⟩
      cases hmem
    · rcases hredemption with ⟨r, hmem, _⟩
      cases hmem
  case fresh =>
    intro t n _
    cases t <;> rfl
  case priced =>
    intro job hjob
    cases hjob

theorem lettersPaid_empty (price : Int) :
    emptyStore.db.LettersPaid price := by
  constructor
  · exact fun _ => rfl
  · intro id
    show (0 : Int) = -(price * 0)
    rw [Int.mul_zero]
    rfl

def startEntry (i : Nat) (entry : EntryPoint) : Act coverAI Unit :=
  .start i (entry.session sampleEnv)

def sampleResume : String :=
  String.ofList (List.replicate 120 'a')

/-- A user registers, saves a profile and asks for a letter. -/
def askActs : List (Act coverAI Unit) :=
  startEntry 0 (.registerApiUser "user@example.com") ::
    List.replicate 6 (.step 0) ++
  startEntry 1 (.saveProfile 1 "Engineer" sampleResume) ::
    List.replicate 5 (.step 1) ++
  startEntry 2 (.createGeneration 1 "vacancy" .formal 0) ::
    List.replicate 13 (.step 2)

def workEntry : EntryPoint :=
  .generateCoverLetter sampleClients sampleJob 1

/-- Two workers execute the job at the same time. -/
def workActs : List (Act coverAI Unit) :=
  startEntry 3 workEntry :: startEntry 4 workEntry ::
    List.replicate 5 (.step 4) ++ List.replicate 17 (.step 3) ++
      List.replicate 3 (.step 4)

/-- The job is in the queue when a worker starts. -/
def startsQueued (w : World coverAI Unit) (a : Act coverAI Unit) : Bool :=
  a.session = 0 || a.session = 1 || a.session = 2 ||
    w.out.any fun job => job = sampleJob

/-- What is looked for in the end: the letter, the payment and the request. -/
def letterPaid (db : Db) : Bool :=
  (db.users.get 1).isSome && (db.coverLetters.get 1).isSome &&
    db.creditTransactions.any (CreditTransaction.paysFor 1) &&
    (db.generationRequests.get 1).map GenerationRequest.status =
      some .succeeded

theorem operates_start {w : World coverAI Unit} {i : Nat} {entry : EntryPoint}
    (h : entry.Admissible w) : Operates sampleEnv w (startEntry i entry) :=
  ⟨entry, h, rfl⟩

theorem starts_queued {w : World coverAI Unit}
    (h : (w.out.any fun job => job = sampleJob) = true) :
    workEntry.Admissible w := by
  rcases List.any_eq_true.mp h with ⟨job, hmem, hjob⟩
  show sampleJob ∈ w.out
  rw [← of_decide_eq_true hjob]
  exact hmem

theorem sample_run : exists w w' : World coverAI Unit,
    World.Reaches (Operates sampleEnv) (World.init emptyStore) w ∧
      World.Reaches (Operates sampleEnv) w w' ∧
      Fact.StoredIn w.committed (.request 1 1) ∧
      letterPaid w'.committed = true := by
  have hrun : (((World.init emptyStore).runChecked startsQueued askActs).bind
      fun w => (w.runChecked startsQueued workActs).map fun w' =>
        ((w.committed.generationRequests.get 1).map GenerationRequest.userId,
          letterPaid w'.committed)) = some (some 1, true) := by
    decide +kernel
  rcases Option.bind_eq_some_iff.mp hrun with ⟨w, hask, hwork⟩
  rcases Option.map_eq_some_iff.mp hwork with ⟨w', hwork, hend⟩
  rw [Prod.mk.injEq] at hend
  rcases Option.map_eq_some_iff.mp hend.left with ⟨r, hr, howner⟩
  refine ⟨w, w', ?_, ?_, ⟨r, hr, howner⟩, hend.right⟩
  · apply World.reaches_of_runChecked ?_ hask
    intro a ha u _
    simp only [askActs, List.mem_append, List.mem_cons, List.mem_replicate] at ha
    rcases ha with ((rfl | ⟨_, rfl⟩) | rfl | ⟨_, rfl⟩) | rfl | ⟨_, rfl⟩
    · exact operates_start trivial
    · trivial
    · exact operates_start trivial
    · trivial
    · exact operates_start trivial
    · trivial
  · apply World.reaches_of_runChecked ?_ hwork
    intro a ha u hcheck
    simp only [workActs, List.mem_append, List.mem_cons, List.mem_replicate] at ha
    rcases ha with ((rfl | rfl | ⟨_, rfl⟩) | ⟨_, rfl⟩) | ⟨_, rfl⟩
    · exact operates_start (starts_queued hcheck)
    · exact operates_start (starts_queued hcheck)
    · trivial
    · trivial
    · trivial

def salePayload : PromoCreateRequest where
  code := "SALE"
  type := .fixedCredits
  value := 10
  validUntil := 100
  maxActivations := 5
  value_pos := by decide
  maxActivations_pos := by decide

/-- An administrator creates a promo code; a user redeems it beside the
confirmation of a payment, which is refunded later. -/
def paymentEntries : List EntryPoint :=
  [.ensureAdminUser "admin@example.com", .registerApiUser "user@example.com",
    .createPromo 1 salePayload, .createPayment 2 100 "a" 0,
    .redeemPromo 2 "SALE" 1, .confirmPayment "mock_a" 1, .refundPayment 1 2]

def paymentActs : List (Act coverAI Unit) :=
  paymentEntries.mapIdx startEntry ++
    (List.replicate 4 0 ++ List.replicate 6 1 ++ List.replicate 4 2 ++
      List.replicate 4 3 ++ [4, 5, 4, 4, 4, 4, 4, 4, 5, 5, 5] ++
      List.replicate 4 6).map .step

theorem paymentEntries_admissible (w : World coverAI Unit) :
    forall entry, entry ∈ paymentEntries -> entry.Admissible w := by
  simp only [paymentEntries, List.forall_mem_cons]
  exact ⟨trivial, trivial, trivial, trivial, trivial, trivial, trivial,
    fun _ h => nomatch h⟩

/-- The rows of the ledger with what they refer to. -/
def postedRows (db : Db) : List (Int × Int × Option Int × Option Int) :=
  db.creditTransactions.map fun t =>
    (t.userId, t.amount, t.paymentIntentId, t.promoCodeId)

theorem payment_run : exists w : World coverAI Unit,
    World.Reaches (Operates sampleEnv) (World.init emptyStore) w ∧
      postedRows w.committed =
        [(2, 5, none, none), (2, 10, none, some 1), (2, 100, some 1, none),
          (2, -100, some 1, none)] := by
  have hrun : ((World.init emptyStore).runActs paymentActs).map
      (fun w => postedRows w.committed) =
      some [(2, 5, none, none), (2, 10, none, some 1), (2, 100, some 1, none),
        (2, -100, some 1, none)] := by
    decide +kernel
  rcases Option.map_eq_some_iff.mp hrun with ⟨w, hrun, hend⟩
  refine ⟨w, World.reaches_of_runActs ?_ hrun, hend⟩
  intro a ha u
  rcases List.mem_append.mp ha with hstart | hstep
  · rcases List.mem_mapIdx.mp hstart with ⟨i, hi, rfl⟩
    apply operates_start
    exact paymentEntries_admissible u _ (List.getElem_mem hi)
  · rcases List.mem_map.mp hstep with ⟨i, _, rfl⟩
    trivial

/-!
# Every interleaving
-/

section Interleavings

variable {env : Env} {s : Store coverAI} {w w' : World coverAI Unit}

theorem sound_of_run (hprice : 0 < env.predictionCostCredits)
    (hstart : Consistent env.predictionCostCredits s)
    (hrun : World.Reaches (Operates env) (World.init s) w) :
    exists keys, (system env.predictionCostCredits).Sound (World.init s) w
      keys :=
  sound_of_operates hprice hstart.sound hrun

theorem referential_of_run (hprice : 0 < env.predictionCostCredits)
    (hstart : Consistent env.predictionCostCredits s)
    (hrun : World.Reaches (Operates env) (World.init s) w) :
    w.committed.Referential := by
  rcases sound_of_run hprice hstart hrun with ⟨_, hsound⟩
  exact hsound.ok

theorem lettersPaid_of_run (hprice : 0 < env.predictionCostCredits)
    (hstart : Consistent env.predictionCostCredits s)
    (hpaid : s.db.LettersPaid env.predictionCostCredits)
    (hrun : World.Reaches (Operates env) (World.init s) w) :
    w.committed.LettersPaid env.predictionCostCredits := by
  rcases sound_of_run hprice hstart hrun with ⟨_, hsound⟩
  apply lettersPaid_iff.mpr
  intro a
  have hsame := congrFun hsound.measure a
  exact hsame.trans (lettersPaid_iff.mp hpaid a)

/-- A letter and its request are of one user, whoever else is served. -/
theorem letters_agree_with_requests (hprice : 0 < env.predictionCostCredits)
    (hstart : Consistent env.predictionCostCredits s)
    (hrun : World.Reaches (Operates env) (World.init s) w) (id : Int)
    (l : CoverLetter) (hget : w.committed.coverLetters.get id = some l) :
    l.Agrees w.committed :=
  letter_agrees (referential_of_run hprice hstart hrun) hget

theorem sample_letter_agrees : exists (db : Db) (l : CoverLetter),
    db.coverLetters.get 1 = some l ∧ l.Agrees db := by
  rcases sample_run with ⟨w, w', hask, hwork, _, hpaid⟩
  simp only [letterPaid, Bool.and_eq_true] at hpaid
  rcases Option.isSome_iff_exists.mp hpaid.left.left.right with ⟨l, hl⟩
  exact ⟨w'.committed, l, hl, letters_agree_with_requests (by decide)
    (consistent_empty _) (hask.trans hwork) 1 l hl⟩

/-- The ledger charges nobody for what belongs to another. -/
theorem ledger_agrees_with_causes (hprice : 0 < env.predictionCostCredits)
    (hstart : Consistent env.predictionCostCredits s)
    (hrun : World.Reaches (Operates env) (World.init s) w)
    (t : CreditTransaction) (hmem : t ∈ w.committed.creditTransactions) :
    t.Agrees w.committed :=
  transaction_agrees (referential_of_run hprice hstart hrun) hmem

theorem sample_ledgers_agree :
    (exists db : Db, letterPaid db = true ∧
      forall t, t ∈ db.creditTransactions -> t.Agrees db) ∧
    exists db : Db, postedRows db =
        [(2, 5, none, none), (2, 10, none, some 1), (2, 100, some 1, none),
          (2, -100, some 1, none)] ∧
      forall t, t ∈ db.creditTransactions -> t.Agrees db := by
  constructor
  · rcases sample_run with ⟨w, w', hask, hwork, _, hpaid⟩
    exact ⟨w'.committed, hpaid, ledger_agrees_with_causes (by decide)
      (consistent_empty _) (hask.trans hwork)⟩
  · rcases payment_run with ⟨w, hrun, hrows⟩
    exact ⟨w.committed, hrows, ledger_agrees_with_causes (by decide)
      (consistent_empty _) hrun⟩

/-- A request has as many letters as the ledger has payments for it, and a user
has spent the price of the letters that are the user's. -/
theorem letters_are_paid_for (hprice : 0 < env.predictionCostCredits)
    (hstart : Consistent env.predictionCostCredits s)
    (hpaid : s.db.LettersPaid env.predictionCostCredits)
    (hrun : World.Reaches (Operates env) (World.init s) w) :
    w.committed.LettersPaid env.predictionCostCredits :=
  lettersPaid_of_run hprice hstart hpaid hrun

theorem sample_letter_is_paid_for : exists db : Db,
    letterPaid db = true ∧ db.LettersPaid 5 := by
  rcases sample_run with ⟨w, w', hask, hwork, _, hpaid⟩
  exact ⟨w'.committed, hpaid, letters_are_paid_for (by decide)
    (consistent_empty _) (lettersPaid_empty _) (hask.trans hwork)⟩

theorem succeeded_requests_are_paid_for
    (hprice : 0 < env.predictionCostCredits)
    (hstart : Consistent env.predictionCostCredits s)
    (hpaid : s.db.LettersPaid env.predictionCostCredits)
    (hrun : World.Reaches (Operates env) (World.init s) w) (id : Int)
    (r : GenerationRequest)
    (hget : w.committed.generationRequests.get id = some r)
    (hstatus : r.status = .succeeded) :
    (exists k l, w.committed.coverLetters.get k = some l ∧
      l.generationRequestId = id ∧ l.userId = r.userId) ∧
    exists t, t ∈ w.committed.creditTransactions ∧ t.type = .spend ∧
      t.generationRequestId = some id ∧ t.userId = r.userId := by
  have hok := referential_of_run hprice hstart hrun
  have hpaid' := lettersPaid_of_run hprice hstart hpaid hrun
  rcases succeeded_has_letter hok hget hstatus with ⟨k, l, hl, hrequest⟩
  constructor
  · rcases (letter_agrees hok hl).request with ⟨r', hr', howner, _⟩
    rw [hrequest, hget] at hr'
    cases hr'
    exact ⟨k, l, hl, hrequest, howner.symm⟩
  · have hcount : 0 < w.committed.coverLetters.count (CoverLetter.isFor id) :=
      Table.count_pos_iff.mpr ⟨k, l, hl, decide_eq_true hrequest⟩
    rw [hpaid'.request id] at hcount
    rcases List.countP_pos_iff.mp hcount with ⟨t, hmem, hpays⟩
    simp only [CreditTransaction.paysFor, Bool.and_eq_true,
      decide_eq_true_eq] at hpays
    rcases (transaction_agrees hok hmem).request id hpays.right with
      ⟨r', hr', howner⟩
    cases hget.symm.trans hr'
    exact ⟨t, hmem, hpays.left, hpays.right, howner.symm⟩

theorem sample_request_is_paid_for : exists db : Db,
    exists t, t ∈ db.creditTransactions ∧ t.paysFor 1 = true := by
  rcases sample_run with ⟨w, w', hask, hwork, _, hpaid⟩
  simp only [letterPaid, Bool.and_eq_true] at hpaid
  rcases Option.map_eq_some_iff.mp (of_decide_eq_true hpaid.right) with
    ⟨r, hget, hstatus⟩
  have hmain := succeeded_requests_are_paid_for (by decide)
    (consistent_empty _) (lettersPaid_empty _) (hask.trans hwork) 1 r hget
    hstatus
  rcases hmain.right with ⟨t, hmem, htype, hrequest, _⟩
  refine ⟨w'.committed, t, hmem, ?_⟩
  simp [CreditTransaction.paysFor, htype, hrequest]

/-!
# What the analytics show
-/

/-- The answer of the route in a database where the caller is stored. -/
def usageOf (db : Db) (userId : Int) : AnalyticsResponse where
  totalGenerations := db.generationRequests.count fun r => r.userId = userId
  succeededGenerations := db.generationRequests.count fun r =>
    r.userId = userId && r.status = .succeeded
  failedGenerations := db.generationRequests.count fun r =>
    r.userId = userId && r.status = .failed
  creditsSpent := (db.spent userId).natAbs

theorem analytics_run {userId : Int} {user : User}
    (huser : s.db.users.get userId = some user) :
    ((analytics userId).transact s).1 = .ok (usageOf s.db userId) := by
  have hrun : (analytics userId).run s = (.ok (usageOf s.db userId), s) := by
    simp only [analytics, currentUser, countRequests, sumTransactions, bind_eq,
      pure_eq, select, ask, run_bind, run, huser, Option.all_none,
      Option.all_some, Bool.and_true]
    rfl
  rw [transact_of_ok hrun]

theorem succeeded_le_letters {db : Db} (hok : db.Referential) (userId : Int) :
    (usageOf db userId).succeededGenerations ≤
      db.coverLetters.count (CoverLetter.isOf userId) := by
  simp only [usageOf]
  apply Table.count_le_of_referred CoverLetter.generationRequestId
  intro id r hget hp
  rw [Bool.and_eq_true, decide_eq_true_eq, decide_eq_true_eq] at hp
  rcases succeeded_has_letter hok hget hp.right with ⟨k, l, hl, hrequest⟩
  rcases (letter_agrees hok hl).request with ⟨r', hr', howner, _⟩
  rw [hrequest, hget] at hr'
  cases hr'
  exact ⟨k, l, hl, decide_eq_true (howner.symm.trans hp.left), hrequest⟩

/-- The credits shown as spent are the price of the letters the user has, and
no succeeded generation is missing from them. -/
theorem analytics_shows_paid_letters (hprice : 0 < env.predictionCostCredits)
    (hstart : Consistent env.predictionCostCredits s)
    (hpaid : s.db.LettersPaid env.predictionCostCredits)
    (hrun : World.Reaches (Operates env) (World.init s) w) (userId : Int)
    (user : User) (huser : w.committed.users.get userId = some user) :
    exists response,
      ((analytics userId).transact w.store).1 = .ok response ∧
        (response.creditsSpent : Int) = env.predictionCostCredits *
          w.committed.coverLetters.count (CoverLetter.isOf userId) ∧
        env.predictionCostCredits * response.succeededGenerations ≤
          response.creditsSpent := by
  have hok := referential_of_run hprice hstart hrun
  have hspent :=
    (lettersPaid_of_run hprice hstart hpaid hrun).user userId
  have hshown : ((usageOf w.committed userId).creditsSpent : Int) =
      env.predictionCostCredits *
        w.committed.coverLetters.count (CoverLetter.isOf userId) := by
    simp only [usageOf, hspent, Int.natAbs_neg]
    apply Int.natAbs_of_nonneg
    exact Int.mul_nonneg (Int.le_of_lt hprice) (Int.natCast_nonneg _)
  refine ⟨usageOf w.committed userId, analytics_run huser, hshown, ?_⟩
  rw [hshown]
  apply Int.mul_le_mul_of_nonneg_left _ (Int.le_of_lt hprice)
  exact Int.ofNat_le.mpr (succeeded_le_letters hok userId)

theorem sample_analytics : exists (w : World coverAI Unit)
    (response : AnalyticsResponse),
    ((analytics 1).transact w.store).1 = .ok response ∧
      5 * response.succeededGenerations ≤ response.creditsSpent := by
  rcases sample_run with ⟨w, w', hask, hwork, _, hpaid⟩
  simp only [letterPaid, Bool.and_eq_true] at hpaid
  rcases Option.isSome_iff_exists.mp hpaid.left.left.left with ⟨user, huser⟩
  have hmain := analytics_shows_paid_letters (by decide) (consistent_empty _)
    (lettersPaid_empty _) (hask.trans hwork) 1 user huser
  rcases hmain with ⟨response, hrun, _, hle⟩
  refine ⟨w', response, hrun, ?_⟩
  have hprice : sampleEnv.predictionCostCredits = 5 := rfl
  rw [hprice] at hle
  omega

end Interleavings

end CoverAI
