import Mathlib.Algebra.Ring.Int.Defs
import CoverAI.Infra.Database
import CoverAI.Txn.Knowledge
import CoverAI.Txn.References

/-!
# Facts about the database

A row that is inserted stays, and the columns no update touches stay with it.
The facts name such rows, with those of their columns that other rows depend
on.  The references of a row are the facts its own columns rely on: the foreign
keys of the schema, with the owner of the row they point to and, for a row of
the ledger, with the amount.
-/

namespace CoverAI

open Txn Program

inductive Fact where
  | user (id : Int)
  | profile (id owner : Int)
  | employer (id : Int)
  | vacancy (id : Int)
  | request (id owner : Int)
  | requestInputs (id profileId vacancyId : Int)
  | letter (requestId : Int)
  | paymentIntent (id owner credits : Int)
  | promoCode (id : Int)
  | promoValue (id value : Int)
  | redemption (promoCodeId userId : Int)
  deriving DecidableEq

/-!
# What a row gives
-/

def User.gives (id : Int) (_ : User) : List Fact :=
  [.user id]

def ResumeProfile.gives (id : Int) (p : ResumeProfile) : List Fact :=
  [.profile id p.userId]

def Employer.gives (id : Int) (_ : Employer) : List Fact :=
  [.employer id]

def Vacancy.gives (id : Int) (_ : Vacancy) : List Fact :=
  [.vacancy id]

def GenerationRequest.gives (id : Int) (r : GenerationRequest) : List Fact :=
  [.request id r.userId, .requestInputs id r.profileId r.vacancyId]

def CoverLetter.gives (_ : Int) (l : CoverLetter) : List Fact :=
  [.letter l.generationRequestId]

def PaymentIntent.gives (id : Int) (i : PaymentIntent) : List Fact :=
  [.paymentIntent id i.userId i.creditsAmount]

def PromoCode.gives (id : Int) (p : PromoCode) : List Fact :=
  [.promoCode id, .promoValue id p.value]

/-- No row refers to a row of the other tables. -/
def givesNothing {row : Type} (_ : Int) (_ : row) : List Fact :=
  []

/-- A row of the table, named by its sequence, gives the fact. -/
def Db.TableGives (db : Db) (f : Fact) : SeqName -> Prop
  | .users => db.users.Gives User.gives f
  | .resumeProfiles => db.resumeProfiles.Gives ResumeProfile.gives f
  | .employers => db.employers.Gives Employer.gives f
  | .vacancies => db.vacancies.Gives Vacancy.gives f
  | .generationRequests => db.generationRequests.Gives GenerationRequest.gives f
  | .coverLetters => db.coverLetters.Gives CoverLetter.gives f
  | .subscriptions => db.subscriptions.Gives givesNothing f
  | .paymentIntents => db.paymentIntents.Gives PaymentIntent.gives f
  | .promoCodes => db.promoCodes.Gives PromoCode.gives f

def Db.Holds (db : Db) (f : Fact) : Prop :=
  (exists t, db.TableGives f t) ∨
    exists r, r ∈ db.promoRedemptions ∧ f = .redemption r.promoCodeId r.userId

/-!
# What a row refers to
-/

def User.refs (_ : Int) (u : User) : List Fact :=
  u.pendingTopUpDiscountPromoCodeId.toList.map .promoCode

def ResumeProfile.refs (_ : Int) (p : ResumeProfile) : List Fact :=
  [.user p.userId]

def Vacancy.refs (_ : Int) (v : Vacancy) : List Fact :=
  [.employer v.employerId]

/-- A request that has succeeded has a letter. -/
def GenerationRequest.refs (id : Int) (r : GenerationRequest) : List Fact :=
  [.user r.userId, .profile r.profileId r.userId, .vacancy r.vacancyId] ++
    if r.status = .succeeded then [.letter id] else []

theorem GenerationRequest.mem_refs {id : Int} {r : GenerationRequest}
    {f : Fact} : f ∈ r.refs id <->
      f ∈ [.user r.userId, .profile r.profileId r.userId,
        .vacancy r.vacancyId] ∨ (r.status = .succeeded ∧ f = .letter id) := by
  unfold GenerationRequest.refs
  rw [List.mem_append]
  split
  · rename_i hsucceeded
    rw [List.mem_singleton, eq_true hsucceeded, true_and]
  · rename_i hother
    rw [eq_false hother, false_and, eq_false List.not_mem_nil]

def CoverLetter.refs (_ : Int) (l : CoverLetter) : List Fact :=
  [.user l.userId, .profile l.profileId l.userId, .vacancy l.vacancyId,
    .employer l.employerId, .request l.generationRequestId l.userId,
    .requestInputs l.generationRequestId l.profileId l.vacancyId]

def Subscription.refs (_ : Int) (s : Subscription) : List Fact :=
  [.user s.userId]

def PaymentIntent.refs (_ : Int) (i : PaymentIntent) : List Fact :=
  [.user i.userId]

/-- The credits of the intent the row is about: a refund takes them back. -/
def CreditTransaction.intentCredits (t : CreditTransaction) : Int :=
  if t.type = .refund then -t.amount else t.amount

def CreditTransaction.refs (t : CreditTransaction) : List Fact :=
  .user t.userId ::
    (t.generationRequestId.toList.map fun id => .request id t.userId) ++
      (t.paymentIntentId.toList.map fun id =>
        .paymentIntent id t.userId t.intentCredits) ++
      t.promoCodeId.toList.flatMap fun id =>
        [.promoValue id t.amount, .redemption id t.userId]

def PromoRedemption.refs (r : PromoRedemption) : List Fact :=
  [.promoCode r.promoCodeId, .user r.userId]

/-- A row of the table, named by its sequence, relies on the fact. -/
def Db.TableRefers (db : Db) (f : Fact) : SeqName -> Prop
  | .users => db.users.Gives User.refs f
  | .resumeProfiles => db.resumeProfiles.Gives ResumeProfile.refs f
  | .employers => db.employers.Gives givesNothing f
  | .vacancies => db.vacancies.Gives Vacancy.refs f
  | .generationRequests => db.generationRequests.Gives GenerationRequest.refs f
  | .coverLetters => db.coverLetters.Gives CoverLetter.refs f
  | .subscriptions => db.subscriptions.Gives Subscription.refs f
  | .paymentIntents => db.paymentIntents.Gives PaymentIntent.refs f
  | .promoCodes => db.promoCodes.Gives givesNothing f

def Db.Refers (db : Db) (f : Fact) : Prop :=
  (exists t, db.TableRefers f t) ∨
    (exists t, t ∈ db.creditTransactions ∧ f ∈ t.refs) ∨
    exists r, r ∈ db.promoRedemptions ∧ f ∈ r.refs

/-- No reference dangles, and none crosses from one user to another. -/
def Db.Referential (db : Db) : Prop :=
  forall f, db.Refers f -> db.Holds f

/-!
# Keys
-/

def Db.Free (db : Db) (key : SeqName × Int) : Prop :=
  match key.1 with
  | .users => db.users.get key.2 = none
  | .paymentIntents => db.paymentIntents.get key.2 = none
  | .generationRequests => db.generationRequests.get key.2 = none
  | .coverLetters => db.coverLetters.get key.2 = none
  | .employers => db.employers.get key.2 = none
  | .vacancies => db.vacancies.get key.2 = none
  | .subscriptions => db.subscriptions.get key.2 = none
  | .resumeProfiles => db.resumeProfiles.get key.2 = none
  | .promoCodes => db.promoCodes.get key.2 = none

/-!
# Letters and payments for them
-/

/-- What must balance: the letters of a request and the rows that pay for it,
the letters of a user and the credits spent on them. -/
inductive Tally where
  | request (id : Int)
  | user (id : Int)

def CoverLetter.isFor (requestId : Int) (l : CoverLetter) : Bool :=
  l.generationRequestId = requestId

def CoverLetter.isOf (userId : Int) (l : CoverLetter) : Bool :=
  l.userId = userId

def CreditTransaction.paysFor (requestId : Int) (t : CreditTransaction) : Bool :=
  t.type = .spend && t.generationRequestId = some requestId

def CreditTransaction.isSpendOf (userId : Int) (t : CreditTransaction) : Bool :=
  t.userId = userId && t.type = .spend

def Db.spent (db : Db) (userId : Int) : Int :=
  ((db.creditTransactions.filter (CreditTransaction.isSpendOf userId)).map
    CreditTransaction.amount).sum

def Db.measure (price : Int) (db : Db) : Tally -> Int
  | .request id =>
      db.coverLetters.count (CoverLetter.isFor id) -
        db.creditTransactions.countP (CreditTransaction.paysFor id)
  | .user id => price * db.coverLetters.count (CoverLetter.isOf id) + db.spent id

/-- What a letter adds to the accounts. -/
def CoverLetter.weight (price : Int) (l : CoverLetter) : Tally -> Int
  | .request id => if l.isFor id then 1 else 0
  | .user id => if l.isOf id then price else 0

/-- What a row of the ledger adds to the accounts. -/
def CreditTransaction.weight (t : CreditTransaction) : Tally -> Int
  | .request id => if t.paysFor id then -1 else 0
  | .user id => if t.isSpendOf id then t.amount else 0

/-- Every queued job is charged at the price of a generation. -/
def system (price : Int) : Knowledge coverAI Fact Tally where
  ok := Db.Referential
  holds := Db.Holds
  free := fun key db => db.Free key
  measure := Db.measure price
  sends := fun job => job.chargeCredits = true ∧ job.costCredits = price

/-- What a session of the service knows. -/
abbrev Knows := Known coverAI Fact Tally

/-!
# Tables
-/

/-- One table of the database: what a row gives and refers to, and that the
other tables do not matter to this, which holds by definition of each. -/
structure Slot (row : Type) (check : row -> Bool) where
  table : Db -> Table row check
  put : Table row check -> Db -> Db
  seq : SeqName
  gives : Int -> row -> List Fact
  refs : Int -> row -> List Fact
  table_put : forall T db, table (put T db) = T := by
    intros
    rfl
  gives_iff : forall db f,
    db.TableGives f seq <-> (table db).Gives gives f := by
    intros
    exact Iff.rfl
  gives_put : forall T db f t, t ≠ seq ->
    ((put T db).TableGives f t <-> db.TableGives f t) := by
    intro T db f t ht
    cases t <;> first | exact absurd rfl ht | exact Iff.rfl
  refers_iff : forall db f,
    db.TableRefers f seq <-> (table db).Gives refs f := by
    intros
    exact Iff.rfl
  refers_put : forall T db f t, t ≠ seq ->
    ((put T db).TableRefers f t <-> db.TableRefers f t) := by
    intro T db f t ht
    cases t <;> first | exact absurd rfl ht | exact Iff.rfl
  free_iff : forall db n, db.Free (seq, n) <-> (table db).get n = none := by
    intros
    exact Iff.rfl
  free_put : forall T db t n, t ≠ seq ->
    ((put T db).Free (t, n) <-> db.Free (t, n)) := by
    intro T db t n ht
    cases t <;> first | exact absurd rfl ht | exact Iff.rfl
  creditTransactions_put : forall T db,
    (put T db).creditTransactions = db.creditTransactions := by
    intros
    rfl
  promoRedemptions_put : forall T db,
    (put T db).promoRedemptions = db.promoRedemptions := by
    intros
    rfl

namespace Slot

variable {row : Type} {check : row -> Bool} (L : Slot row check)

/-- A change of a table keeps the facts of the other ones. -/
theorem holds_put_iff {T : Table row check} {db : Db} {f : Fact}
    {P : Prop} (hT : T.Gives L.gives f <-> (L.table db).Gives L.gives f ∨ P) :
    (L.put T db).Holds f <-> db.Holds f ∨ P := by
  have hseq : (L.put T db).TableGives f L.seq <->
      db.TableGives f L.seq ∨ P := by
    rw [L.gives_iff, L.gives_iff, L.table_put]
    exact hT
  unfold Db.Holds
  rw [L.promoRedemptions_put]
  constructor
  · intro h
    rcases h with htable | hrest
    · rcases htable with ⟨t, ht⟩
      by_cases ht' : t = L.seq
      · subst ht'
        rcases hseq.mp ht with hold | hnew
        · exact Or.inl (Or.inl ⟨L.seq, hold⟩)
        · exact Or.inr hnew
      · exact Or.inl (Or.inl ⟨t, (L.gives_put T db f t ht').mp ht⟩)
    · exact Or.inl (Or.inr hrest)
  · intro h
    rcases h with hold | hnew
    · rcases hold with htable | hrest
      · rcases htable with ⟨t, ht⟩
        by_cases ht' : t = L.seq
        · subst ht'
          exact Or.inl ⟨L.seq, hseq.mpr (Or.inl ht)⟩
        · exact Or.inl ⟨t, (L.gives_put T db f t ht').mpr ht⟩
      · exact Or.inr hrest
    · exact Or.inl ⟨L.seq, hseq.mpr (Or.inr hnew)⟩

/-- A change of a table changes the references of its own rows. -/
theorem refers_of_put {T : Table row check} {db : Db} {f : Fact} {P : Prop}
    (hT : T.Gives L.refs f -> (L.table db).Gives L.refs f ∨ P)
    (h : (L.put T db).Refers f) : db.Refers f ∨ P := by
  rcases h with htable | hrest
  · rcases htable with ⟨t, ht⟩
    by_cases ht' : t = L.seq
    · subst ht'
      rw [L.refers_iff, L.table_put] at ht
      rcases hT ht with hold | hnew
      · exact Or.inl (Or.inl ⟨L.seq, (L.refers_iff db f).mpr hold⟩)
      · exact Or.inr hnew
    · exact Or.inl (Or.inl ⟨t, (L.refers_put T db f t ht').mp ht⟩)
  · rw [L.creditTransactions_put, L.promoRedemptions_put] at hrest
    exact Or.inl (Or.inr hrest)

theorem holds_of_get {db : Db} {id : Int} {r : row} {f : Fact}
    (hget : (L.table db).get id = some r) (hf : f ∈ L.gives id r) :
    db.Holds f :=
  Or.inl ⟨L.seq, (L.gives_iff db f).mpr ⟨id, r, hget, hf⟩⟩

/-- Where no reference dangles, those of a row that is found hold. -/
theorem holds_of_refs {db : Db} {id : Int} {r : row} {f : Fact}
    (hok : db.Referential) (hget : (L.table db).get id = some r)
    (hf : f ∈ L.refs id r) : db.Holds f :=
  hok f (Or.inl ⟨L.seq, (L.refers_iff db f).mpr ⟨id, r, hget, hf⟩⟩)

theorem free_of_put {T : Table row check} {db : Db} {key : SeqName × Int}
    (hT : key.1 = L.seq -> (L.table db).get key.2 = none -> T.get key.2 = none)
    (h : db.Free key) : (L.put T db).Free key := by
  rcases key with ⟨t, n⟩
  by_cases ht : t = L.seq
  · subst ht
    rw [L.free_iff, L.table_put]
    exact hT rfl ((L.free_iff db n).mp h)
  · exact (L.free_put T db t n ht).mpr h

/-!
# The tables of the service
-/

def users : Slot User userChecks where
  table := Db.users
  put := fun T db => { db with users := T }
  seq := .users
  gives := User.gives
  refs := User.refs

def resumeProfiles : Slot ResumeProfile noChecks where
  table := Db.resumeProfiles
  put := fun T db => { db with resumeProfiles := T }
  seq := .resumeProfiles
  gives := ResumeProfile.gives
  refs := ResumeProfile.refs

def employers : Slot Employer noChecks where
  table := Db.employers
  put := fun T db => { db with employers := T }
  seq := .employers
  gives := Employer.gives
  refs := givesNothing

def vacancies : Slot Vacancy noChecks where
  table := Db.vacancies
  put := fun T db => { db with vacancies := T }
  seq := .vacancies
  gives := Vacancy.gives
  refs := Vacancy.refs

def generationRequests : Slot GenerationRequest noChecks where
  table := Db.generationRequests
  put := fun T db => { db with generationRequests := T }
  seq := .generationRequests
  gives := GenerationRequest.gives
  refs := GenerationRequest.refs

def coverLetters : Slot CoverLetter noChecks where
  table := Db.coverLetters
  put := fun T db => { db with coverLetters := T }
  seq := .coverLetters
  gives := CoverLetter.gives
  refs := CoverLetter.refs

def subscriptions : Slot Subscription noChecks where
  table := Db.subscriptions
  put := fun T db => { db with subscriptions := T }
  seq := .subscriptions
  gives := givesNothing
  refs := Subscription.refs

def paymentIntents : Slot PaymentIntent paymentIntentChecks where
  table := Db.paymentIntents
  put := fun T db => { db with paymentIntents := T }
  seq := .paymentIntents
  gives := PaymentIntent.gives
  refs := PaymentIntent.refs

def promoCodes : Slot PromoCode promoCodeChecks where
  table := Db.promoCodes
  put := fun T db => { db with promoCodes := T }
  seq := .promoCodes
  gives := PromoCode.gives
  refs := givesNothing

end Slot

/-!
# Effects of the writes
-/

section Effects

variable {price : Int} {st : Knows}

/-- A change is described by the facts it makes, the key it uses and what it
adds to the accounts. -/
theorem makes_of {g : Db -> Db} {new : Set Fact} {used : Set (SeqName × Int)}
    {d : Tally -> Int} (hused : used ⊆ st.drawn)
    (hholds : forall db, (system price).Shows st db ->
      forall f, (g db).Holds f <-> db.Holds f ∨ f ∈ new)
    (hrefers : forall db f, (g db).Refers f ->
      db.Refers f ∨ f ∈ st.facts)
    (hfree : forall db key, key ∉ used -> db.Free key -> (g db).Free key)
    (hmeasure : forall db, (system price).Shows st db ->
      forall a, (g db).measure price a = db.measure price a + d a) :
    (system price).Makes st g new used d := by
  constructor
  · exact hused
  · intro db hdb
    constructor
    · intro f hf
      rcases hrefers db f hf with hold | hknown
      · exact (hholds db hdb f).mpr (Or.inl (hdb.ok f hold))
      · exact (hholds db hdb f).mpr (Or.inl (hdb.facts hknown))
    · exact Set.ext (hholds db hdb)
    · exact fun key hkey hkeyFree => hfree db key hkey hkeyFree
    · exact hmeasure db hdb

variable {row : Type} {check : row -> Bool} (L : Slot row check)

theorem Slot.makes_insert {id : Int} {r : row} {d : Tally -> Int}
    (hkey : (L.seq, id) ∈ st.drawn) (hcheck : check r = true)
    (hrefs : forall f, f ∈ L.refs id r -> f ∈ st.facts)
    (hmeasure : forall db, (L.table db).get id = none -> forall a,
      (L.put ((L.table db).insert id r) db).measure price a =
        db.measure price a + d a) :
    (system price).Makes st (fun db => L.put ((L.table db).insert id r) db)
      {f | f ∈ L.gives id r} {(L.seq, id)} d := by
  have hnone : forall db, (system price).Shows st db ->
      (L.table db).get id = none :=
    fun db hdb => (L.free_iff db id).mp (hdb.drawn _ hkey)
  apply makes_of (Set.singleton_subset_iff.mpr hkey)
  · intro db hdb f
    exact L.holds_put_iff (Table.gives_insert (hnone db hdb) hcheck)
  · intro db f hf
    rcases L.refers_of_put Table.gives_of_gives_insert hf with hold | hnew
    · exact Or.inl hold
    · exact Or.inr (hrefs f hnew)
  · intro db key hne hfree
    apply L.free_of_put _ hfree
    intro hseq hget
    have hn : key.2 ≠ id := fun heq => hne (Prod.ext hseq heq)
    rw [Table.get_insert_of_ne _ hn, hget]
  · exact fun db hdb => hmeasure db (hnone db hdb)

/-- An update of columns that no fact is about. -/
theorem Slot.makes_modify {id : Int} {g : row -> row}
    (hgives : forall r, L.gives id (g r) = L.gives id r)
    (hrefs : forall r f, f ∈ L.refs id (g r) ->
      f ∈ L.refs id r ∨ f ∈ st.facts)
    (hmeasure : forall T db a,
      (L.put T db).measure price a = db.measure price a) :
    (system price).Makes st (fun db => L.put ((L.table db).modify id g) db)
      ∅ ∅ fun _ => 0 := by
  apply makes_of (Set.empty_subset _)
  · intro db _ f
    apply L.holds_put_iff
    rw [Set.mem_empty_iff_false, or_false]
    exact Table.gives_modify hgives
  · intro db f hf
    exact L.refers_of_put (Table.gives_of_gives_modify hrefs) hf
  · intro db key _ hfree
    exact L.free_of_put (fun _ hget => Table.get_modify_eq_none hget id g) hfree
  · intro db _ a
    rw [hmeasure]
    exact (Int.add_zero _).symm

end Effects
end CoverAI
