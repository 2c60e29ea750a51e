import CoverAI.System.Facts

/-!
# What the row writes make of the facts

A row is inserted under a key of the session's own, and only by who knows that
the rows it refers to are there.
-/

namespace CoverAI

open Txn Program

variable {price : Int} {st : Knows}

/-!
# Insertions
-/

theorem insertUser_makes {id : Int} {u : User}
    (hkey : (SeqName.users, id) ∈ st.drawn)
    (hrefs : forall f, f ∈ u.refs id -> f ∈ st.facts)
    (hsent : exists db, (insertUser id u).violation db = none) :
    (system price).Makes st (insertUser id u).apply {f | f ∈ u.gives id}
      {(.users, id)} fun _ => 0 := by
  rcases hsent with ⟨db, hnone⟩
  have hcheck : userChecks u = true := by
    simp only [insertUser] at hnone
    split at hnone
    · cases hnone
    · exact (violation_insertInto.mp hnone).right
  exact Slot.users.makes_insert hkey hcheck hrefs
    fun _ _ _ => (Int.add_zero _).symm

theorem insertPaymentIntent_makes {id : Int} {i : PaymentIntent}
    (hkey : (SeqName.paymentIntents, id) ∈ st.drawn)
    (hrefs : forall f, f ∈ i.refs id -> f ∈ st.facts)
    (hsent : exists db, (insertPaymentIntent id i).violation db = none) :
    (system price).Makes st (insertPaymentIntent id i).apply
      {f | f ∈ i.gives id} {(.paymentIntents, id)} fun _ => 0 := by
  rcases hsent with ⟨db, hnone⟩
  exact Slot.paymentIntents.makes_insert hkey
    (violation_insertInto.mp hnone).right hrefs
    fun _ _ _ => (Int.add_zero _).symm

theorem insertPromoCode_makes {id : Int} {p : PromoCode}
    (hkey : (SeqName.promoCodes, id) ∈ st.drawn)
    (hsent : exists db, (insertPromoCode id p).violation db = none) :
    (system price).Makes st (insertPromoCode id p).apply {f | f ∈ p.gives id}
      {(.promoCodes, id)} fun _ => 0 := by
  rcases hsent with ⟨db, hnone⟩
  have hcheck : promoCodeChecks p = true := by
    simp only [insertPromoCode] at hnone
    split at hnone
    · exact (violation_insertInto.mp hnone).right
    · cases hnone
  exact Slot.promoCodes.makes_insert hkey hcheck
    (fun _ hf => absurd hf List.not_mem_nil) fun _ _ _ => (Int.add_zero _).symm

theorem insertResumeProfile_makes {id : Int} {p : ResumeProfile}
    (hkey : (SeqName.resumeProfiles, id) ∈ st.drawn)
    (hrefs : forall f, f ∈ p.refs id -> f ∈ st.facts) :
    (system price).Makes st (insertResumeProfile id p).apply
      {f | f ∈ p.gives id} {(.resumeProfiles, id)} fun _ => 0 :=
  Slot.resumeProfiles.makes_insert hkey (noChecks_eq p) hrefs
    fun _ _ _ => (Int.add_zero _).symm

theorem insertEmployer_makes {id : Int} {e : Employer}
    (hkey : (SeqName.employers, id) ∈ st.drawn) :
    (system price).Makes st (insertEmployer id e).apply {f | f ∈ e.gives id}
      {(.employers, id)} fun _ => 0 :=
  Slot.employers.makes_insert hkey (noChecks_eq e)
    (fun _ hf => absurd hf List.not_mem_nil) fun _ _ _ => (Int.add_zero _).symm

theorem insertVacancy_makes {id : Int} {v : Vacancy}
    (hkey : (SeqName.vacancies, id) ∈ st.drawn)
    (hrefs : forall f, f ∈ v.refs id -> f ∈ st.facts) :
    (system price).Makes st (insertVacancy id v).apply {f | f ∈ v.gives id}
      {(.vacancies, id)} fun _ => 0 :=
  Slot.vacancies.makes_insert hkey (noChecks_eq v) hrefs
    fun _ _ _ => (Int.add_zero _).symm

theorem insertGenerationRequest_makes {id : Int} {r : GenerationRequest}
    (hkey : (SeqName.generationRequests, id) ∈ st.drawn)
    (hrefs : forall f, f ∈ r.refs id -> f ∈ st.facts) :
    (system price).Makes st (insertGenerationRequest id r).apply
      {f | f ∈ r.gives id} {(.generationRequests, id)} fun _ => 0 :=
  Slot.generationRequests.makes_insert hkey (noChecks_eq r) hrefs
    fun _ _ _ => (Int.add_zero _).symm

theorem insertSubscription_makes {id : Int} {s : Subscription}
    (hkey : (SeqName.subscriptions, id) ∈ st.drawn)
    (hrefs : forall f, f ∈ s.refs id -> f ∈ st.facts) :
    (system price).Makes st (insertSubscription id s).apply
      {f | f ∈ givesNothing id s} {(.subscriptions, id)} fun _ => 0 :=
  Slot.subscriptions.makes_insert hkey (noChecks_eq s) hrefs
    fun _ _ _ => (Int.add_zero _).symm

/-- A letter is the one row with a key that adds to the accounts. -/
theorem insertCoverLetter_makes {id : Int} {l : CoverLetter}
    (hkey : (SeqName.coverLetters, id) ∈ st.drawn)
    (hrefs : forall f, f ∈ l.refs id -> f ∈ st.facts) :
    (system price).Makes st (insertCoverLetter id l).apply
      {f | f ∈ l.gives id} {(.coverLetters, id)} (l.weight price) := by
  apply Slot.coverLetters.makes_insert hkey (noChecks_eq l) hrefs
  intro db hnone a
  have hcount := fun p =>
    Table.count_insert (T := db.coverLetters) hnone (noChecks_eq l) p
  cases a with
  | request requestId =>
      have hletters := hcount (CoverLetter.isFor requestId)
      simp only [Slot.coverLetters, Db.measure, CoverLetter.weight, hletters]
      split
      · push_cast
        omega
      · simp
  | user userId =>
      have hletters := hcount (CoverLetter.isOf userId)
      simp only [Slot.coverLetters, Db.measure, Db.spent, CoverLetter.weight,
        hletters]
      split
      · push_cast
        rw [Int.mul_add, Int.mul_one]
        omega
      · simp

theorem insertCreditTransaction_makes {t : CreditTransaction}
    (hrefs : forall f, f ∈ t.refs -> f ∈ st.facts) :
    (system price).Makes st (insertCreditTransaction t).apply ∅ ∅ t.weight := by
  apply makes_of (Set.empty_subset _)
  · intro db _ f
    rw [Set.mem_empty_iff_false, or_false]
    exact Iff.rfl
  · intro db f hf
    rcases hf with htable | hledger | hredemption
    · exact Or.inl (Or.inl htable)
    · rcases hledger with ⟨row, hmem, hrow⟩
      rcases List.mem_append.mp hmem with hold | hnew
      · exact Or.inl (Or.inr (Or.inl ⟨row, hold, hrow⟩))
      · rw [List.mem_singleton.mp hnew] at hrow
        exact Or.inr (hrefs f hrow)
    · exact Or.inl (Or.inr (Or.inr hredemption))
  · exact fun db key _ hfree => hfree
  · intro db _ a
    cases a with
    | request requestId =>
        simp only [insertCreditTransaction_apply, Db.measure,
          CreditTransaction.weight, List.countP_append, List.countP_singleton]
        split
        · push_cast
          omega
        · simp
    | user userId =>
        simp only [insertCreditTransaction_apply, Db.measure, Db.spent,
          CreditTransaction.weight, List.filter_append, List.map_append,
          List.sum_append, List.filter_singleton]
        cases CreditTransaction.isSpendOf userId t with
        | true =>
            simp
            omega
        | false => simp

theorem insertPromoRedemption_makes {r : PromoRedemption}
    (hrefs : forall f, f ∈ r.refs -> f ∈ st.facts) :
    (system price).Makes st (insertPromoRedemption r).apply
      {.redemption r.promoCodeId r.userId} ∅ fun _ => 0 := by
  apply makes_of (Set.empty_subset _)
  · intro db _ f
    constructor
    · intro h
      rcases h with htable | hredemption
      · exact Or.inl (Or.inl htable)
      · rcases hredemption with ⟨row, hmem, hf⟩
        rcases List.mem_append.mp hmem with hold | hnew
        · exact Or.inl (Or.inr ⟨row, hold, hf⟩)
        · rw [List.mem_singleton.mp hnew] at hf
          exact Or.inr hf
    · intro h
      rcases h with hold | hnew
      · rcases hold with htable | hredemption
        · exact Or.inl htable
        · rcases hredemption with ⟨row, hmem, hf⟩
          exact Or.inr ⟨row, List.mem_append_left _ hmem, hf⟩
      · exact Or.inr ⟨r, List.mem_append_right _ (List.mem_singleton.mpr rfl),
          hnew⟩
  · intro db f hf
    rcases hf with htable | hledger | hredemption
    · exact Or.inl (Or.inl htable)
    · exact Or.inl (Or.inr (Or.inl hledger))
    · rcases hredemption with ⟨row, hmem, hrow⟩
      rcases List.mem_append.mp hmem with hold | hnew
      · exact Or.inl (Or.inr (Or.inr ⟨row, hold, hrow⟩))
      · rw [List.mem_singleton.mp hnew] at hrow
        exact Or.inr (hrefs f hrow)
  · exact fun db key _ hfree => hfree
  · exact fun _ _ _ => (Int.add_zero _).symm

/-!
# Updates
-/

/-- A column that is written holds the edited value or what it held. -/
theorem changed_cases {α : Type} [DecidableEq α] (loaded edited current : α) :
    changed loaded edited current = edited ∨
      changed loaded edited current = current := by
  unfold changed
  split
  · exact Or.inr rfl
  · exact Or.inl rfl

theorem updateUser_makes {id : Int} {loaded edited : User}
    (hrefs : forall f, f ∈ edited.refs id -> f ∈ st.facts) :
    (system price).Makes st (updateUser id loaded edited).apply ∅ ∅
      fun _ => 0 := by
  refine Slot.users.makes_modify (g := User.write loaded edited)
    (fun _ => rfl) ?_ fun _ _ _ => rfl
  intro r f hf
  simp only [Slot.users, User.refs, User.write] at hf ⊢
  rcases changed_cases loaded.pendingTopUpDiscountPromoCodeId
    edited.pendingTopUpDiscountPromoCodeId r.pendingTopUpDiscountPromoCodeId
    with hedited | hcurrent
  · rw [hedited] at hf
    exact Or.inr (hrefs f hf)
  · rw [hcurrent] at hf
    exact Or.inl hf

theorem updatePaymentIntent_makes (id : Int) (loaded edited : PaymentIntent) :
    (system price).Makes st (updatePaymentIntent id loaded edited).apply ∅ ∅
      fun _ => 0 :=
  Slot.paymentIntents.makes_modify (fun _ => rfl)
    (fun _ _ hf => Or.inl hf) fun _ _ _ => rfl

theorem updatePromoCode_makes (id : Int) (loaded edited : PromoCode) :
    (system price).Makes st (updatePromoCode id loaded edited).apply ∅ ∅
      fun _ => 0 :=
  Slot.promoCodes.makes_modify (fun _ => rfl)
    (fun _ _ hf => Or.inl hf) fun _ _ _ => rfl

/-- A request is marked as succeeded only by who knows of its letter. -/
theorem updateGenerationRequest_makes {id : Int}
    {loaded edited : GenerationRequest}
    (hletter : edited.status = .succeeded -> .letter id ∈ st.facts) :
    (system price).Makes st (updateGenerationRequest id loaded edited).apply
      ∅ ∅ fun _ => 0 := by
  refine Slot.generationRequests.makes_modify
    (g := GenerationRequest.write loaded edited) (fun _ => rfl) ?_
    fun _ _ _ => rfl
  intro r f hf
  rcases GenerationRequest.mem_refs.mp hf with hrow | hstatus
  · exact Or.inl (GenerationRequest.mem_refs.mpr (Or.inl hrow))
  · rcases hstatus with ⟨hsucceeded, rfl⟩
    simp only [GenerationRequest.write] at hsucceeded
    rcases changed_cases loaded.status edited.status r.status
      with hedited | hcurrent
    · exact Or.inr (hletter (hedited.symm.trans hsucceeded))
    · have hbefore := hcurrent.symm.trans hsucceeded
      exact Or.inl (GenerationRequest.mem_refs.mpr (Or.inr ⟨hbefore, rfl⟩))

theorem updateResumeProfile_makes (id : Int) (loaded edited : ResumeProfile) :
    (system price).Makes st (updateResumeProfile id loaded edited).apply ∅ ∅
      fun _ => 0 :=
  Slot.resumeProfiles.makes_modify (fun _ => rfl)
    (fun _ _ hf => Or.inl hf) fun _ _ _ => rfl

theorem updateSubscription_makes (id : Int) (loaded edited : Subscription) :
    (system price).Makes st (updateSubscription id loaded edited).apply ∅ ∅
      fun _ => 0 :=
  Slot.subscriptions.makes_modify (fun _ => rfl)
    (fun _ _ hf => Or.inl hf) fun _ _ _ => rfl

theorem updateEmployer_makes (id : Int) (loaded edited : Employer) :
    (system price).Makes st (updateEmployer id loaded edited).apply ∅ ∅
      fun _ => 0 :=
  Slot.employers.makes_modify (fun _ => rfl)
    (fun _ _ hf => Or.inl hf) fun _ _ _ => rfl

theorem updateVacancy_makes {id : Int} {loaded edited : Vacancy}
    (hemployer : .employer edited.employerId ∈ st.facts) :
    (system price).Makes st (updateVacancy id loaded edited).apply ∅ ∅
      fun _ => 0 := by
  refine Slot.vacancies.makes_modify (g := Vacancy.write loaded edited)
    (fun _ => rfl) ?_ fun _ _ _ => rfl
  intro r f hf
  simp only [Slot.vacancies, Vacancy.refs, Vacancy.write,
    List.mem_singleton] at hf ⊢
  rcases changed_cases loaded.employerId edited.employerId r.employerId
    with hedited | hcurrent
  · rw [hedited] at hf
    exact Or.inr (hf ▸ hemployer)
  · rw [hcurrent] at hf
    exact Or.inl hf

end CoverAI
