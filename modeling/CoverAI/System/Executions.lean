import CoverAI.System.Learning
import CoverAI.Workers.Tasks

/-!
# What an execution learns

The worker's session stores a letter only for a request of the job's user, and
it leaves the session owing the price of the letter.  Every exception that the
task catches was raised before that.
-/

namespace CoverAI

open Txn Program

section Executions

variable {α : Type} {price : Int} {Q : α -> Knows -> Prop}
  {E : Exc -> Knows -> Prop} {st : Knows}

theorem updateStatus_learns {Q : Unit -> Knows -> Prop} {requestId : Int}
    {status : GenerationStatus} (errorMessage : Option String)
    (completedAt : Option Instant)
    (hletter : status = .succeeded -> .letter requestId ∈ st.facts)
    (hE : forall st', E .integrityError st')
    (hQ : forall st', st.Extends st' -> Q () st') :
    (updateStatus requestId status errorMessage completedAt).Learns
      (system price) Q E st := by
  apply learns_ask_bind
  intro v hv
  have hst := Knowledge.extends_see hv
  cases v.generationRequests.get requestId with
  | none => exact hQ _ hst
  | some row =>
      apply learns_flushUnit
        (flushes_update (updateGenerationRequest_makes
          fun heq => hst.facts (hletter heq)))
        (hQ _ hst)
      intro w hw db e he
      rw [List.mem_singleton.mp hw] at he
      rw [updateIn_violation_eq he]
      exact hE _

theorem onFailure_learns {Q : α -> Knows -> Prop} (request : Option Int)
    (now : Instant) (e : Exc) (hE : Tolerates E st)
    (hintegrity : forall st', E .integrityError st') :
    (onFailure request now e).Learns (system price) Q E st := by
  unfold onFailure
  split
  · cases request with
    | none => exact hE e st (Known.Extends.refl st)
    | some requestId =>
        apply learns_bind
        refine updateStatus_learns _ _ ?_ hintegrity ?_
        · intro heq
          cases heq
        · exact fun st' hst => hE e st' hst
  · exact hE e st (Known.Extends.refl st)

/-- The request and its letter are known, and the letter is still to be paid
for. -/
structure Owes (price : Int) (st st' : Knows) (letter : CoverLetter)
    (userId : Int) : Prop where
  owner : letter.userId = userId
  request : .request letter.generationRequestId userId ∈ st'.facts
  stored : .letter letter.generationRequestId ∈ st'.facts
  change : forall a, st'.change a = st.change a + letter.weight price a

theorem Owes.mono {st' st'' : Knows} {letter : CoverLetter} {userId : Int}
    (h : Owes price st st' letter userId) (hst : st'.Extends st'') :
    Owes price st st'' letter userId := by
  constructor
  · exact h.owner
  · exact hst.facts h.request
  · exact hst.facts h.stored
  · intro a
    rw [hst.change]
    exact h.change a

/-- What was owed from a later state on is owed from the one before. -/
theorem Owes.before {st' st'' : Knows} {letter : CoverLetter} {userId : Int}
    (h : Owes price st' st'' letter userId) (hst : st.Extends st') :
    Owes price st st'' letter userId := by
  constructor
  · exact h.owner
  · exact h.request
  · exact h.stored
  · intro a
    rw [h.change, hst.change]

theorem generateAndSaveLetter_learns {Q : Int × CoverLetter -> Knows -> Prop}
    {requestId : Int} {request : GenerationRequest} {result : VacancyResult}
    (env : Env) (clients : Clients) (profile : ResumeProfile) (tone : Tone)
    (now : Instant) (hbound : Bound st (requestId, request))
    (hresult : forall f, f ∈ result.refs -> f ∈ st.facts)
    (hE : Tolerates E st)
    (hQ : forall entry st', Owes price st st' entry.2 request.userId ->
      Q entry st') :
    (generateAndSaveLetter env clients requestId request profile result tone
      now).Learns (system price) Q E st := by
  apply learns_ofExcept_bind hE
  intro reply _
  rcases reply with ⟨prompt, completion⟩
  simp only
  split
  · exact hE _ st (Known.Extends.refl st)
  · apply learns_insert_bind
      (fun id st' hfacts hkey _ => insertCoverLetter_makes hkey ?_) hE
    · intro id st' hfacts hnew hchange
      have hletter := hnew _ (List.mem_singleton_self _)
      exact hQ _ st' ⟨rfl, hfacts hbound.owner, hletter, hchange⟩
    · intro f hf
      rw [hfacts]
      simp only [CoverLetter.refs, coverLetter, List.mem_cons,
        List.not_mem_nil, or_false] at hf
      rcases hf with rfl | rfl | rfl | rfl | rfl | rfl
      · exact hbound _ (by simp [GenerationRequest.mem_refs])
      · exact hbound _ (by simp [GenerationRequest.mem_refs])
      · exact hbound _ (by simp [GenerationRequest.mem_refs])
      · exact hresult _ (by simp [VacancyResult.refs])
      · exact hbound.owner
      · exact hbound _ (by simp [GenerationRequest.gives])

theorem writeLetter_learns {Q : Int × CoverLetter -> Knows -> Prop}
    {userId profileId : Int} {request : Option (Int × GenerationRequest)}
    {result : VacancyResult} (env : Env) (clients : Clients)
    (profile : ResumeProfile) (tone : Tone) (now : Instant)
    (huser : .user userId ∈ st.facts)
    (hprofile : .profile profileId userId ∈ st.facts)
    (hrequest : forall entry, request = some entry ->
      Bound st entry ∧ entry.2.userId = userId)
    (hresult : forall f, f ∈ result.refs -> f ∈ st.facts)
    (hE : Tolerates E st) (hintegrity : forall st', E .integrityError st')
    (hQ : forall entry st', Owes price st st' entry.2 userId -> Q entry st') :
    (writeLetter env clients userId profileId profile tone request result
      now).Learns (system price) Q E st := by
  have hwrite : forall entry st', st.Extends st' -> Bound st' entry ->
      entry.2.userId = userId ->
      ((generateAndSaveLetter env clients entry.1 entry.2
        (snapshotProfile profile entry.2) result
        (entry.2.snapshotTone.getD tone) now).tryCatch
          (onFailure (some entry.1) now)).Learns (system price) Q E st' := by
    intro entry st' hst hbound howner
    apply learns_tryCatch
    refine generateAndSaveLetter_learns env clients _ _ now hbound
      (fun f hf => hst.facts (hresult f hf)) ?_ ?_
    · intro e st'' hst'
      exact onFailure_learns _ now e (hE.mono (hst.trans hst')) hintegrity
    · intro letter st'' howes
      rw [howner] at howes
      exact hQ letter st'' (howes.before hst)
  cases request with
  | some entry =>
      rcases hrequest entry rfl with ⟨hbound, howner⟩
      exact hwrite entry st (Known.Extends.refl st) hbound howner
  | none =>
      apply learns_bind
      apply learns_tryCatch
      refine createGenerationRequest_learns
        (pendingRequest_refs _ _ _ _ huser hprofile
          (hresult _ List.mem_cons_self)) ?_ ?_
      · intro e st' hst
        exact onFailure_learns none now e (hE.mono hst) hintegrity
      · intro entry st' hst hrequest' hbound
        apply hwrite entry st' hst hbound
        rw [hrequest']
        rfl

theorem loadAndWrite_learns {Q : GeneratedCoverLetter -> Knows -> Prop}
    {userId profileId : Int} {request : Option (Int × GenerationRequest)}
    (env : Env) (clients : Clients) (vacancyUrl : String) (user : User)
    (profile : ResumeProfile) (tone : Tone) (now : Instant)
    (huser : .user userId ∈ st.facts)
    (hprofile : .profile profileId userId ∈ st.facts)
    (hrequest : forall entry, request = some entry ->
      Bound st entry ∧ entry.2.userId = userId)
    (hE : Tolerates E st) (hintegrity : forall st', E .integrityError st')
    (hQ : forall result st', Owes price st st' result.letter userId ->
      Q result st') :
    (loadAndWrite env clients userId vacancyUrl user profileId profile tone
      request now).Learns (system price) Q E st := by
  apply learns_bind
  apply learns_tryCatch
  apply getOrLoadVacancy_learns
  · intro e st' hst
    exact onFailure_learns _ now e (hE.mono hst) hintegrity
  · intro result st₁ hst₁ hresult
    apply learns_bind
    refine writeLetter_learns env clients profile tone now (hst₁.facts huser)
      (hst₁.facts hprofile) ?_ hresult (hE.mono hst₁) hintegrity ?_
    · intro entry heq
      rcases hrequest entry heq with ⟨hbound, howner⟩
      exact ⟨hbound.mono hst₁.facts, howner⟩
    · intro entry st₂ howes
      apply learns_bind
      apply updateStatus_learns _ _ (fun _ => howes.stored) hintegrity
      intro st₃ hst₃
      exact hQ _ st₃ ((howes.mono hst₃).before hst₁)

theorem existingRequest_learns
    {Q : Option (Int × GenerationRequest) -> Knows -> Prop}
    (requestId : Option Int) (userId : Int) (hE : Tolerates E st)
    (hQ : forall found st', st.Extends st' ->
      (forall entry, found = some entry ->
        Bound st' entry ∧ entry.2.userId = userId) -> Q found st') :
    (existingRequest requestId userId).Learns (system price) Q E st := by
  cases requestId with
  | none =>
      apply hQ none st (Known.Extends.refl st)
      intro entry heq
      cases heq
  | some requestId =>
      apply learns_ask_bind
      intro v hv
      have hst := Knowledge.extends_see hv
      cases hfound : (v.generationRequests.get requestId).filter
        fun r => r.userId = userId with
      | none => exact hE _ _ hst
      | some request =>
          rcases Option.filter_eq_some_iff.mp hfound with ⟨hget, howner⟩
          apply hQ _ _ hst
          intro entry heq
          cases heq
          constructor
          · intro f hf
            rcases List.mem_append.mp hf with hgives | hrefs
            · exact Slot.generationRequests.holds_of_get hget hgives
            · exact Slot.generationRequests.holds_of_refs hv.ok hget hrefs
          · exact of_decide_eq_true howner

theorem generateForVacancyUrl_learns
    {Q : GeneratedCoverLetter -> Knows -> Prop} (env : Env)
    (clients : Clients) (userId : Int) (vacancyUrl : String) (tone : Tone)
    (generationRequestId : Option Int) (enforceQuota : Bool) (now : Instant)
    (hE : Tolerates E st) (hintegrity : forall st', E .integrityError st')
    (hQ : forall result st', Owes price st st' result.letter userId ->
      Q result st') :
    (generateForVacancyUrl env clients userId vacancyUrl tone
      generationRequestId enforceQuota now).Learns (system price) Q E st := by
  apply learns_ask_bind
  intro v hv
  have hst := Knowledge.extends_see hv
  cases hget : v.users.get userId with
  | none => exact hE _ _ hst
  | some user =>
      simp only
      split
      · exact hE _ _ hst
      · apply learns_ask_bind
        intro v' hv'
        have hst' := hst.trans (Knowledge.extends_see hv')
        have huser : .user userId ∈ ((system price).see
            ((system price).see st v) v').facts :=
          (Knowledge.extends_see hv').facts (holds_user hget)
        split
        · exact hE _ _ hst'
        · rename_i profileId profile heq
          have hload : forall (found : Option (Int × GenerationRequest)) st₁,
              ((system price).see ((system price).see st v) v').Extends st₁ ->
              (forall entry, found = some entry ->
                Bound st₁ entry ∧ entry.2.userId = userId) ->
              (loadAndWrite env clients userId vacancyUrl user profileId profile
                tone found now).Learns (system price) Q E st₁ := by
            intro found st₁ hst₁ hfound
            apply loadAndWrite_learns env clients _ _ _ _ _ (hst₁.facts huser)
              (hst₁.facts (profile_of_first? heq)) hfound
              (hE.mono (hst'.trans hst₁)) hintegrity
            intro result st₂ howes
            exact hQ result st₂ (howes.before (hst'.trans hst₁))
          apply learns_bind
          apply existingRequest_learns _ _ (hE.mono hst')
          intro found st₁ hst₁ hfound
          cases enforceQuota with
          | false => exact hload found st₁ hst₁ hfound
          | true =>
              apply learns_bind
              apply learns_bind
              apply ensureCanGenerate_learns _ _ _ (hE.mono (hst'.trans hst₁))
              intro usage st₂ hst₂
              apply hload found st₂ (hst₁.trans hst₂)
              intro entry heq
              rcases hfound entry heq with ⟨hbound, howner⟩
              exact ⟨hbound.mono hst₂.facts, howner⟩

/-!
# The charge
-/

/-- The row that pays for a letter of the user balances it. -/
theorem spendRow_weight {letter : CoverLetter} {userId balance : Int}
    (howner : letter.userId = userId) (a : Tally) :
    letter.weight price a +
      (spendRow userId price balance letter.generationRequestId).weight a =
        0 := by
  cases a with
  | request id =>
      by_cases hid : letter.generationRequestId = id
      · simp [CoverLetter.weight, CoverLetter.isFor, CreditTransaction.weight,
          CreditTransaction.paysFor, spendRow, hid]
      · simp [CoverLetter.weight, CoverLetter.isFor, CreditTransaction.weight,
          CreditTransaction.paysFor, spendRow, hid]
  | user id =>
      by_cases hid : userId = id
      · simp [CoverLetter.weight, CoverLetter.isOf, CreditTransaction.weight,
          CreditTransaction.isSpendOf, spendRow, howner, hid]
      · simp [CoverLetter.weight, CoverLetter.isOf, CreditTransaction.weight,
          CreditTransaction.isSpendOf, spendRow, howner, hid]

theorem flushes_charge {db : Db} {id : Int} {user edited : User}
    {t : CreditTransaction} (hdb : (system price).Shows st db)
    (hget : db.users.get id = some user)
    (hpromo : edited.pendingTopUpDiscountPromoCodeId =
      user.pendingTopUpDiscountPromoCodeId)
    (hrefs : forall f, f ∈ t.refs -> db.Holds f) :
    (system price).Flushes ((system price).see st db)
      [updateUser id user edited, insertCreditTransaction t]
      (((system price).see st db).record ∅ ∅ t.weight) :=
  flushes_neutral (updateUser_known hdb hget hpromo id user)
    (.cons (fun _ => insertCreditTransaction_makes hrefs) .nil)

theorem debitGenerationCredits_learns {Q : Unit -> Knows -> Prop}
    {st₀ : Knows} {letter : CoverLetter} {userId : Int}
    (howes : Owes price st₀ st letter userId) (hE : forall e st', E e st')
    (hQ : forall st', st'.change = st₀.change -> Q () st') :
    (debitGenerationCredits userId price letter.generationRequestId).Learns
      (system price) Q E st := by
  apply learns_forUpdate_bind
  intro v hv
  have hst := Knowledge.extends_see hv
  cases hget : v.users.get userId with
  | none => exact hE _ _
  | some user =>
      simp only
      split
      · exact hE _ _
      · refine learns_flushUnit (flushes_charge hv hget rfl ?_) ?_
          fun _ _ _ e _ => hE e _
        · intro f hf
          simp only [CreditTransaction.refs, spendRow, Option.toList_some,
            Option.toList_none, List.map_cons, List.map_nil, List.flatMap_nil,
            List.append_nil, List.mem_cons, List.not_mem_nil, or_false] at hf
          rcases hf with rfl | rfl
          · exact holds_user hget
          · exact hst.facts howes.request
        · apply hQ
          funext a
          show ((system price).see st v).change a + _ = _
          rw [hst.change, howes.change, Int.add_assoc,
            spendRow_weight howes.owner]
          exact Int.add_zero _

theorem keepError_learns {Q : SessionResult -> Knows -> Prop} (job : Job)
    (e : Exc) (hE : forall st', E e st')
    (hQ : e ≠ .integrityError -> forall kept st', st.Extends st' ->
      Q kept st') :
    (keepError job e).Learns (system price) Q E st := by
  unfold keepError
  split
  · rename_i hhh
    apply learns_ask_bind
    intro v hv
    apply hQ _ _ _ (Knowledge.extends_see hv)
    intro heq
    rw [heq] at hhh
    cases hhh
  · split
    · rename_i hquota
      apply learns_ask_bind
      intro v hv
      apply hQ _ _ _ (Knowledge.extends_see hv)
      intro heq
      rw [heq] at hquota
      cases hquota
    · exact hE st

/-- An execution of a job that is charged at the price leaves the accounts
balanced. -/
theorem generationSession_learns {Q : SessionResult -> Knows -> Prop}
    (env : Env) (clients : Clients) {job : Job} (now : Instant)
    (hprice : 0 < price) (hjob : (system price).sends job)
    (hE : forall e st', E e st')
    (hQ : forall result st', st'.change = st.change -> Q result st') :
    (generationSession env clients job now).Learns (system price) Q E st := by
  have hcharge : (job.chargeCredits && decide (0 < job.costCredits)) = true := by
    simp [hjob.left, hjob.right, hprice]
  apply learns_bind
  apply learns_tryCatch
  apply learns_bind
  unfold generateForJob
  split
  · apply learns_bind
    apply keepError_learns job _ (hE _)
    exact fun _ kept st' hst => hQ kept st' hst.change
  · apply generateForVacancyUrl_learns
    · intro e st' hst
      apply learns_bind
      apply keepError_learns job e (hE e)
      exact fun _ kept st'' hst' => hQ kept st'' (hst.trans hst').change
    · intro st'
      apply learns_bind
      apply keepError_learns job _ (hE _)
      exact fun hne => absurd rfl hne
    · intro result st' howes
      show (chargeForLetter job result).Learns _ _ _ _
      unfold chargeForLetter
      rw [if_pos hcharge, hjob.right]
      apply learns_bind
      apply debitGenerationCredits_learns howes hE
      exact fun st'' hchange => hQ _ st'' hchange

end Executions
end CoverAI
