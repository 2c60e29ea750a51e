import CoverAI.Api.Bootstrap
import CoverAI.Api.Generations
import CoverAI.Api.Payments
import CoverAI.Api.Profile
import CoverAI.Bot.Runtime
import CoverAI.System.Learning

/-!
# What the routes and the use cases learn

The routes of the API and the use cases of the bot write rows of a user they
have read, and rows of the ledger about rows they have read or just written.
-/

namespace CoverAI

open Txn Program

section Routes

variable {α : Type} {price : Int} {Q : α -> Knows -> Prop}
  {E : Exc -> Knows -> Prop} {st : Knows}

/-- The row of the user is there, and so is what the loaded copy refers to. -/
structure Loaded (st : Knows) (userId : Int) (user : User) : Prop where
  known : .user userId ∈ st.facts
  refs : forall f, f ∈ user.refs userId -> f ∈ st.facts

theorem Loaded.mono {st' : Knows} {userId : Int} {user : User}
    (h : Loaded st userId user) (hst : st.facts ⊆ st'.facts) :
    Loaded st' userId user :=
  ⟨hst h.known, fun f hf => hst (h.refs f hf)⟩

theorem loaded_of_get {db : Db} {userId : Int} {user : User}
    (hdb : (system price).Shows st db)
    (hget : db.users.get userId = some user) :
    Loaded ((system price).see st db) userId user :=
  ⟨holds_user hget, fun _ hf => Slot.users.holds_of_refs hdb.ok hget hf⟩

/-- Other columns of the loaded row may be edited. -/
theorem Loaded.makes {userId : Int} {user edited : User}
    (h : Loaded st userId user)
    (hpromo : edited.pendingTopUpDiscountPromoCodeId =
        user.pendingTopUpDiscountPromoCodeId ∨
      edited.pendingTopUpDiscountPromoCodeId = none) (loaded : User) :
    (system price).Makes st (updateUser userId loaded edited).apply ∅ ∅
      fun _ => 0 := by
  apply updateUser_makes
  intro f hf
  rcases hpromo with hsame | hnone
  · simp only [User.refs, hsame] at hf
    exact h.refs f hf
  · simp [User.refs, hnone] at hf

theorem currentUser_learns {Q : User -> Knows -> Prop} (userId : Int)
    (hE : Tolerates E st)
    (hQ : forall user st', st.Extends st' -> Loaded st' userId user ->
      Q user st') : (currentUser userId).Learns (system price) Q E st := by
  apply learns_ask_bind
  intro v hv
  have hst := Knowledge.extends_see hv
  cases hget : v.users.get userId with
  | none => exact hE _ _ hst
  | some user => exact hQ user _ hst (loaded_of_get hv hget)

theorem adminUser_learns {Q : User -> Knows -> Prop} (adminId : Int)
    (hE : Tolerates E st)
    (hQ : forall user st', st.Extends st' -> Loaded st' adminId user ->
      Q user st') : (adminUser adminId).Learns (system price) Q E st := by
  apply learns_bind
  apply currentUser_learns adminId hE
  intro user st' hst hloaded
  split
  · exact hE _ st' hst
  · exact hQ user st' hst hloaded

/-- A locked row is the one that was loaded before, if there was one. -/
theorem lockedUser_learns {Q : User -> Knows -> Prop} (held : Option User)
    (userId : Int)
    (hheld : forall user, held = some user -> Loaded st userId user)
    (hE : Tolerates E st)
    (hQ : forall user st', st.Extends st' -> Loaded st' userId user ->
      Q user st') : (lockedUser held userId).Learns (system price) Q E st := by
  apply learns_forUpdate_bind
  intro v hv
  have hst := Knowledge.extends_see hv
  cases hget : v.users.get userId with
  | none => exact hE _ _ hst
  | some row =>
      apply hQ _ _ hst
      cases held with
      | none => exact loaded_of_get hv hget
      | some user => exact (hheld user rfl).mono hst.facts

/-!
# Registration and profiles
-/

theorem ensureAdminUser_learns {Q : Unit -> Knows -> Prop} (email : String)
    (hE : Tolerates E st) (hQ : forall st', st.Extends st' -> Q () st') :
    (ensureAdminUser email).Learns (system price) Q E st := by
  apply learns_ask_bind
  intro v hv
  have hst := Knowledge.extends_see hv
  split
  · exact hQ _ hst
  · apply learns_bind
    apply createUser_learns rfl (hE.mono hst)
    exact fun id st' hst' _ => hQ st' (hst.trans hst')

theorem createOrUpdateProfile_learns {Q : ProfileResult -> Knows -> Prop}
    {userId : Int} (title resumeText : String)
    (huser : .user userId ∈ st.facts) (hE : Tolerates E st)
    (hQ : forall result st', st.Extends st' -> Q result st') :
    (createOrUpdateProfile userId title resumeText).Learns (system price) Q E
      st := by
  apply learns_tryCatch
  refine createProfile_learns title resumeText huser ?_ hQ
  intro e st' hst
  simp only
  split
  · exact updateProfile_learns userId resumeText (hE.mono hst)
      fun result st'' hst' => hQ result st'' (hst.trans hst')
  · exact hE e st' hst

theorem saveProfile_learns {Q : ProfileResponse -> Knows -> Prop}
    (userId : Int) (title resumeText : String) (hE : Tolerates E st)
    (hQ : forall response st', st.Extends st' -> Q response st') :
    (saveProfile userId title resumeText).Learns (system price) Q E st := by
  apply learns_bind
  apply currentUser_learns userId hE
  intro user st₁ hst₁ hloaded
  apply learns_bind
  apply learns_tryCatch
  apply createOrUpdateProfile_learns title resumeText hloaded.known
  · exact fun e st₂ hst₂ => hE _ st₂ (hst₁.trans hst₂)
  · exact fun result st₂ hst₂ => hQ _ st₂ (hst₁.trans hst₂)

theorem createGeneration_learns {Q : GenerationCreateResponse -> Knows -> Prop}
    (env : Env) (userId : Int) (vacancyUrl : String) (tone : Tone)
    (now : Instant) (hE : Tolerates E st)
    (hQ : forall response st', st.Extends st' -> Q response st') :
    (createGeneration env userId vacancyUrl tone now).Learns
      (system env.predictionCostCredits) Q E st := by
  apply learns_bind
  apply currentUser_learns userId hE
  intro user st₁ hst₁ hloaded
  apply learns_bind
  apply learns_tryCatch
  apply enqueueGeneration_learns user vacancyUrl tone now hloaded.known
  · exact fun e st₂ hst₂ => hE _ st₂ (hst₁.trans hst₂)
  · exact fun entry st₂ hst₂ => hQ _ st₂ (hst₁.trans hst₂)

theorem botEnqueueGeneration_learns {Q : Unit -> Knows -> Prop} (env : Env)
    (userId : Int) (vacancyUrl : String) (tone : Tone) (now : Instant)
    (hE : Tolerates E st) (hQ : forall st', st.Extends st' -> Q () st') :
    (botEnqueueGeneration env userId vacancyUrl tone now).Learns
      (system env.predictionCostCredits) Q E st := by
  apply learns_ask_bind
  intro v hv
  have hst := Knowledge.extends_see hv
  split
  · exact hE _ _ hst
  · split
    · exact hE _ _ hst
    · apply learns_ask_bind
      intro v' hv'
      have hst' := hst.trans (Knowledge.extends_see hv')
      split
      · exact hE _ _ hst'
      · constructor
        · exact ⟨rfl, rfl⟩
        · exact hQ _ hst'

/-!
# Payments
-/

theorem createPayment_learns {Q : PaymentResponse -> Knows -> Prop} (env : Env)
    (userId creditsAmount : Int) (uuidHex : String) (now : Instant)
    (hE : Tolerates E st)
    (hQ : forall response st', st.Extends st' -> Q response st') :
    (createPayment env userId creditsAmount uuidHex now).Learns (system price)
      Q E st := by
  apply learns_bind
  apply currentUser_learns userId hE
  intro user st₁ hst₁ hloaded
  apply learns_draw_bind
  intro id _
  have hst₂ := hst₁.trans (Known.extends_draw st₁ .paymentIntents id)
  have hdrawn : Loaded (st₁.draw .paymentIntents id) userId user :=
    ⟨hloaded.known, hloaded.refs⟩
  refine learns_flush_bind (flushes_neutral (hdrawn.makes ?_ user)
    (.cons (fun hsent => insertPaymentIntent_makes (Set.mem_insert _ _) ?_
      hsent) .nil)) (fun e => hE e _ hst₂) ?_
  · split
    · exact Or.inr rfl
    · exact Or.inl rfl
  · intro f hf
    rw [List.mem_singleton.mp hf]
    exact hloaded.known
  · exact hQ _ _ (hst₂.trans (Known.extends_record _ _ _))

theorem intent_of_first? {db : Db} {p : PaymentIntent -> Bool} {id : Int}
    {intent : PaymentIntent} (h : db.paymentIntents.first? p = some (id, intent)) :
    db.Holds (.paymentIntent id intent.userId intent.creditsAmount) :=
  Slot.paymentIntents.holds_of_get (Table.get_of_first? h)
    (List.mem_singleton_self _)

/-- A row of the ledger about a payment intent of the user. -/
theorem intentRow_refs {t : CreditTransaction} {id : Int}
    {i : PaymentIntent} (howner : t.userId = i.userId)
    (hrequest : t.generationRequestId = none)
    (hintent : t.paymentIntentId = some id) (hpromo : t.promoCodeId = none)
    (hcredits : t.intentCredits = i.creditsAmount)
    (huser : .user i.userId ∈ st.facts)
    (hknown : .paymentIntent id i.userId i.creditsAmount ∈ st.facts) :
    forall f, f ∈ t.refs -> f ∈ st.facts := by
  intro f hf
  simp only [CreditTransaction.refs, hrequest, hintent, hpromo, howner,
    hcredits, Option.toList_some, Option.toList_none, List.map_cons,
    List.map_nil, List.flatMap_nil, List.append_nil, List.mem_append,
    List.mem_cons, List.not_mem_nil, or_false] at hf
  rcases hf with hfirst | hsecond
  · exact hfirst ▸ huser
  · exact hsecond ▸ hknown

theorem confirmPayment_learns {Q : PaymentResponse -> Knows -> Prop}
    (externalId : String) (now : Instant) (hE : Tolerates E st)
    (hQ : forall response st', st.Extends st' -> Q response st') :
    (confirmPayment externalId now).Learns (system price) Q E st := by
  apply learns_ask_bind
  intro v hv
  have hst := Knowledge.extends_see hv
  split
  · exact hE _ _ hst
  · rename_i id intent heq
    split
    · exact hQ _ _ hst
    · apply learns_bind
      apply lockedUser_learns none _ (fun _ h => nomatch h) (hE.mono hst)
      intro user st₁ hst₁ hloaded
      refine learns_flush_bind (flushes_neutral (hloaded.makes (Or.inr rfl) user)
        (flushes_neutral (updatePaymentIntent_makes id intent _)
          (flushes_update (insertCreditTransaction_neutral ?_ ?_))))
        (fun e => hE e _ (hst.trans hst₁)) (hQ _ _ (hst.trans hst₁))
      · intro htype
        cases htype
      · exact intentRow_refs rfl rfl rfl rfl rfl hloaded.known
          (hst₁.facts (intent_of_first? heq))

theorem endPending_learns {Q : PaymentResponse -> Knows -> Prop}
    (status : PaymentStatus) (externalId : String) (now : Instant)
    (hE : Tolerates E st)
    (hQ : forall response st', st.Extends st' -> Q response st') :
    (endPending status externalId now).Learns (system price) Q E st := by
  apply learns_ask_bind
  intro v hv
  have hst := Knowledge.extends_see hv
  split
  · exact hE _ _ hst
  · split
    · exact learns_flush_bind
        (flushes_update (updatePaymentIntent_makes _ _ _))
        (fun e => hE e _ hst) (hQ _ _ hst)
    · exact hQ _ _ hst

theorem refundPayment_learns {Q : PaymentResponse -> Knows -> Prop}
    (paymentId : Int) (now : Instant) (hE : Tolerates E st)
    (hQ : forall response st', st.Extends st' -> Q response st') :
    (refundPayment paymentId now).Learns (system price) Q E st := by
  apply learns_ask_bind
  intro v hv
  have hst := Knowledge.extends_see hv
  cases hget : v.paymentIntents.get paymentId with
  | none => exact hE _ _ hst
  | some intent =>
      simp only
      split
      · exact hE _ _ hst
      · split
        · exact hQ _ _ hst
        · have hintent : v.Holds (.paymentIntent paymentId intent.userId
              intent.creditsAmount) :=
            Slot.paymentIntents.holds_of_get hget (List.mem_singleton_self _)
          apply learns_bind
          apply lockedUser_learns none _ (fun _ h => nomatch h) (hE.mono hst)
          intro user st₁ hst₁ hloaded
          have hst₂ := hst.trans hst₁
          split
          · exact learns_flush_bind
              (flushes_update (updatePaymentIntent_makes _ _ _))
              (fun e => hE e _ hst₂) (hQ _ _ hst₂)
          · refine learns_flush_bind
              (flushes_neutral (hloaded.makes ?_ user)
                (flushes_neutral (updatePaymentIntent_makes paymentId intent _)
                  (flushes_update (insertCreditTransaction_neutral ?_ ?_))))
              (fun e => hE e _ hst₂) (hQ _ _ hst₂)
            · exact Or.inl rfl
            · intro htype
              cases htype
            · apply intentRow_refs rfl rfl rfl rfl _ hloaded.known
                (hst₁.facts hintent)
              simp [CreditTransaction.intentCredits, refundRow]

theorem createMockTopUp_learns {Q : String -> Knows -> Prop} (env : Env)
    (userId creditsAmount : Int) (hE : Tolerates E st)
    (hQ : forall answer st', st.Extends st' -> Q answer st') :
    (createMockTopUp env userId creditsAmount).Learns (system price) Q E
      st := by
  apply learns_forUpdate_bind
  intro v hv
  have hst := Knowledge.extends_see hv
  cases hget : v.users.get userId with
  | none => exact hQ _ _ hst
  | some user =>
      have hloaded := loaded_of_get hv hget
      apply learns_draw_bind
      intro id _
      have hst₁ := hst.trans
        (Known.extends_draw ((system price).see st v) .paymentIntents id)
      have hdrawn : Loaded (((system price).see st v).draw .paymentIntents id)
          userId user := ⟨hloaded.known, hloaded.refs⟩
      refine learns_flush_bind (flushes_neutral (hdrawn.makes ?_ user)
        (.cons (fun hsent => insertPaymentIntent_makes (Set.mem_insert _ _) ?_
          hsent) .nil)) (fun e => hE e _ hst₁) ?_
      · exact Or.inl rfl
      · intro f hf
        rw [List.mem_singleton.mp hf]
        exact hloaded.known
      · refine learns_flush_bind
          (flushes_update (insertCreditTransaction_neutral ?_ ?_))
          (fun e => hE e _ (hst₁.trans (Known.extends_record _ _ _)))
          (hQ _ _ (hst₁.trans (Known.extends_record _ _ _)))
        · intro htype
          cases htype
        · exact intentRow_refs (i := mockTopUpIntent env userId creditsAmount
            user.pendingTopUpDiscountPercent) rfl rfl rfl rfl rfl
            (Or.inl hloaded.known) (Or.inr (List.mem_singleton_self _))

/-!
# Promo codes
-/

theorem lockPromo_learns {Q : Option (Int × PromoCode) -> Knows -> Prop}
    (code : String)
    (hQ : forall found st', st.Extends st' ->
      (forall entry, found = some entry -> forall f, f ∈ entry.2.gives entry.1 ->
        f ∈ st'.facts) -> Q found st') :
    (lockPromo code).Learns (system price) Q E st := by
  apply learns_ask_bind
  intro v hv
  have hst := Knowledge.extends_see hv
  split
  · exact hQ none _ hst fun _ h => nomatch h
  · rename_i promoId _ _
    intro v' hv'
    apply hQ _ _ (hst.trans (Knowledge.extends_see hv'))
    intro entry heq f hf
    rcases Option.map_eq_some_iff.mp heq with ⟨promo, hget, rfl⟩
    exact Slot.promoCodes.holds_of_get hget hf

/-- The writes that both channels flush for a code with credits. -/
theorem flushes_redemption {userId promoId : Int} {user edited : User}
    {promo : PromoCode} {t : CreditTransaction} (hloaded : Loaded st userId user)
    (hpromo : forall f, f ∈ promo.gives promoId -> f ∈ st.facts)
    (hedited : edited.pendingTopUpDiscountPromoCodeId =
      user.pendingTopUpDiscountPromoCodeId)
    (ht : exists credits description,
      t = promoRow userId promoId promo credits description) :
    (system price).Flushes st
      [updatePromoCode promoId promo promo.activate,
        updateUser userId user edited,
        insertPromoRedemption { promoCodeId := promoId, userId := userId },
        insertCreditTransaction t]
      (st.record {.redemption promoId userId} ∅ fun _ => 0) := by
  rcases ht with ⟨credits, description, rfl⟩
  refine flushes_neutral (updatePromoCode_makes _ _ _)
    (flushes_neutral (hloaded.makes (Or.inl hedited) user)
      (.cons (fun _ => insertPromoRedemption_makes ?_)
        (flushes_update (insertCreditTransaction_neutral ?_ ?_))))
  · intro f hf
    rcases List.mem_cons.mp hf with hfirst | hrest
    · rw [hfirst]
      exact hpromo _ List.mem_cons_self
    · rw [List.mem_singleton.mp hrest]
      exact hloaded.known
  · intro htype
    cases htype
  · intro f hf
    simp only [CreditTransaction.refs, promoRow, Option.toList_some,
      Option.toList_none, List.map_nil, List.flatMap_cons, List.flatMap_nil,
      List.append_nil, List.mem_append, List.mem_cons, List.not_mem_nil,
      or_false] at hf
    rcases hf with rfl | rfl | rfl
    · exact Or.inl hloaded.known
    · exact Or.inl (hpromo _ (by simp [PromoCode.gives]))
    · exact Or.inr rfl

/-- The writes for a code with a discount. -/
theorem flushes_discount {userId promoId : Int} {user edited : User}
    {promo : PromoCode} (hloaded : Loaded st userId user)
    (hpromo : forall f, f ∈ promo.gives promoId -> f ∈ st.facts)
    (hedited : forall f, f ∈ edited.refs userId -> f ∈ st.facts) :
    (system price).Flushes st
      [updatePromoCode promoId promo promo.activate,
        updateUser userId user edited,
        insertPromoRedemption { promoCodeId := promoId, userId := userId }]
      (st.record {.redemption promoId userId} ∅ fun _ => 0) := by
  refine flushes_neutral (updatePromoCode_makes _ _ _)
    (flushes_neutral (updateUser_makes hedited)
      (.cons (fun _ => insertPromoRedemption_makes ?_) .nil))
  intro f hf
  rcases List.mem_cons.mp hf with hfirst | hrest
  · rw [hfirst]
    exact hpromo _ List.mem_cons_self
  · rw [List.mem_singleton.mp hrest]
    exact hloaded.known

theorem redeemLocked_learns {Q : PromoResponse -> Knows -> Prop} {userId : Int}
    {user : User} {promoId : Int} {promo : PromoCode}
    (hloaded : Loaded st userId user)
    (hpromo : forall f, f ∈ promo.gives promoId -> f ∈ st.facts)
    (hE : Tolerates E st)
    (hQ : forall response st', st.Extends st' -> Q response st') :
    (redeemLocked userId user promoId promo).Learns (system price) Q E st := by
  apply learns_bind
  apply lockedUser_learns (some user) userId _ hE
  · intro locked st' hst hlocked
    have hpromo' : forall f, f ∈ promo.gives promoId -> f ∈ st'.facts :=
      fun f hf => hst.facts (hpromo f hf)
    simp only
    split
    · exact learns_flush_bind
        (flushes_redemption hlocked hpromo' rfl ⟨_, _, rfl⟩)
        (fun e => hE e _ hst) (hQ _ _ (hst.trans (Known.extends_record _ _ _)))
    · refine learns_flush_bind (flushes_discount hlocked hpromo' ?_)
        (fun e => hE e _ hst) (hQ _ _ (hst.trans (Known.extends_record _ _ _)))
      intro f hf
      rw [List.mem_singleton.mp hf]
      exact hpromo' _ List.mem_cons_self
  · intro held heq
    cases heq
    exact hloaded

theorem redeemPromo_learns {Q : PromoResponse -> Knows -> Prop} (env : Env)
    (userId : Int) (code : String) (now : Instant) (hE : Tolerates E st)
    (hQ : forall response st', st.Extends st' -> Q response st') :
    (redeemPromo env userId code now).Learns (system price) Q E st := by
  apply learns_bind
  apply currentUser_learns userId hE
  intro user st₁ hst₁ hloaded
  apply learns_bind
  apply lockPromo_learns
  intro found st₂ hst₂ hfound
  have hst := hst₁.trans hst₂
  cases found with
  | none => exact hE _ st₂ hst
  | some entry =>
      rcases entry with ⟨promoId, promo⟩
      apply learns_ask_bind
      intro v hv
      have hst' := hst.trans (Knowledge.extends_see hv)
      split
      · exact hE _ _ hst'
      · split
        · exact hE _ _ hst'
        · apply redeemLocked_learns
            (hloaded.mono fun f hf => (Knowledge.extends_see hv).facts
              (hst₂.facts hf))
            (fun f hf => (Knowledge.extends_see hv).facts (hfound _ rfl f hf))
            (hE.mono hst')
          exact fun response st₃ hst₃ => hQ _ st₃ (hst'.trans hst₃)

theorem redeemPromoCode_learns {Q : String -> Knows -> Prop} (env : Env)
    (userId : Int) (code : String) (hE : Tolerates E st)
    (hQ : forall answer st', st.Extends st' -> Q answer st') :
    (redeemPromoCode env userId code).Learns (system price) Q E st := by
  apply learns_bind
  apply lockPromo_learns
  intro found st₁ hst₁ hfound
  cases found with
  | none => exact hQ _ st₁ hst₁
  | some entry =>
      rcases entry with ⟨promoId, promo⟩
      apply learns_ask_bind
      intro v hv
      have hst₂ := hst₁.trans (Knowledge.extends_see hv)
      split
      · exact hQ _ _ hst₂
      · apply learns_forUpdate_bind
        intro v' hv'
        have hst₃ := hst₂.trans (Knowledge.extends_see hv')
        have hpromo : forall f, f ∈ promo.gives promoId -> f ∈
            ((system price).see ((system price).see st₁ v) v').facts :=
          fun f hf => (Knowledge.extends_see hv').facts
            ((Knowledge.extends_see hv).facts (hfound _ rfl f hf))
        cases hget : v'.users.get userId with
        | none => exact hQ _ _ hst₃
        | some user =>
            have hloaded := loaded_of_get hv' hget
            simp only
            split
            · exact learns_flush_bind
                (flushes_redemption hloaded hpromo rfl ⟨_, _, rfl⟩)
                (fun e => hE e _ hst₃)
                (hQ _ _ (hst₃.trans (Known.extends_record _ _ _)))
            · exact learns_flush_bind
                (flushes_discount hloaded hpromo hloaded.refs)
                (fun e => hE e _ hst₃)
                (hQ _ _ (hst₃.trans (Known.extends_record _ _ _)))

theorem createPromo_learns {Q : PromoResponse -> Knows -> Prop} (env : Env)
    (adminId : Int) (payload : PromoCreateRequest) (hE : Tolerates E st)
    (hQ : forall response st', st.Extends st' -> Q response st') :
    (createPromo env adminId payload).Learns (system price) Q E st := by
  apply learns_bind
  apply adminUser_learns adminId hE
  intro admin st₁ hst₁ _
  apply learns_draw_bind
  intro id _
  have hst₂ := hst₁.trans (Known.extends_draw st₁ .promoCodes id)
  apply learns_bind
  apply learns_tryCatch
  apply learns_flushUnit
    (.cons (fun hsent => insertPromoCode_makes (Set.mem_insert _ _) hsent) .nil)
  · exact hQ _ _ (hst₂.trans (Known.extends_record _ _ _))
  · intro w _ db e _
    unfold promoExists
    split
    · exact hE _ _ hst₂
    · exact hE _ _ hst₂

/-!
# Administration
-/

theorem adjustBalance_learns {Q : BalanceResponse -> Knows -> Prop}
    (adminId userId amount : Int) (reason : String) (hE : Tolerates E st)
    (hQ : forall response st', st.Extends st' -> Q response st') :
    (adjustBalance adminId userId amount reason).Learns (system price) Q E
      st := by
  apply learns_bind
  apply adminUser_learns adminId hE
  intro admin st₁ hst₁ hadmin
  apply learns_bind
  apply lockedUser_learns _ userId _ (hE.mono hst₁)
  · intro target st₂ hst₂ hloaded
    have hst := hst₁.trans hst₂
    simp only
    split
    · exact hE _ _ hst
    · refine learns_flush_bind (flushes_neutral (hloaded.makes ?_ target)
        (flushes_update (insertCreditTransaction_neutral ?_ ?_)))
        (fun e => hE e _ hst) (hQ _ _ hst)
      · exact Or.inl rfl
      · intro htype
        cases htype
      · intro f hf
        rw [List.mem_singleton.mp hf]
        exact hloaded.known
  · intro user heq
    split at heq
    · rename_i hself
      cases heq
      rw [hself]
      exact hadmin
    · cases heq

theorem expireSubscription_learns {Q : ExpiryResponse -> Knows -> Prop}
    (order : LatestFirst) (adminId userId : Int) (hE : Tolerates E st)
    (hQ : forall response st', st.Extends st' -> Q response st') :
    (expireSubscription order adminId userId).Learns (system price) Q E
      st := by
  have hflush : forall (st' : Knows) (target : User)
      (found : Option (Int × Subscription)), Loaded st' userId target ->
      (system price).Flushes st'
        (updateUser userId target { target with plan := .free } ::
          found.toList.map expireRow) st' := by
    intro st' target found hloaded
    refine flushes_neutral (hloaded.makes ?_ target) ?_
    · exact Or.inl rfl
    · cases found with
      | none => exact .nil
      | some entry => exact flushes_update (updateSubscription_makes _ _ _)
  have hrest : forall (st' : Knows) (target : User), st.Extends st' ->
      Loaded st' userId target ->
      ((activeSubscription order userId).bind fun subscription =>
        (flushUnit (LockName.user userId ::
            subscription.toList.map fun entry => LockName.subscription entry.1)
          (updateUser userId target { target with plan := .free } ::
            subscription.toList.map expireRow)).bind fun _ =>
          ret { userId := userId, plan := .free,
                subscriptionStatus := .expired }).Learns (system price) Q E
        st' := by
    intro st' target hst hloaded
    apply learns_ask_bind
    intro v hv
    have hst' := hst.trans (Knowledge.extends_see hv)
    exact learns_flush_bind
      (hflush _ target _ (hloaded.mono (Knowledge.extends_see hv).facts))
      (fun e => hE e _ hst') (hQ _ _ hst')
  apply learns_bind
  apply adminUser_learns adminId hE
  intro admin st₁ hst₁ hadmin
  by_cases hself : userId = adminId
  · simp only [hself, if_true] at hrest ⊢
    exact hrest st₁ admin hst₁ hadmin
  · simp only [hself, if_false]
    apply learns_ask_bind
    intro v hv
    have hst := hst₁.trans (Knowledge.extends_see hv)
    cases hget : v.users.get userId with
    | none => exact hE _ _ hst
    | some target => exact hrest _ target hst (loaded_of_get hv hget)

end Routes
end CoverAI
