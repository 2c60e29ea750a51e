import CoverAI.Api.Payments
import CoverAI.Billing.Books
import CoverAI.Bot.Runtime
import CoverAI.Text.Decimal

/-!
# External ids of payment intents

The API draws a random id for every intent.  The bot builds the id of the user
and the amount, so a second top-up of the same user and amount stores the same
id again.
-/

namespace CoverAI

open Txn Program

/-!
# Calls that store an intent
-/

inductive IntentCall where
  | createPayment (userId creditsAmount : Int) (uuidHex : String)
      (now : Instant)
  | createMockTopUp (userId creditsAmount : Int)

namespace IntentCall

def session (env : Env) : IntentCall -> Session Unit
  | .createPayment userId creditsAmount uuidHex now =>
      (CoverAI.createPayment env userId creditsAmount uuidHex now).void
  | .createMockTopUp userId creditsAmount =>
      (CoverAI.createMockTopUp env userId creditsAmount).void

def userId : IntentCall -> Int
  | .createPayment userId _ _ _ | .createMockTopUp userId _ => userId

def creditsAmount : IntentCall -> Int
  | .createPayment _ creditsAmount _ _
  | .createMockTopUp _ creditsAmount => creditsAmount

def topUpExternalId (userId creditsAmount : Int) : String :=
  "telegram_mock_" ++ toString userId ++ "_" ++ toString creditsAmount

def externalId : IntentCall -> String
  | .createPayment _ _ uuidHex _ => "mock_" ++ uuidHex
  | .createMockTopUp userId creditsAmount =>
      topUpExternalId userId creditsAmount

def uuid : IntentCall -> Option String
  | .createPayment _ _ uuidHex _ => some uuidHex
  | .createMockTopUp _ _ => none

end IntentCall

def externalIds (db : Db) : List String :=
  db.paymentIntents.rows.map fun entry => entry.2.externalId

/-- The store after the calls, each in a session of its own. -/
def afterIntentCalls (env : Env) (s : Store coverAI) (calls : List IntentCall) :
    Store coverAI :=
  transactAll s (calls.map (IntentCall.session env))

def HasUser (db : Db) (userId : Int) : Prop :=
  (db.users.get userId).isSome = true

instance (db : Db) (userId : Int) : Decidable (HasUser db userId) :=
  inferInstanceAs (Decidable (_ = true))

/-!
# One call
-/

theorem externalIds_insert {db d : Db} {id : Int} {intent : PaymentIntent}
    (hintents : d.paymentIntents = db.paymentIntents.insert id intent)
    (hnew : db.paymentIntents.get id = none)
    (hcheck : paymentIntentChecks intent = true) :
    externalIds d = externalIds db ++ [intent.externalId] := by
  rw [externalIds, hintents, Table.rows_insert hnew hcheck, List.map_append]
  rfl

theorem hasUser_update {db d : Db} {owner : Int} {f : User -> User}
    (husers : d.users = db.users.modify owner f) (userId : Int) :
    HasUser d userId <-> HasUser db userId := by
  rw [HasUser, husers, Table.get_modify, HasUser]
  split
  · rename_i howner
    rw [Option.isSome_map, howner]
  · exact Iff.rfl

/-- The next key of the sequence is fresh. -/
def FreshIntents (s : Store coverAI) : Prop :=
  s.db.paymentIntents.KeysBelow (s.seq SeqName.paymentIntents)

/-- A call stores its own id, for a registered user, or none. -/
structure Issues (call : IntentCall) (s s' : Store coverAI) : Prop where
  users : forall userId, HasUser s'.db userId <-> HasUser s.db userId
  ids : externalIds s'.db = externalIds s.db ∨
    (HasUser s.db call.userId ∧
      externalIds s'.db = externalIds s.db ++ [call.externalId])
  fresh : FreshIntents s -> FreshIntents s'

theorem issues_of_same {call : IntentCall} {s s' : Store coverAI}
    (hdb : s'.db = s.db) (hadvances : s.Advances s') : Issues call s s' := by
  constructor
  · intro userId
    rw [hdb]
  · rw [hdb]
    exact Or.inl rfl
  · intro h id intent hget
    rw [hdb] at hget
    exact Int.lt_of_lt_of_le (h id intent hget) (hadvances.seq _)

/-- The key was drawn from the sequence of the table. -/
theorem issues_of_insert {call : IntentCall} {s s' : Store coverAI}
    {owner : Int} {f : User -> User} {intent : PaymentIntent}
    (hregistered : HasUser s.db call.userId)
    (hid : intent.externalId = call.externalId)
    (husers : s'.db.users = s.db.users.modify owner f)
    (hintents : s'.db.paymentIntents =
      s.db.paymentIntents.insert (s.seq SeqName.paymentIntents) intent)
    (hseq : s'.seq SeqName.paymentIntents =
      s.seq SeqName.paymentIntents + 1)
    (hnew : s.db.paymentIntents.get (s.seq SeqName.paymentIntents) = none)
    (hcheck : paymentIntentChecks intent = true) : Issues call s s' := by
  constructor
  · exact hasUser_update husers
  · rw [<- hid]
    exact Or.inr ⟨hregistered, externalIds_insert hintents hnew hcheck⟩
  · intro h
    rw [FreshIntents, hseq, hintents]
    exact h.puts (by omega) (by omega) (Table.puts_insert hnew hcheck)

theorem hasUser_of_get {db : Db} {userId : Int} {user : User}
    (h : db.users.get userId = some user) : HasUser db userId := by
  rw [HasUser, h]
  rfl

theorem createPayment_issues (env : Env) (userId creditsAmount : Int)
    (uuidHex : String) (now : Instant) (s : Store coverAI) :
    (createPayment env userId creditsAmount uuidHex now).Ensures
      (fun _ s' =>
        Issues (.createPayment userId creditsAmount uuidHex now) s s') s := by
  simp only [createPayment, bind_eq, ensures_currentUser_bind,
    ensures_draw_bind, ensures_flushUnit_bind, pure_eq, ensures_ret]
  intro user hget d hd
  rcases Write.attempt_cons_eq_ok.mp hd with ⟨_, hrest⟩
  rcases Write.attempt_cons_eq_ok.mp hrest with ⟨hviolation, _⟩
  rcases violation_insertInto.mp hviolation with ⟨hnew, hcheck⟩
  rw [Write.applyAll_of_attempt hd]
  refine issues_of_insert (hasUser_of_get hget) ?_ rfl rfl ?_ hnew hcheck
  · rfl
  · rw [Store.setDb_seq, Store.draw_seq, if_pos rfl]

theorem createMockTopUp_issues (env : Env) (userId creditsAmount : Int)
    (s : Store coverAI) :
    (createMockTopUp env userId creditsAmount).Ensures
      (fun _ s' => Issues (.createMockTopUp userId creditsAmount) s s') s := by
  simp only [createMockTopUp, userForUpdate, bind_eq,
    ensures_selectForUpdate_bind]
  split
  · rw [pure_eq, ensures_ret]
    exact issues_of_same rfl (Store.Advances.refl s)
  · rename_i user hget
    simp only [ensures_draw_bind, ensures_flushUnit_bind, pure_eq, ensures_ret]
    intro d hd d' hd'
    rcases Write.attempt_cons_eq_ok.mp hd with ⟨_, hrest⟩
    rcases Write.attempt_cons_eq_ok.mp hrest with ⟨hviolation, _⟩
    rcases violation_insertInto.mp hviolation with ⟨hnew, hcheck⟩
    rw [Write.applyAll_of_attempt hd', Write.applyAll_of_attempt hd]
    refine issues_of_insert (hasUser_of_get hget) ?_ rfl rfl ?_ hnew hcheck
    · rfl
    · rw [Store.setDb_seq, Store.setDb_seq, Store.draw_seq, if_pos rfl]

theorem IntentCall.transact_issues (env : Env) (call : IntentCall)
    (s : Store coverAI) :
    Issues call s ((call.session env).transact s).2 := by
  have hensures : (call.session env).Ensures (fun _ s' => Issues call s s') s := by
    cases call with
    | createPayment userId creditsAmount uuidHex now =>
        exact ensures_void
          (createPayment_issues env userId creditsAmount uuidHex now s)
    | createMockTopUp userId creditsAmount =>
        exact ensures_void (createMockTopUp_issues env userId creditsAmount s)
  rcases ensures_transact hensures with ⟨_, _, hissues⟩ | ⟨_, _, hdb⟩
  · exact hissues
  · exact issues_of_same hdb (transact_advances _ s)

/-- A top-up of a registered user goes through. -/
theorem createMockTopUp_stores {env : Env} (hprice : 0 ≤ env.creditPriceRub)
    {userId creditsAmount : Int} (hamount : 0 < creditsAmount)
    {s : Store coverAI} (hregistered : HasUser s.db userId)
    (hfresh : FreshIntents s) :
    exists s', (((IntentCall.createMockTopUp userId creditsAmount).session
      env).transact s) = (.ok (), s') ∧
      externalIds s'.db = externalIds s.db ++
        [IntentCall.topUpExternalId userId creditsAmount] := by
  rcases Option.isSome_iff_exists.mp hregistered with ⟨user, hget⟩
  have hchecks := (userChecks_iff user).mp (Table.check_of_get hget)
  have huser : userChecks { user with
      credits := user.credits + creditsAmount
      pendingTopUpDiscountPercent := 0 } = true := by
    rw [userChecks_iff]
    refine ⟨?_, Int.le_refl 0, ?_⟩
    · change 0 ≤ user.credits + creditsAmount
      omega
    · change (0 : Int) ≤ 100
      decide
  have hamountRub : 0 ≤ creditsAmount * env.creditPriceRub *
      (100 - user.pendingTopUpDiscountPercent) / 100 := by
    have hcost := Int.mul_nonneg (Int.le_of_lt hamount) hprice
    have hprice := Int.mul_nonneg hcost
      (show 0 ≤ 100 - user.pendingTopUpDiscountPercent by omega)
    omega
  have hintent : paymentIntentChecks (mockTopUpIntent env userId creditsAmount
      user.pendingTopUpDiscountPercent) = true :=
    (paymentIntentChecks_iff _).mpr ⟨hamount, hamountRub⟩
  have hnew := hfresh.get_eq_none
  have hinsert : (insertPaymentIntent (s.seq SeqName.paymentIntents)
      (mockTopUpIntent env userId creditsAmount
        user.pendingTopUpDiscountPercent)).violation
      ((updateUser userId user { user with
        credits := user.credits + creditsAmount
        pendingTopUpDiscountPercent := 0 }).apply s.db) = none :=
    violation_insertInto.mpr ⟨hnew, hintent⟩
  have hrun : (createMockTopUp env userId creditsAmount).Exits
      (fun res s' => (exists text, res = .ok text) ∧
        externalIds s'.db = externalIds s.db ++
          [IntentCall.topUpExternalId userId creditsAmount]) s := by
    simp only [createMockTopUp, userForUpdate, selectForUpdate, forUpdate,
      lock_bind, ret_bind, bind_eq, pure_eq, exits_lock, hget, draw,
      nextval_bind, exits_nextval, flushUnit, flush_bind, exits_flush]
    rw [Store.draw_db, Write.attempt_cons_of_none
      (updateUser_violation hget huser), Write.attempt_cons_of_none hinsert]
    exact ⟨⟨_, rfl⟩, externalIds_insert rfl hnew hintent⟩
  rcases hcall : (createMockTopUp env userId creditsAmount).run s with ⟨res, s'⟩
  rcases exits_of_run hrun hcall with ⟨⟨text, rfl⟩, hids⟩
  refine ⟨s', transact_of_ok ?_, hids⟩
  rw [IntentCall.session, run_void, hcall]

/-!
# Runs of calls
-/

theorem afterIntentCalls_cons (env : Env) (s : Store coverAI)
    (call : IntentCall) (calls : List IntentCall) :
    afterIntentCalls env s (call :: calls) =
      afterIntentCalls env ((call.session env).transact s).2 calls :=
  rfl

/-- The ids of the calls whose user is registered. -/
def issuedIds (db : Db) (calls : List IntentCall) : List String :=
  (calls.filter fun call => HasUser db call.userId).map IntentCall.externalId

/-- The user and the amount of a top-up whose user is registered. -/
def topUpOf (db : Db) : IntentCall -> Option (Int × Int)
  | .createPayment _ _ _ _ => none
  | .createMockTopUp userId creditsAmount =>
      if HasUser db userId then some (userId, creditsAmount) else none

def topUps (db : Db) (calls : List IntentCall) : List (Int × Int) :=
  calls.filterMap (topUpOf db)

theorem issuedIds_cons (db : Db) (call : IntentCall) (calls : List IntentCall) :
    issuedIds db (call :: calls) =
      if HasUser db call.userId then call.externalId :: issuedIds db calls
      else issuedIds db calls := by
  unfold issuedIds
  split
  · rename_i h
    rw [List.filter_cons, if_pos (decide_eq_true h)]
    rfl
  · rename_i h
    rw [List.filter_cons, if_neg (by rw [decide_eq_true_eq]; exact h)]

theorem topUps_cons (db : Db) (call : IntentCall) (calls : List IntentCall) :
    topUps db (call :: calls) = (topUpOf db call).toList ++ topUps db calls := by
  unfold topUps
  cases hcall : topUpOf db call with
  | none =>
      rw [List.filterMap_cons_none hcall]
      rfl
  | some topUp =>
      rw [List.filterMap_cons_some hcall]
      rfl

theorem issuedIds_congr {db d : Db}
    (h : forall userId, HasUser d userId <-> HasUser db userId)
    (calls : List IntentCall) : issuedIds d calls = issuedIds db calls := by
  unfold issuedIds
  simp only [h]

theorem topUps_congr {db d : Db}
    (h : forall userId, HasUser d userId <-> HasUser db userId)
    (calls : List IntentCall) : topUps d calls = topUps db calls := by
  have hcall : topUpOf d = topUpOf db := by
    funext call
    cases call with
    | createPayment userId creditsAmount uuidHex now => rfl
    | createMockTopUp userId creditsAmount => simp only [topUpOf, h]
  rw [topUps, hcall, topUps]

/-- What a run stores are ids of its calls, in their order. -/
theorem externalIds_afterIntentCalls (env : Env) (calls : List IntentCall)
    (s : Store coverAI) :
    exists ids, externalIds (afterIntentCalls env s calls).db =
      externalIds s.db ++ ids ∧ ids.Sublist (issuedIds s.db calls) := by
  induction calls generalizing s with
  | nil =>
      exists []
      exact ⟨(List.append_nil _).symm, List.Sublist.refl []⟩
  | cons call calls ih =>
      have hissues := call.transact_issues env s
      rcases ih ((call.session env).transact s).2 with ⟨ids, hids, hsub⟩
      rw [issuedIds_congr hissues.users] at hsub
      rw [afterIntentCalls_cons, hids, issuedIds_cons]
      by_cases hregistered : HasUser s.db call.userId
      · rw [if_pos hregistered]
        rcases hissues.ids with hsame | ⟨_, hnew⟩
        · exists ids
          rw [hsame]
          exact ⟨rfl, hsub.cons _⟩
        · exists call.externalId :: ids
          rw [hnew, List.append_assoc]
          exact ⟨rfl, hsub.cons_cons _⟩
      · rw [if_neg hregistered]
        exists ids
        rcases hissues.ids with hsame | ⟨hyes, _⟩
        · rw [hsame]
          exact ⟨rfl, hsub⟩
        · exact absurd hyes hregistered

/-- Every top-up of a registered user stores its id. -/
theorem topUps_sublist {env : Env} (hprice : 0 ≤ env.creditPriceRub)
    (calls : List IntentCall)
    (hpositive : forall call, call ∈ calls -> 0 < call.creditsAmount)
    {s : Store coverAI} (hfresh : FreshIntents s) :
    (externalIds s.db ++ (topUps s.db calls).map fun topUp =>
        IntentCall.topUpExternalId topUp.1 topUp.2).Sublist
      (externalIds (afterIntentCalls env s calls).db) := by
  induction calls generalizing s with
  | nil =>
      rw [topUps, List.filterMap_nil, List.map_nil, List.append_nil]
      exact List.Sublist.refl _
  | cons call calls ih =>
      have hissues := call.transact_issues env s
      have hrest := ih (fun other hother =>
        hpositive other (List.mem_cons_of_mem call hother))
        (hissues.fresh hfresh)
      rw [topUps_congr hissues.users] at hrest
      rw [afterIntentCalls_cons]
      have hkept : (externalIds s.db).Sublist
          (externalIds ((call.session env).transact s).2.db) := by
        rcases hissues.ids with hsame | ⟨_, hnew⟩
        · rw [hsame]
        · rw [hnew]
          exact List.sublist_append_left _ _
      have hskip : (externalIds s.db ++ (topUps s.db calls).map fun topUp =>
          IntentCall.topUpExternalId topUp.1 topUp.2).Sublist
            (externalIds (afterIntentCalls env
              ((call.session env).transact s).2 calls).db) :=
        (hkept.append_right _).trans hrest
      rw [topUps_cons, List.map_append]
      cases call with
      | createPayment userId creditsAmount uuidHex now => exact hskip
      | createMockTopUp userId creditsAmount =>
          by_cases hregistered : HasUser s.db userId
          · have hamount : 0 < creditsAmount := hpositive _ List.mem_cons_self
            rcases createMockTopUp_stores hprice hamount hregistered hfresh
              with ⟨s', hrun, hids⟩
            rw [hrun] at hrest ⊢
            rw [hids, List.append_assoc] at hrest
            rw [topUpOf, if_pos hregistered]
            exact hrest
          · rw [topUpOf, if_neg hregistered]
            exact hskip

/-!
# Distinct ids
-/

theorem toList_topUpExternalId (userId creditsAmount : Int) :
    (IntentCall.topUpExternalId userId creditsAmount).toList =
      "telegram_mock_".toList ++ ((toString userId).toList ++
        ("_".toList ++ (toString creditsAmount).toList)) := by
  delta IntentCall.topUpExternalId
  rw [String.toList_append, String.toList_append, String.toList_append,
    List.append_assoc, List.append_assoc]

theorem not_mem_toString {i : Int} : '_' ∉ (toString i).toList := by
  intro h
  rcases Decimal.mem_toString h with hdigit | hminus
  · exact absurd hdigit (by decide)
  · exact absurd hminus (by decide)

theorem topUpExternalId_injective {userId creditsAmount userId' amount' : Int}
    (h : IntentCall.topUpExternalId userId creditsAmount =
      IntentCall.topUpExternalId userId' amount') :
    userId = userId' ∧ creditsAmount = amount' := by
  have hlists := congrArg String.toList h
  rw [toList_topUpExternalId, toList_topUpExternalId,
    List.append_cancel_left_eq] at hlists
  -- the first separator after the user's digits ends them
  have hpieces := congrArg (List.splitOn '_') hlists
  change List.splitOn '_'
      ((toString userId).toList ++ '_' :: (toString creditsAmount).toList) =
    List.splitOn '_'
      ((toString userId').toList ++ '_' :: (toString amount').toList) at hpieces
  rw [List.splitOn_append_cons_self_of_not_mem not_mem_toString,
    List.splitOn_append_cons_self_of_not_mem not_mem_toString,
    List.splitOn_eq_singleton not_mem_toString,
    List.splitOn_eq_singleton not_mem_toString, List.cons.injEq,
    List.cons.injEq] at hpieces
  constructor
  · exact Decimal.toString_injective (String.toList_inj.mp hpieces.left)
  · exact Decimal.toString_injective (String.toList_inj.mp hpieces.right.left)

theorem mock_ne_topUpExternalId (uuidHex : String)
    (userId creditsAmount : Int) :
    "mock_" ++ uuidHex ≠ IntentCall.topUpExternalId userId creditsAmount := by
  intro h
  have hlists := congrArg String.toList h
  rw [toList_topUpExternalId, String.toList_append] at hlists
  exact absurd (List.cons.inj hlists).left (by decide)

theorem mem_issuedIds {db : Db} {calls : List IntentCall} {id : String}
    (h : id ∈ issuedIds db calls) :
    exists call, call ∈ calls ∧ HasUser db call.userId ∧
      call.externalId = id := by
  rcases List.mem_map.mp h with ⟨call, hcall, hid⟩
  rcases List.mem_filter.mp hcall with ⟨hmem, hregistered⟩
  exact ⟨call, hmem, of_decide_eq_true hregistered, hid⟩

theorem issuedIds_nodup {db : Db} {calls : List IntentCall}
    (huuids : (calls.filterMap IntentCall.uuid).Nodup)
    (htopUps : (topUps db calls).Nodup) : (issuedIds db calls).Nodup := by
  induction calls with
  | nil => exact List.nodup_nil
  | cons call calls ih =>
      rw [topUps_cons] at htopUps
      have hrest : (issuedIds db calls).Nodup := by
        apply ih
        · exact huuids.sublist ((List.sublist_cons_self call calls).filterMap _)
        · exact (List.nodup_append'.mp htopUps).right.left
      rw [issuedIds_cons]
      split
      · rename_i hregistered
        refine List.nodup_cons.mpr ⟨?_, hrest⟩
        intro hmem
        rcases mem_issuedIds hmem with ⟨other, hother, hyes, hid⟩
        cases call with
        | createPayment userId creditsAmount uuidHex now =>
            cases other with
            | createPayment userId' amount' uuidHex' now' =>
                have hsame : uuidHex' = uuidHex := by
                  have hlists := congrArg String.toList hid
                  simp only [IntentCall.externalId, String.toList_append,
                    List.append_cancel_left_eq] at hlists
                  exact String.toList_inj.mp hlists
                rw [List.filterMap_cons_some (f := IntentCall.uuid) rfl] at huuids
                apply (List.nodup_cons.mp huuids).left
                exact List.mem_filterMap.mpr ⟨_, hother, by rw [<- hsame]; rfl⟩
            | createMockTopUp userId' amount' =>
                exact mock_ne_topUpExternalId _ _ _ hid.symm
        | createMockTopUp userId creditsAmount =>
            cases other with
            | createPayment userId' amount' uuidHex' now' =>
                exact mock_ne_topUpExternalId _ _ _ hid
            | createMockTopUp userId' amount' =>
                rcases topUpExternalId_injective hid with ⟨rfl, rfl⟩
                have htopUp : topUpOf db
                    (.createMockTopUp userId' amount') =
                      some (userId', amount') := if_pos hyes
                rw [htopUp] at htopUps
                apply (List.nodup_cons.mp htopUps).left
                exact List.mem_filterMap.mpr ⟨_, hother, htopUp⟩
      · exact hrest

/-- No two intents have one external id, so a look-up by it selects at most
one. -/
structure IdentifiesIntents (db : Db) : Prop where
  distinct : (externalIds db).Nodup
  selectsOne : forall externalId,
    (db.paymentIntents.rows.filter fun entry =>
      entry.2.externalId = externalId).length ≤ 1

theorem identifiesIntents_of_nodup {db : Db} (h : (externalIds db).Nodup) :
    IdentifiesIntents db := by
  refine ⟨h, fun externalId => ?_⟩
  have hcount := List.nodup_iff_count_le_one.mp h externalId
  rw [externalIds, List.count_eq_length_filter, List.filter_map,
    List.length_map] at hcount
  exact hcount

theorem external_ids_identify_iff (env : Env) (calls : List IntentCall)
    (s : Store coverAI)
    (hpositive : forall call, call ∈ calls -> 0 < call.creditsAmount)
    (huuids : (calls.filterMap IntentCall.uuid).Nodup)
    (hstart : s.db.paymentIntents.rows = []) :
    ((topUps s.db calls).Nodup ->
      IdentifiesIntents (afterIntentCalls env s calls).db) ∧
      (0 ≤ env.creditPriceRub ->
        IdentifiesIntents (afterIntentCalls env s calls).db ->
          (topUps s.db calls).Nodup) := by
  have hnone : externalIds s.db = [] := by
    rw [externalIds, hstart]
    rfl
  constructor
  · intro htopUps
    rcases externalIds_afterIntentCalls env calls s with ⟨ids, hids, hsub⟩
    rw [hnone, List.nil_append] at hids
    apply identifiesIntents_of_nodup
    rw [hids]
    exact (issuedIds_nodup huuids htopUps).sublist hsub
  · intro hprice hidentifies
    have hfresh : FreshIntents s := by
      intro id intent hget
      have hmem := Table.mem_of_get hget
      rw [hstart] at hmem
      cases hmem
    have hsub := topUps_sublist hprice calls hpositive hfresh
    rw [hnone, List.nil_append] at hsub
    exact (hidentifies.distinct.sublist hsub).of_map _

/-- A payment and two top-ups of different amounts. -/
def distinctCalls : List IntentCall :=
  [.createPayment 1 5 "00" 0, .createMockTopUp 1 5, .createMockTopUp 1 7]

theorem external_ids_identify_distinct :
    IdentifiesIntents
      (afterIntentCalls sampleEnv registeredStore distinctCalls).db :=
  (external_ids_identify_iff sampleEnv distinctCalls registeredStore
    (by decide) (by decide) rfl).left (by decide)

def repeatedTopUp : List IntentCall :=
  [.createMockTopUp 1 5, .createMockTopUp 1 5]

theorem repeated_top_up_repeats_id :
    externalIds (afterIntentCalls sampleEnv registeredStore repeatedTopUp).db =
        ["telegram_mock_1_5", "telegram_mock_1_5"] ∧
      ¬ IdentifiesIntents
        (afterIntentCalls sampleEnv registeredStore repeatedTopUp).db := by
  have hids : externalIds
      (afterIntentCalls sampleEnv registeredStore repeatedTopUp).db =
        ["telegram_mock_1_5", "telegram_mock_1_5"] := by
    decide
  constructor
  · exact hids
  · intro hidentifies
    have hdistinct := hidentifies.distinct
    rw [hids] at hdistinct
    exact absurd hdistinct (by decide)

end CoverAI
