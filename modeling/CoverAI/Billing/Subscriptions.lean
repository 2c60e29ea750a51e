import CoverAI.Services.Subscriptions
import CoverAI.Txn.Footprint

/-!
# What the billing service does to the tables

The updates of the service find the row they edit, so alone they never fail and
their effect is a function of the database.
-/

namespace CoverAI

open Txn Program

/-!
# Updates of one row
-/

def Subscription.ended (r : Subscription) : Subscription :=
  { r with status := .expired }

def User.withPlan (plan : Plan) (u : User) : User :=
  { u with plan := plan }

def endSubscription (id : Int) (db : Db) : Db :=
  { db with subscriptions := db.subscriptions.modify id Subscription.ended }

def setPlan (userId : Int) (plan : Plan) (db : Db) : Db :=
  { db with users := db.users.modify userId (User.withPlan plan) }

@[simp] theorem endSubscription_users (id : Int) (db : Db) :
    (endSubscription id db).users = db.users := rfl

@[simp] theorem setPlan_subscriptions (userId : Int) (plan : Plan) (db : Db) :
    (setPlan userId plan db).subscriptions = db.subscriptions := rfl

theorem get_endSubscription (id k : Int) (db : Db) :
    (endSubscription id db).subscriptions.get k =
      if k = id then (db.subscriptions.get k).map Subscription.ended
      else db.subscriptions.get k := by
  simp only [endSubscription, Table.get_modify]
  split
  · rename_i h
    rw [h]
    rfl
  · rfl

theorem userChecks_withPlan (u : User) (plan : Plan) :
    userChecks (u.withPlan plan) = userChecks u := rfl

theorem get_setPlan (userId k : Int) (plan : Plan) (db : Db) :
    (setPlan userId plan db).users.get k =
      if k = userId then (db.users.get k).map (User.withPlan plan)
      else db.users.get k := by
  simp only [setPlan, Table.get_modify]
  split
  · rename_i h
    rw [h]
    cases hget : db.users.get userId with
    | none => rfl
    | some user =>
        have hcheck : userChecks (user.withPlan plan) = true := by
          rw [userChecks_withPlan]
          exact Table.check_of_get hget
        rw [Option.map_some, Option.map_some,
          Table.checkedUpdate_of_check hcheck]
  · rfl

@[simp] theorem Subscription.write_loaded (loaded : Subscription)
    (status : SubscriptionStatus) :
    Subscription.write loaded { loaded with status := status } loaded =
      { loaded with status := status } := by
  simp [Subscription.write]

/-- A row that was just read is ended as it stands. -/
theorem attempt_updateSubscription {id : Int} {row : Subscription} {db : Db}
    (hget : db.subscriptions.get id = some row) (ws : List (Write coverAI)) :
    Write.attempt
        (updateSubscription id row { row with status := .expired } :: ws) db =
      Write.attempt ws (endSubscription id db) := by
  have haccepts : (updateSubscription id row
      { row with status := .expired }).violation db = none := by
    apply violation_updateIn.mpr
    exact fun _ _ => rfl
  have hcongr := Table.modify_congr
    (f := Subscription.write row { row with status := .expired })
    (g := Subscription.ended) hget (Subscription.write_loaded row _)
  rw [Write.attempt_cons_of_none haccepts, updateSubscription_apply, hcongr]
  rfl

theorem attempt_updateUser_plan {userId : Int} {plan : Plan} {user : User}
    {db : Db} (hget : db.users.get userId = some user)
    (ws : List (Write coverAI)) :
    Write.attempt (updateUser userId user { user with plan := plan } :: ws) db =
      Write.attempt ws (setPlan userId plan db) := by
  have haccepts : (updateUser userId user
      { user with plan := plan }).violation db = none := by
    apply updateUser_violation hget
    exact (userChecks_withPlan user plan).trans (Table.check_of_get hget)
  have hcongr := Table.modify_congr
    (f := User.write user { user with plan := plan })
    (g := User.withPlan plan) hget (User.write_loaded user _)
  rw [Write.attempt_cons_of_none haccepts, updateUser_apply, hcongr]
  rfl

theorem run_updateSubscriptionStatus (id : Int) (s : Store coverAI) :
    (updateSubscriptionStatus id .expired).run s =
      (.ok ((s.db.subscriptions.get id).map Subscription.ended),
        s.setDb (endSubscription id s.db)) := by
  simp only [updateSubscriptionStatus, select, ask, bind_eq, read_bind,
    ret_bind, run]
  cases hget : s.db.subscriptions.get id with
  | none =>
      have hsame : endSubscription id s.db = s.db := by
        unfold endSubscription
        rw [Table.modify_of_none hget]
      rw [hsame]
      rfl
  | some row =>
      simp only [flushUnit, flush_bind, run]
      rw [attempt_updateSubscription hget, Write.attempt_nil]
      rfl

theorem run_updatePlan (userId : Int) (plan : Plan) (s : Store coverAI) :
    (updatePlan userId plan).run s =
      (.ok ((s.db.users.get userId).map (User.withPlan plan)),
        s.setDb (setPlan userId plan s.db)) := by
  simp only [updatePlan, select, ask, bind_eq, read_bind, ret_bind, run]
  cases hget : s.db.users.get userId with
  | none =>
      have hsame : setPlan userId plan s.db = s.db := by
        unfold setPlan
        rw [Table.modify_of_none hget]
      rw [hsame]
      rfl
  | some row =>
      simp only [flushUnit, flush_bind, run]
      rw [attempt_updateUser_plan hget, Write.attempt_nil]
      rfl

/-!
# The current subscription
-/

structure ActiveRow (userId : Int) (db : Db) (id : Int) (row : Subscription) :
    Prop where
  stored : db.subscriptions.get id = some row
  owner : row.userId = userId
  active : row.status = .active

def latestActive (userId : Int) (db : Db) : Option (Int × Subscription) :=
  (db.subscriptions.rows.filter fun entry =>
    entry.2.userId = userId && entry.2.status = .active).foldl
      laterSubscription none

theorem laterSubscription_eq (best : Option (Int × Subscription))
    (entry : Int × Subscription) :
    laterSubscription best entry = some entry ∨
      (laterSubscription best entry = best ∧ best ≠ none) := by
  cases best with
  | none => exact Or.inl rfl
  | some old =>
      simp only [laterSubscription]
      split
      · exact Or.inl rfl
      · exact Or.inr ⟨rfl, Option.some_ne_none old⟩

theorem foldl_laterSubscription_mem {entries : List (Int × Subscription)}
    {best : Option (Int × Subscription)} {entry : Int × Subscription}
    (h : entries.foldl laterSubscription best = some entry) :
    best = some entry ∨ entry ∈ entries := by
  induction entries generalizing best with
  | nil => exact Or.inl h
  | cons first rest ih =>
      rcases ih h with hbest | hrest
      · rcases laterSubscription_eq best first with hfirst | ⟨hsame, _⟩
        · rw [hfirst] at hbest
          cases hbest
          exact Or.inr List.mem_cons_self
        · rw [hsame] at hbest
          exact Or.inl hbest
      · exact Or.inr (List.mem_cons_of_mem first hrest)

theorem foldl_laterSubscription_none {entries : List (Int × Subscription)}
    {best : Option (Int × Subscription)}
    (h : entries.foldl laterSubscription best = none) :
    best = none ∧ entries = [] := by
  induction entries generalizing best with
  | nil => exact ⟨h, rfl⟩
  | cons first rest ih =>
      have hnone := (ih h).left
      rcases laterSubscription_eq best first with hfirst | ⟨hsame, hne⟩
      · rw [hfirst] at hnone
        cases hnone
      · exact absurd (hsame.symm.trans hnone) hne

theorem mem_active_iff {userId id : Int} {row : Subscription} {db : Db} :
    (id, row) ∈ (db.subscriptions.rows.filter fun entry =>
        entry.2.userId = userId && entry.2.status = .active) <->
      ActiveRow userId db id row := by
  rw [List.mem_filter, Bool.and_eq_true, decide_eq_true_iff,
    decide_eq_true_iff]
  constructor
  · intro h
    exact ⟨Table.get_of_mem h.left, h.right.left, h.right.right⟩
  · intro h
    exact ⟨Table.mem_of_get h.stored, h.owner, h.active⟩

theorem latestActive_active {userId id : Int} {row : Subscription} {db : Db}
    (h : latestActive userId db = some (id, row)) :
    ActiveRow userId db id row := by
  rcases foldl_laterSubscription_mem h with hnone | hmem
  · cases hnone
  · exact mem_active_iff.mp hmem

theorem latestActive_none {userId : Int} {db : Db}
    (h : latestActive userId db = none) (id : Int) (row : Subscription) :
    ¬ ActiveRow userId db id row := by
  intro hactive
  have hmem := mem_active_iff.mpr hactive
  rw [(foldl_laterSubscription_none h).right] at hmem
  cases hmem

theorem laterSubscription_expiresAt {best : Option (Int × Subscription)}
    {entry later : Int × Subscription}
    (h : laterSubscription best entry = some later) :
    entry.2.expiresAt ≤ later.2.expiresAt ∧
      forall old, best = some old -> old.2.expiresAt ≤ later.2.expiresAt := by
  cases best with
  | none =>
      cases h
      constructor
      · exact Int.le_refl _
      · intro old hold
        cases hold
  | some old =>
      simp only [laterSubscription] at h
      split at h
      · rename_i hlater
        cases h
        refine ⟨Int.le_refl _, ?_⟩
        intro first hfirst
        cases hfirst
        rcases hlater with hlt | ⟨heq, _⟩
        · exact Int.le_of_lt hlt
        · exact Int.le_of_eq heq
      · rename_i hlater
        cases h
        constructor
        · exact Int.not_lt.mp fun hlt => hlater (Or.inl hlt)
        · intro first hfirst
          cases hfirst
          exact Int.le_refl _

theorem foldl_laterSubscription_expiresAt {entries : List (Int × Subscription)}
    {best : Option (Int × Subscription)} {last : Int × Subscription}
    (h : entries.foldl laterSubscription best = some last) :
    (forall old, best = some old -> old.2.expiresAt ≤ last.2.expiresAt) ∧
      forall entry, entry ∈ entries ->
        entry.2.expiresAt ≤ last.2.expiresAt := by
  induction entries generalizing best with
  | nil =>
      constructor
      · intro old hold
        cases hold.symm.trans h
        exact Int.le_refl _
      · exact List.forall_mem_nil _
  | cons first rest ih =>
      rcases ih h with ⟨hbest, hrest⟩
      cases hlater : laterSubscription best first with
      | none =>
          rcases laterSubscription_eq best first with hfirst | ⟨hsame, hne⟩
          · cases hfirst.symm.trans hlater
          · exact absurd (hsame.symm.trans hlater) hne
      | some later =>
          rcases laterSubscription_expiresAt hlater with ⟨hfirst, hold⟩
          have hle := hbest later hlater
          constructor
          · exact fun old h' => Int.le_trans (hold old h') hle
          · exact List.forall_mem_cons.mpr ⟨Int.le_trans hfirst hle, hrest⟩

theorem latestActive_latest {userId id k : Int} {row r : Subscription}
    {db : Db} (h : latestActive userId db = some (id, row))
    (hr : ActiveRow userId db k r) : r.expiresAt ≤ row.expiresAt :=
  (foldl_laterSubscription_expiresAt h).right (k, r) (mem_active_iff.mpr hr)

/-!
# Activation
-/

def endOtherPlan (current : Option (Int × Subscription)) (plan : Plan)
    (db : Db) : Db :=
  match current with
  | none => db
  | some (id, subscription) =>
      if subscription.plan = plan then db else endSubscription id db

def startOfPeriod (current : Option (Int × Subscription)) (plan : Plan)
    (now : Instant) : Instant :=
  match current with
  | none => now
  | some (_, subscription) =>
      if subscription.plan = plan then subscription.expiresAt else now

theorem endOtherPlan_users (current : Option (Int × Subscription))
    (plan : Plan) (db : Db) : (endOtherPlan current plan db).users = db.users := by
  unfold endOtherPlan
  split
  · rfl
  · split
    · rfl
    · rfl

/-- Only the current row of another plan changes. -/
theorem get_endOtherPlan {userId : Int} {plan : Plan} {db : Db} (k : Int) :
    (endOtherPlan (latestActive userId db) plan db).subscriptions.get k =
      (db.subscriptions.get k).map fun r =>
        if latestActive userId db = some (k, r) ∧ r.plan ≠ plan then r.ended
        else r := by
  cases hcurrent : latestActive userId db with
  | none => simp [endOtherPlan]
  | some entry =>
      rcases entry with ⟨id, row⟩
      have hrow := (latestActive_active hcurrent).stored
      simp only [endOtherPlan]
      split
      · rename_i hplan
        cases hget : db.subscriptions.get k with
        | none => rfl
        | some r =>
            rw [Option.map_some, if_neg]
            intro h
            cases h.left
            exact h.right hplan
      · rename_i hplan
        rw [get_endSubscription]
        split
        · rename_i hk
          rw [hk, hrow, Option.map_some, Option.map_some, if_pos ⟨rfl, hplan⟩]
        · rename_i hk
          cases hget : db.subscriptions.get k with
          | none => rfl
          | some r =>
              rw [Option.map_some, if_neg]
              intro h
              cases h.left
              exact hk rfl

theorem run_activationStart (current : Option (Int × Subscription))
    (plan : Plan) (now : Instant) (s : Store coverAI) :
    (activationStart current plan now).run s =
      (.ok (startOfPeriod current plan now),
        s.setDb (endOtherPlan current plan s.db)) := by
  cases current with
  | none => rfl
  | some entry =>
      rcases entry with ⟨id, subscription⟩
      simp only [activationStart, startOfPeriod, endOtherPlan]
      split
      · rfl
      · rw [bind_eq, run_bind, run_updateSubscriptionStatus]
        rfl

def newPeriod (userId : Int) (plan : Plan) (start : Instant) : Subscription where
  userId := userId
  plan := plan
  status := .active
  startsAt := start
  expiresAt := start + paidSubscriptionDuration

theorem run_createSubscription {s : Store coverAI} (row : Subscription)
    (hfresh : s.db.subscriptions.get (s.seq SeqName.subscriptions) = none) :
    (createSubscription row).run s =
      (.ok (s.seq SeqName.subscriptions, row),
        (s.draw SeqName.subscriptions).setDb { s.db with
          subscriptions :=
            s.db.subscriptions.insert (s.seq SeqName.subscriptions) row }) := by
  have hwrite : Write.attempt
      [insertSubscription (s.seq SeqName.subscriptions) row] s.db =
        .ok { s.db with
          subscriptions :=
            s.db.subscriptions.insert (s.seq SeqName.subscriptions) row } := by
    apply Write.attempt_cons_eq_ok.mpr
    exact ⟨violation_insertInto.mpr ⟨hfresh, rfl⟩, rfl⟩
  simp only [createSubscription, Txn.Program.draw, flushUnit, bind_eq,
    nextval_bind, ret_bind, flush_bind, run, Store.draw_db]
  rw [hwrite]
  rfl

def activated (userId : Int) (plan : Plan) (now : Instant) (id : Int)
    (db : Db) : Db :=
  setPlan userId plan
    { endOtherPlan (latestActive userId db) plan db with
      subscriptions :=
        (endOtherPlan (latestActive userId db) plan db).subscriptions.insert id
          (newPeriod userId plan
            (startOfPeriod (latestActive userId db) plan now)) }

theorem run_activateSubscription {userId : Int} {plan : Plan} {user : User}
    {s : Store coverAI} (now : Instant) (hplan : plan ∈ paidPlans)
    (huser : s.db.users.get userId = some user)
    (hfresh : s.db.subscriptions.get (s.seq SeqName.subscriptions) = none) :
    (activateSubscription userId plan now).run s =
      (.ok (s.seq SeqName.subscriptions,
          newPeriod userId plan
            (startOfPeriod (latestActive userId s.db) plan now)),
        (s.draw SeqName.subscriptions).setDb
          (activated userId plan now (s.seq SeqName.subscriptions) s.db)) := by
  have hcreate := run_createSubscription
    (s := s.setDb (endOtherPlan (latestActive userId s.db) plan s.db))
    (newPeriod userId plan (startOfPeriod (latestActive userId s.db) plan now))
    (by rw [Store.setDb_db, Store.setDb_seq, get_endOtherPlan, hfresh]; rfl)
  unfold activateSubscription
  rw [if_neg (not_not.mpr hplan)]
  simp only [userById, select, ask, bind_eq, read_bind, ret_bind, run]
  rw [huser]
  have hcurrent : activeByUserId userId = select (latestActive userId) := rfl
  rw [hcurrent]
  simp only [select, ask, read_bind, ret_bind, run]
  rw [run_bind, run_activationStart]
  change ((createSubscription (newPeriod userId plan
    (startOfPeriod (latestActive userId s.db) plan now))).bind _).run _ = _
  rw [run_bind, hcreate]
  simp only
  rw [run_bind, run_updatePlan]
  rfl

/-- A free plan and an unknown user are refused. -/
theorem transact_activateSubscription_db (userId : Int) (plan : Plan)
    (now : Instant) (s : Store coverAI) :
    ((activateSubscription userId plan now).transact s).2.db = s.db ∨
      (plan ∈ paidPlans ∧ exists user, s.db.users.get userId = some user) := by
  unfold activateSubscription
  by_cases hplan : plan ∈ paidPlans
  · rw [if_neg (not_not.mpr hplan)]
    cases huser : s.db.users.get userId with
    | none =>
        left
        apply congrArg Store.db
        simp only [userById, select, ask, bind_eq, read_bind, ret_bind,
          transact, run]
        rw [huser]
        rfl
    | some user => exact Or.inr ⟨hplan, user, rfl⟩
  · left
    rw [if_pos hplan]
    rfl

/-!
# Expiry
-/

def expiry (entry : Int × Subscription) (db : Db) : Db :=
  setPlan entry.2.userId .free (endSubscription entry.1 db)

def expiries (entries : List (Int × Subscription)) (db : Db) : Db :=
  entries.foldl (fun db entry => expiry entry db) db

theorem run_expireEntry (entry : Int × Subscription) (s : Store coverAI) :
    (expireEntry entry).run s = (.ok (), s.setDb (expiry entry s.db)) := by
  unfold expireEntry
  rw [bind_eq, run_bind, run_updateSubscriptionStatus]
  simp only
  rw [bind_eq, run_bind, run_updatePlan]
  rfl

theorem run_expireEach (entries : List (Int × Subscription))
    (s : Store coverAI) :
    (expireEach entries).run s = (.ok (), s.setDb (expiries entries s.db)) := by
  induction entries generalizing s with
  | nil => rfl
  | cons entry rest ih =>
      rw [expireEach, bind_eq, run_bind, run_expireEntry]
      exact ih (s.setDb (expiry entry s.db))

def expiredBefore (now : Instant) (db : Db) : List (Int × Subscription) :=
  db.subscriptions.rows.filter fun entry =>
    entry.2.status = .active && entry.2.expiresAt < now

theorem run_expireSubscriptions (now : Instant) (s : Store coverAI) :
    (expireSubscriptions now).run s =
      (.ok (expiredBefore now s.db),
        s.setDb (expiries (expiredBefore now s.db) s.db)) := by
  have hlist : listActiveExpiredBefore now = select (expiredBefore now) := rfl
  unfold expireSubscriptions
  rw [hlist]
  simp only [select, ask, bind_eq, read_bind, ret_bind, run]
  rw [run_bind, run_expireEach]
  rfl

theorem mem_expiredBefore {now : Instant} {db : Db} {id : Int}
    {row : Subscription} :
    (id, row) ∈ expiredBefore now db <->
      db.subscriptions.get id = some row ∧ row.status = .active ∧
        row.expiresAt < now := by
  rw [expiredBefore, List.mem_filter, Bool.and_eq_true, decide_eq_true_iff,
    decide_eq_true_iff]
  constructor
  · intro h
    exact ⟨Table.get_of_mem h.left, h.right⟩
  · intro h
    exact ⟨Table.mem_of_get h.left, h.right⟩

theorem get_expiries_subscription (entries : List (Int × Subscription))
    (db : Db) (k : Int) :
    (expiries entries db).subscriptions.get k =
      if k ∈ entries.map Prod.fst then
        (db.subscriptions.get k).map Subscription.ended
      else db.subscriptions.get k := by
  induction entries generalizing db with
  | nil => rfl
  | cons entry rest ih =>
      have hfirst : (expiry entry db).subscriptions.get k =
          if k = entry.1 then (db.subscriptions.get k).map Subscription.ended
          else db.subscriptions.get k := get_endSubscription entry.1 k db
      have hrest := ih (expiry entry db)
      rw [hfirst] at hrest
      refine hrest.trans ?_
      rw [List.map_cons]
      by_cases hk : k = entry.1
      · rw [if_pos hk, if_pos (List.mem_cons.mpr (Or.inl hk)), Option.map_map]
        split
        · rfl
        · rfl
      · rw [if_neg hk]
        simp only [List.mem_cons, hk, false_or]

theorem get_expiries_user (entries : List (Int × Subscription)) (db : Db)
    (k : Int) :
    (expiries entries db).users.get k =
      if k ∈ entries.map fun entry => entry.2.userId then
        (db.users.get k).map (User.withPlan .free)
      else db.users.get k := by
  induction entries generalizing db with
  | nil => rfl
  | cons entry rest ih =>
      have hfirst : (expiry entry db).users.get k =
          if k = entry.2.userId then
            (db.users.get k).map (User.withPlan .free)
          else db.users.get k :=
        get_setPlan entry.2.userId k .free (endSubscription entry.1 db)
      have hrest := ih (expiry entry db)
      rw [hfirst] at hrest
      refine hrest.trans ?_
      rw [List.map_cons]
      by_cases hk : k = entry.2.userId
      · rw [if_pos hk, if_pos (List.mem_cons.mpr (Or.inl hk)), Option.map_map]
        split
        · rfl
        · rfl
      · rw [if_neg hk]
        simp only [List.mem_cons, hk, false_or]

/-!
# Footprints
-/

structure PermitsSubscriptions (F : Footprint coverAI) : Prop where
  inserts : forall id row, F.writes (insertSubscription id row)
  updates : forall id loaded edited,
    F.writes (updateSubscription id loaded edited)
  users : forall id loaded edited, F.writes (updateUser id loaded edited)
  draws : F.draws SeqName.subscriptions
  raises : forall e, F.raises e

section Footprints

variable {F : Footprint coverAI}

theorem updateSubscriptionStatus_within (hF : PermitsSubscriptions F)
    (id : Int) (status : SubscriptionStatus) :
    (updateSubscriptionStatus id status).Within F fun _ => True := by
  apply within_ask_bind
  intro v _
  cases v.subscriptions.get id with
  | none => trivial
  | some row =>
      exact within_flushOne_bind (hF.updates _ _ _)
        (fun _ _ _ => hF.raises _) trivial

theorem updatePlan_within (hF : PermitsSubscriptions F) (userId : Int)
    (plan : Plan) : (updatePlan userId plan).Within F fun _ => True := by
  apply within_ask_bind
  intro v _
  cases v.users.get userId with
  | none => trivial
  | some row =>
      exact within_flushOne_bind (hF.users _ _ _)
        (fun _ _ _ => hF.raises _) trivial

theorem activationStart_within (hF : PermitsSubscriptions F)
    (current : Option (Int × Subscription)) (plan : Plan) (now : Instant) :
    (activationStart current plan now).Within F fun _ => True := by
  cases current with
  | none => trivial
  | some entry =>
      simp only [activationStart]
      split
      · trivial
      · exact within_bind (updateSubscriptionStatus_within hF _ _)
          fun _ _ => trivial

theorem activateSubscription_within (hF : PermitsSubscriptions F)
    (userId : Int) (plan : Plan) (now : Instant) :
    (activateSubscription userId plan now).Within F fun _ => True := by
  unfold activateSubscription
  split
  · exact hF.raises _
  · apply within_ask_bind
    intro v _
    split
    · exact hF.raises _
    · apply within_ask_bind
      intro v _
      apply within_bind (activationStart_within hF _ _ _)
      intro start _
      apply within_bind (R := fun _ => True)
      · apply within_draw_bind hF.draws
        intro id
        exact within_flushOne_bind (hF.inserts _ _)
          (fun _ _ _ => hF.raises _) trivial
      · intro subscription _
        exact within_bind (updatePlan_within hF _ _) fun _ _ => trivial

theorem expireEach_within (hF : PermitsSubscriptions F)
    (entries : List (Int × Subscription)) :
    (expireEach entries).Within F fun _ => True := by
  induction entries with
  | nil => trivial
  | cons entry rest ih =>
      apply within_bind (R := fun _ => True)
      · apply within_bind (updateSubscriptionStatus_within hF _ _)
        intro _ _
        exact within_bind (updatePlan_within hF _ _) fun _ _ => trivial
      · exact fun _ _ => ih

theorem expireSubscriptions_within (hF : PermitsSubscriptions F)
    (now : Instant) :
    (expireSubscriptions now).Within F fun _ => True := by
  apply within_ask_bind
  intro v _
  exact within_bind (expireEach_within hF _) fun _ _ => trivial

end Footprints

end CoverAI
