import CoverAI.Promo.Limits
import CoverAI.Txn.Journal
import CoverAI.Txn.LockDiscipline

/-!
# Concurrent redemptions through the API

Any number of requests for one promo code run interleaved.  A request locks the
promo row before it looks for a redemption and validates the code, and holds the
lock until it commits or fails, so each committed request is one critical
section on the promo row and the redemptions of the code.
-/

namespace CoverAI

open Txn Program

/-- A request, with the user who sent it as the result. -/
def redemptionBy (env : Env) (userId : Int) (code : String) (now : Instant) :
    Session Int := do
  let _ ← redeemPromo env userId code now
  return userId

structure PromoView where
  promo : Option PromoCode
  rows : List PromoRedemption

def promoView (promoId : Int) (db : Db) : PromoView where
  promo := db.promoCodes.get promoId
  rows := redemptionsOf promoId db

/-- The promo row is `promo` with the number of its redemptions, which are
within the limit and of different users. -/
def PromoView.Consistent (promo : PromoCode) (v : PromoView) : Prop :=
  v.promo = some { promo with activationsCount := v.rows.length } ∧
    v.rows.length ≤ promo.maxActivations ∧ v.rows.Nodup

def PromoView.redeem (v : PromoView) (r : PromoRedemption) : PromoView where
  promo := v.promo.map PromoCode.activate
  rows := v.rows ++ [r]

/-- Under the lock one more user redeems the code, below the limit. -/
def redemptionDiscipline (promoId : Int) (promo : PromoCode) :
    Discipline coverAI Int PromoView where
  lock := LockName.promoCode promoId
  obs := promoView promoId
  Good := PromoView.Consistent promo
  Post := fun v v' => v.rows.length < promo.maxActivations ∧
    exists r, r ∉ v.rows ∧ v' = v.redeem r
  Final := fun _ => True
  Raises := fun _ => True
  Grant := fun _ _ => True
  good_post := by
    intro v v' hgood hpost
    rcases hgood with ⟨hpromo, _, hnodup⟩
    rcases hpost with ⟨hbelow, r, hnew, rfl⟩
    refine ⟨?_, ?_, ?_⟩
    · simp [PromoView.redeem, hpromo, PromoCode.activate]
    · simp only [PromoView.redeem, List.length_append, List.length_singleton]
      omega
    · refine List.nodup_append.mpr ⟨hnodup, by simp, ?_⟩
      intro a ha b hb heq
      rw [heq, List.mem_singleton.mp hb] at ha
      exact hnew ha
  final_post := fun _ _ => trivial

/-!
# The critical section
-/

section CriticalSection

variable {promoId userId : Int} {promo stored : PromoCode} {known : Prop}

theorem promoView_redeemed {db d : Db} {r : PromoRedemption} {v : PromoView}
    (hview : promoView promoId db = v) (hstored : v.promo = some stored)
    (hpromo : d.promoCodes =
      db.promoCodes.modify promoId (PromoCode.write stored stored.activate))
    (hrows : d.promoRedemptions = db.promoRedemptions ++ [r])
    (hr : r.promoCodeId = promoId) : promoView promoId d = v.redeem r := by
  have hget : db.promoCodes.get promoId = some stored := by
    rw [← hstored, ← hview]
    rfl
  unfold promoView PromoView.redeem
  rw [get_activated hget hpromo, if_pos rfl, redemptionsOf_append hrows,
    if_pos hr, hstored, ← hview]
  rfl

theorem promoView_congr {db d : Db} {id : Int} {r : PromoRedemption}
    (hid : id ≠ promoId)
    (hpromo : d.promoCodes =
      db.promoCodes.modify id (PromoCode.write stored stored.activate))
    (hrows : d.promoRedemptions = db.promoRedemptions ++ [r])
    (hr : r.promoCodeId = id) : promoView promoId d = promoView promoId db := by
  unfold promoView
  rw [hpromo, Table.get_modify_of_ne _ (Ne.symm hid),
    redemptionsOf_append hrows, hr, if_neg hid, List.append_nil]

theorem inside_redeemLocked {v : PromoView} {user : User}
    (hstored : v.promo = some stored)
    (hbelow : v.rows.length < promo.maxActivations)
    (hnew : { promoCodeId := promoId, userId := userId } ∉ v.rows) :
    (redemptionDiscipline promoId promo).Inside v v
      ((redeemLocked userId user promoId stored).bind fun _ => ret userId) := by
  rw [redeemLocked_eq, lockedUser, bind_assoc, bind_assoc]
  apply Discipline.inside_forUpdate_bind
  intro u _
  cases u.users.get userId with
  | none => trivial
  | some row =>
      rw [ret_bind, bind_assoc]
      apply Discipline.inside_flushUnit_bind
      · intro _ _ _ _
        refine ⟨v.redeem { promoCodeId := promoId, userId := userId }, ?_,
          ⟨hbelow, _, hnew, rfl⟩, trivial⟩
        intro db hdb
        rw [applyAll_redemptionWrites]
        exact promoView_redeemed hdb hstored rfl rfl rfl
      · intro _ _ _ _
        trivial

theorem inside_redeemStored {v : PromoView} {user : User} {now : Instant}
    (hgood : v.Consistent promo) (hstored : v.promo = some stored) :
    (redemptionDiscipline promoId promo).Inside v v
      ((redeemStored userId user now promoId stored).bind fun _ =>
        ret userId) := by
  simp only [redeemStored, promoWasRedeemed, bind_eq, bind_assoc]
  apply Discipline.inside_ask_bind
  intro u hu
  have hview : promoView promoId u = v := hu
  split
  · trivial
  · rename_i hnew
    split
    · trivial
    · rename_i hvalid
      have hbelow := (validatePromo_ok.mp hvalid).right.right
      have heq := Option.some.inj (hstored.symm.trans hgood.left)
      rw [heq] at hbelow
      apply inside_redeemLocked hstored hbelow
      rw [← hview]
      intro hmem
      apply hnew
      rw [decide_eq_true_eq]
      exact (mem_redemptionsOf.mp hmem).left

theorem outside_redeemStored {id : Int} {user : User} {now : Instant}
    (hid : id ≠ promoId) :
    (redemptionDiscipline promoId promo).Outside known
      ((redeemStored userId user now id stored).bind fun _ =>
        ret userId) := by
  simp only [redeemStored, promoWasRedeemed, bind_eq, bind_assoc]
  apply Discipline.outside_ask_bind
  intro v _
  split
  · trivial
  · split
    · trivial
    · rw [redeemLocked_eq, lockedUser, bind_assoc, bind_assoc]
      apply Discipline.outside_forUpdate_bind
      · intro heq
        cases heq
      · intro u _
        cases u.users.get userId with
        | none => trivial
        | some row =>
            rw [ret_bind, bind_assoc]
            apply Discipline.outside_flushUnit_bind
            · simp [redemptionDiscipline, Ne.symm hid]
            · intro db
              rw [applyAll_redemptionWrites]
              exact promoView_congr hid rfl rfl rfl
            · exact Or.inr trivial
            · exact fun _ => trivial

theorem outside_redemptionBy (env : Env) (userId : Int) (code : String)
    (now : Instant) :
    (redemptionDiscipline promoId promo).Outside known
      (redemptionBy env userId code now) := by
  simp only [redemptionBy, redeemPromo_eq, currentUser, lockPromo, bind_eq,
    pure_eq, bind_assoc]
  apply Discipline.outside_ask_bind
  intro v _
  cases v.users.get userId with
  | none => trivial
  | some user =>
      apply Discipline.outside_ask_bind
      intro u _
      cases u.promoCodes.first? (fun p => p.code = promoKey env code) with
      | none => trivial
      | some entry =>
          rcases entry with ⟨id, found⟩
          by_cases hid : id = promoId
          · subst hid
            apply Discipline.outside_forUpdate_lock_bind
            intro x hgood _
            cases hget : x.promoCodes.get id with
            | none => trivial
            | some stored => exact inside_redeemStored hgood hget
          · apply Discipline.outside_forUpdate_bind
            · intro heq
              cases heq
              exact hid rfl
            · intro x _
              cases x.promoCodes.get id with
              | none => trivial
              | some stored => exact outside_redeemStored hid

end CriticalSection

/-!
# Who has redeemed the code
-/

def KeyFinds (key : String) (promoId : Int) (db : Db) : Prop :=
  (promoOfKey key db).map Prod.fst = some promoId

/-- A request that ends normally has entered one redemption, by its user. -/
def redemptionJournal (key : String) (promoId : Int) :
    Journal coverAI Int PromoRedemption where
  obs := redemptionsOf promoId
  sees := KeyFinds key promoId
  ends := fun userId added =>
    added = [{ promoCodeId := promoId, userId := userId }]

section Requests

variable {key : String} {promoId : Int}

theorem keyFinds_redemptionWrites {userId id : Int} {promo : PromoCode}
    {user : User} {w : Write coverAI}
    (hw : w ∈ redemptionWrites userId id promo user) {db : Db}
    (h : KeyFinds key promoId db) : KeyFinds key promoId (w.apply db) := by
  simp only [redemptionWrites, List.mem_cons, List.mem_map] at hw
  rcases hw with rfl | rfl | rfl | ⟨t, _, rfl⟩
  · unfold KeyFinds promoOfKey at h ⊢
    rw [updatePromoCode_apply]
    simp only
    rw [Table.first?_modify]
    · rw [Option.map_map]
      have hfst : Prod.fst ∘ Table.modifyEntry promoCodeChecks id
          (PromoCode.write promo promo.activate) = Prod.fst := by
        funext entry
        exact Table.modifyEntry_fst _ _ _
      rw [hfst]
      exact h
    · intro r
      rfl
  · exact h
  · exact h
  · exact h

theorem redeemLocked_keeps (userId id : Int) (user : User)
    (promo : PromoCode) :
    (redeemLocked userId user id promo).Keeps (KeyFinds key promoId) := by
  rw [redeemLocked_eq, lockedUser, bind_assoc]
  apply within_forUpdate_bind
  intro v _
  cases v.users.get userId with
  | none => trivial
  | some row =>
      rw [ret_bind]
      have hws : forall w, w ∈ redemptionWrites userId id promo user ->
          forall db, KeyFinds key promoId db -> KeyFinds key promoId (w.apply db) :=
        fun w hw db => keyFinds_redemptionWrites hw
      exact within_bind
        (within_flushUnit hws (fun _ _ _ _ _ => trivial) trivial)
        fun _ (_ : True) => trivial

theorem redemptionBy_keeps (env : Env) (userId : Int) (code : String)
    (now : Instant) :
    (redemptionBy env userId code now).Keeps (KeyFinds key promoId) := by
  simp only [redemptionBy, redeemPromo_eq, currentUser, lockPromo, bind_eq,
    pure_eq, bind_assoc]
  apply within_ask_bind
  intro v _
  cases v.users.get userId with
  | none => trivial
  | some user =>
      apply within_ask_bind
      intro u _
      cases u.promoCodes.first? (fun p => p.code = promoKey env code) with
      | none => trivial
      | some entry =>
          apply within_forUpdate_bind
          intro x _
          cases x.promoCodes.get entry.1 with
          | none => trivial
          | some stored =>
              simp only [redeemFound, redeemStored, promoWasRedeemed, bind_eq,
                bind_assoc, Option.map_some]
              apply within_ask_bind
              intro y _
              split
              · trivial
              · split
                · trivial
                · exact within_bind (redeemLocked_keeps _ _ _ _)
                    fun _ (_ : True) => trivial

theorem redeemLocked_appends {userId : Int} {user : User} {promo : PromoCode} :
    (redemptionJournal key promoId).Appends []
      ((redeemLocked userId user promoId promo).bind fun _ => ret userId) := by
  rw [redeemLocked_eq, lockedUser, bind_assoc, bind_assoc]
  apply Journal.appends_forUpdate_bind
  intro v _
  cases v.users.get userId with
  | none => trivial
  | some row =>
      rw [ret_bind, bind_assoc]
      apply Journal.appends_flushUnit_bind
        [{ promoCodeId := promoId, userId := userId }]
      · intro db
        rw [applyAll_redemptionWrites]
        exact (redemptionsOf_append rfl promoId).trans
          (congrArg _ (if_pos rfl))
      · rfl

theorem redemptionBy_appends {env : Env} {userId : Int} {code : String}
    {now : Instant} (hkey : promoKey env code = key) :
    (redemptionJournal key promoId).Appends []
      (redemptionBy env userId code now) := by
  simp only [redemptionBy, redeemPromo_eq, currentUser, lockPromo, bind_eq,
    pure_eq, bind_assoc, hkey]
  apply Journal.appends_ask_bind
  intro v _
  cases v.users.get userId with
  | none => trivial
  | some user =>
      apply Journal.appends_ask_bind
      intro u hfinds
      unfold redemptionJournal KeyFinds promoOfKey at hfinds
      simp only at hfinds
      cases hfirst : u.promoCodes.first? (fun p => p.code = key) with
      | none => trivial
      | some entry =>
          rw [hfirst, Option.map_some, Option.some.injEq] at hfinds
          apply Journal.appends_forUpdate_bind
          intro x _
          rw [hfinds]
          cases x.promoCodes.get promoId with
          | none => trivial
          | some stored =>
              simp only [redeemFound, redeemStored, promoWasRedeemed, bind_eq,
                bind_assoc, Option.map_some]
              apply Journal.appends_ask_bind
              intro y _
              split
              · trivial
              · split
                · trivial
                · exact redeemLocked_appends

end Requests

/-!
# Runs
-/

/-- Requests for the code by any users, at any instants; each may lose its
connection at any step. -/
def RedeemsKey (env : Env) (key : String) : Act coverAI Int -> Prop
  | .start _ p => exists userId code now,
      promoKey env code = key ∧ p = redemptionBy env userId code now
  | .step _ => True
  | .fail _ _ => True

def requester : Process coverAI Int -> Int
  | .done (.ok userId) => userId
  | _ => 0

/-- In every interleaving the redemptions of the code are those of the start,
followed by one for each request that has succeeded, and the count of the promo
row is their number, within the limit. -/
theorem concurrent_redemptions_within_limit {env : Env} {key : String}
    {promoId : Int} {promo : PromoCode} {s : Store coverAI}
    {w : World coverAI Int}
    (hfound : promoOfKey key s.db = some (promoId, promo))
    (hcount : promo.activationsCount = (redemptionsOf promoId s.db).length)
    (hlimit : promo.activationsCount ≤ promo.maxActivations)
    (hunique : s.db.promoRedemptions.Nodup)
    (hrun : World.Reaches (fun _ a => RedeemsKey env key a) (World.init s) w) :
    (exists order : List Nat, order.Nodup ∧
        (forall i, i ∈ order <-> (w.procs i).succeeded = true) ∧
        redemptionsOf promoId w.committed = redemptionsOf promoId s.db ++
          order.map (fun i =>
            { promoCodeId := promoId, userId := requester (w.procs i) })) ∧
      w.committed.promoCodes.get promoId = some { promo with
        activationsCount := (redemptionsOf promoId w.committed).length } ∧
      (redemptionsOf promoId w.committed).length ≤ promo.maxActivations ∧
      (redemptionsOf promoId w.committed).Nodup := by
  have hgood : (promoView promoId s.db).Consistent promo := by
    refine ⟨?_, ?_, hunique.filter _⟩
    · change s.db.promoCodes.get promoId = some _
      rw [Table.get_of_first? hfound]
      change some promo = some { promo with
        activationsCount := ((redemptionsOf promoId s.db).length : Int) }
      rw [← hcount]
    · change ((redemptionsOf promoId s.db).length : Int) ≤ _
      rw [← hcount]
      exact hlimit
  have hkept : (redemptionDiscipline promoId promo).Kept (World.init s) w := by
    apply Discipline.kept_of_reaches hgood
    apply hrun.mono
    intro u a hadm
    cases a with
    | start i p =>
        rcases hadm with ⟨userId, code, now, _, rfl⟩
        exact outside_redemptionBy env userId code now
    | step i => exact fun _ _ _ => trivial
    | fail i e => trivial
  have hwritten : exists order added,
      (redemptionJournal key promoId).Written (World.init s) w order added := by
    apply Journal.written_of_reaches hrun (fun _ => rfl)
    · change (promoOfKey key s.db).map Prod.fst = some promoId
      rw [hfound]
      rfl
    · intro u i p hadm
      rcases hadm with ⟨userId, code, now, _, rfl⟩
      exact redemptionBy_keeps env userId code now
    · intro u i p hadm
      rcases hadm with ⟨userId, code, now, hkey, rfl⟩
      exact redemptionBy_appends hkey
  refine ⟨?_, hkept.good⟩
  rcases hwritten with ⟨order, added, hwritten⟩
  refine ⟨order, hwritten.nodup, hwritten.succeeded, ?_⟩
  have hadded : order.flatMap added = order.map (fun i =>
      { promoCodeId := promoId, userId := requester (w.procs i) }) := by
    rw [← List.flatMap_pure_eq_map]
    apply List.flatMap_congr
    intro i hi
    rcases Process.exists_of_succeeded ((hwritten.succeeded i).mp hi) with
      ⟨userId, hdone⟩
    have hconforms := hwritten.conforms i
    rw [hdone] at hconforms
    rw [Function.comp_apply, hdone]
    exact hconforms
  rw [← hadded]
  exact hwritten.committed

/-- Two users send the code that is good for one activation; both have found
the promo row before the first one locks it. -/
def twoRequests : List (Act coverAI Int) :=
  [.start 0 (redemptionBy sampleEnv 1 "ONCE" 5),
    .start 1 (redemptionBy sampleEnv 2 "ONCE" 5)] ++
    [0, 0, 1, 1, 0, 0, 0, 0, 0, 1, 1, 1].map Act.step

theorem concurrent_redemptions_within_limit_two :
    exists w : World coverAI Int,
      World.Reaches (fun _ a => RedeemsKey sampleEnv "ONCE" a)
          (World.init singlePromoStore) w ∧
        (w.procs 0).succeeded = true ∧
        (w.procs 1).ended = some (.error
          (Exc.httpException 400 "Promo code activation limit reached")) ∧
        (redemptionsOf 1 w.committed).length ≤ (1 : Int) := by
  have hends : ((World.init singlePromoStore).runActs twoRequests).map
      (fun w => ((w.procs 0).succeeded, (w.procs 1).ended)) =
      some (true, some (.error
        (Exc.httpException 400 "Promo code activation limit reached"))) := by
    rfl
  rcases Option.map_eq_some_iff.mp hends with ⟨w, hrun, hend⟩
  simp only [Prod.mk.injEq] at hend
  have hreaches : World.Reaches (fun _ a => RedeemsKey sampleEnv "ONCE" a)
      (World.init singlePromoStore) w := by
    apply World.reaches_of_runActs _ hrun
    intro a ha _
    simp only [twoRequests, List.mem_append, List.mem_cons, List.not_mem_nil,
      or_false, List.mem_map] at ha
    rcases ha with (rfl | rfl) | ⟨i, _, rfl⟩
    · exact ⟨1, "ONCE", 5, rfl, rfl⟩
    · exact ⟨2, "ONCE", 5, rfl, rfl⟩
    · trivial
  have hlimits := concurrent_redemptions_within_limit
    (rfl : promoOfKey "ONCE" singlePromoStore.db = some (1, singlePromo))
    rfl (by decide) List.nodup_nil hreaches
  exact ⟨w, hreaches, hend.left, hend.right, hlimits.right.right.left⟩

end CoverAI
