import CoverAI.Services.Users
import CoverAI.Billing.Books
import CoverAI.Txn.Stages

/-!
# Concurrent registrations

A registration looks its user up, inserts it and grants the welcome bonus, in
one session.  The look-up takes no lock; the entry of the unique index is
locked from the insertion to the commit.
-/

namespace CoverAI

open Txn Program

/-- How far a registration has come. -/
inductive SignUp where
  | blank
  | drawn (id : Int)
  | created (id : Int) (user : User)
  | credited (id : Int) (user : User)

def User.welcomed (amount : Int) (user : User) : User :=
  { user with credits := user.credits + amount }

def bonusRow (amount : Int) (entry : Int × User) : CreditTransaction :=
  welcomeBonusRow entry.1 amount entry.2.credits welcomeBonusDescription

/-- No user has the keys of the new one. -/
structure Unclaimed (user : User) (db : Db) : Prop where
  email : forall id row e, db.users.get id = some row ->
    user.email = some e -> row.email ≠ some e
  telegramId : forall id row t, db.users.get id = some row ->
    user.telegramId = some t -> row.telegramId ≠ some t

/-- A new user can be inserted under the id. -/
structure Insertable (id : Int) (user : User) (db : Db) : Prop where
  free : db.users.get id = none
  credits : user.credits = 0
  checks : userChecks user = true
  unclaimed : Unclaimed user db

theorem takenBy_eq_false {row α : Type} {check : row -> Bool} [DecidableEq α]
    {T : Table row check} {column : row -> Option α} {r : row}
    (h : takenBy T column r = false) {id : Int} {old : row} {a : α}
    (hget : T.get id = some old) (ha : column r = some a) :
    column old ≠ some a := by
  intro hold
  simp only [takenBy, ha, Option.isSome_some, Bool.true_and,
    Option.isSome_eq_false_iff, Option.isNone_iff_eq_none] at h
  have hfirst := Table.property_of_first?_none h hget
  simp [hold] at hfirst

/-- The unique constraints accept the new user. -/
theorem unclaimed_of_insertUser {id : Int} {user : User} {db : Db}
    (h : (insertUser id user).violation db = none) : Unclaimed user db := by
  simp only [insertUser] at h
  split at h
  · cases h
  · rename_i hfree
    simp only [Bool.or_eq_true, not_or, Bool.not_eq_true] at hfree
    exact ⟨fun _ _ _ => takenBy_eq_false hfree.left,
      fun _ _ _ => takenBy_eq_false hfree.right⟩

namespace SignUp

/-- The user a registration leaves at a stage. -/
def row (amount : Int) : SignUp -> Option (Int × User)
  | blank | drawn _ => none
  | created id user => some (id, user)
  | credited id user => some (id, user.welcomed amount)

def key : SignUp -> Option Int
  | blank => none
  | drawn id | created id _ | credited id _ => some id

def holds : SignUp -> List LockName
  | blank | drawn _ => []
  | created _ user | credited _ user => uniqueUserKeys user

def owns (amount : Int) : SignUp -> Db -> Db
  | blank, db | drawn _, db => db
  | created id user, db => (insertUser id user).apply db
  | credited id user, db =>
      Write.applyAll
        [updateUser id user (user.welcomed amount),
          insertCreditTransaction (bonusRow amount (id, user.welcomed amount))]
        ((insertUser id user).apply db)

def Fits : SignUp -> Db -> Prop
  | blank, _ => True
  | drawn id, db => db.users.get id = none
  | created id user, db | credited id user, db => Insertable id user db

variable {amount : Int} {st : SignUp} {db : Db} {id : Int} {user : User}

theorem key_of_row (h : st.row amount = some (id, user)) : st.key = some id := by
  cases st <;> cases h <;> rfl

theorem owns_users_of_none (h : st.row amount = none) :
    (st.owns amount db).users = db.users := by
  cases st with
  | blank => rfl
  | drawn id => rfl
  | created id user => cases h
  | credited id user => cases h

/-- The change puts one row into the users table. -/
theorem puts_of_fits (hamount : 0 ≤ amount) (hfits : st.Fits db)
    (h : st.row amount = some (id, user)) :
    Table.Puts db.users (st.owns amount db).users id user := by
  cases st with
  | blank => cases h
  | drawn id => cases h
  | created id user =>
      cases h
      exact Table.puts_insert hfits.free hfits.checks
  | credited id' user' =>
      cases h
      have hinsert := Table.puts_insert hfits.free hfits.checks
      have hcheck : userChecks (user'.welcomed amount) = true := by
        have hold := (userChecks_iff user').mp hfits.checks
        rw [userChecks_iff]
        simp only [User.welcomed]
        omega
      have hwrite : User.write user' (user'.welcomed amount) user' =
          user'.welcomed amount := User.write_loaded _ _
      have hmodify := Table.puts_modify
        (f := User.write user' (user'.welcomed amount)) hinsert.get_self
        (by rw [hwrite]; exact hcheck)
      intro k
      change ((db.users.insert id user').modify id _).get k = _
      rw [hmodify k, hwrite]
      split
      · rfl
      · rename_i hk
        exact hinsert.get_of_ne hk

theorem uniqueKeys_of_row (h : st.row amount = some (id, user)) :
    st.holds = uniqueUserKeys user := by
  cases st <;> cases h <;> rfl

theorem email_mem_uniqueUserKeys {e : String} (h : user.email = some e) :
    LockName.userEmail e ∈ uniqueUserKeys user := by
  simp [uniqueUserKeys, h]

theorem telegramId_mem_uniqueUserKeys {t : Int} (h : user.telegramId = some t) :
    LockName.userTelegramId t ∈ uniqueUserKeys user := by
  simp [uniqueUserKeys, h]

/-- The commit of another registration, with another id and other unique
keys. -/
theorem insertable_owns (hamount : 0 ≤ amount) {id : Int} {user : User}
    (h : Insertable id user db) (hst : st.Fits db) (hkey : st.key ≠ some id)
    (hholds : forall r, r ∈ uniqueUserKeys user -> r ∉ st.holds) :
    Insertable id user (st.owns amount db) := by
  cases hrow : st.row amount with
  | none =>
      have husers := @owns_users_of_none amount st db hrow
      refine ⟨?_, h.credits, h.checks, ?_, ?_⟩
      · rw [husers]
        exact h.free
      · rw [husers]
        exact h.unclaimed.email
      · rw [husers]
        exact h.unclaimed.telegramId
  | some entry =>
      rcases entry with ⟨id', user'⟩
      have hputs := puts_of_fits hamount hst hrow
      have hother := uniqueKeys_of_row hrow
      refine ⟨?_, h.credits, h.checks, ?_, ?_⟩
      · rw [hputs.get_of_ne, h.free]
        intro heq
        subst heq
        exact hkey (key_of_row hrow)
      · intro k r e hget he hr
        rcases hputs.cases hget with ⟨_, rfl⟩ | ⟨_, hold⟩
        · apply hholds _ (email_mem_uniqueUserKeys he)
          rw [hother]
          exact email_mem_uniqueUserKeys hr
        · exact h.unclaimed.email k r e hold he hr
      · intro k r t hget ht hr
        rcases hputs.cases hget with ⟨_, rfl⟩ | ⟨_, hold⟩
        · apply hholds _ (telegramId_mem_uniqueUserKeys ht)
          rw [hother]
          exact telegramId_mem_uniqueUserKeys hr
        · exact h.unclaimed.telegramId k r t hold ht hr

end SignUp

def signUps (amount : Int) (hamount : 0 ≤ amount) : Staging coverAI SignUp where
  blank := .blank
  owns := SignUp.owns amount
  holds := SignUp.holds
  key := SignUp.key
  seq := SeqName.users
  Fits := SignUp.Fits
  Below := fun n db => db.users.KeysBelow n
  blank_owns := fun _ => rfl
  blank_holds := rfl
  blank_key := rfl
  blank_fits := fun _ => trivial
  fits_owns := by
    intro st st' db hst hst' hkey hholds
    have hother : forall id, st.key = some id -> st'.key ≠ some id := hkey
    cases st with
    | blank => trivial
    | drawn id =>
        change (st'.owns amount db).users.get id = none
        cases hrow : st'.row amount with
        | none =>
            rw [SignUp.owns_users_of_none hrow]
            exact hst
        | some entry =>
            rcases entry with ⟨id', user'⟩
            rw [(SignUp.puts_of_fits hamount hst' hrow).get_of_ne]
            · exact hst
            · intro heq
              subst heq
              exact hother id rfl (SignUp.key_of_row hrow)
    | created id user =>
        exact SignUp.insertable_owns hamount hst hst' (hother id rfl) hholds
    | credited id user =>
        exact SignUp.insertable_owns hamount hst hst' (hother id rfl) hholds
  below_mono := fun hle hbelow id r hget =>
    Int.lt_of_lt_of_le (hbelow id r hget) hle
  below_owns := by
    intro st db m hfits hbelow hkey
    cases hrow : st.row amount with
    | none =>
        rw [SignUp.owns_users_of_none hrow]
        exact hbelow
    | some entry =>
        rcases entry with ⟨id, user⟩
        exact hbelow.puts (Int.le_refl m)
          (hkey id (SignUp.key_of_row hrow))
          (SignUp.puts_of_fits hamount hfits hrow)

/-!
# The two registrations
-/

section Sessions

variable {amount : Int} {hamount : 0 ≤ amount}

/-- A registration that returns has found a user, or has created one with the
bonus. -/
def registered (amount : Int) (a : Int × User) (st : SignUp) : Prop :=
  st = .blank ∨
    exists user, st = .credited a.1 user ∧ a.2 = user.welcomed amount

theorem grantBonusTo_follows {id : Int} {user : User} :
    (signUps amount hamount).Follows (registered amount) (.created id user)
      (grantBonusTo amount id user) := by
  unfold grantBonusTo grantWelcomeBonus
  split
  · trivial
  · simp only [grantWelcomeBonusRow, userForUpdate, selectForUpdate, bind_eq,
      pure_eq, bind_assoc]
    apply Staging.follows_forUpdate_bind
    intro db hfits
    change Insertable id user db at hfits
    have hget : ((signUps amount hamount).owns (.created id user)
        db).users.get id = some user :=
      Table.get_insert_self hfits.free hfits.checks
    rw [hget]
    simp only [Program.bind_assoc]
    refine Staging.follows_flushUnit_bind
      (?_ : (signUps amount hamount).Flushes _ _ _ (.credited id user)) ?_
    · refine ⟨fun _ => rfl, fun _ hr => Or.inl hr, rfl, fun _ _ hfits _ => hfits⟩
    · exact Or.inr ⟨user, rfl, rfl⟩

theorem createUser_follows {user : User} {f : Int -> Session (Int × User)}
    (hcredits : user.credits = 0) (hchecks : userChecks user = true)
    (hf : forall id, (signUps amount hamount).Follows (registered amount)
      (.created id user) (f id)) :
    (signUps amount hamount).Follows (registered amount) .blank
      ((createUser user).bind f) := by
  simp only [createUser, bind_eq, pure_eq, bind_assoc]
  apply Staging.follows_draw_bind (T := signUps amount hamount)
  intro id
  refine ⟨.drawn id, ⟨rfl, fun _ => rfl, fun _ hr => hr, rfl, ?_⟩, ?_⟩
  · exact fun db _ hbelow => hbelow.get_eq_none
  · refine Staging.follows_flushUnit_bind
      (?_ : (signUps amount hamount).Flushes _ _ _ (.created id user)) (hf id)
    refine ⟨fun _ => rfl, fun _ hr => Or.inr hr, rfl, ?_⟩
    intro db d hfits hws
    change db.users.get id = none at hfits
    exact ⟨hfits, hcredits, hchecks,
      unclaimed_of_insertUser (Write.attempt_cons_eq_ok.mp hws).left⟩

theorem registerApiUser_follows (email : String) :
    (signUps amount hamount).Follows (registered amount) .blank
      (registerApiUser amount email) := by
  apply Staging.follows_ask_bind
  intro db _
  cases ((signUps amount hamount).owns .blank db).users.first?
      (fun u => u.email = some email) with
  | some _ => trivial
  | none => exact createUser_follows rfl rfl fun _ => grantBonusTo_follows

theorem getOrCreateTelegramUser_follows (telegramId : Int) :
    (signUps amount hamount).Follows (registered amount) .blank
      (getOrCreateTelegramUser amount telegramId) := by
  apply Staging.follows_ask_bind
  intro db _
  cases ((signUps amount hamount).owns .blank db).users.first?
      (fun u => u.telegramId = some telegramId) with
  | some _ => exact Or.inl rfl
  | none => exact createUser_follows rfl rfl fun _ => grantBonusTo_follows

end Sessions

/-!
# Committed registrations
-/

structure UniqueIdentities (db : Db) : Prop where
  email : forall id id' user user' e, db.users.get id = some user ->
    db.users.get id' = some user' -> user.email = some e ->
      user'.email = some e -> id = id'
  telegramId : forall id id' user user' t, db.users.get id = some user ->
    db.users.get id' = some user' -> user.telegramId = some t ->
      user'.telegramId = some t -> id = id'

/-- A user without a counterpart in the table is put into it. -/
theorem UniqueIdentities.puts {db db' : Db} {id : Int} {user row : User}
    (h : UniqueIdentities db) (hunclaimed : Unclaimed user db)
    (hputs : Table.Puts db.users db'.users id row)
    (hemail : row.email = user.email)
    (htelegram : row.telegramId = user.telegramId) : UniqueIdentities db' := by
  constructor
  · intro k k' r r' e hget hget' he he'
    rcases hputs.cases hget with ⟨rfl, rfl⟩ | ⟨_, hold⟩
    · rcases hputs.cases hget' with ⟨rfl, _⟩ | ⟨_, hold'⟩
      · rfl
      · exact (hunclaimed.email k' r' e hold' (hemail ▸ he) he').elim
    · rcases hputs.cases hget' with ⟨rfl, rfl⟩ | ⟨_, hold'⟩
      · exact (hunclaimed.email k r e hold (hemail ▸ he') he).elim
      · exact h.email k k' r r' e hold hold' he he'
  · intro k k' r r' t hget hget' ht ht'
    rcases hputs.cases hget with ⟨rfl, rfl⟩ | ⟨_, hold⟩
    · rcases hputs.cases hget' with ⟨rfl, _⟩ | ⟨_, hold'⟩
      · rfl
      · exact (hunclaimed.telegramId k' r' t hold' (htelegram ▸ ht) ht').elim
    · rcases hputs.cases hget' with ⟨rfl, rfl⟩ | ⟨_, hold'⟩
      · exact (hunclaimed.telegramId k r t hold (htelegram ▸ ht') ht).elim
      · exact h.telegramId k k' r r' t hold hold' ht ht'

/-- What a list of registrations, each of which has created a user, has made of
the database. -/
structure Welcomed (amount : Int) (db₀ db : Db) (created : List (Int × User)) :
    Prop where
  users : forall id user, db.users.get id = some user <->
    db₀.users.get id = some user ∨ (id, user) ∈ created
  fresh : forall id user, (id, user) ∈ created ->
    db₀.users.get id = none ∧ user.credits = amount
  nodup : (created.map Prod.fst).Nodup
  unique : UniqueIdentities db
  ledger : db.creditTransactions =
    db₀.creditTransactions ++ created.map (bonusRow amount)

theorem Welcomed.start {amount : Int} {db : Db} (h : UniqueIdentities db) :
    Welcomed amount db db [] where
  users := by simp
  fresh := fun _ _ h => by cases h
  nodup := List.nodup_nil
  unique := h
  ledger := (List.append_nil _).symm

theorem Welcomed.free_before {amount id : Int} {db₀ db : Db}
    {created : List (Int × User)} (h : Welcomed amount db₀ db created)
    (hfree : db.users.get id = none) : db₀.users.get id = none := by
  cases hget : db₀.users.get id with
  | none => rfl
  | some r =>
      have hnow := (h.users id r).mpr (Or.inl hget)
      rw [hfree] at hnow
      cases hnow

theorem Welcomed.not_created {amount id : Int} {db₀ db : Db}
    {created : List (Int × User)} (h : Welcomed amount db₀ db created)
    (hfree : db.users.get id = none) : id ∉ created.map Prod.fst := by
  intro hmem
  rcases List.mem_map.mp hmem with ⟨⟨k, r⟩, hr, rfl⟩
  have hnow := (h.users k r).mpr (Or.inr hr)
  rw [hfree] at hnow
  cases hnow

theorem Welcomed.users_puts {amount id k : Int} {user r : User} {db₀ db : Db}
    {created : List (Int × User)} {users : Table User userChecks}
    (h : Welcomed amount db₀ db created) (hfree : db.users.get id = none)
    (hputs : Table.Puts db.users users id user) :
    users.get k = some r <->
      db₀.users.get k = some r ∨ (k, r) ∈ created ++ [(id, user)] := by
  rw [List.mem_append, List.mem_singleton]
  constructor
  · intro hget
    rcases hputs.cases hget with ⟨rfl, rfl⟩ | ⟨_, hold⟩
    · exact Or.inr (Or.inr rfl)
    · rcases (h.users k r).mp hold with hfirst | hcreated
      · exact Or.inl hfirst
      · exact Or.inr (Or.inl hcreated)
  · intro hfrom
    rcases hfrom with hfirst | hcreated | hself
    · rw [hputs.get_of_ne]
      · exact (h.users k r).mpr (Or.inl hfirst)
      · intro heq
        subst heq
        rw [h.free_before hfree] at hfirst
        cases hfirst
    · rw [hputs.get_of_ne]
      · exact (h.users k r).mpr (Or.inr hcreated)
      · intro heq
        subst heq
        exact h.not_created hfree (List.mem_map.mpr ⟨_, hcreated, rfl⟩)
    · cases hself
      exact hputs.get_self

theorem Welcomed.credited {amount id : Int} {user : User} {db₀ db : Db}
    {created : List (Int × User)} (hamount : 0 ≤ amount)
    (h : Welcomed amount db₀ db created) (hfits : Insertable id user db) :
    Welcomed amount db₀ ((SignUp.credited id user).owns amount db)
      (created ++ [(id, user.welcomed amount)]) := by
  have hputs : Table.Puts db.users
      ((SignUp.credited id user).owns amount db).users id
      (user.welcomed amount) :=
    @SignUp.puts_of_fits amount (.credited id user) db _ _ hamount hfits rfl
  refine ⟨fun k r => h.users_puts hfits.free hputs, ?_, ?_, ?_, ?_⟩
  · intro k r hr
    rcases List.mem_append.mp hr with hold | hself
    · exact h.fresh k r hold
    · cases List.mem_singleton.mp hself
      refine ⟨h.free_before hfits.free, ?_⟩
      change user.credits + amount = amount
      rw [hfits.credits, Int.zero_add]
  · rw [List.map_append, List.nodup_append]
    refine ⟨h.nodup, by simp, ?_⟩
    intro j hj k hk heq
    rw [heq, List.mem_singleton.mp hk] at hj
    exact h.not_created hfits.free hj
  · exact h.unique.puts hfits.unclaimed hputs rfl rfl
  · rw [List.map_append, ← List.append_assoc, ← h.ledger]
    rfl

/-- The users that registrations at these stages have created. -/
def createdUsers (amount : Int) (history : List SignUp) : List (Int × User) :=
  history.filterMap (SignUp.row amount)

theorem welcomed_of_commits {amount : Int} {hamount : 0 ≤ amount}
    {history : List SignUp} {db₀ db : coverAI.Db}
    (h : (signUps amount hamount).Commits db₀ history db)
    (hended : forall st, st ∈ history -> st = .blank ∨
      exists id user, st = .credited id user)
    (hunique : UniqueIdentities db₀) :
    Welcomed amount db₀ db (createdUsers amount history) := by
  induction h with
  | start => exact Welcomed.start hunique
  | @step history db st h hfits ih =>
      have hbefore := ih fun st hst => hended st (List.mem_append_left _ hst)
      rw [createdUsers, List.filterMap_append]
      rcases hended st (List.mem_append_right _ (List.mem_singleton.mpr rfl))
        with rfl | ⟨id, user, rfl⟩
      · change Welcomed amount db₀ db (_ ++ [])
        rw [List.append_nil]
        exact hbefore
      · exact hbefore.credited hamount hfits

/-!
# Every interleaving
-/

/-- Any number of registrations, with any emails and Telegram ids; any of them
may lose its connection. -/
def registrations (amount : Int) :
    World coverAI (Int × User) -> Act coverAI (Int × User) -> Prop
  | _, .start _ p =>
      (exists email, p = registerApiUser amount email) ∨
        exists telegramId, p = getOrCreateTelegramUser amount telegramId
  | _, _ => True

/-- The outcome of a run: the users that were created, each with the session
that has created it. -/
structure OneBonusEach (amount : Int) (s : Store coverAI)
    (w : World coverAI (Int × User)) (created : List (Nat × Int × User)) :
    Prop where
  unique : UniqueIdentities w.committed
  /-- No user of the start has changed. -/
  users : forall id user, w.committed.users.get id = some user <->
    s.db.users.get id = some user ∨ exists i, (i, id, user) ∈ created
  fresh : forall i id user, (i, id, user) ∈ created ->
    s.db.users.get id = none ∧ user.credits = amount ∧
      w.procs i = .done (.ok (id, user))
  sessions : (created.map Prod.fst).Nodup
  /-- The other sessions add no row. -/
  ledger : w.committed.creditTransactions =
    s.db.creditTransactions ++
      created.map fun entry => bonusRow amount entry.2
  bonus : forall i id user, (i, id, user) ∈ created ->
    (w.committed.creditTransactions.filter fun t => t.userId = id) =
      [welcomeBonusRow id amount amount welcomeBonusDescription]

theorem filter_bonusRows {amount id : Int} {user : User}
    {created : List (Int × User)} (hnodup : (created.map Prod.fst).Nodup)
    (hmem : (id, user) ∈ created) :
    ((created.map (bonusRow amount)).filter fun t => t.userId = id) =
      [bonusRow amount (id, user)] := by
  induction created with
  | nil => cases hmem
  | cons entry rest ih =>
      rw [List.map_cons, List.nodup_cons] at hnodup
      rcases hnodup with ⟨hfirst, hrest⟩
      rcases List.mem_cons.mp hmem with heq | hmem
      · rw [← heq] at hfirst ⊢
        have hnone : ((rest.map (bonusRow amount)).filter fun t =>
            t.userId = id) = [] := by
          rw [List.filter_eq_nil_iff]
          intro t ht
          rcases List.mem_map.mp ht with ⟨e, he, rfl⟩
          rw [decide_eq_true_eq]
          intro hid
          exact hfirst (List.mem_map.mpr ⟨e, he, hid⟩)
        rw [List.map_cons, List.filter_cons, hnone]
        simp [bonusRow, welcomeBonusRow]
      · have hne : entry.1 ≠ id := by
          intro heq
          exact hfirst (List.mem_map.mpr ⟨_, hmem, heq.symm⟩)
        rw [List.map_cons, List.filter_cons, if_neg, ih hrest hmem]
        rw [decide_eq_true_eq]
        exact hne

theorem Welcomed.bonus {amount id : Int} {user : User} {db₀ db : Db}
    {created : List (Int × User)} (h : Welcomed amount db₀ db created)
    (howners : forall t, t ∈ db₀.creditTransactions ->
      db₀.users.get t.userId ≠ none) (hmem : (id, user) ∈ created) :
    (db.creditTransactions.filter fun t => t.userId = id) =
      [welcomeBonusRow id amount amount welcomeBonusDescription] := by
  rcases h.fresh id user hmem with ⟨hfree, hcredits⟩
  have hold : (db₀.creditTransactions.filter fun t => t.userId = id) = [] := by
    rw [List.filter_eq_nil_iff]
    intro t ht hid
    apply howners t ht
    rw [of_decide_eq_true hid, hfree]
  rw [h.ledger, List.filter_append, hold, filter_bonusRows h.nodup hmem,
    bonusRow, hcredits]
  rfl

/-- The created users with the sessions that have created them. -/
def createdBy (amount : Int) (history : List (Nat × SignUp)) :
    List (Nat × Int × User) :=
  history.filterMap fun entry =>
    (entry.2.row amount).map fun user => (entry.1, user)

theorem map_snd_createdBy (amount : Int) (history : List (Nat × SignUp)) :
    (createdBy amount history).map Prod.snd =
      createdUsers amount (history.map Prod.snd) := by
  simp [createdBy, createdUsers, List.map_filterMap, List.filterMap_map,
    Function.comp_def, Option.map_map]

theorem map_fst_createdBy_sublist (amount : Int)
    (history : List (Nat × SignUp)) :
    ((createdBy amount history).map Prod.fst).Sublist
      (history.map Prod.fst) := by
  induction history with
  | nil => exact List.Sublist.refl []
  | cons entry rest ih =>
      cases hrow : entry.2.row amount with
      | none =>
          simp only [createdBy, List.filterMap_cons, hrow, Option.map_none,
            List.map_cons]
          exact ih.cons entry.1
      | some user =>
          simp only [createdBy, List.filterMap_cons, hrow, Option.map_some,
            List.map_cons]
          exact ih.cons_cons entry.1

theorem mem_createdBy {amount : Int} {history : List (Nat × SignUp)} {i : Nat}
    {id : Int} {user : User} :
    (i, id, user) ∈ createdBy amount history <->
      exists st, (i, st) ∈ history ∧ st.row amount = some (id, user) := by
  simp only [createdBy, List.mem_filterMap, Option.map_eq_some_iff]
  constructor
  · intro hentry
    rcases hentry with ⟨⟨j, st⟩, hmem, entry, hrow, heq⟩
    cases heq
    exact ⟨st, hmem, hrow⟩
  · intro hentry
    rcases hentry with ⟨st, hmem, hrow⟩
    exact ⟨(i, st), hmem, (id, user), hrow, rfl⟩

/-- In every interleaving of registrations each identity has one user, and each
user that was created has one welcome bonus. -/
theorem one_bonus_per_identity {amount : Int} (hamount : 0 < amount)
    {s : Store coverAI} {w : World coverAI (Int × User)}
    (hunique : UniqueIdentities s.db)
    (hkeys : s.db.users.KeysBelow (s.seq SeqName.users))
    (howners : forall t, t ∈ s.db.creditTransactions ->
      s.db.users.get t.userId ≠ none)
    (hrun : World.Reaches (registrations amount) (World.init s) w) :
    exists created, OneBonusEach amount s w created := by
  have hstaged : exists stage history,
      (signUps amount (Int.le_of_lt hamount)).Staged (registered amount)
        (World.init s) w stage history := by
    apply Staging.staged_of_reaches hrun (fun _ => rfl) hkeys
    intro u i p hstart
    rcases hstart with ⟨email, rfl⟩ | ⟨telegramId, rfl⟩
    · exact registerApiUser_follows email
    · exact getOrCreateTelegramUser_follows telegramId
  rcases hstaged with ⟨stage, history, h⟩
  have hends : forall i st, (i, st) ∈ history ->
      exists a, w.procs i = .done (.ok a) ∧ registered amount a st := by
    intro i st hmem
    rcases (h.succeeded i st).mp hmem with ⟨hsucceeded, rfl⟩
    rcases Process.exists_of_succeeded hsucceeded with ⟨a, hdone⟩
    have hconforms := h.conforms i
    rw [hdone] at hconforms
    exact ⟨a, hdone, hconforms⟩
  have hwelcomed : Welcomed amount s.db w.committed
      ((createdBy amount history).map Prod.snd) := by
    rw [map_snd_createdBy]
    apply welcomed_of_commits h.committed _ hunique
    intro st hst
    rcases List.mem_map.mp hst with ⟨⟨i, st'⟩, hmem, rfl⟩
    rcases hends i st' hmem with ⟨a, _, hblank | ⟨user, hcredited, _⟩⟩
    · exact Or.inl hblank
    · exact Or.inr ⟨_, _, hcredited⟩
  have hmem : forall id user,
      (id, user) ∈ (createdBy amount history).map Prod.snd <->
        exists i, (i, id, user) ∈ createdBy amount history := by
    intro id user
    simp [List.mem_map]
  refine ⟨createdBy amount history, hwelcomed.unique, ?_, ?_, ?_, ?_, ?_⟩
  · intro id user
    rw [hwelcomed.users, hmem]
  · intro i id user hcreated
    rcases hwelcomed.fresh id user ((hmem id user).mpr ⟨i, hcreated⟩) with
      ⟨hfree, hcredits⟩
    refine ⟨hfree, hcredits, ?_⟩
    rcases mem_createdBy.mp hcreated with ⟨st, hst, hrow⟩
    rcases hends i st hst with ⟨a, hdone, rfl | ⟨user', rfl, hresult⟩⟩
    · cases hrow
    · cases hrow
      rw [hdone, ← hresult]
  · exact h.nodup.sublist (map_fst_createdBy_sublist amount history)
  · rw [hwelcomed.ledger, List.map_map]
    rfl
  · intro i id user hcreated
    exact hwelcomed.bonus howners ((hmem id user).mpr ⟨i, hcreated⟩)

/-- Two registrations of one email; both have looked for it before either
inserts its user. -/
def twoSignUps : List (Act coverAI (Int × User)) :=
  [.start 0 (registerApiUser 5 "user@example.com"),
    .start 1 (registerApiUser 5 "user@example.com")] ++
    [0, 1, 1, 1, 1, 1, 1, 0, 0, 0].map Act.step

theorem one_bonus_per_identity_two :
    exists w created,
      World.Reaches (registrations 5) (World.init emptyStore) w ∧
        (w.procs 0).ended = some (.error .integrityError) ∧
        (w.procs 1).succeeded = true ∧
        OneBonusEach 5 emptyStore w created := by
  have hends : ((World.init emptyStore).runActs twoSignUps).map
      (fun w => ((w.procs 0).ended, (w.procs 1).succeeded)) =
      some (some (.error .integrityError), true) := by
    rfl
  rcases Option.map_eq_some_iff.mp hends with ⟨w, hrun, hend⟩
  simp only [Prod.mk.injEq] at hend
  have hreaches : World.Reaches (registrations 5) (World.init emptyStore) w := by
    apply World.reaches_of_runActs _ hrun
    intro a ha _
    simp only [twoSignUps, List.mem_append, List.mem_cons, List.not_mem_nil,
      or_false, List.mem_map] at ha
    rcases ha with (rfl | rfl) | ⟨i, _, rfl⟩
    · exact Or.inl ⟨"user@example.com", rfl⟩
    · exact Or.inl ⟨"user@example.com", rfl⟩
    · trivial
  have hunique : UniqueIdentities emptyStore.db := by
    constructor <;> intro id id' user user' key hget
    · cases hget
    · cases hget
  have hkeys : emptyStore.db.users.KeysBelow
      (emptyStore.seq SeqName.users) := by
    intro id user hget
    cases hget
  rcases one_bonus_per_identity (by decide) hunique hkeys
    (fun _ ht => by cases ht) hreaches with ⟨created, hcreated⟩
  exact ⟨w, created, hreaches, hend.left, hend.right, hcreated⟩

end CoverAI
