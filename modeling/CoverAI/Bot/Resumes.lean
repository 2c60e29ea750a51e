import CoverAI.Bot.Dispatch
import CoverAI.Bot.Sessions
import CoverAI.Generation.Footprints
import CoverAI.Profile.StoredText
import CoverAI.Services.History

/-!
# The resume of a Telegram user

A Telegram user is a row of the users with this Telegram id, and has the resume
of the profile that belongs to the row.  The first resume gives the title, and
each accepted text replaces the one before.
-/

namespace CoverAI

open Txn Program

structure HeldResume where
  title : String
  text : String
  deriving DecidableEq

def userOf (db : Db) (telegramId : Int) : Option Int :=
  (db.users.first? fun u => u.telegramId = some telegramId).map Prod.fst

theorem userOf_telegramId {db : Db} {telegramId userId : Int}
    (h : userOf db telegramId = some userId) :
    exists user, db.users.get userId = some user ∧
      user.telegramId = some telegramId := by
  rcases Option.map_eq_some_iff.mp h with ⟨entry, hfirst, hentry⟩
  subst hentry
  have hid := Table.property_of_first? hfirst
  exact ⟨entry.2, Table.get_of_first? hfirst, of_decide_eq_true hid⟩

theorem userOf_injective {db : Db} {t t' userId : Int}
    (h : userOf db t = some userId) (h' : userOf db t' = some userId) :
    t = t' := by
  rcases userOf_telegramId h with ⟨user, hget, hid⟩
  rcases userOf_telegramId h' with ⟨user', hget', hid'⟩
  cases hget.symm.trans hget'
  exact Option.some.inj (hid.symm.trans hid')

theorem userOf_stored {db : Db} {telegramId userId : Int}
    (h : userOf db telegramId = some userId) : db.users.get userId ≠ none := by
  rcases userOf_telegramId h with ⟨user, hget, _⟩
  rw [hget]
  exact Option.some_ne_none user

def resumeOf (db : Db) (userId : Int) : Option HeldResume :=
  (db.resumeProfiles.first? fun p => p.userId = userId).map fun entry =>
    { title := entry.2.title, text := entry.2.resumeText }

def heldResume (db : Db) (telegramId : Int) : Option HeldResume :=
  (userOf db telegramId).bind (resumeOf db)

/-- What becomes of a resume when another one is sent. -/
def acceptResume (title text : String) (held : Option HeldResume) :
    Option HeldResume :=
  match held with
  | none =>
      match normalizeProfileTitle title, normalizeResumeText text with
      | .ok title, .ok normalized =>
          some { title := title, text := normalized.text }
      | _, _ => none
  | some resume =>
      match normalizeResumeText text with
      | .ok normalized => some { resume with text := normalized.text }
      | .error _ => some resume

/-- The next keys are free, and a profile belongs to a stored user. -/
structure Kept (s : Store coverAI) : Prop where
  users : forall n, s.seq .users ≤ n -> s.db.users.get n = none
  profiles : forall n, s.seq .resumeProfiles ≤ n ->
    s.db.resumeProfiles.get n = none
  owners : forall id profile, s.db.resumeProfiles.get id = some profile ->
    s.db.users.get profile.userId ≠ none

/-!
# Sessions that leave the resumes
-/

/-- Nothing is sent, no profile changes, and no user comes, goes or gets another
Telegram id. -/
structure Undisturbed (s s' : Store coverAI) : Prop where
  profiles : s'.db.resumeProfiles = s.db.resumeProfiles
  users : forall telegramId, userOf s'.db telegramId = userOf s.db telegramId
  rows : forall id, s'.db.users.get id = none <-> s.db.users.get id = none
  seq : forall t, s.seq t ≤ s'.seq t
  out : s'.out = s.out

section Undisturbed

variable {s s' s'' : Store coverAI}

theorem Undisturbed.refl (s : Store coverAI) : Undisturbed s s :=
  ⟨rfl, fun _ => rfl, fun _ => Iff.rfl, fun _ => Int.le_refl _, rfl⟩

theorem Undisturbed.kept (h : Undisturbed s s') (hs : Kept s) : Kept s' := by
  constructor
  · intro n hn
    exact (h.rows n).mpr (hs.users n (Int.le_trans (h.seq _) hn))
  · intro n hn
    rw [h.profiles]
    exact hs.profiles n (Int.le_trans (h.seq _) hn)
  · intro id profile hget hnone
    rw [h.profiles] at hget
    exact hs.owners id profile hget ((h.rows _).mp hnone)

theorem Undisturbed.heldResume (h : Undisturbed s s') (telegramId : Int) :
    heldResume s'.db telegramId = CoverAI.heldResume s.db telegramId := by
  unfold CoverAI.heldResume resumeOf
  rw [h.users, h.profiles]

/-- The part of the database that a session leaves undisturbed. -/
structure SameResumes (db₀ db : Db) : Prop where
  profiles : db.resumeProfiles = db₀.resumeProfiles
  users : forall telegramId, userOf db telegramId = userOf db₀ telegramId
  rows : forall id, db.users.get id = none <-> db₀.users.get id = none

theorem SameResumes.trans {db₀ db₁ db₂ : Db} (h : SameResumes db₀ db₁)
    (h' : SameResumes db₁ db₂) : SameResumes db₀ db₂ := by
  constructor
  · exact h'.profiles.trans h.profiles
  · intro telegramId
    exact (h'.users telegramId).trans (h.users telegramId)
  · intro id
    exact (h'.rows id).trans (h.rows id)

/-- A program that sends nothing and leaves the resumes. -/
def leavesResumes : Footprint coverAI where
  sees := fun _ => True
  writes := fun w => forall db, SameResumes db (w.apply db)
  draws := fun _ => True
  emits := fun _ => False
  raises := fun _ => True

theorem undisturbed_of_within {α : Type} {R : α -> Prop} {p : Session α}
    (h : p.Within leavesResumes R) (s : Store coverAI) :
    Undisturbed s (p.transact s).2 := by
  have hkeeps : p.Keeps (SameResumes s.db) :=
    within_mono h (fun _ hv => hv) (fun _ hw db hdb => hdb.trans (hw db))
      (fun _ _ => trivial) (fun _ _ => trivial) (fun _ _ => trivial)
      fun _ _ => trivial
  have hsilent : p.Silent :=
    within_mono h (fun _ hv => hv) (fun _ _ => trivial) (fun _ _ => trivial)
      (fun _ he => he) (fun _ _ => trivial) fun _ _ => trivial
  have hstart : SameResumes s.db s.db :=
    ⟨rfl, fun _ => rfl, fun _ => Iff.rfl⟩
  have hsame := hkeeps.transact hstart
  exact ⟨hsame.profiles, hsame.users, hsame.rows,
    (transact_advances p s).seq, hsilent.transact_out s⟩

/-!
# Use cases that leave the resumes
-/

theorem leaves_updateUser (id : Int) {loaded edited : User}
    (hid : edited.telegramId = loaded.telegramId) :
    leavesResumes.writes (updateUser id loaded edited) := by
  intro db
  constructor
  · rfl
  · intro telegramId
    have hfirst := Table.first?_modify db.users id
      (f := User.write loaded edited)
      (p := fun u => u.telegramId = some telegramId) fun r => by
        simp only [User.write, hid, changed_same]
    have hkeys : Prod.fst ∘ Table.modifyEntry userChecks id
        (User.write loaded edited) = Prod.fst := by
      funext entry
      exact Table.modifyEntry_fst _ _ _
    rw [updateUser_apply]
    simp only [userOf, hfirst, Option.map_map, hkeys]
  · intro k
    rw [updateUser_apply, Table.get_modify]
    split
    · rename_i hk
      rw [hk, Option.map_eq_none_iff]
    · exact Iff.rfl

/-- A write to the other tables. -/
theorem leaves_other {w : Write coverAI}
    (hprofiles : forall db, (w.apply db).resumeProfiles = db.resumeProfiles)
    (husers : forall db, (w.apply db).users = db.users) :
    leavesResumes.writes w := by
  intro db
  constructor
  · exact hprofiles db
  · intro telegramId
    rw [userOf, husers]
    rfl
  · intro id
    rw [husers]

/-- A unit of work that is allowed statement by statement. -/
theorem within_leaves_flush {α : Type} {R : α -> Prop} {rs : List LockName}
    {ws : List (Write coverAI)} {k : Unit -> Session α}
    (hws : forall w, w ∈ ws -> leavesResumes.writes w)
    (hk : (k ()).Within leavesResumes R) :
    ((flushUnit rs ws).bind k).Within leavesResumes R :=
  within_bind (within_flushUnit hws (fun _ _ _ _ _ => trivial) trivial)
    fun _ (_ : True) => hk

theorem lockPromo_leaves (code : String) :
    (lockPromo code).Within leavesResumes fun _ => True := by
  apply within_ask_bind
  intro v _
  split
  · trivial
  · exact fun _ _ => trivial

theorem redeemPromoCode_leaves (env : Env) (userId : Int) (code : String) :
    (redeemPromoCode env userId code).Within leavesResumes
      fun text => text ≠ generationAcceptedText := by
  apply within_bind (lockPromo_leaves _)
  intro found _
  cases found with
  | none => exact other_text (by decide +kernel)
  | some entry =>
      rcases entry with ⟨promoId, promo⟩
      apply within_ask_bind
      intro v _
      split
      · exact other_text (by decide +kernel)
      · apply within_forUpdate_bind
        intro v' _
        cases v'.users.get userId with
        | none => exact other_text (by decide +kernel)
        | some user =>
            simp only
            split
            · apply within_leaves_flush
              · intro w hw
                simp only [List.mem_cons, List.not_mem_nil, or_false] at hw
                rcases hw with rfl | rfl | rfl | rfl
                · exact leaves_other (fun _ => rfl) fun _ => rfl
                · apply leaves_updateUser
                  rfl
                · exact leaves_other (fun _ => rfl) fun _ => rfl
                · exact leaves_other (fun _ => rfl) fun _ => rfl
              · show _ ++ _ ++ _ ≠ _
                rw [String.append_assoc]
                exact other_text_of_prefix (by decide +kernel) _
            · apply within_leaves_flush
              · intro w hw
                simp only [List.mem_cons, List.not_mem_nil, or_false] at hw
                rcases hw with rfl | rfl | rfl
                · exact leaves_other (fun _ => rfl) fun _ => rfl
                · apply leaves_updateUser
                  rfl
                · exact leaves_other (fun _ => rfl) fun _ => rfl
              · show _ ++ _ ++ _ ≠ _
                rw [String.append_assoc]
                exact other_text_of_prefix (by decide +kernel) _

theorem createMockTopUp_leaves (env : Env) (userId creditsAmount : Int) :
    (createMockTopUp env userId creditsAmount).Within leavesResumes
      fun text => text ≠ generationAcceptedText := by
  apply within_forUpdate_bind
  intro v _
  cases v.users.get userId with
  | none => exact other_text (by decide +kernel)
  | some user =>
      apply within_draw_bind trivial
      intro paymentId
      apply within_leaves_flush
      · intro w hw
        simp only [List.mem_cons, List.not_mem_nil, or_false] at hw
        rcases hw with rfl | rfl
        · apply leaves_updateUser
          rfl
        · exact leaves_other (fun _ => rfl) fun _ => rfl
      · apply within_leaves_flush
        · intro w hw
          rw [List.mem_singleton.mp hw]
          exact leaves_other (fun _ => rfl) fun _ => rfl
        · show _ ++ _ ++ _ ++ _ ++ _ ++ _ ++ _ ++ _ ++ _ ≠ _
          simp only [String.append_assoc]
          exact other_text_of_prefix (by decide +kernel) _

theorem historyCutoff_leaves (userId : Int) (now : Instant) :
    (historyCutoff none userId now).Within leavesResumes fun _ => True := by
  apply within_ask_bind
  intro v _
  cases v.users.get userId with
  | none => trivial
  | some user =>
      simp only
      cases user.plan with
      | free => trivial
      | standard => trivial
      | pro => trivial

theorem listHistory_leaves (userId : Int) (now : Instant) (limit : Int) :
    (listHistory none userId now limit).Within leavesResumes
      fun _ => True := by
  apply within_bind (historyCutoff_leaves userId now)
  intro cutoff _
  unfold listByUserIdSince
  split
  · trivial
  · exact fun _ _ => trivial

theorem getLetter_leaves (userId letterId : Int) (now : Instant) :
    (getLetter none userId letterId now).Within leavesResumes
      fun _ => True := by
  apply within_bind (historyCutoff_leaves userId now)
  intro cutoff _
  apply within_ask_bind
  intro v _
  cases v.coverLetters.get letterId with
  | none => trivial
  | some letter =>
      unfold letterOf
      simp only
      split
      · trivial
      · split
        · trivial
        · trivial

theorem getProfile_leaves (userId : Int) :
    (getProfile userId).Within leavesResumes fun _ => True := by
  apply within_ask_bind
  intro v _
  split
  · trivial
  · trivial

theorem getCreditBalance_leaves (userId : Int) :
    (getCreditBalance userId).Within leavesResumes fun _ => True := by
  apply within_ask_bind
  intro v _
  split
  · trivial
  · trivial

/-!
# Registration
-/

/-- The sender is known afterwards, and so is everyone who was; nobody's resume
has changed. -/
structure Registers (s s' : Store coverAI) (telegramId userId : Int) :
    Prop where
  kept : Kept s'
  user : userOf s'.db telegramId = some userId
  known : forall t id, userOf s.db t = some id -> userOf s'.db t = some id
  resumes : forall t, heldResume s'.db t = heldResume s.db t
  out : s'.out = s.out

theorem Registers.undisturbed {telegramId userId : Int}
    (h : Registers s s' telegramId userId) (h' : Undisturbed s' s'') :
    Registers s s'' telegramId userId := by
  constructor
  · exact h'.kept h.kept
  · rw [h'.users]
    exact h.user
  · intro t id hknown
    rw [h'.users]
    exact h.known t id hknown
  · intro t
    rw [h'.heldResume]
    exact h.resumes t
  · exact h'.out.trans h.out

/-- A user whose key is free has no profile. -/
theorem Kept.no_resume (h : Kept s) {id : Int}
    (hfree : s.db.users.get id = none) : resumeOf s.db id = none := by
  unfold resumeOf
  rw [Option.map_eq_none_iff]
  cases hfirst : s.db.resumeProfiles.first? fun p => p.userId = id with
  | none => rfl
  | some entry =>
      have howner : entry.2.userId = id := by
        simpa using Table.property_of_first? hfirst
      have huser := h.owners entry.1 entry.2 (Table.get_of_first? hfirst)
      rw [howner] at huser
      exact absurd hfree huser

/-- The store after a new user was inserted. -/
def insertedUser (s : Store coverAI) (user : User) : Store coverAI :=
  (s.draw .users).setDb
    { s.db with users := s.db.users.insert (s.seq .users) user }

theorem insertedUser_registers (h : Kept s) {user : User} {telegramId : Int}
    (hid : user.telegramId = some telegramId) (hcheck : userChecks user = true)
    (hunknown : userOf s.db telegramId = none) :
    Registers s (insertedUser s user) telegramId (s.seq .users) := by
  have hfree := h.users (s.seq .users) (Int.le_refl _)
  have hfirst : s.db.users.first? (fun u => u.telegramId = some telegramId) =
      none := Option.map_eq_none_iff.mp hunknown
  have huser : userOf (insertedUser s user).db telegramId =
      some (s.seq .users) := by
    have hnew := Table.first?_insert_of_none hfirst hfree hcheck
      (decide_eq_true hid)
    exact congrArg (Option.map Prod.fst) hnew
  have hsame : forall t, t ≠ telegramId ->
      userOf (insertedUser s user).db t = userOf s.db t := by
    intro t ht
    have hother : decide (user.telegramId = some t) = false := by
      rw [hid]
      apply decide_eq_false
      intro heq
      exact ht (Option.some.inj heq).symm
    have hfound := Table.first?_insert_of_false (T := s.db.users)
      (p := fun u : User => decide (u.telegramId = some t)) hother
      (s.seq .users)
    exact congrArg (Option.map Prod.fst) hfound
  constructor
  case user => exact huser
  case out => rfl
  case kept =>
    constructor
    · intro n hn
      have hseq : (insertedUser s user).seq .users = s.seq .users + 1 := by
        simp [insertedUser, Store.draw_seq]
      rw [hseq] at hn
      have hne : n ≠ s.seq .users := by omega
      show (s.db.users.insert _ user).get n = none
      rw [Table.get_insert_of_ne _ hne]
      exact h.users n (by omega)
    · exact fun n hn => h.profiles n hn
    · intro id profile hget
      rcases Option.ne_none_iff_exists'.mp (h.owners id profile hget) with
        ⟨owner, howner⟩
      have hkept := Table.get_insert_of_some howner (s.seq .users) user
      intro hnone
      cases hkept.symm.trans hnone
  case known =>
    intro t id hknown
    rw [hsame]
    · exact hknown
    · intro ht
      subst ht
      cases hunknown.symm.trans hknown
  case resumes =>
    intro t
    unfold heldResume
    by_cases ht : t = telegramId
    · subst ht
      rw [huser, hunknown]
      exact h.no_resume hfree
    · rw [hsame t ht]
      rfl

theorem run_createUser (h : Kept s) {user : User} {telegramId : Int}
    (hemail : user.email = none) (hid : user.telegramId = some telegramId)
    (hcheck : userChecks user = true)
    (hunknown : userOf s.db telegramId = none) :
    (createUser user).run s = (.ok (s.seq .users), insertedUser s user) := by
  have hfree := h.users (s.seq .users) (Int.le_refl _)
  have hfirst : s.db.users.first? (fun u => u.telegramId = some telegramId) =
      none := Option.map_eq_none_iff.mp hunknown
  have hviolation : (insertUser (s.seq .users) user).violation s.db = none := by
    have hnone : (insertInto Db.users (fun T db => { db with users := T })
        (s.seq .users) user).violation s.db = none :=
      violation_insertInto.mpr ⟨hfree, hcheck⟩
    simp only [insertUser, takenBy, hemail, hid, hfirst, Option.isSome_none,
      Bool.false_and, Bool.and_false, Bool.or_false, Bool.false_eq_true,
      if_false]
    exact hnone
  simp only [createUser, draw, flushUnit, bind_eq, pure_eq, nextval_bind,
    flush_bind, ret_bind, run, Store.draw_db]
  rw [Write.attempt_cons_of_none hviolation]
  rfl

/-- The user with the welcome bonus. -/
def bonusUser (welcomeCredits : Int) (user : User) : User :=
  { user with credits := user.credits + welcomeCredits }

def bonusWrites (welcomeCredits id : Int) (user : User) :
    List (Write coverAI) :=
  [updateUser id user (bonusUser welcomeCredits user),
    insertCreditTransaction
      (welcomeBonusRow id welcomeCredits (user.credits + welcomeCredits)
        welcomeBonusDescription)]

theorem run_grantBonusTo {user : User} {id welcomeCredits : Int}
    (hwelcome : 0 < welcomeCredits) (hget : s.db.users.get id = some user)
    (hcheck : userChecks user = true) :
    (grantBonusTo welcomeCredits id user).run s =
      (.ok (id, bonusUser welcomeCredits user),
        s.setDb (Write.applyAll (bonusWrites welcomeCredits id user) s.db)) := by
  have hbonus : userChecks (bonusUser welcomeCredits user) = true := by
    rw [userChecks_iff] at hcheck ⊢
    exact ⟨Int.add_nonneg hcheck.left (Int.le_of_lt hwelcome), hcheck.right⟩
  have hviolation : (updateUser id user
      (bonusUser welcomeCredits user)).violation s.db = none :=
    updateUser_violation hget hbonus
  have hattempt : Write.attempt (bonusWrites welcomeCredits id user) s.db =
      .ok (Write.applyAll (bonusWrites welcomeCredits id user) s.db) := by
    rw [bonusWrites, Write.attempt_cons_of_none hviolation,
      Write.attempt_cons_of_none rfl]
    rfl
  have hpositive : ¬ welcomeCredits ≤ 0 := Int.not_le.mpr hwelcome
  simp only [grantBonusTo, grantWelcomeBonus, if_neg hpositive,
    grantWelcomeBonusRow, userForUpdate, bind_eq, pure_eq,
    selectForUpdate, forUpdate, lock_bind, ret_bind, run]
  rw [hget]
  simp only [flushUnit, flush_bind, ret_bind, run]
  unfold bonusWrites at hattempt
  unfold bonusUser at hattempt ⊢
  rw [hattempt]
  rfl

theorem bonusWrites_undisturbed (welcomeCredits id : Int) (user : User) :
    Undisturbed s
      (s.setDb (Write.applyAll (bonusWrites welcomeCredits id user) s.db)) := by
  have hsame : SameResumes s.db
      ((updateUser id user (bonusUser welcomeCredits user)).apply s.db) := by
    apply leaves_updateUser
    rfl
  exact ⟨hsame.profiles, hsame.users, hsame.rows, fun _ => Int.le_refl _, rfl⟩

/-- The sender of an update is registered, if the bonus is positive. -/
theorem getOrCreateTelegramUser_registers (h : Kept s) {welcomeCredits : Int}
    (hwelcome : 0 < welcomeCredits) (telegramId : Int) :
    exists entry s',
      (getOrCreateTelegramUser welcomeCredits telegramId).transact s =
        (.ok entry, s') ∧ Registers s s' telegramId entry.1 := by
  cases hfirst : s.db.users.first? fun u => u.telegramId = some telegramId with
  | some entry =>
      refine ⟨entry, s, ?_, ?_⟩
      · apply transact_of_ok
        simp only [getOrCreateTelegramUser, userByTelegramId, select, ask,
          bind_eq, read_bind, ret_bind, run, hfirst]
        rfl
      · constructor
        · exact h
        · rw [userOf, hfirst]
          rfl
        · exact fun _ _ hknown => hknown
        · exact fun _ => rfl
        · rfl
  | none =>
      have hunknown : userOf s.db telegramId = none := by
        rw [userOf, hfirst]
        rfl
      let user := newTelegramUser telegramId
      have hinserted : Registers s (insertedUser s user) telegramId
          (s.seq .users) := insertedUser_registers h rfl rfl hunknown
      have hget : (insertedUser s user).db.users.get (s.seq .users) =
          some user := by
        have hfree := h.users (s.seq .users) (Int.le_refl _)
        exact Table.get_insert_self hfree rfl
      have hcreate : (createUser user).run s =
          (.ok (s.seq .users), insertedUser s user) :=
        run_createUser h rfl rfl rfl hunknown
      have hbonus := run_grantBonusTo hwelcome hget rfl
      refine ⟨(s.seq .users, bonusUser welcomeCredits user), _,
        transact_of_ok ?_, hinserted.undisturbed
          (bonusWrites_undisturbed welcomeCredits (s.seq .users) user)⟩
      simp only [getOrCreateTelegramUser, userByTelegramId, select, ask,
        bind_eq, read_bind, ret_bind, run, hfirst, run_bind]
      rw [hcreate]
      exact hbonus

/-!
# Saving a resume
-/

/-- The resume of one user is what is accepted of the text; nothing else that
matters here has changed. -/
structure SavesResume (s s' : Store coverAI) (userId : Int)
    (title text : String) : Prop where
  kept : Kept s'
  users : s'.db.users = s.db.users
  resume : resumeOf s'.db userId =
    acceptResume title text (resumeOf s.db userId)
  others : forall u, u ≠ userId -> resumeOf s'.db u = resumeOf s.db u
  out : s'.out = s.out

theorem savesResume_of_refused (h : Kept s) {userId : Int}
    {title text : String} (hrefused :
      acceptResume title text (resumeOf s.db userId) = resumeOf s.db userId) :
    SavesResume s s userId title text :=
  ⟨h, rfl, hrefused.symm, fun _ _ => rfl, rfl⟩

/-- The store after a first resume was inserted. -/
def insertedProfile (s : Store coverAI) (profile : ResumeProfile) :
    Store coverAI :=
  (s.draw .resumeProfiles).setDb
    { s.db with
      resumeProfiles :=
        s.db.resumeProfiles.insert (s.seq .resumeProfiles) profile }

theorem insertedProfile_saves (h : Kept s) {userId : Int}
    (huser : s.db.users.get userId ≠ none)
    (hnone : s.db.resumeProfiles.first? (fun p => p.userId = userId) = none)
    {title text : String} {normalizedTitle : String}
    {normalizedText : NormalizedResumeText}
    (htitle : normalizeProfileTitle title = .ok normalizedTitle)
    (htext : normalizeResumeText text = .ok normalizedText) :
    SavesResume s
      (insertedProfile s {
        userId := userId
        title := normalizedTitle
        resumeText := normalizedText.text }) userId title text := by
  have hfree := h.profiles (s.seq .resumeProfiles) (Int.le_refl _)
  constructor
  case users => rfl
  case out => rfl
  case resume =>
    have hfirst := Table.first?_insert_of_none hnone hfree
      (r := ⟨userId, normalizedTitle, normalizedText.text⟩) rfl
      (decide_eq_true rfl)
    have hold : resumeOf s.db userId = none := by
      rw [resumeOf, hnone]
      rfl
    have hnew := congrArg (Option.map fun entry : Int × ResumeProfile =>
      ({ title := entry.2.title, text := entry.2.resumeText } : HeldResume))
        hfirst
    rw [hold]
    simp only [acceptResume, htitle, htext]
    exact hnew
  case others =>
    intro u hu
    have hother : decide (userId = u) = false :=
      decide_eq_false fun heq => hu heq.symm
    have hfound := Table.first?_insert_of_false (T := s.db.resumeProfiles)
      (p := fun p : ResumeProfile => decide (p.userId = u))
      (r := ⟨userId, normalizedTitle, normalizedText.text⟩) hother
      (s.seq .resumeProfiles)
    exact congrArg (Option.map fun entry : Int × ResumeProfile =>
      ({ title := entry.2.title, text := entry.2.resumeText } : HeldResume))
        hfound
  case kept =>
    constructor
    · exact fun n hn => h.users n hn
    · intro n hn
      have hseq : (insertedProfile s ⟨userId, normalizedTitle,
          normalizedText.text⟩).seq .resumeProfiles =
            s.seq .resumeProfiles + 1 := by
        simp [insertedProfile, Store.draw_seq]
      rw [hseq] at hn
      have hne : n ≠ s.seq .resumeProfiles := by omega
      show (s.db.resumeProfiles.insert _ _).get n = none
      rw [Table.get_insert_of_ne _ hne]
      exact h.profiles n (by omega)
    · intro id profile hget
      have hget' : (s.db.resumeProfiles.insert (s.seq .resumeProfiles)
          ⟨userId, normalizedTitle, normalizedText.text⟩).get id =
            some profile := hget
      rw [Table.get_insert] at hget'
      split at hget'
      · cases hget'
        exact huser
      · exact h.owners id profile hget'

theorem run_createProfile {userId : Int} (h : Kept s)
    (hnone : s.db.resumeProfiles.first? (fun p => p.userId = userId) = none)
    {title text : String} {normalizedTitle : String}
    {normalizedText : NormalizedResumeText}
    (htitle : normalizeProfileTitle title = .ok normalizedTitle)
    (htext : normalizeResumeText text = .ok normalizedText) :
    exists result, (createProfile userId title text).run s =
      (.ok result, insertedProfile s {
        userId := userId
        title := normalizedTitle
        resumeText := normalizedText.text }) := by
  have hfree := h.profiles (s.seq .resumeProfiles) (Int.le_refl _)
  have hviolation : (insertResumeProfile (s.seq .resumeProfiles)
      ⟨userId, normalizedTitle, normalizedText.text⟩).violation s.db =
        none := by
    simp only [insertResumeProfile, hnone, if_true]
    exact violation_insertInto.mpr ⟨hfree, rfl⟩
  refine ⟨{
    profileId := s.seq .resumeProfiles
    profile := ⟨userId, normalizedTitle, normalizedText.text⟩
    wasTruncated := normalizedText.wasTruncated }, ?_⟩
  simp only [createProfile, profileByUserId, createResumeProfile, select, ask,
    draw, flushUnit, bind_eq, pure_eq, read_bind, nextval_bind, flush_bind,
    ret_bind, run, hnone, htitle, htext, ofExcept, Store.draw_db]
  rw [Write.attempt_cons_of_none hviolation]
  rfl

/-- The store after another text was accepted. -/
def updatedProfile (s : Store coverAI) (profileId : Int)
    (profile : ResumeProfile) (text : String) : Store coverAI :=
  s.setDb ((updateResumeProfile profileId profile
    { profile with resumeText := text }).apply s.db)

theorem updatedProfile_saves (h : Kept s) {userId profileId : Int}
    {profile : ResumeProfile}
    (hfirst : s.db.resumeProfiles.first? (fun p => p.userId = userId) =
      some (profileId, profile))
    (title : String) {text : String} {normalizedText : NormalizedResumeText}
    (htext : normalizeResumeText text = .ok normalizedText) :
    SavesResume s (updatedProfile s profileId profile normalizedText.text)
      userId title text := by
  have howner : profile.userId = userId := by
    simpa using Table.property_of_first? hfirst
  let edit := ResumeProfile.write profile
    { profile with resumeText := normalizedText.text }
  have hkeeps : forall u, (s.db.resumeProfiles.modify profileId edit).first?
      (fun p => p.userId = u) =
        (s.db.resumeProfiles.first? fun p => p.userId = u).map
          (Table.modifyEntry noChecks profileId edit) := fun u =>
    Table.first?_modify s.db.resumeProfiles profileId
      (p := fun p => decide (p.userId = u)) fun _ => rfl
  constructor
  case users => rfl
  case out => rfl
  case resume =>
    have hedited := hkeeps userId
    rw [hfirst, Option.map_some, Table.modifyEntry, if_pos rfl,
      Table.checkedUpdate_of_check rfl] at hedited
    have hwrite : edit profile =
        { profile with resumeText := normalizedText.text } :=
      ResumeProfile.write_text profile normalizedText.text
    rw [hwrite] at hedited
    have hnew := congrArg (Option.map fun entry : Int × ResumeProfile =>
      ({ title := entry.2.title, text := entry.2.resumeText } : HeldResume))
        hedited
    have hold : resumeOf s.db userId =
        some { title := profile.title, text := profile.resumeText } := by
      rw [resumeOf, hfirst]
      rfl
    rw [hold]
    simp only [acceptResume, htext]
    exact hnew
  case others =>
    intro u hu
    have hsame := hkeeps u
    cases hother : s.db.resumeProfiles.first? fun p => p.userId = u with
    | none =>
        rw [hother] at hsame
        rw [resumeOf, resumeOf, hother]
        exact congrArg (Option.map _) hsame
    | some entry =>
        have hne : entry.1 ≠ profileId := by
          intro heq
          have hget := Table.get_of_first? hother
          rw [heq, Table.get_of_first? hfirst] at hget
          have huser : entry.2.userId = u := by
            simpa using Table.property_of_first? hother
          cases hget
          exact hu (huser.symm.trans howner)
        rw [hother, Option.map_some, Table.modifyEntry, if_neg hne] at hsame
        rw [resumeOf, resumeOf, hother]
        exact congrArg (Option.map _) hsame
  case kept =>
    constructor
    · exact fun n hn => h.users n hn
    · intro n hn
      show (s.db.resumeProfiles.modify profileId edit).get n = none
      rw [Table.get_modify]
      split
      · rename_i hn'
        rw [Option.map_eq_none_iff, <- hn']
        exact h.profiles n hn
      · exact h.profiles n hn
    · intro id row hget
      have hget' : (s.db.resumeProfiles.modify profileId edit).get id =
        some row := hget
      rw [Table.get_modify] at hget'
      split at hget'
      · rename_i hid
        rcases Option.map_eq_some_iff.mp hget' with ⟨old, hold, hrow⟩
        rw [<- hid] at hold
        have hsameOwner : row.userId = old.userId := by
          rw [<- hrow]
          rfl
        rw [hsameOwner]
        exact h.owners id old hold
      · exact h.owners id row hget'

theorem run_updateProfile {userId profileId : Int} {profile : ResumeProfile}
    (hfirst : s.db.resumeProfiles.first? (fun p => p.userId = userId) =
      some (profileId, profile))
    {text : String} {normalizedText : NormalizedResumeText}
    (htext : normalizeResumeText text = .ok normalizedText) :
    exists result, (updateProfile userId text).run s =
      (.ok result, updatedProfile s profileId profile normalizedText.text) := by
  have hget := Table.get_of_first? hfirst
  have hviolation : (updateResumeProfile profileId profile
      { profile with resumeText := normalizedText.text }).violation s.db =
        none := violation_updateIn.mpr fun _ _ => rfl
  refine ⟨{
    profileId := profileId
    profile := { profile with resumeText := normalizedText.text }
    wasTruncated := normalizedText.wasTruncated }, ?_⟩
  simp only [updateProfile, profileByUserId, updateProfileText, select, ask,
    flushUnit, bind_eq, pure_eq, read_bind, flush_bind, ret_bind, run, hfirst,
    htext, hget, ofExcept]
  rw [Write.attempt_cons_of_none hviolation]
  rfl

theorem normalizeProfileTitle_error {title : String} {e : Exc}
    (h : normalizeProfileTitle title = .error e) :
    e = .other "InvalidProfileTitleError" "" := by
  unfold normalizeProfileTitle at h
  simp only at h
  split at h
  · cases h
    rfl
  · cases h

theorem normalizeResumeText_error {text : String} {e : Exc}
    (h : normalizeResumeText text = .error e) :
    e = .other "ResumeTextTooShortError" "" := by
  unfold normalizeResumeText at h
  simp only at h
  split at h
  · cases h
    rfl
  · split at h
    · cases h
    · cases h

/-- The bot saves the resume that is accepted, and otherwise nothing. -/
theorem createOrUpdateProfile_saves (h : Kept s) {userId : Int}
    (huser : s.db.users.get userId ≠ none) (title text : String) :
    SavesResume s ((createOrUpdateProfile userId title text).transact s).2
      userId title text := by
  have hrefused : forall {e : Exc},
      (createOrUpdateProfile userId title text).run s = (.error e, s) ->
      acceptResume title text (resumeOf s.db userId) = resumeOf s.db userId ->
      SavesResume s ((createOrUpdateProfile userId title text).transact s).2
        userId title text := by
    intro e hrun hsame
    rw [transact_of_error hrun]
    exact savesResume_of_refused h hsame
  cases hfirst : s.db.resumeProfiles.first? fun p => p.userId = userId with
  | none =>
      have hold : resumeOf s.db userId = none := by
        rw [resumeOf, hfirst]
        rfl
      cases htitle : normalizeProfileTitle title with
      | error e =>
          have he := normalizeProfileTitle_error htitle
          subst he
          refine hrefused (e := .other "InvalidProfileTitleError" "") ?_ ?_
          · simp only [createOrUpdateProfile, run_tryCatch, createProfile,
              profileByUserId, select, ask, bind_eq, pure_eq, read_bind,
              ret_bind, run, hfirst, htitle, ofExcept, raise_bind]
            rfl
          · rw [hold]
            simp only [acceptResume, htitle]
      | ok normalizedTitle =>
          cases htext : normalizeResumeText text with
          | error e =>
              have he := normalizeResumeText_error htext
              subst he
              refine hrefused (e := .other "ResumeTextTooShortError" "") ?_ ?_
              · simp only [createOrUpdateProfile, run_tryCatch, createProfile,
                  profileByUserId, select, ask, bind_eq, pure_eq, read_bind,
                  ret_bind, run, hfirst, htitle, htext, ofExcept, raise_bind]
                rfl
              · rw [hold]
                simp only [acceptResume, htitle, htext]
          | ok normalizedText =>
              rcases run_createProfile h hfirst htitle htext with
                ⟨result, hrun⟩
              have hdone : (createOrUpdateProfile userId title text).run s =
                  (.ok result, insertedProfile s {
                    userId := userId
                    title := normalizedTitle
                    resumeText := normalizedText.text }) := by
                rw [createOrUpdateProfile, run_tryCatch, hrun]
              rw [transact_of_ok hdone]
              exact insertedProfile_saves h huser hfirst htitle htext
  | some entry =>
      rcases entry with ⟨profileId, profile⟩
      have hexists : (createProfile userId title text).run s =
          (.error (.other "ProfileAlreadyExistsError" ""), s) := by
        simp only [createProfile, profileByUserId, select, ask, bind_eq,
          read_bind, ret_bind, run, hfirst]
      have hupdate : (createOrUpdateProfile userId title text).run s =
          (updateProfile userId text).run s := by
        rw [createOrUpdateProfile, run_tryCatch, hexists]
        rfl
      cases htext : normalizeResumeText text with
      | error e =>
          have he := normalizeResumeText_error htext
          subst he
          refine hrefused (e := .other "ResumeTextTooShortError" "") ?_ ?_
          · rw [hupdate]
            simp only [updateProfile, profileByUserId, select, ask, bind_eq,
              pure_eq, read_bind, ret_bind, run, hfirst, htext, ofExcept,
              raise_bind]
          · rw [resumeOf, hfirst]
            simp only [acceptResume, Option.map_some, htext]
      | ok normalizedText =>
          rcases run_updateProfile hfirst htext with ⟨result, hrun⟩
          rw [<- hupdate] at hrun
          rw [transact_of_ok hrun]
          exact updatedProfile_saves h hfirst title htext

end Undisturbed
end CoverAI
