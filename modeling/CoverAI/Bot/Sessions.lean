import CoverAI.Billing.Posting
import CoverAI.Bot.Handlers
import CoverAI.Generation.BotQuota

/-!
# The sessions behind the bot's handlers
-/

namespace CoverAI

open Txn Program

/-!
# Registration
-/

/-- A new row under a fresh key; the other users and all profiles stay. -/
structure RegistersUser (s : Store coverAI) (entry : Int × User)
    (s' : Store coverAI) : Prop where
  fresh : s.db.users.get entry.1 = none
  user : s'.db.users.get entry.1 = some entry.2
  others : forall k, k ≠ entry.1 -> s'.db.users.get k = s.db.users.get k
  profiles : s'.db.resumeProfiles = s.db.resumeProfiles

theorem createUser_registers (user : User) (s : Store coverAI) :
    (createUser user).Ensures
      (fun id s' => RegistersUser s (id, user) s') s := by
  refine ensures_mono (createUser_ensures user s) ?_
  intro id s' h
  rcases h with ⟨hnone, hcheck, hdb⟩
  constructor
  · exact hnone
  · rw [hdb]
    exact Table.get_insert_self hnone hcheck
  · intro k hk
    rw [hdb]
    exact Table.get_insert_of_ne _ hk user
  · rw [hdb]

theorem grantBonusTo_ensures {welcomeCredits userId : Int} {user : User}
    {s₀ s : Store coverAI} (h : RegistersUser s₀ (userId, user) s) :
    (grantBonusTo welcomeCredits userId user).Ensures
      (fun entry s' => RegistersUser s₀ entry s' ∧
        entry.2.plan = user.plan) s := by
  unfold grantBonusTo grantWelcomeBonus
  split
  · exact ensures_raise _ _
  · simp only [grantWelcomeBonusRow, userForUpdate, bind_eq, bind_assoc,
      ensures_selectForUpdate_bind]
    rw [h.user]
    simp only [bind_assoc, ensures_flushUnit_bind, ret_bind, pure_eq,
      ensures_ret]
    intro d hd
    rcases Write.attempt_cons_eq_ok.mp hd with ⟨huser, _⟩
    have hcheck := userChecks_of_violation h.user huser
    rw [Write.applyAll_of_attempt hd]
    refine ⟨⟨h.fresh, ?_, ?_, h.profiles⟩, trivial⟩
    · change (s.db.users.modify userId _).get userId = _
      rw [Table.get_modify_self, h.user, Option.map_some,
        Table.checkedUpdate_of_check]
      · rw [User.write_loaded]
        rfl
      · rwa [User.write_loaded]
    · intro k hk
      exact (Table.get_modify_of_ne _ hk _).trans (h.others k hk)

theorem getOrCreateTelegramUser_ensures (welcomeCredits telegramId : Int)
    {s : Store coverAI}
    (hunknown :
      s.db.users.first? (fun u => u.telegramId = some telegramId) = none) :
    (getOrCreateTelegramUser welcomeCredits telegramId).Ensures
      (fun entry s' => RegistersUser s entry s' ∧ entry.2.plan = .free) s := by
  simp only [getOrCreateTelegramUser, userByTelegramId, bind_eq,
    ensures_select_bind]
  rw [hunknown]
  simp only
  rw [ensures_bind]
  refine ensures_mono (createUser_registers _ s) ?_
  intro id s' h
  exact grantBonusTo_ensures h

theorem getOrCreateTelegramUser_silent (welcomeCredits telegramId : Int) :
    (getOrCreateTelegramUser welcomeCredits telegramId).Silent := by
  apply within_ask_bind
  intro v _
  split
  · trivial
  · apply within_bind (R := fun _ => True)
    · apply within_draw_bind trivial
      intro id
      exact within_flushOne_bind trivial (fun _ _ _ => trivial) trivial
    · intro id _
      unfold grantBonusTo grantWelcomeBonus
      apply within_bind (R := fun _ => True)
      · split
        · trivial
        · apply within_forUpdate_bind
          intro v _
          split
          · trivial
          · exact within_bind (within_flushUnit (fun _ _ => trivial)
              (fun _ _ _ _ _ => trivial) trivial) fun _ (_ : True) => trivial
      · exact fun _ _ => trivial

/-- A known user is returned as it is stored; otherwise a user is registered,
or nothing is. -/
theorem getOrCreateTelegramUser_cases (welcomeCredits telegramId : Int)
    (s : Store coverAI) :
    (exists entry, s.db.users.first? (fun u => u.telegramId = some telegramId) =
        some entry ∧
      (getOrCreateTelegramUser welcomeCredits telegramId).transact s =
        (.ok entry, s)) ∨
    s.db.users.first? (fun u => u.telegramId = some telegramId) = none ∧
      ((exists entry,
          ((getOrCreateTelegramUser welcomeCredits telegramId).transact s).1 =
            .ok entry ∧
          RegistersUser s entry
            ((getOrCreateTelegramUser welcomeCredits telegramId).transact
              s).2 ∧
          entry.2.plan = .free) ∨
        exists e,
          ((getOrCreateTelegramUser welcomeCredits telegramId).transact s).1 =
            .error e ∧
          ((getOrCreateTelegramUser welcomeCredits telegramId).transact
            s).2.db = s.db) := by
  cases hfound : s.db.users.first?
      (fun u => u.telegramId = some telegramId) with
  | some entry =>
      left
      refine ⟨entry, rfl, ?_⟩
      apply transact_of_ok
      simp only [getOrCreateTelegramUser, userByTelegramId, select, ask,
        bind_eq, read_bind, ret_bind, run]
      rw [hfound]
      rfl
  | none =>
      right
      exact ⟨rfl, ensures_transact
        (getOrCreateTelegramUser_ensures welcomeCredits telegramId hfound)⟩

/-!
# Profile and queueing
-/

theorem transact_getProfile (userId : Int) (s : Store coverAI) :
    (getProfile userId).transact s = (.error Exc.profileNotFound, s) ∨
      exists id profile, s.db.resumeProfiles.get id = some profile ∧
        profile.userId = userId ∧
        (getProfile userId).transact s = (.ok profile, s) := by
  simp only [transact, getProfile, profileByUserId, select, ask, bind_eq,
    read_bind, ret_bind, run]
  cases hprofile : s.db.resumeProfiles.first?
      (fun p => decide (p.userId = userId)) with
  | none => exact Or.inl rfl
  | some entry =>
      rcases entry with ⟨id, profile⟩
      have howner := Table.property_of_first? hprofile
      exact Or.inr ⟨id, profile, Table.get_of_first? hprofile,
        of_decide_eq_true howner, rfl⟩

/-- The bot does not take a request of this user now. -/
def BotRefuses (env : Env) (userId : Int) (now : Instant) (db : Db) : Prop :=
  forall user, db.users.get userId = some user ->
    user.credits < env.predictionCostCredits ∨
      user.plan = .free ∧
        1 ≤ usedSince userId (utcDayStart now) db.generationRequests

theorem run_botEnqueueGeneration (env : Env) (userId : Int)
    (vacancyUrl : String) (tone : Tone) (now : Instant) (s : Store coverAI) :
    (BotRefuses env userId now s.db ∧ exists e,
      (botEnqueueGeneration env userId vacancyUrl tone now).run s =
        (.error e, s)) ∨
    (¬ BotRefuses env userId now s.db ∧
      (botEnqueueGeneration env userId vacancyUrl tone now).run s =
        (.ok (), s.push (botJob env userId vacancyUrl tone))) := by
  have hcount : (countByUserStatusesSince userId [.pending, .succeeded]
      (utcDayStart now)).run s =
        (.ok (usedSince userId (utcDayStart now) s.db.generationRequests), s) :=
    rfl
  simp only [botEnqueueGeneration, select, ask, bind_eq, read_bind, ret_bind,
    run]
  cases huser : s.db.users.get userId with
  | none =>
      left
      refine ⟨?_, _, rfl⟩
      intro user hget
      cases huser.symm.trans hget
  | some user =>
      simp only
      split
      · rename_i hlow
        left
        refine ⟨?_, _, rfl⟩
        intro user' hget
        cases huser.symm.trans hget
        exact Or.inl hlow
      · rename_i hcredits
        rw [run_bind, hcount]
        simp only
        split
        · rename_i hfull
          left
          refine ⟨?_, _, rfl⟩
          intro user' hget
          cases huser.symm.trans hget
          exact Or.inr hfull
        · rename_i hfree
          right
          refine ⟨?_, rfl⟩
          intro hrefuses
          rcases hrefuses user huser with hlow | hfull
          · exact hcredits hlow
          · exact hfree hfull

theorem transact_botEnqueueGeneration (env : Env) (userId : Int)
    (vacancyUrl : String) (tone : Tone) (now : Instant) (s : Store coverAI) :
    (BotRefuses env userId now s.db ∧ exists e,
      (botEnqueueGeneration env userId vacancyUrl tone now).transact s =
        (.error e, s)) ∨
    (¬ BotRefuses env userId now s.db ∧
      (botEnqueueGeneration env userId vacancyUrl tone now).transact s =
        (.ok (), s.push (botJob env userId vacancyUrl tone))) := by
  rcases run_botEnqueueGeneration env userId vacancyUrl tone now s with
    ⟨hrefuses, e, hrun⟩ | ⟨htakes, hrun⟩
  · exact Or.inl ⟨hrefuses, e, transact_of_error hrun⟩
  · exact Or.inr ⟨htakes, transact_of_ok hrun⟩

end CoverAI
