import CoverAI.Services.History
import CoverAI.Services.Users

/-!
# The history of a user

The list filters, orders and limits in one query; the detail loads a letter by
its key and refuses it by conditions of its own.  Both show the same letters.
-/

namespace CoverAI

open Txn Program

/-!
# The letters a user may see
-/

/-- The window of a plan; a plan without a history has none. -/
def historyWindow (now : Instant) : Plan -> Option (Option Instant)
  | .free => none
  | .standard => some (some (now - standardHistoryPeriod))
  | .pro => some none

/-- A letter of the user that is not older than the window. -/
def Accessible (userId : Int) (since : Option Instant) (l : CoverLetter) :
    Prop :=
  l.userId = userId ∧ forall start, since = some start -> start ≤ l.createdAt

def NewerFirst (a b : Int × CoverLetter) : Prop :=
  b.2.createdAt < a.2.createdAt ∨
    (b.2.createdAt = a.2.createdAt ∧ b.1 < a.1)

theorem listedSince_iff {userId : Int} {since : Option Instant}
    {l : CoverLetter} :
    listedSince userId since l = true <-> Accessible userId since l := by
  unfold listedSince Accessible
  cases since with
  | none => simp
  | some start => simp

theorem letterOf_eq (userId : Int) (since : Option Instant) (l : CoverLetter) :
    letterOf userId since (some l) =
      if listedSince userId since l = true then ret l
      else raise (Exc.other "CoverLetterNotFoundError" "") := by
  unfold letterOf listedSince beforeCutoff
  by_cases howner : l.userId = userId
  · cases since with
    | none => simp [howner]
    | some start =>
        by_cases hold : l.createdAt < start
        · simp [howner, hold, Int.not_le.mpr hold]
        · simp [howner, hold, Int.not_lt.mp hold]
  · simp [howner]

/-!
# The order of the list
-/

theorem newerLetter_trans (a b c : Int × CoverLetter)
    (hab : newerLetter a b = true) (hbc : newerLetter b c = true) :
    newerLetter a c = true := by
  simp only [newerLetter, Bool.or_eq_true, Bool.and_eq_true,
    decide_eq_true_eq] at hab hbc ⊢
  unfold Instant at *
  omega

theorem newerLetter_total (a b : Int × CoverLetter) :
    (newerLetter a b || newerLetter b a) = true := by
  simp only [newerLetter, Bool.or_eq_true, Bool.and_eq_true,
    decide_eq_true_eq]
  unfold Instant at *
  omega

theorem newerFirst_of_ne {a b : Int × CoverLetter}
    (h : newerLetter a b = true) (hne : a.1 ≠ b.1) : NewerFirst a b := by
  simp only [newerLetter, Bool.or_eq_true, Bool.and_eq_true,
    decide_eq_true_eq] at h
  unfold NewerFirst
  unfold Instant at *
  omega

theorem NewerFirst.ne {a b : Int × CoverLetter} (h : NewerFirst a b) :
    a ≠ b := by
  intro heq
  cases heq
  rcases h with hlt | ⟨_, hlt⟩
  · exact Int.lt_irrefl _ hlt
  · exact Int.lt_irrefl _ hlt

def accessibleLetters (db : Db) (userId : Int) (since : Option Instant) :
    List (Int × CoverLetter) :=
  (db.coverLetters.rows.filter fun entry =>
    listedSince userId since entry.2).mergeSort newerLetter

section AccessibleLetters

variable (db : Db) (userId : Int) (since : Option Instant)

theorem mem_accessibleLetters {id : Int} {l : CoverLetter} :
    (id, l) ∈ accessibleLetters db userId since <->
      db.coverLetters.get id = some l ∧ Accessible userId since l := by
  rw [accessibleLetters, List.mem_mergeSort, List.mem_filter,
    listedSince_iff]
  constructor
  · intro h
    exact ⟨Table.get_of_mem h.left, h.right⟩
  · intro h
    exact ⟨Table.mem_of_get h.left, h.right⟩

theorem accessibleLetters_pairwise :
    (accessibleLetters db userId since).Pairwise NewerFirst := by
  have hsorted : (accessibleLetters db userId since).Pairwise
      fun a b => newerLetter a b = true :=
    List.pairwise_mergeSort newerLetter_trans newerLetter_total _
  have hkeys : ((accessibleLetters db userId since).map Prod.fst).Nodup := by
    have hperm := (List.mergeSort_perm (db.coverLetters.rows.filter
      fun entry => listedSince userId since entry.2) newerLetter).map Prod.fst
    apply hperm.nodup_iff.mpr
    exact db.coverLetters.keysNodup.sublist (List.filter_sublist.map Prod.fst)
  have hdistinct := List.pairwise_map.mp hkeys
  exact hsorted.imp₂ (fun _ _ => newerFirst_of_ne) hdistinct

theorem accessibleLetters_nodup : (accessibleLetters db userId since).Nodup :=
  (accessibleLetters_pairwise db userId since).imp NewerFirst.ne

theorem length_accessibleLetters_le :
    (accessibleLetters db userId since).length ≤
      db.coverLetters.rows.length := by
  rw [accessibleLetters, List.length_mergeSort]
  exact List.length_filter_le _ _

end AccessibleLetters

/-!
# The two read paths
-/

/-- The caller's row where the route holds it, else the row of the user. -/
def callerRow (held : Option User) (userId : Int) (db : Db) : Option User :=
  held.or (db.users.get userId)

def accessDenied : Exc :=
  .other "HistoryAccessDeniedError" ""

section Paths

variable {held : Option User} {userId : Int} {now : Instant} {user : User}
  {s : Store coverAI}

theorem historyCutoff_run (huser : callerRow held userId s.db = some user) :
    (historyCutoff held userId now).run s =
      ((historyWindow now user.plan).elim (.error accessDenied) Except.ok,
        s) := by
  have hrow : (userById held userId).run s = (.ok (some user), s) := by
    cases held with
    | some caller =>
        cases huser
        rfl
    | none =>
        simp only [callerRow, Option.none_or] at huser
        simp only [userById, select, ask, run, huser]
  simp only [historyCutoff, bind_eq, run_bind, hrow]
  cases user.plan with
  | free => rfl
  | standard => rfl
  | pro => rfl

theorem listHistory_of_window {since : Option Instant}
    (huser : callerRow held userId s.db = some user)
    (hwindow : historyWindow now user.plan = some since) (k : Nat) :
    (listHistory held userId now k).transact s =
      (.ok {
        letters := (accessibleLetters s.db userId since).take k
        cutoff := since }, s) := by
  apply transact_of_ok
  have hlimit : ¬ (k : Int) < 0 := by omega
  simp only [listHistory, bind_eq, pure_eq, run_bind,
    historyCutoff_run huser, hwindow, Option.elim_some, listByUserIdSince,
    if_neg hlimit, select, ask, run, Int.toNat_natCast]
  rfl

theorem getLetter_of_window {since : Option Instant}
    (huser : callerRow held userId s.db = some user)
    (hwindow : historyWindow now user.plan = some since) (letterId : Int) :
    ((getLetter held userId letterId now).transact s).1 =
      ((letterOf userId since (s.db.coverLetters.get letterId)).transact
        s).1 := by
  simp only [getLetter, transact, bind_eq, run_bind, historyCutoff_run huser,
    hwindow, Option.elim_some, coverLetterById, select, ask, run]

theorem getLetter_eq_ok_iff {since : Option Instant}
    (huser : callerRow held userId s.db = some user)
    (hwindow : historyWindow now user.plan = some since) {letterId : Int}
    {l : CoverLetter} :
    ((getLetter held userId letterId now).transact s).1 = .ok l <->
      (letterId, l) ∈ accessibleLetters s.db userId since := by
  rw [getLetter_of_window huser hwindow, mem_accessibleLetters]
  cases hget : s.db.coverLetters.get letterId with
  | none => simp [letterOf, transact, run]
  | some found =>
      rw [letterOf_eq, <- listedSince_iff]
      by_cases hlisted : listedSince userId since found = true
      · rw [if_pos hlisted]
        simp only [transact, run, Except.ok.injEq, Option.some.injEq]
        constructor
        · intro heq
          cases heq
          exact ⟨rfl, hlisted⟩
        · intro h
          exact h.left
      · rw [if_neg hlisted]
        constructor
        · intro h
          cases h
        · intro h
          cases h.left
          exact absurd h.right hlisted

end Paths

/-- The list and the detail of a user's history in one state. -/
structure HistoryAgrees (held : Option User) (userId : Int) (now : Instant)
    (user : User) (s : Store coverAI) : Prop where
  denied : user.plan = .free -> forall limit letterId,
    ((listHistory held userId now limit).transact s).1 = .error accessDenied ∧
      ((getLetter held userId letterId now).transact s).1 =
        .error accessDenied
  detail : user.plan ≠ .free -> forall limit : Int,
    s.db.coverLetters.rows.length ≤ limit -> forall letterId l,
      ((getLetter held userId letterId now).transact s).1 = .ok l <->
        exists listed,
          ((listHistory held userId now limit).transact s).1 = .ok listed ∧
            (letterId, l) ∈ listed.letters
  listed : forall since, historyWindow now user.plan = some since ->
    exists letters : List (Int × CoverLetter),
      letters.Pairwise NewerFirst ∧ letters.Nodup ∧
        (forall id l, (id, l) ∈ letters <->
          s.db.coverLetters.get id = some l ∧ Accessible userId since l) ∧
        forall k : Nat, (listHistory held userId now k).transact s =
          (.ok { letters := letters.take k, cutoff := since }, s)

theorem exists_window {plan : Plan} (h : plan ≠ .free) (now : Instant) :
    exists since, historyWindow now plan = some since := by
  cases plan with
  | free => exact absurd rfl h
  | standard => exact ⟨_, rfl⟩
  | pro => exact ⟨_, rfl⟩

theorem history_agrees {held : Option User} {userId : Int} {user : User}
    {s : Store coverAI} (huser : callerRow held userId s.db = some user)
    (now : Instant) : HistoryAgrees held userId now user s where
  denied := by
    intro hfree limit letterId
    simp only [listHistory, getLetter, transact, bind_eq, run_bind,
      historyCutoff_run huser, hfree, historyWindow, Option.elim_none,
      and_self]
  detail := by
    intro hplan limit hlimit letterId l
    rcases exists_window hplan now with ⟨since, hwindow⟩
    have hlength := length_accessibleLetters_le s.db userId since
    rcases Int.eq_ofNat_of_zero_le (a := limit) (by omega) with ⟨k, rfl⟩
    have hall : (accessibleLetters s.db userId since).take k =
        accessibleLetters s.db userId since :=
      List.take_of_length_le (by omega)
    rw [getLetter_eq_ok_iff huser hwindow,
      listHistory_of_window huser hwindow k, hall]
    constructor
    · intro hmem
      exact ⟨_, rfl, hmem⟩
    · intro hlisted
      rcases hlisted with ⟨listed, heq, hmem⟩
      cases heq
      exact hmem
  listed := by
    intro since hwindow
    exists accessibleLetters s.db userId since
    exact ⟨accessibleLetters_pairwise s.db userId since,
      accessibleLetters_nodup s.db userId since,
      fun id l => mem_accessibleLetters s.db userId since,
      listHistory_of_window huser hwindow⟩

def standardReader : User :=
  { newTelegramUser 7 with plan := .standard }

def letterAt (userId : Int) (createdAt : Instant) : CoverLetter where
  generationRequestId := 1
  userId := userId
  profileId := 1
  vacancyId := 1
  employerId := 1
  vacancyTitle := ""
  employerName := ""
  tone := .formal
  text := ""
  promptContext := ""
  model := ""
  generationMs := 0
  createdAt := createdAt

/-- Two letters of one instant, one of another user and one that is too old. -/
def letterStore : Store coverAI where
  db := { Db.empty with
    users := Table.empty.insert 1 standardReader
    coverLetters :=
      (((Table.empty.insert 1 (letterAt 1 0)).insert 2 (letterAt 1 0)).insert 3
        (letterAt 2 0)).insert 4 (letterAt 1 (-standardHistoryPeriod - 1)) }
  seq := fun _ => 5
  out := []

theorem history_agrees_letterStore :
    callerRow none 1 letterStore.db = some standardReader ∧
      HistoryAgrees none 1 0 standardReader letterStore :=
  ⟨rfl, history_agrees rfl 0⟩

end CoverAI
