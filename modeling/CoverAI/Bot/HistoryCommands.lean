import CoverAI.Access.History
import CoverAI.Bot.Replies
import CoverAI.Text.Decimal
import CoverAI.Vacancy.UrlGrammar

/-!
# The numbers of the history

The list shows a number before each letter.  Sent back after the command, it
opens the letter that it was shown with.
-/

namespace CoverAI

open Txn Program Coop Scan

/-!
# Reading a number
-/

theorem isSpace_of_isDigit {c : Char} (h : c.isDigit = true) :
    isSpace c = false := by
  have hrange : 48 ≤ c.toNat ∧ c.toNat ≤ 57 := by
    simp only [Char.isDigit, Bool.and_eq_true, decide_eq_true_eq] at h
    exact h
  unfold isSpace
  simp only [Bool.or_eq_false_iff, Bool.and_eq_false_iff, decide_eq_false_iff_not]
  omega

section Words

variable {word rest : List Char}

theorem dropWhile_word (hword : forall c, c ∈ word -> isSpace c = false)
    (hne : word ≠ []) (tail : List Char) :
    (word ++ tail).dropWhile isSpace = word ++ tail := by
  cases word with
  | nil => exact absurd rfl hne
  | cons c word =>
      rw [List.cons_append, List.dropWhile_cons,
        hword c List.mem_cons_self, if_neg (by decide)]

theorem splitOnce_words (hword : forall c, c ∈ word -> isSpace c = false)
    (hne : word ≠ []) (hrest : forall c, c ∈ rest -> isSpace c = false)
    (hrestNe : rest ≠ []) :
    splitOnce (String.ofList (word ++ ' ' :: rest)) =
      [String.ofList word, String.ofList rest] := by
  have hfront : (word ++ ' ' :: rest).dropWhile isSpace =
      word ++ ' ' :: rest := dropWhile_word hword hne _
  have htake : (word ++ ' ' :: rest).takeWhile (fun c => !isSpace c) =
      word := by
    apply takeWhile_append_stops
    · intro c hc
      rw [hword c hc]
      rfl
    · exact stops_cons rfl
  have htail : (' ' :: rest).dropWhile isSpace = rest := by
    have hblank : isSpace ' ' = true := by decide
    rw [List.dropWhile_cons, if_pos hblank]
    have hkept := dropWhile_word hrest hrestNe []
    rwa [List.append_nil] at hkept
  unfold splitOnce
  simp only [String.toList_ofList, hfront, htake, List.drop_left, htail]
  rw [if_neg, if_neg hrestNe]
  intro hnil
  exact hne (List.append_eq_nil_iff.mp hnil).left

theorem strip_of_no_space (hrest : forall c, c ∈ rest -> isSpace c = false) :
    strip (String.ofList rest) = String.ofList rest := by
  have hstops : forall xs : List Char,
      (forall c, c ∈ xs -> isSpace c = false) -> Stops isSpace xs := by
    intro xs hxs
    cases xs with
    | nil => exact stops_nil
    | cons c xs => exact stops_cons (hxs c List.mem_cons_self)
  rw [strip_eq_self_iff, String.toList_ofList]
  constructor
  · exact hstops rest hrest
  · apply hstops
    intro c hc
    exact hrest c (List.mem_reverse.mp hc)

end Words

section Numbers

variable {lib : UrlLibrary}

theorem digitValue_of_isDigit (hascii : lib.FollowsAscii) {c : Char}
    (hc : c.isDigit = true) :
    lib.digitValue c = some (c.toNat - '0'.toNat) := by
  have hlt : c.toNat < 128 := by
    simp only [Char.isDigit, Bool.and_eq_true, decide_eq_true_eq] at hc
    have hupper : c.toNat ≤ 57 := hc.right
    omega
  rw [hascii.digitValue c hlt, if_pos hc]

theorem decimalDigits_toDigits (hascii : lib.FollowsAscii) (n : Nat) :
    decimalDigits lib (String.ofList (Nat.toDigits 10 n)) =
      some ((Nat.toDigits 10 n).map fun c => c.toNat - '0'.toNat) := by
  have hvalue : forall c, c ∈ Nat.toDigits 10 n ->
      lib.digitValue c = some (c.toNat - '0'.toNat) := fun c hc =>
    digitValue_of_isDigit hascii (Decimal.isDigit_of_mem hc)
  have hall : (Nat.toDigits 10 n).all (fun c => (lib.digitValue c).isSome) =
      true := by
    rw [List.all_eq_true]
    intro c hc
    rw [hvalue c hc]
    rfl
  have hmap : (Nat.toDigits 10 n).filterMap lib.digitValue =
      (Nat.toDigits 10 n).map fun c => c.toNat - '0'.toNat := by
    rw [← List.filterMap_eq_map]
    exact List.filterMap_congr hvalue
  unfold decimalDigits
  simp only [String.toList_ofList]
  rw [if_pos ⟨Nat.toDigits_ne_nil, hall⟩, hmap]

theorem intOfDigits_toDigits {n : Nat} (hn : n < 2 ^ 63) :
    intOfDigits ((Nat.toDigits 10 n).map fun c => c.toNat - '0'.toNat) =
      .ok (n : Int) := by
  have hdigits : (Nat.toDigits 10 n).length ≤ 19 :=
    (Nat.length_toDigits_le_iff (by decide) (by decide)).mpr
      (Nat.lt_trans hn (by decide))
  have hlength : (Nat.toDigits 10 n).length ≤ 4300 :=
    Nat.le_trans hdigits (by decide)
  have hvalue := @Nat.ofDigitChars_ten_toDigits n
  rw [Nat.ofDigitChars_eq_foldl] at hvalue
  unfold intOfDigits
  rw [List.length_map, if_neg (Nat.not_lt.mpr hlength), List.foldl_map, hvalue]
  rfl

/-- The number after a command is read back. -/
theorem historyLetterId_number (hascii : lib.FollowsAscii) {command : String}
    (hword : forall c, c ∈ command.toList -> isSpace c = false)
    (hne : command ≠ "") {n : Nat} (hn : n < 2 ^ 63) :
    historyLetterId lib (some (command ++ " " ++ toString (n : Int))) =
      .ok (some (n : Int)) := by
  have hdigits : forall c, c ∈ Nat.toDigits 10 n -> isSpace c = false :=
    fun c hc => isSpace_of_isDigit (Decimal.isDigit_of_mem hc)
  have htext : command ++ " " ++ toString (n : Int) =
      String.ofList (command.toList ++ ' ' :: Nat.toDigits 10 n) := by
    apply String.toList_inj.mp
    simp only [String.toList_append, Decimal.toList_toString_natCast,
      String.toList_ofList, List.append_assoc]
    rfl
  have hcommand : command.toList ≠ [] := by
    intro hnil
    exact hne (String.toList_inj.mp hnil)
  have hargument : argument (command ++ " " ++ toString (n : Int)) =
      some (String.ofList (Nat.toDigits 10 n)) := by
    unfold argument
    rw [htext, splitOnce_words hword hcommand hdigits Nat.toDigits_ne_nil]
  unfold historyLetterId decimalArgument
  simp only
  rw [hargument, Option.bind_some, strip_of_no_space hdigits,
    decimalDigits_toDigits hascii]
  simp only
  rw [intOfDigits_toDigits hn]
  rfl

end Numbers

/-!
# The list and its letters
-/

section Letters

variable {env : Env} {lib : BotLibrary} {b : BotState}
  {userId : Int} {user : User} {since : Option Instant} {now : Instant}

def listedLetters (db : Db) (userId : Int) (since : Option Instant) :
    List (Int × CoverLetter) :=
  (accessibleLetters db userId since).take 20

theorem listHistory_listed (huser : b.store.db.users.get userId = some user)
    (hwindow : historyWindow now user.plan = some since) :
    (listHistory none userId now defaultHistoryLimit).transact b.store =
      (.ok ⟨listedLetters b.store.db userId since, since⟩, b.store) := by
  have hrow : callerRow none userId b.store.db = some user := huser
  exact listHistory_of_window hrow hwindow 20

/-- A letter that the user may see is found, and no other. -/
theorem getLetter_result (huser : b.store.db.users.get userId = some user)
    (hwindow : historyWindow now user.plan = some since) (letterId : Int) :
    (exists l, (letterId, l) ∈ accessibleLetters b.store.db userId since ∧
      ((getLetter none userId letterId now).transact b.store).1 = .ok l) ∨
    ((forall l, (letterId, l) ∉ accessibleLetters b.store.db userId since) ∧
      ((getLetter none userId letterId now).transact b.store).1 =
        .error (.other "CoverLetterNotFoundError" "")) := by
  have hrow : callerRow none userId b.store.db = some user := huser
  cases hres : ((getLetter none userId letterId now).transact b.store).1 with
  | ok l =>
      left
      exact ⟨l, (getLetter_eq_ok_iff hrow hwindow).mp hres, rfl⟩
  | error e =>
      right
      constructor
      · intro l hmem
        have hok := (getLetter_eq_ok_iff hrow hwindow).mpr hmem
        cases hres.symm.trans hok
      · rw [getLetter_of_window hrow hwindow] at hres
        cases hget : b.store.db.coverLetters.get letterId with
        | none =>
            rw [hget] at hres
            exact hres.symm
        | some l =>
            rw [hget, letterOf_eq] at hres
            split at hres
            · cases hres
            · exact hres.symm

theorem transact_of_denied {α : Type} {f : Option Instant -> Session α}
    (huser : b.store.db.users.get userId = some user)
    (hwindow : historyWindow now user.plan = none) :
    (((historyCutoff none userId now).bind f).transact b.store).1 =
      .error accessDenied := by
  have hrow : callerRow none userId b.store.db = some user := huser
  have hdenied : (historyCutoff none userId now).run b.store =
      ((historyWindow now user.plan).elim (.error accessDenied) Except.ok,
        b.store) := historyCutoff_run hrow
  rw [hwindow] at hdenied
  have hrun : ((historyCutoff none userId now).bind f).run b.store =
      (.error accessDenied, b.store) := by
    rw [run_bind, hdenied]
    rfl
  rw [transact_of_error hrun]

theorem said_ensureUser_bind_of_known {message : IncomingMessage} {t : Int}
    (env : Env) (hfrom : message.fromUser = some t)
    (hknown : userOf b.store.db t = some userId) :
    exists found, forall k : Option (Int × User) -> Bot Unit,
      (((ensureUser env message).bind k) noFaults b).said =
        (k (some (userId, found)) noFaults b).said := by
  rcases transact_of_known env hknown with ⟨found, hrun⟩
  exact ⟨found, fun k => said_ensureUser_bind hfrom hrun k⟩

/-- What `/history` says to this user, alone or before a number, when no call
fails.  The keys of the letters have 32 bits. -/
structure HistoryDialogue (lib : BotLibrary) (env : Env) (now : Instant)
    (t userId : Int) (window : Option (Option Instant)) (b : BotState) :
    Prop where
  list : forall since, window = some since -> forall message,
    message.fromUser = some t ->
    historyLetterId lib.url message.text = .ok none ->
    (handleHistoryCommand lib env now message noFaults b).said =
      [.message (formatHistoryList
        ⟨listedLetters b.store.db userId since, since⟩) none]
  letter : forall since, window = some since -> forall message,
    message.fromUser = some t -> forall (command : String) (n : Nat),
    message.text = some (command ++ " " ++ toString (n : Int)) ->
    (forall c, c ∈ command.toList -> isSpace c = false) -> command ≠ "" ->
    n < 2 ^ 31 ->
    (exists l, ((n : Int), l) ∈ accessibleLetters b.store.db userId since ∧
      (handleHistoryCommand lib env now message noFaults b).said =
        [.message (formatHistoryDetail l) none]) ∨
    ((forall l, ((n : Int), l) ∉ accessibleLetters b.store.db userId since) ∧
      (handleHistoryCommand lib env now message noFaults b).said =
        [.message historyLetterNotFoundText none])
  denied : window = none -> forall message, message.fromUser = some t ->
    (exists found, historyLetterId lib.url message.text = .ok found) ->
    (handleHistoryCommand lib env now message noFaults b).said =
      [.message historyPaywallText (some .mainMenu)]

/-- The list has the newest letters that the plan shows, and a number opens the
letter of the list that has it. -/
theorem history_numbers_open_letters (hascii : lib.url.FollowsAscii)
    {t : Int} (hknown : userOf b.store.db t = some userId)
    (huser : b.store.db.users.get userId = some user) (env : Env)
    (now : Instant) :
    HistoryDialogue lib env now t userId (historyWindow now user.plan) b := by
  constructor
  case list =>
    intro since hwindow message hfrom hlist
    rcases said_ensureUser_bind_of_known env hfrom hknown with ⟨found, hsaid⟩
    unfold handleHistoryCommand
    rw [Talk.bind_eq, hsaid]
    simp only [hlist, useCase, Talk.bind_eq]
    rw [Talk.said_call_bind]
    simp only [listHistory_listed huser hwindow]
    rfl
  case letter =>
    intro since hwindow message hfrom command n htext hword hne hn
    rcases said_ensureUser_bind_of_known env hfrom hknown with ⟨found, hsaid⟩
    have hnumber := historyLetterId_number hascii hword hne
      (Nat.lt_trans hn (by decide))
    rw [<- htext] at hnumber
    unfold handleHistoryCommand
    rw [Talk.bind_eq, hsaid]
    simp only [hnumber, useCase, Talk.bind_eq]
    rw [Talk.said_call_bind]
    rcases getLetter_result huser hwindow (n : Int) with
      ⟨l, hmem, hfound⟩ | ⟨hnone, hmissing⟩
    · left
      refine ⟨l, hmem, ?_⟩
      simp only [hfound]
      rfl
    · right
      refine ⟨hnone, ?_⟩
      simp only [hmissing]
      rfl
  case denied =>
    intro hwindow message hfrom hread
    rcases said_ensureUser_bind_of_known env hfrom hknown with ⟨found, hsaid⟩
    unfold handleHistoryCommand
    rw [Talk.bind_eq, hsaid]
    rcases hread with ⟨number, hnumber⟩
    cases number with
    | none =>
        have hdenied : ((listHistory none userId now
            defaultHistoryLimit).transact b.store).1 = .error accessDenied :=
          transact_of_denied huser hwindow
        simp only [hnumber, useCase, Talk.bind_eq]
        rw [Talk.said_call_bind]
        simp only [hdenied]
        rfl
    | some letterId =>
        have hdenied : ((getLetter none userId letterId now).transact
            b.store).1 = .error accessDenied :=
          transact_of_denied huser hwindow
        simp only [hnumber, useCase, Talk.bind_eq]
        rw [Talk.said_call_bind]
        simp only [hdenied]
        rfl

def letterBot : BotState where
  store := letterStore
  pendingTones := .empty

/-- The second letter of the reader, and the letter of somebody else. -/
theorem sample_numbers_open_letters :
    (exists l, l.userId = 1 ∧
      (handleHistoryCommand chatLibrary chatEnv 0 (textFrom 7 "/history 2")
        noFaults letterBot).said = [.message (formatHistoryDetail l) none]) ∧
    (handleHistoryCommand chatLibrary chatEnv 0 (textFrom 7 "/history 3")
      noFaults letterBot).said = [.message historyLetterNotFoundText none] := by
  have hascii : chatLibrary.url.FollowsAscii := asciiLibrary_followsAscii
  have hknown : userOf letterBot.store.db 7 = some 1 := rfl
  have huser : letterBot.store.db.users.get 1 = some standardReader := rfl
  have hdialogue := history_numbers_open_letters hascii hknown huser chatEnv 0
  have hword : forall c, c ∈ "/history".toList -> isSpace c = false := by
    have hnone : "/history".toList.any isSpace = false := rfl
    intro c hc
    simpa using List.any_eq_false.mp hnone c hc
  constructor
  · rcases hdialogue.letter _ rfl (textFrom 7 "/history 2") rfl "/history" 2 rfl
      hword (by decide) (by decide) with ⟨l, hmem, hsaid⟩ | ⟨hnone, _⟩
    · rw [mem_accessibleLetters] at hmem
      exact ⟨l, hmem.right.left, hsaid⟩
    · have hmem : ((2 : Int), letterAt 1 0) ∈ accessibleLetters
          letterBot.store.db 1 (some (0 - standardHistoryPeriod)) := by
        rw [mem_accessibleLetters]
        refine ⟨rfl, rfl, ?_⟩
        intro start hstart
        cases hstart
        decide
      exact absurd hmem (hnone _)
  · rcases hdialogue.letter _ rfl (textFrom 7 "/history 3") rfl "/history" 3 rfl
      hword (by decide) (by decide) with ⟨l, hmem, _⟩ | ⟨_, hsaid⟩
    · rw [mem_accessibleLetters] at hmem
      cases hmem.left
      cases hmem.right.left
    · exact hsaid

end Letters
end CoverAI
