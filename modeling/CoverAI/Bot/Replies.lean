import CoverAI.Bot.Updates

/-!
# Answers and failures of the bot

An update that a handler takes is answered, or an exception ends its handler.
An exception of the handler's own comes before it has said or done anything but
register the sender; otherwise a call that it awaited has failed.
-/

namespace CoverAI

open Txn Program Coop

/-- The same rows, jobs and pending links; keys may have been drawn. -/
structure SameData (b b' : BotState) : Prop where
  db : b'.store.db = b.store.db
  out : b'.store.out = b.store.out
  pendingTones : b'.pendingTones = b.pendingTones

/-- An answer is given exactly if one is owed, unless an exception escapes.  If
the handler has raised it, nothing was said, and the data are those of the
registered sender. -/
structure Replied (b₁ : BotState) (owed : Prop) (said : List Answer)
    (result : Except (Escape Exc) Unit) (b' : BotState) : Prop where
  answered : result = .ok () -> (said ≠ [] <-> owed)
  recovered : forall e, result = .error (.raised e) ->
    said = [] ∧ SameData b₁ b'

section Rules

variable {b₁ b b' : BotState} {owed : Prop}

theorem SameData.refl (b : BotState) : SameData b b :=
  ⟨rfl, rfl, rfl⟩

theorem SameData.trans {b₂ : BotState} (h : SameData b₁ b)
    (h' : SameData b b₂) : SameData b₁ b₂ :=
  ⟨h'.db.trans h.db, h'.out.trans h.out,
    h'.pendingTones.trans h.pendingTones⟩

theorem replied_aborted (said : List Answer) (e : Exc) :
    Replied b₁ owed said (.error (.aborted e)) b' := by
  constructor
  · intro hok
    cases hok
  · intro e' he
    cases he

theorem replied_ret (h : ¬ owed) :
    (Talk.ret () : Bot Unit).Ends (Replied b₁ owed) b' := by
  refine Talk.ends_ret ⟨?_, ?_⟩
  · intro _
    exact ⟨fun hne => absurd rfl hne, fun howed => absurd howed h⟩
  · intro e he
    cases he

theorem replied_of_answered {said : List Answer} (h : said ≠ [])
    (howed : owed) : Replied b₁ owed said (.ok ()) b' := by
  constructor
  · exact fun _ => ⟨fun _ => howed, fun _ => h⟩
  · intro e he
    cases he

theorem replied_say (h : owed) (a : Answer) :
    (Talk.say a : Bot Unit).Ends (Replied b₁ owed) b' :=
  Talk.ends_say (replied_of_answered (List.cons_ne_nil a []) h)
    fun e => replied_aborted [] e

theorem replied_say_bind {c : Bot Unit} (a : Answer)
    (hc : c.Ends (fun said => Replied b₁ owed (a :: said)) b') :
    ((Talk.say a).bind fun _ => c).Ends (Replied b₁ owed) b' :=
  Talk.ends_say_bind hc fun e => replied_aborted [] e

theorem replied_said (h : owed) (a : Answer) :
    (Talk.ret () : Bot Unit).Ends (fun said => Replied b₁ owed (a :: said))
      b' :=
  Talk.ends_ret (replied_of_answered (List.cons_ne_nil a []) h)

theorem replied_raise (h : SameData b₁ b') (e : Exc) :
    (Talk.raise e : Bot Unit).Ends (Replied b₁ owed) b' := by
  refine Talk.ends_raise ⟨?_, ?_⟩
  · intro hok
    cases hok
  · exact fun _ _ => ⟨rfl, h⟩

/-- A use case that fails has left the data. -/
theorem replied_useCase_bind {α : Type} {p : Session α}
    {g : Except Exc α -> Bot Unit} (hp : p.Silent) (h : SameData b₁ b')
    (hok : forall a b'', (g (.ok a)).Ends (Replied b₁ owed) b'')
    (herror : forall e b'', SameData b₁ b'' ->
      (g (.error e)).Ends (Replied b₁ owed) b'') :
    ((useCase p).bind g).Ends (Replied b₁ owed) b' := by
  refine Talk.ends_call_bind ?_ fun e => replied_aborted [] e
  cases hres : (p.transact b'.store).1 with
  | ok a => exact hok a _
  | error e =>
      apply herror
      exact h.trans ⟨transact_db_of_error hres, hp.transact_out b'.store, rfl⟩

theorem silent_of_leaves {α : Type} {R : α -> Prop} {p : Session α}
    (h : p.Within leavesResumes R) : p.Silent :=
  within_mono h (fun _ hv => hv) (fun _ _ => trivial) (fun _ _ => trivial)
    (fun _ he => he) (fun _ _ => trivial) fun _ _ => trivial

end Rules

/-!
# Handlers of a registered sender
-/

section Registered

variable {env : Env} {lib : BotLibrary} {message : IncomingMessage}
  {b₁ b' : BotState} {t userId : Int} {owed : Prop}

/-- A sender who is known is found again. -/
theorem transact_of_known {b : BotState} (env : Env)
    (huser : userOf b.store.db t = some userId) :
    exists user, (getOrCreateTelegramUser env.predictionCostCredits t).transact
      b.store = (.ok (userId, user), b.store) := by
  rcases Option.map_eq_some_iff.mp huser with ⟨⟨id, user⟩, hfirst, hid⟩
  cases hid
  refine ⟨user, ?_⟩
  apply transact_of_ok
  simp only [getOrCreateTelegramUser, userByTelegramId, select, ask,
    bind_eq, read_bind, ret_bind, run, hfirst]
  rfl

theorem ensureUser_bind_of_run {b : BotState} {entry : Int × User}
    {s : Store coverAI} (hfrom : message.fromUser = some t)
    (hrun : (getOrCreateTelegramUser env.predictionCostCredits t).transact
      b.store = (.ok entry, s))
    {Q : List Answer -> Except (Escape Exc) Unit -> BotState -> Prop}
    {k : Option (Int × User) -> Bot Unit}
    (hk : (k (some entry)).Ends Q { b with store := s })
    (habort : forall e, Q [] (.error (.aborted e)) b) :
    ((ensureUser env message).bind k).Ends Q b := by
  simp only [ensureUser, hfrom, Talk.bind_eq, Talk.bind_assoc]
  refine useCase_bind_ends hrun ?_ habort
  simp only [Talk.pure_eq, Talk.ret_bind]
  exact hk

/-- The sender is known in the first state, and the handler goes on from its
data. -/
structure Ready (env : Env) (message : IncomingMessage) (b₁ b' : BotState) :
    Prop where
  sender : exists t userId, message.fromUser = some t ∧
    userOf b₁.store.db t = some userId
  goesOn : exists entry b'', SameData b₁ b'' ∧
    forall (Q : List Answer -> Except (Escape Exc) Unit -> BotState -> Prop)
      (k : Option (Int × User) -> Bot Unit),
      (k (some entry)).Ends Q b'' ->
      (forall e, Q [] (.error (.aborted e)) b') ->
      ((ensureUser env message).bind k).Ends Q b'

theorem ready_of_known (hfrom : message.fromUser = some t)
    (h : SameData b₁ b') (huser : userOf b₁.store.db t = some userId) :
    Ready env message b₁ b' := by
  constructor
  · exact ⟨t, userId, hfrom, huser⟩
  · rw [<- h.db] at huser
    rcases transact_of_known env huser with ⟨user, hrun⟩
    exact ⟨(userId, user), b', h, fun _ _ => ensureUser_bind_of_run hfrom hrun⟩

theorem Ready.again {b'' : BotState} (h : Ready env message b₁ b')
    (h' : SameData b₁ b'') : Ready env message b₁ b'' := by
  rcases h.sender with ⟨t, userId, hfrom, huser⟩
  exact ready_of_known hfrom h' huser

theorem ready_of_registers {b : BotState} (hkept : Kept b.store)
    (hcredits : 0 < env.predictionCostCredits)
    (hfrom : message.fromUser = some t) :
    exists s userId, Registers b.store s t userId ∧
      Ready env message { b with store := s } b := by
  rcases getOrCreateTelegramUser_registers hkept hcredits t with
    ⟨entry, s, hrun, hs⟩
  refine ⟨s, entry.1, hs, ⟨t, entry.1, hfrom, hs.user⟩, ?_⟩
  exact ⟨entry, { b with store := s }, SameData.refl _,
    fun _ _ => ensureUser_bind_of_run hfrom hrun⟩

theorem replied_ensureUser_bind {k : Option (Int × User) -> Bot Unit}
    (h : Ready env message b₁ b')
    (hk : forall userId user b'', SameData b₁ b'' ->
      (k (some (userId, user))).Ends (Replied b₁ owed) b'') :
    ((ensureUser env message).bind k).Ends (Replied b₁ owed) b' := by
  rcases h.goesOn with ⟨entry, b'', h, hrun⟩
  exact hrun _ k (hk entry.1 entry.2 b'' h) fun e => replied_aborted [] e

theorem replied_handleStart (h : Ready env message b₁ b') :
    (handleStart env message).Ends (Replied b₁ True) b' :=
  replied_ensureUser_bind h fun _ _ _ _ => replied_say trivial _

theorem replied_handleProfileCommand (h : Ready env message b₁ b') :
    (handleProfileCommand env message).Ends (Replied b₁ True) b' := by
  apply replied_ensureUser_bind h
  intro userId user b'' h
  apply replied_useCase_bind (silent_of_leaves (getProfile_leaves _)) h
  · exact fun profile b'' => replied_say trivial _
  · intro e b'' h''
    split
    · exact replied_say trivial _
    · exact replied_raise h'' _
    · exact replied_say trivial _

theorem replied_handlePlanCommand (h : Ready env message b₁ b') :
    (handlePlanCommand env message).Ends (Replied b₁ True) b' := by
  apply replied_ensureUser_bind h
  intro userId user b'' h
  apply replied_useCase_bind (silent_of_leaves (getCreditBalance_leaves _)) h
  · exact fun credits b'' => replied_say trivial _
  · exact fun e b'' h'' => replied_raise h'' e

theorem replied_handleRedeemCommand (h : Ready env message b₁ b') :
    (handleRedeemCommand env message).Ends
      (Replied b₁ (message.text ≠ none)) b' := by
  apply replied_ensureUser_bind h
  intro userId user b'' h
  cases message.text with
  | none => exact replied_ret fun hne => hne rfl
  | some text =>
      have howed : some text ≠ none := Option.some_ne_none text
      simp only
      split
      · exact replied_say howed _
      · apply replied_useCase_bind
          (silent_of_leaves (redeemPromoCode_leaves _ _ _)) h
        · exact fun result b'' => replied_say howed _
        · exact fun e b'' h'' => replied_raise h'' e

theorem replied_handleTopupCommand (h : Ready env message b₁ b') :
    (handleTopupCommand lib env message).Ends
      (Replied b₁ (message.text ≠ none)) b' := by
  apply replied_ensureUser_bind h
  intro userId user b'' h
  cases message.text with
  | none => exact replied_ret fun hne => hne rfl
  | some text =>
      have howed : some text ≠ none := Option.some_ne_none text
      simp only
      split
      · exact replied_raise h _
      · exact replied_say howed _
      · apply replied_useCase_bind
          (silent_of_leaves (createMockTopUp_leaves _ _ _)) h
        · exact fun result b'' => replied_say howed _
        · exact fun e b'' h'' => replied_raise h'' e

theorem replied_historyError (h : SameData b₁ b') (e : Exc) :
    (historyError e).Ends (Replied b₁ True) b' := by
  unfold historyError
  split
  · exact replied_say trivial _
  · split
    · exact replied_say trivial _
    · exact replied_raise h e

theorem replied_handleHistoryCommand (h : Ready env message b₁ b')
    (now : Instant) : (handleHistoryCommand lib env now message).Ends
      (Replied b₁ True) b' := by
  apply replied_ensureUser_bind h
  intro userId user b'' h
  simp only
  split
  · exact replied_raise h _
  · apply replied_useCase_bind (silent_of_leaves (getLetter_leaves _ _ _)) h
    · exact fun letter b'' => replied_say trivial _
    · exact fun e b'' h'' => replied_historyError h'' e
  · apply replied_useCase_bind (silent_of_leaves (listHistory_leaves _ _ _)) h
    · exact fun history b'' => replied_say trivial _
    · exact fun e b'' h'' => replied_historyError h'' e

theorem replied_resumeReply_error (h : SameData b₁ b') (e : Exc) :
    (resumeReply (.error e)).Ends (Replied b₁ True) b' := by
  unfold resumeReply
  simp only
  split
  · exact replied_say trivial _
  · exact replied_raise h e

theorem createResumeProfile_silent (profile : ResumeProfile) :
    (createResumeProfile profile).Silent := by
  apply within_draw_bind trivial
  intro id
  apply within_flushOne_bind trivial (fun _ _ _ => trivial)
  trivial

theorem updateProfileText_silent (profileId : Int) (resumeText : String) :
    (updateProfileText profileId resumeText).Silent := by
  apply within_ask_bind
  intro v _
  split
  · trivial
  · apply within_flushOne_bind trivial (fun _ _ _ => trivial)
    trivial

theorem createProfile_silent (userId : Int) (title text : String) :
    (createProfile userId title text).Silent := by
  apply within_ask_bind
  intro v _
  split
  · trivial
  · cases normalizeProfileTitle title with
    | error e => trivial
    | ok normalizedTitle =>
        cases normalizeResumeText text with
        | error e => trivial
        | ok normalizedText =>
            simp only [ofExcept, bind_eq, ret_bind]
            exact within_bind (createResumeProfile_silent _)
              fun _ (_ : True) => trivial

theorem updateProfile_silent (userId : Int) (text : String) :
    (updateProfile userId text).Silent := by
  apply within_ask_bind
  intro v _
  split
  · trivial
  · cases normalizeResumeText text with
    | error e => trivial
    | ok normalizedText =>
        simp only [ofExcept, bind_eq, ret_bind]
        apply within_bind (updateProfileText_silent _ _)
        intro updated _
        cases updated with
        | none => trivial
        | some profile => trivial

theorem createOrUpdateProfile_silent (userId : Int) (title text : String) :
    (createOrUpdateProfile userId title text).Silent := by
  apply within_tryCatch (G := fun _ => True)
  · exact createProfile_silent userId title text
  · intro e _
    split
    · exact updateProfile_silent userId text
    · trivial

theorem replied_save (h : SameData b₁ b') (userId : Int)
    (title text : String) :
    ((useCase (createOrUpdateProfile userId title text)).bind
      resumeReply).Ends (Replied b₁ True) b' := by
  apply replied_useCase_bind (createOrUpdateProfile_silent userId title text) h
  · exact fun result b'' => replied_say trivial _
  · exact fun e b'' h'' => replied_resumeReply_error h'' e

theorem replied_handleDocument (hdocument : message.document ≠ none)
    (h : Ready env message b₁ b') :
    (handleDocument lib env message).Ends (Replied b₁ True) b' := by
  apply replied_ensureUser_bind h
  intro userId user b'' h
  cases hdoc : message.document with
  | none => exact absurd hdoc hdocument
  | some document =>
      simp only
      split
      · split
        · exact replied_say trivial _
        · exact replied_resumeReply_error h _
      · exact replied_save h userId _ _

theorem replied_handleMainMenuText (h : Ready env message b₁ b')
    {now : Instant} {text : String} {reply : Bot Unit}
    (hmenu : handleMainMenuText lib env now message text = some reply) :
    reply.Ends (Replied b₁ True) b' := by
  unfold handleMainMenuText at hmenu
  split at hmenu
  · cases hmenu
    exact replied_handleProfileCommand h
  · split at hmenu
    · cases hmenu
      exact replied_handlePlanCommand h
    · split at hmenu
      · cases hmenu
        exact replied_handleHistoryCommand h now
      · split at hmenu
        · cases hmenu
          exact replied_say trivial _
        · split at hmenu
          · cases hmenu
            exact replied_say trivial _
          · cases hmenu

theorem replied_vacancyUrl (h : SameData b₁ b') (userId : Int) (user : User)
    (text : String) (now : Instant) :
    ((handleVacancyUrl userId user text).talk env now).Ends
      (Replied b₁ True) b' := by
  have habort : forall e, Replied b₁ True [] (.error (.aborted e)) b' :=
    replied_aborted []
  unfold handleVacancyUrl
  simp only [Handler.talk]
  rcases transact_getProfile userId b'.store with
    hmissing | ⟨id, profile, _, _, hfound⟩
  · exact useCase_bind_ends hmissing
      (replied_say_bind _ (replied_said trivial _)) habort
  · refine useCase_bind_ends hfound ?_ habort
    simp only
    split
    · exact Talk.ends_update_bind (replied_say_bind _ (replied_said trivial _))
    · simp only [Handler.talk]
      rcases transact_botEnqueueGeneration env userId text .formal now
        b'.store with ⟨_, e, hrefused⟩ | ⟨_, hqueued⟩
      · refine useCase_bind_ends hrefused ?_ habort
        simp only
        split
        · exact replied_say_bind _ (replied_said trivial _)
        · exact replied_say_bind _ (replied_said trivial _)
        · exact replied_raise h _
        · rename_i heq
          cases heq
      · exact useCase_bind_ends hqueued
          (replied_say_bind _ (replied_said trivial _)) habort

theorem replied_handleTextMessage (htext : message.text ≠ none)
    (h : Ready env message b₁ b') (now : Instant) :
    (handleTextMessage lib env now message).Ends (Replied b₁ True) b' := by
  have hready := h
  apply replied_ensureUser_bind h
  intro userId user b'' h
  cases hmessage : message.text with
  | none => exact absurd hmessage htext
  | some text =>
      simp only
      cases hmenu : handleMainMenuText lib env now message text with
      | some reply =>
          exact replied_handleMainMenuText (hready.again h) hmenu
      | none =>
          simp only
          split
          · exact replied_say trivial _
          · exact replied_save h userId _ _
          · exact replied_raise h _
          · exact replied_vacancyUrl h userId user text now

/-- Queueing is refused for lack of credits or for the quota. -/
theorem botEnqueueGeneration_raises {vacancyUrl : String} {tone : Tone}
    {now : Instant} {s : Store coverAI} {e : Exc}
    (h : ((botEnqueueGeneration env userId vacancyUrl tone now).transact s).1 =
      .error e) : e = .insufficientCredits ∨ e = .quotaExceeded := by
  let refusals : Footprint coverAI := {
    sees := fun _ => True
    writes := fun _ => True
    draws := fun _ => True
    emits := fun _ => True
    raises := fun e => e = .insufficientCredits ∨ e = .quotaExceeded }
  have hwithin : (botEnqueueGeneration env userId vacancyUrl tone now).Within
      refusals fun _ => True := by
    apply within_ask_bind
    intro v _
    split
    · exact Or.inl rfl
    · split
      · exact Or.inl rfl
      · apply within_ask_bind
        intro v' _
        split
        · exact Or.inr rfl
        · exact ⟨trivial, trivial⟩
  exact (transact_of_within hwithin (fun _ => trivial) s).right e h

theorem replied_toneCallback {b : BotState} (h : Kept b.store)
    (hcredits : 0 < env.predictionCostCredits) (callback : IncomingCallback)
    (now : Instant) :
    exists s userId, Registers b.store s callback.fromUser userId ∧
      ((handleToneCallback callback).talk env now).Ends
        (Replied { b with store := s } True) b := by
  rcases getOrCreateTelegramUser_registers h hcredits callback.fromUser with
    ⟨⟨userId, user⟩, s, hrun, hs⟩
  refine ⟨s, userId, hs, ?_⟩
  unfold handleToneCallback
  simp only [Handler.talk]
  refine useCase_bind_ends hrun ?_ (replied_aborted [])
  simp only
  refine Talk.ends_update_bind ?_
  simp only
  cases b.pendingTones.vacancyUrls userId with
  | none => exact replied_say_bind _ (replied_said trivial _)
  | some vacancyUrl =>
      simp only [Handler.talk]
      rcases transact_botEnqueueGeneration env userId vacancyUrl
        (toneFromCallback callback.data) now s with
        ⟨_, e, hrefused⟩ | ⟨_, hqueued⟩
      · have hraised := botEnqueueGeneration_raises (congrArg Prod.fst hrefused)
        refine useCase_bind_ends hrefused ?_ (replied_aborted [])
        rcases hraised with rfl | rfl
        · exact replied_say_bind _ (replied_said trivial _)
        · exact replied_say_bind _ (replied_said trivial _)
      · refine useCase_bind_ends hqueued ?_ (replied_aborted [])
        apply replied_say_bind
        split
        · refine Talk.ends_say_bind (Talk.ends_ret ?_) (replied_aborted _)
          exact replied_of_answered (List.cons_ne_nil _ _) trivial
        · exact replied_said trivial _

end Registered

/-!
# Updates without a sender
-/

section Anonymous

variable {env : Env} {lib : BotLibrary} {message : IncomingMessage}
  {b : BotState} {now : Instant}

/-- Somebody without an id is told so, and the handler raises nothing. -/
def Anonymous (c : Bot Unit) : Prop :=
  forall b, c.Ends (fun said result _ => (result = .ok () -> said ≠ []) ∧
    forall e, result ≠ .error (.raised e)) b

theorem anonymous_say (a : Answer) : Anonymous (Talk.say a) := by
  intro b
  refine Talk.ends_say ⟨?_, ?_⟩ ?_
  · exact fun _ => List.cons_ne_nil _ _
  · exact fun e he => nomatch he
  · exact fun e => ⟨(fun hok => nomatch hok), (fun e he => nomatch he)⟩

/-- What comes after the answer may be another one. -/
theorem anonymous_ensureUser_bind {k : Option (Int × User) -> Bot Unit}
    (hfrom : message.fromUser = none)
    (hk : k none = Talk.ret () ∨ exists a, k none = Talk.say a) :
    Anonymous ((ensureUser env message).bind k) := by
  intro b
  rw [ensureUser_bind_of_none hfrom]
  refine Talk.ends_say_bind ?_ ?_
  · rcases hk with hret | ⟨a, hsay⟩
    · rw [hret]
      refine Talk.ends_ret ⟨?_, ?_⟩
      · exact fun _ => List.cons_ne_nil _ _
      · exact fun e he => nomatch he
    · rw [hsay]
      refine Talk.ends_say ⟨?_, ?_⟩ ?_
      · exact fun _ => List.cons_ne_nil _ _
      · exact fun e he => nomatch he
      · exact fun e => ⟨(fun hok => nomatch hok), (fun e he => nomatch he)⟩
  · exact fun e => ⟨(fun hok => nomatch hok), (fun e he => nomatch he)⟩

theorem anonymous_commandHandlers (hfrom : message.fromUser = none)
    {entry : String × (IncomingMessage -> Bot Unit)}
    (h : entry ∈ commandHandlers lib env now) :
    Anonymous (entry.2 message) := by
  simp only [commandHandlers, List.mem_cons, List.not_mem_nil, or_false] at h
  rcases h with rfl | rfl | rfl | rfl | rfl | rfl | rfl | rfl | rfl
  · exact anonymous_ensureUser_bind hfrom (Or.inr ⟨_, rfl⟩)
  · exact anonymous_ensureUser_bind hfrom (Or.inl rfl)
  · exact anonymous_ensureUser_bind hfrom (Or.inl rfl)
  · exact anonymous_ensureUser_bind hfrom (Or.inl rfl)
  · exact anonymous_ensureUser_bind hfrom (Or.inl rfl)
  · exact anonymous_ensureUser_bind hfrom (Or.inl rfl)
  · exact anonymous_say _
  · exact anonymous_ensureUser_bind hfrom (Or.inl rfl)
  · exact anonymous_say _

end Anonymous

/-!
# The router
-/

/-- A command that needs a text may come as the caption of a picture. -/
def answerOwed (lib : BotLibrary) : Update -> Prop
  | .callback c =>
      (c.data.any fun data => "tone:".toList.isPrefixOf data.toList) = true
  | .message m =>
      match commands.find? fun command => lib.isCommand command m with
      | some command =>
          command = "redeem" ∨ command = "topup" ->
            m.text ≠ none ∨ m.fromUser = none
      | none => m.document.isSome = true ∨ hasText m = true

section Router

variable {env : Env} {lib : BotLibrary} {message : IncomingMessage}
  {b b₁ : BotState} {now : Instant} {owed owed' : Prop}

theorem replied_congr {c : Bot Unit} (h : c.Ends (Replied b₁ owed) b)
    (howed : owed <-> owed') : c.Ends (Replied b₁ owed') b :=
  Talk.ends_mono h fun _ _ _ hreplied =>
    ⟨fun hok => (hreplied.answered hok).trans howed, hreplied.recovered⟩

theorem replied_commandHandlers (h : Ready env message b₁ b)
    {entry : String × (IncomingMessage -> Bot Unit)}
    (hmem : entry ∈ commandHandlers lib env now) :
    (entry.2 message).Ends (Replied b₁
      (entry.1 = "redeem" ∨ entry.1 = "topup" ->
        message.text ≠ none ∨ message.fromUser = none)) b := by
  rcases h.sender with ⟨t, userId, hfrom, _⟩
  simp only [commandHandlers, List.mem_cons, List.not_mem_nil, or_false] at hmem
  rcases hmem with rfl | rfl | rfl | rfl | rfl | rfl | rfl | rfl | rfl
  · exact replied_congr (replied_handleStart h) (by simp)
  · exact replied_congr (replied_handleProfileCommand h) (by simp)
  · exact replied_congr (replied_handlePlanCommand h) (by simp)
  · exact replied_congr (replied_handlePlanCommand h) (by simp)
  · exact replied_congr (replied_handleRedeemCommand h) (by simp [hfrom])
  · exact replied_congr (replied_handleTopupCommand h) (by simp [hfrom])
  · exact replied_congr (replied_say trivial _) (by simp)
  · exact replied_congr (replied_handleHistoryCommand h now) (by simp)
  · exact replied_congr (replied_say trivial _) (by simp)

theorem find?_commands (env : Env) (now : Instant) :
    (commands.find? fun command => lib.isCommand command message) =
      ((commandHandlers lib env now).find? fun entry =>
        lib.isCommand entry.1 message).map Prod.fst :=
  List.find?_map (f := Prod.fst) (l := commandHandlers lib env now)
    (p := fun command => lib.isCommand command message)

theorem text_of_hasText (h : hasText message = true) : message.text ≠ none := by
  intro hnone
  rw [hasText, hnone] at h
  cases h

theorem answerOwed_of_command {entry : String × (IncomingMessage -> Bot Unit)}
    (hfind : ((commandHandlers lib env now).find? fun entry =>
      lib.isCommand entry.1 message) = some entry) :
    answerOwed lib (.message message) <->
      (entry.1 = "redeem" ∨ entry.1 = "topup" ->
        message.text ≠ none ∨ message.fromUser = none) := by
  rw [answerOwed, find?_commands env now, hfind]
  rfl

theorem answerOwed_of_other
    (hfind : ((commandHandlers lib env now).find? fun entry =>
      lib.isCommand entry.1 message) = none) :
    answerOwed lib (.message message) <->
      message.document.isSome = true ∨ hasText message = true := by
  rw [answerOwed, find?_commands env now, hfind]
  rfl

theorem replied_routeMessage (lib : BotLibrary) (now : Instant)
    (h : Ready env message b₁ b) :
    (routeMessage lib env now message).Ends
      (Replied b₁ (answerOwed lib (.message message))) b := by
  unfold routeMessage
  cases hfind : (commandHandlers lib env now).find? fun entry =>
    lib.isCommand entry.1 message with
  | some entry =>
      have hmem := List.mem_of_find?_eq_some hfind
      exact replied_congr (replied_commandHandlers h hmem)
        (answerOwed_of_command hfind).symm
  | none =>
      have howed := answerOwed_of_other hfind
      simp only
      split
      · rename_i hdocument
        have hsome : message.document ≠ none := by
          rwa [Option.isSome_iff_ne_none] at hdocument
        exact replied_congr (replied_handleDocument hsome h)
          ⟨fun _ => howed.mpr (Or.inl hdocument), fun _ => trivial⟩
      · split
        · rename_i htext
          exact replied_congr
            (replied_handleTextMessage (text_of_hasText htext) h now)
            ⟨fun _ => howed.mpr (Or.inr htext), fun _ => trivial⟩
        · rename_i hdocument htext
          apply replied_ret
          intro hor
          exact (howed.mp hor).elim hdocument htext

theorem anonymous_routeMessage (lib : BotLibrary) (env : Env) (now : Instant)
    (hfrom : message.fromUser = none) (b : BotState) :
    (routeMessage lib env now message).Ends (fun said result _ =>
      (result = .ok () -> (said ≠ [] <-> answerOwed lib (.message message))) ∧
        forall e, result ≠ .error (.raised e)) b := by
  have howes : forall {c : Bot Unit}, Anonymous c ->
      answerOwed lib (.message message) ->
      c.Ends (fun said result _ =>
        (result = .ok () ->
          (said ≠ [] <-> answerOwed lib (.message message))) ∧
        forall e, result ≠ .error (.raised e)) b := by
    intro c hc howed
    refine Talk.ends_mono (hc b) ?_
    intro said result _ hends
    exact ⟨fun hok => ⟨fun _ => howed, fun _ => hends.left hok⟩, hends.right⟩
  unfold routeMessage
  cases hfind : (commandHandlers lib env now).find? fun entry =>
    lib.isCommand entry.1 message with
  | some entry =>
      have hmem := List.mem_of_find?_eq_some hfind
      exact howes (anonymous_commandHandlers hfrom hmem)
        ((answerOwed_of_command hfind).mpr fun _ => Or.inr hfrom)
  | none =>
      have howed := answerOwed_of_other hfind
      simp only
      split
      · rename_i hdocument
        exact howes (anonymous_ensureUser_bind hfrom (Or.inl rfl))
          (howed.mpr (Or.inl hdocument))
      · split
        · rename_i htext
          exact howes (anonymous_ensureUser_bind hfrom (Or.inl rfl))
            (howed.mpr (Or.inr htext))
        · rename_i hdocument htext
          refine Talk.ends_ret ⟨?_, (fun e he => nomatch he)⟩
          intro _
          refine ⟨fun hne => absurd rfl hne, ?_⟩
          intro hor
          exact ((howed.mp hor).elim hdocument htext).elim

/-- An update whose handler returns is answered exactly if an answer is owed.  A
handler that raises an exception has said nothing, and has done nothing but
register the sender. -/
theorem updates_are_answered (hcredits : 0 < env.predictionCostCredits)
    (lib : BotLibrary) (hkept : Kept b.store) (now : Instant)
    (update : Update) (faults : Faults Exc) :
    let o := dispatch lib env now update faults b
    (o.result = .ok () -> (o.said ≠ [] <-> answerOwed lib update)) ∧
      forall e, o.result = .error (.raised e) -> o.said = [] ∧
        exists t s userId, update.sender = some t ∧
          Registers b.store s t userId ∧
          SameData { b with store := s } o.state := by
  cases update with
  | message message =>
      cases hfrom : message.fromUser with
      | none =>
          have hanswered := anonymous_routeMessage lib env now hfrom b faults
          constructor
          · exact hanswered.left
          · intro e he
            exact absurd he (hanswered.right e)
      | some t =>
          rcases ready_of_registers hkept hcredits hfrom with
            ⟨s, userId, hs, hready⟩
          have hreplied := replied_routeMessage lib now hready faults
          constructor
          · exact hreplied.answered
          · intro e he
            have hrecovered := hreplied.recovered e he
            exact ⟨hrecovered.left, t, s, userId, hfrom, hs, hrecovered.right⟩
  | callback callback =>
      simp only [dispatch, answerOwed]
      split
      · rename_i htone
        rcases replied_toneCallback hkept hcredits callback now with
          ⟨s, userId, hs, hends⟩
        have hreplied := hends faults
        constructor
        · intro hok
          exact (hreplied.answered hok).trans ⟨fun _ => htone, fun _ => trivial⟩
        · intro e he
          have hrecovered := hreplied.recovered e he
          exact ⟨hrecovered.left, callback.fromUser, s, userId, rfl, hs,
            hrecovered.right⟩
      · rename_i htone
        constructor
        · intro _
          exact ⟨fun hne => absurd rfl hne, fun howed => absurd howed htone⟩
        · intro e he
          cases he

/-- A file that cannot be downloaded. -/
def fileSent : IncomingMessage where
  fromUser := some 7
  text := none
  caption := none
  document := some { fileId := "file", fileName := some "resume.pdf" }

/-- The balance is shown; for the file nothing is said, but its sender is
registered. -/
theorem sample_failure_recovers :
    (dispatch chatLibrary chatEnv 0 (.message (textFrom 7 "/balance")) noFaults
      freshBot).said ≠ [] ∧
    (dispatch chatLibrary chatEnv 0 (.message fileSent) noFaults
      freshBot).said = [] ∧
    exists userId, userOf (dispatch chatLibrary chatEnv 0 (.message fileSent)
      noFaults freshBot).state.store.db 7 = some userId := by
  have hfailed : (dispatch chatLibrary chatEnv 0 (.message fileSent) noFaults
      freshBot).result =
        .error (.raised (.other "TelegramBadRequest" "")) := rfl
  have hreturns : (dispatch chatLibrary chatEnv 0
      (.message (textFrom 7 "/balance")) noFaults freshBot).result =
        .ok () := rfl
  have hcredits : 0 < chatEnv.predictionCostCredits := by
    decide
  have howed : answerOwed chatLibrary (.message (textFrom 7 "/balance")) := by
    intro _
    exact Or.inl (Option.some_ne_none _)
  have hanswered := (updates_are_answered hcredits chatLibrary (b := freshBot)
    kept_emptyStore 0 (.message (textFrom 7 "/balance")) noFaults).left hreturns
  rcases (updates_are_answered hcredits chatLibrary (b := freshBot)
    kept_emptyStore 0 (.message fileSent) noFaults).right _ hfailed with
    ⟨hsaid, t, s, userId, ht, hs, hdata⟩
  cases ht
  refine ⟨hanswered.mpr howed, hsaid, userId, ?_⟩
  rw [hdata.db]
  exact hs.user

end Router
end CoverAI
