import CoverAI.Bot.HandlerEffects
import CoverAI.Vacancy.UrlOutcomes

/-!
# Runs of the bot

The router decides which messages offer a resume.  Whatever updates come, one
after the other, everyone has the resume that these offers give, and a job is
queued for each letter that was promised.  A call that fails ends the handler of
its update: an offer may be lost then, and a job may go without its promise.
-/

namespace CoverAI

open Txn Program Coop

/-!
# Offers
-/

def documentOffer (lib : BotLibrary) (message : IncomingMessage) :
    Option ResumeOffer :=
  match message.fromUser, message.document with
  | some sender, some document =>
      match resumeFileText lib.files document (documentName document) with
      | .ok text =>
          some {
            sender := sender
            title := resumeTitleFromFilename (documentName document)
            text := text }
      | .error _ => none
  | _, _ => none

/-- The names of the buttons, with the ones that older keyboards show. -/
def menuTexts : List String :=
  [mainMenuProfile, "Профиль", mainMenuPlan, "Тариф и лимиты", "Мой лимит",
    "Баланс", mainMenuHistory, "История писем", mainMenuSubscribe, "Тарифы",
    mainMenuHelp, "Помощь"]

/-- A text that is not the name of a button and has no link in it. -/
def textOffer (env : Env) (message : IncomingMessage) : Option ResumeOffer :=
  match message.fromUser, message.text with
  | some sender, some text =>
      if text ∈ menuTexts then none
      else
        match env.parseHhVacancyId text with
        | .error .invalidVacancyUrl =>
            some { sender := sender, title := "Resume", text := text }
        | _ => none
  | _, _ => none

def commands : List String :=
  ["start", "profile", "plan", "balance", "redeem", "topup", "subscribe",
    "history", "help"]

def messageOffer (lib : BotLibrary) (env : Env) (message : IncomingMessage) :
    Option ResumeOffer :=
  if commands.any fun command => lib.isCommand command message then none
  else if message.document.isSome then documentOffer lib message
  else if hasText message then textOffer env message
  else none

def resumeOffer (lib : BotLibrary) (env : Env) : Update -> Option ResumeOffer
  | .message message => messageOffer lib env message
  | .callback _ => none

def Update.sender : Update -> Option Int
  | .message m => m.fromUser
  | .callback c => some c.fromUser

/-!
# One update
-/

section Step

variable {env : Env} {lib : BotLibrary} {message : IncomingMessage}
  {b : BotState} {now : Instant}

/-- A text has a button of its own exactly if it is one of the names. -/
theorem handleMainMenuText_eq_none_iff {text : String} :
    handleMainMenuText lib env now message text = none <->
      text ∉ menuTexts := by
  simp only [handleMainMenuText, menuTexts, List.mem_cons, List.not_mem_nil,
    or_false]
  grind

theorem affects_missing (h : Kept b.store) (hfrom : message.fromUser = none)
    {k : Option (Int × User) -> Bot Unit} (hk : Quiet (k none)) :
    ((ensureUser env message).bind k).Ends (Affects b.store none none) b := by
  rw [ensureUser_bind_of_none hfrom]
  have hquiet : Quiet ((answer telegramUserMissingText).bind fun _ => k none) :=
    quiet_bind (quiet_answer (other_text (by decide +kernel))) fun _ => hk
  exact hquiet.affects (Follows.refl h) none

theorem affects_document (h : Kept b.store)
    (hcredits : 0 < env.predictionCostCredits) :
    (handleDocument lib env message).Ends
      (Affects b.store message.fromUser (documentOffer lib message)) b := by
  unfold handleDocument
  cases hfrom : message.fromUser with
  | none =>
      have hoffer : documentOffer lib message = none := by
        rw [documentOffer, hfrom]
      rw [hoffer]
      exact affects_missing h hfrom (quiet_ret ())
  | some t =>
      refine affects_ensureUser_bind h hcredits hfrom ?_
      intro entry s hs
      rcases entry with ⟨userId, user⟩
      rw [documentOffer, hfrom]
      cases message.document with
      | none => exact (quiet_ret ()).affects hs.follows _
      | some document =>
          simp only
          cases resumeFileText lib.files document (documentName document) with
          | error e =>
              simp only
              split
              · exact (quiet_answer (other_text (by decide +kernel))).affects
                  hs.follows _
              · exact (quiet_resumeReply _).affects hs.follows _
          | ok text =>
              exact affects_save (b := { b with store := s }) hs.follows hs.user
                (resumeTitleFromFilename (documentName document)) text

theorem affects_textMessage (h : Kept b.store)
    (hcredits : 0 < env.predictionCostCredits) :
    (handleTextMessage lib env now message).Ends
      (Affects b.store message.fromUser (textOffer env message)) b := by
  unfold handleTextMessage
  cases hfrom : message.fromUser with
  | none =>
      have hoffer : textOffer env message = none := by
        rw [textOffer, hfrom]
      rw [hoffer]
      exact affects_missing h hfrom (quiet_ret ())
  | some t =>
      refine affects_ensureUser_bind h hcredits hfrom ?_
      intro entry s hs
      rcases entry with ⟨userId, user⟩
      rw [textOffer, hfrom]
      cases message.text with
      | none => exact (quiet_ret ()).affects hs.follows _
      | some text =>
          simp only
          cases hmenu : handleMainMenuText lib env now message text with
          | some reply =>
              have hname : text ∈ menuTexts := by
                by_contra hother
                rw [handleMainMenuText_eq_none_iff.mpr hother] at hmenu
                cases hmenu
              rw [if_pos hname]
              exact (quiet_handleMainMenuText hcredits hmenu).affects hs.follows
                _
          | none =>
              rw [if_neg (handleMainMenuText_eq_none_iff.mp hmenu)]
              simp only
              cases env.parseHhVacancyId text with
              | ok vacancyId =>
                  exact affects_vacancyUrl (b := { b with store := s })
                    hs.follows hs.user user text now
              | error e =>
                  cases e with
                  | multipleVacancyUrls =>
                      exact (quiet_answer (other_text
                        (by decide +kernel))).affects hs.follows _
                  | invalidVacancyUrl =>
                      exact affects_save (b := { b with store := s }) hs.follows
                        hs.user "Resume" text
                  | _ => exact (quiet_raise _).affects hs.follows _

theorem isCommand_iff (env : Env) (now : Instant) :
    (commands.any fun command => lib.isCommand command message) =
      (commandHandlers lib env now).any fun entry =>
        lib.isCommand entry.1 message :=
  rfl

theorem affects_routeMessage (h : Kept b.store)
    (hcredits : 0 < env.predictionCostCredits) :
    (routeMessage lib env now message).Ends
      (Affects b.store message.fromUser (messageOffer lib env message)) b := by
  unfold routeMessage messageOffer
  rw [isCommand_iff env now]
  cases hfind : (commandHandlers lib env now).find? fun entry =>
    lib.isCommand entry.1 message with
  | some entry =>
      have hmem := List.mem_of_find?_eq_some hfind
      have htakes : lib.isCommand entry.1 message = true := by
        have hfound := List.find?_some hfind
        exact hfound
      have hany : ((commandHandlers lib env now).any fun entry =>
          lib.isCommand entry.1 message) = true :=
        List.any_eq_true.mpr ⟨entry, hmem, htakes⟩
      rw [if_pos hany]
      exact (quiet_commandHandlers hcredits hmem).affects (Follows.refl h) _
  | none =>
      have hany : ¬ ((commandHandlers lib env now).any fun entry =>
          lib.isCommand entry.1 message) = true := by
        intro hcommand
        rcases List.any_eq_true.mp hcommand with ⟨entry, hmem, htakes⟩
        exact List.find?_eq_none.mp hfind entry hmem htakes
      rw [if_neg hany]
      simp only
      split
      · exact affects_document h hcredits
      · split
        · exact affects_textMessage h hcredits
        · exact (quiet_ret ()).affects (Follows.refl h) _

/-- Every update has the effect of its offer, and of the job that it queues. -/
theorem affects_dispatch (lib : BotLibrary) (now : Instant) (h : Kept b.store)
    (hcredits : 0 < env.predictionCostCredits) (update : Update) :
    (dispatch lib env now update).Ends
      (Affects b.store update.sender (resumeOffer lib env update)) b := by
  cases update with
  | message message => exact affects_routeMessage h hcredits
  | callback callback =>
      rw [dispatch]
      split
      · exact affects_toneCallback h hcredits callback now
      · exact (quiet_ret ()).affects (Follows.refl h) _

end Step

/-!
# Runs
-/

/-- An update, when it comes and which of the calls for it fail. -/
structure Received where
  now : Instant
  update : Update
  faults : Faults Exc

def Received.outcome (r : Received) (lib : BotLibrary) (env : Env)
    (b : BotState) : Talk.Outcome BotState Exc Answer Unit :=
  dispatch lib env r.now r.update r.faults b

/-- The bot after these updates, one handled after the other. -/
def afterUpdates (lib : BotLibrary) (env : Env) (b : BotState)
    (updates : List Received) : BotState :=
  updates.foldl (fun b r => (r.outcome lib env b).state) b

/-- What was said to an update, and how its handler ended. -/
structure Report where
  update : Update
  said : List Answer
  result : Except (Escape Exc) Unit

def reports (lib : BotLibrary) (env : Env) (b : BotState) :
    List Received -> List Report
  | [] => []
  | r :: updates =>
      let o := r.outcome lib env b
      { update := r.update, said := o.said, result := o.result } ::
        reports lib env o.state updates

/-- The offer of the update is taken, unless a call for it has failed. -/
def Report.Takes (lib : BotLibrary) (env : Env) (report : Report)
    (taken : Option ResumeOffer) : Prop :=
  taken = resumeOffer lib env report.update ∨
    (taken = none ∧ Aborted report.result)

/-- A letter that is promised is queued for the sender, and a job that is queued
is promised, unless a call for the update has failed. -/
structure Report.Queues (report : Report) (db : Db) (job : Option Job) : Prop
    where
  told : (exists a, a ∈ report.said ∧ a.Accepts) -> job ≠ none
  queued : job ≠ none ->
    (exists a, a ∈ report.said ∧ a.Accepts) ∨ Aborted report.result
  owner : forall j, job = some j -> exists t,
    report.update.sender = some t ∧ userOf db t = some j.userId

section Runs

variable {env : Env} {b : BotState}

theorem afterUpdates_follows (hcredits : 0 < env.predictionCostCredits)
    (lib : BotLibrary) (hkept : Kept b.store) (updates : List Received) :
    Kept (afterUpdates lib env b updates).store ∧
    (forall t id, userOf b.store.db t = some id ->
      userOf (afterUpdates lib env b updates).store.db t = some id) ∧
    exists taken,
      List.Forall₂ (Report.Takes lib env) (reports lib env b updates) taken ∧
      heldResume (afterUpdates lib env b updates).store.db =
        taken.foldl takeOffer (heldResume b.store.db) := by
  induction updates generalizing b with
  | nil => exact ⟨hkept, fun _ _ hknown => hknown, [], List.Forall₂.nil, rfl⟩
  | cons r updates ih =>
      rcases affects_dispatch lib r.now hkept hcredits r.update r.faults with
        ⟨offer, job, heffect⟩
      have hstep := heffect.follows
      rcases ih hstep.kept with ⟨hend, hknown, taken, htaken, hheld⟩
      refine ⟨hend, ?_, offer :: taken, ?_, ?_⟩
      · intro t id h
        exact hknown t id (hstep.known t id h)
      · exact List.Forall₂.cons heffect.taken htaken
      · rw [List.foldl_cons, <- funext hstep.resumes]
        exact hheld

/-- The answer to somebody with this resume who opens the profile. -/
def ShowsResume (said : List Answer) : Option HeldResume -> Prop
  | none => said = [.message profileMissingText (some .mainMenu)]
  | some resume => exists profile : ResumeProfile,
      profile.title = resume.title ∧ profile.resumeText = resume.text ∧
        said = [.message (formatProfile profile) none]

theorem handleProfileCommand_shows {message : IncomingMessage}
    (hkept : Kept b.store) (hcredits : 0 < env.predictionCostCredits) {t : Int}
    (hfrom : message.fromUser = some t) :
    ShowsResume (handleProfileCommand env message noFaults b).said
      (heldResume b.store.db t) := by
  rcases getOrCreateTelegramUser_registers hkept hcredits t with
    ⟨⟨userId, user⟩, s, hrun, hs⟩
  have hresume : resumeOf s.db userId = heldResume b.store.db t := by
    rw [<- hs.resumes, heldResume, hs.user]
    rfl
  unfold handleProfileCommand
  rw [Talk.bind_eq, said_ensureUser_bind hfrom hrun, <- hresume]
  simp only [Talk.bind_eq, useCase]
  rw [Talk.said_call_bind]
  cases hfirst : s.db.resumeProfiles.first? fun p => p.userId = userId with
  | none =>
      have hmissing : (getProfile userId).transact s =
          (.error Exc.profileNotFound, s) := by
        simp only [transact, getProfile, profileByUserId, select, ask, bind_eq,
          read_bind, ret_bind, run, hfirst]
        rfl
      rw [resumeOf, hfirst]
      simp only [hmissing]
      rfl
  | some entry =>
      have hfound : (getProfile userId).transact s = (.ok entry.2, s) := by
        simp only [transact, getProfile, profileByUserId, select, ask, bind_eq,
          read_bind, ret_bind, run, hfirst]
        rfl
      rw [resumeOf, hfirst]
      refine ⟨entry.2, rfl, rfl, ?_⟩
      simp only [hfound]
      rfl

theorem kept_emptyStore : Kept emptyStore := by
  constructor
  · exact fun _ _ => rfl
  · exact fun _ _ => rfl
  · intro id profile hget
    cases hget

/-- The offer of the update may have been lost. -/
def Report.endangers (lib : BotLibrary) (env : Env) (report : Report) : Bool :=
  match resumeOffer lib env report.update, report.result with
  | some _, .error (.aborted _) => true
  | _, _ => false

/-- Where no call has failed for an update with an offer, all offers are
taken. -/
theorem taken_eq_offers {lib : BotLibrary} {rs : List Report}
    {taken : List (Option ResumeOffer)}
    (h : List.Forall₂ (Report.Takes lib env) rs taken)
    (hsafe : rs.any (Report.endangers lib env) = false) :
    taken = rs.map fun report => resumeOffer lib env report.update := by
  induction h with
  | nil => rfl
  | @cons report offer rs taken htakes _ ih =>
      rw [List.any_cons, Bool.or_eq_false_iff] at hsafe
      rw [List.map_cons, ih hsafe.right]
      rcases htakes with hoffer | ⟨hnone, e, hresult⟩
      · rw [hoffer]
      · have hlost := hsafe.left
        unfold Report.endangers at hlost
        rw [hresult] at hlost
        cases hoffer : resumeOffer lib env report.update with
        | none => rw [hnone]
        | some o =>
            rw [hoffer] at hlost
            cases hlost

/-- However the bot was used, everyone has the resume that the offers give which
were taken, and sees it in the profile.  An offer is taken unless a call for its
update has failed. -/
theorem resumes_follow_updates (hcredits : 0 < env.predictionCostCredits)
    (lib : BotLibrary) (hkept : Kept b.store) (updates : List Received) :
    let after := afterUpdates lib env b updates
    exists taken : List (Option ResumeOffer),
      List.Forall₂ (Report.Takes lib env) (reports lib env b updates) taken ∧
      forall t,
        heldResume after.store.db t =
          taken.foldl takeOffer (heldResume b.store.db) t ∧
        forall message, message.fromUser = some t ->
          ShowsResume (handleProfileCommand env message noFaults after).said
            (taken.foldl takeOffer (heldResume b.store.db) t) := by
  rcases afterUpdates_follows hcredits lib hkept updates with
    ⟨hend, _, taken, htaken, hheld⟩
  refine ⟨taken, htaken, ?_⟩
  intro t
  rw [<- hheld]
  exact ⟨rfl, fun message hfrom =>
    handleProfileCommand_shows hend hcredits hfrom⟩

/-- Commands are texts of their own, and there are no files. -/
def chatLibrary : BotLibrary where
  isCommand := fun command message => message.text = some ("/" ++ command)
  url := asciiLibrary
  files := {
    download := fun _ => .error (.other "TelegramBadRequest" "")
    lower := List.map Char.toLower
    decodeText := fun _ => .error resumeTextNotExtracted
    docxText := fun _ => .error resumeTextNotExtracted
    pdfText := fun _ => .error resumeTextNotExtracted }

def chatEnv : Env :=
  { sampleEnv with parseHhVacancyId := parseHhVacancyId asciiLibrary }

def freshBot : BotState where
  store := emptyStore
  pendingTones := .empty

def textFrom (sender : Int) (text : String) : IncomingMessage where
  fromUser := some sender
  text := some text
  caption := none
  document := none

/-- The update comes first, and all calls for it are carried out. -/
def received (now : Instant) (update : Update) : Received where
  now := now
  update := update
  faults := noFaults

/-- The call with this number fails. -/
def faultAt (n : Nat) : Faults Exc :=
  fun k => if k = n then some (.other "TelegramNetworkError" "") else none

/-- A resume and another one that is too short; the answer to a command cannot
be delivered. -/
def resumeSent : List Received :=
  [received 0 (.message (textFrom 7 "/start")),
    received 1 (.message (textFrom 7 (String.ofList (List.replicate 100 'a')))),
    { now := 2
      update := .message (textFrom 7 "/profile")
      faults := faultAt 2 },
    received 3 (.message (textFrom 8 "too short"))]

theorem sample_resume_follows :
    heldResume (afterUpdates chatLibrary chatEnv freshBot resumeSent).store.db
      7 = some ⟨"Resume", String.ofList (List.replicate 100 'a')⟩ := by
  have hcredits : 0 < chatEnv.predictionCostCredits := by
    decide
  rcases resumes_follow_updates hcredits chatLibrary (b := freshBot)
    kept_emptyStore resumeSent with ⟨taken, htaken, hheld⟩
  have hsafe : (reports chatLibrary chatEnv freshBot resumeSent).any
      (Report.endangers chatLibrary chatEnv) = false := by
    decide +kernel
  rw [(hheld 7).left, taken_eq_offers htaken hsafe]
  decide +kernel

/-- The jobs that the bot has queued are, in the order of the updates, one for
each letter that was promised, and one for the sender at most for an update
whose promise has failed. -/
theorem promises_are_queued (hcredits : 0 < env.predictionCostCredits)
    (lib : BotLibrary) (hkept : Kept b.store) (updates : List Received) :
    let after := afterUpdates lib env b updates
    exists jobs : List (Option Job),
      after.store.out = b.store.out ++ jobs.flatMap Option.toList ∧
      List.Forall₂ (fun report job => report.Queues after.store.db job)
        (reports lib env b updates) jobs := by
  induction updates generalizing b with
  | nil => exact ⟨[], (List.append_nil _).symm, List.Forall₂.nil⟩
  | cons r updates ih =>
      rcases affects_dispatch lib r.now hkept hcredits r.update r.faults with
        ⟨offer, job, heffect⟩
      have hstep := heffect.follows
      rcases ih hstep.kept with ⟨jobs, hout, hjobs⟩
      rcases afterUpdates_follows hcredits lib hstep.kept updates with
        ⟨_, hknown, _⟩
      refine ⟨job :: jobs, ?_, List.Forall₂.cons ?_ hjobs⟩
      · rw [List.flatMap_cons, <- List.append_assoc, <- hstep.out]
        exact hout
      · refine ⟨heffect.told, heffect.queued, ?_⟩
        intro j hj
        rcases heffect.owner j hj with ⟨t, hsender, huser⟩
        exact ⟨t, hsender, hknown t j.userId huser⟩

/-- A resume, and then a link; the job of another link is queued, but the answer
to it cannot be delivered. -/
def linkSent : List Received :=
  resumeSent ++
    [received 4 (.message (textFrom 7 "https://hh.ru/vacancy/42")),
      { now := 5
        update := .message (textFrom 7 "https://hh.ru/vacancy/43")
        faults := faultAt 3 }]

theorem sample_promise_queued :
    exists job : Job,
      job ∈ (afterUpdates chatLibrary chatEnv freshBot linkSent).store.out ∧
      userOf (afterUpdates chatLibrary chatEnv freshBot linkSent).store.db 7 =
        some job.userId := by
  have hcredits : 0 < chatEnv.predictionCostCredits := by
    decide
  rcases promises_are_queued hcredits chatLibrary
    (b := freshBot) kept_emptyStore linkSent with ⟨jobs, hout, hjobs⟩
  rw [hout]
  -- the fifth update is the link
  have hlength : (reports chatLibrary chatEnv freshBot linkSent).length = 6 := rfl
  have hreport : 4 < (reports chatLibrary chatEnv freshBot linkSent).length := by
    rw [hlength]
    decide
  have hindex : 4 < jobs.length := by
    rw [<- hjobs.length_eq, hlength]
    decide
  have hlink := hjobs.get hreport hindex
  have hsaid : ((reports chatLibrary chatEnv freshBot linkSent)[4]?).map
      Report.said = some [.message generationAcceptedText none] := by
    decide +kernel
  rw [List.getElem?_eq_getElem hreport, Option.map_some] at hsaid
  have hpromised : exists a, a ∈ ((reports chatLibrary chatEnv freshBot
      linkSent).get ⟨4, hreport⟩).said ∧ a.Accepts := by
    refine ⟨.message generationAcceptedText none, ?_, Or.inl rfl⟩
    rw [List.get_eq_getElem, Option.some.inj hsaid]
    exact List.mem_singleton_self _
  rcases Option.ne_none_iff_exists'.mp (hlink.told hpromised) with ⟨job, hjob⟩
  rcases hlink.owner job hjob with ⟨t, ht, huser⟩
  cases ht
  refine ⟨job, ?_, huser⟩
  apply List.mem_append_right
  apply List.mem_flatMap.mpr
  refine ⟨_, List.get_mem jobs ⟨4, hindex⟩, ?_⟩
  rw [hjob]
  exact List.mem_singleton_self job

end Runs
end CoverAI
