import CoverAI.Api.Profile
import CoverAI.Bot.Messages
import CoverAI.Bot.Parsing
import CoverAI.Coop.Talk

/-!
# The router of the bot

An update goes to the first handler whose filter takes it.  A handler awaits the
use cases, each in a session of its own, and answers the user.  A use case or an
answer may fail: the database or the queue refuses it, or Telegram does.
-/

namespace CoverAI

open Txn Program Coop

abbrev Bot : Type -> Type :=
  Talk BotState Exc Answer

structure TelegramDocument where
  fileId : String
  fileName : Option String

/-- Of the user only the id is kept; the caption is that of a document. -/
structure IncomingMessage where
  fromUser : Option Int
  text : Option String
  caption : Option String
  document : Option TelegramDocument

inductive Update where
  | message (message : IncomingMessage)
  | callback (callback : IncomingCallback)

/-- What the router needs of other libraries: the filter `Command`, the
parser of links with the value of a decimal digit, and the documents. -/
structure BotLibrary where
  isCommand : String -> IncomingMessage -> Bool
  url : UrlLibrary
  files : ResumeFiles

/-!
# Use cases
-/

def useCase {α : Type} (p : Session α) : Bot (Except Exc α) :=
  Talk.call fun b =>
    ((p.transact b.store).1, { b with store := (p.transact b.store).2 })

/-- The calls of a handler that is a tree over them; the pending links are in
the memory of the bot. -/
def Handler.talk (env : Env) (now : Instant) : Handler -> Bot Unit
  | finish => Talk.ret ()
  | escape e => Talk.raise e
  | getOrCreateUser telegramId k =>
      (useCase (getOrCreateTelegramUser env.predictionCostCredits
        telegramId)).bind fun found => (k found).talk env now
  | getProfile userId k =>
      (useCase (CoverAI.getProfile userId)).bind fun found =>
        (k found).talk env now
  | enqueueGeneration userId vacancyUrl tone k =>
      (useCase (botEnqueueGeneration env userId vacancyUrl tone now)).bind
        fun queued => (k queued).talk env now
  | setPending userId vacancyUrl next =>
      (Talk.update fun b => ((), { b with
        pendingTones := b.pendingTones.set userId vacancyUrl })).bind
          fun _ => next.talk env now
  | popPending userId k =>
      (Talk.update fun b => (b.pendingTones.vacancyUrls userId, { b with
        pendingTones := b.pendingTones.pop userId })).bind
          fun found => (k found).talk env now
  | answer a next => (Talk.say a).bind fun _ => next.talk env now

/-- Where no call fails, this is the serial meaning of the handler. -/
theorem Handler.talk_eq_run (env : Env) (now : Instant) (h : Handler)
    (b : BotState) :
    (h.talk env now noFaults b).said = (h.run env now b).answers ∧
      (h.talk env now noFaults b).result =
        (h.run env now b).result.mapError .raised ∧
      (h.talk env now noFaults b).state = (h.run env now b).state := by
  induction h generalizing b with
  | finish => exact ⟨rfl, rfl, rfl⟩
  | escape e => exact ⟨rfl, rfl, rfl⟩
  | getOrCreateUser telegramId k ih => exact ih _ _
  | getProfile userId k ih => exact ih _ _
  | enqueueGeneration userId vacancyUrl tone k ih => exact ih _ _
  | setPending userId vacancyUrl next ih => exact ih _
  | popPending userId k ih => exact ih _ _
  | answer a next ih =>
      rcases ih b with ⟨hsaid, hresult, hstate⟩
      exact ⟨congrArg (List.cons a) hsaid, hresult, hstate⟩

def answer (text : String) : Bot Unit :=
  Talk.say (.message text none)

def answerWithMenu (text : String) : Bot Unit :=
  Talk.say (.message text (some .mainMenu))

/-- The credits of a user that is not there are none. -/
def getCreditBalance (userId : Int) : Session Int := do
  match ← select fun db => db.users.get userId with
  | none => return 0
  | some user => return user.credits

def saveResumeText (userId : Int) (resumeText : String) :
    Session ProfileResult :=
  createOrUpdateProfile userId "Resume" resumeText

/-- The text of the document, which is read before the session is opened. -/
def resumeFileText (files : ResumeFiles) (document : TelegramDocument)
    (fileName : String) : Except Exc String := do
  let content ← files.download document.fileId
  extractText files fileName content

def saveResumeFile (userId : Int) (fileName text : String) :
    Session ProfileResult :=
  createOrUpdateProfile userId (resumeTitleFromFilename fileName) text

def defaultHistoryLimit : Int :=
  20

/-!
# Handlers
-/

def ensureUser (env : Env) (message : IncomingMessage) :
    Bot (Option (Int × User)) := do
  match message.fromUser with
  | none => do
      answer telegramUserMissingText
      return none
  | some telegramId =>
      match ← useCase
        (getOrCreateTelegramUser env.predictionCostCredits telegramId) with
      | .error e => Talk.raise e
      | .ok entry => return some entry

def handleStart (env : Env) (message : IncomingMessage) : Bot Unit := do
  let _ ← ensureUser env message
  answerWithMenu startText

def handleHelpCommand : Bot Unit :=
  answerWithMenu helpText

def handleSubscribeCommand : Bot Unit :=
  answerWithMenu subscribeText

def handleProfileCommand (env : Env) (message : IncomingMessage) :
    Bot Unit := do
  match ← ensureUser env message with
  | none => return ()
  | some (userId, _) =>
      match ← useCase (getProfile userId) with
      | .error .profileNotFound => answerWithMenu profileMissingText
      | .error e => Talk.raise e
      | .ok profile => answer (formatProfile profile)

def handlePlanCommand (env : Env) (message : IncomingMessage) : Bot Unit := do
  match ← ensureUser env message with
  | none => return ()
  | some (userId, _) =>
      match ← useCase (getCreditBalance userId) with
      | .error e => Talk.raise e
      | .ok credits => answer (formatCreditBalance credits)

def handleRedeemCommand (env : Env) (message : IncomingMessage) :
    Bot Unit := do
  match ← ensureUser env message, message.text with
  | some (userId, _), some text =>
      match argument text with
      | none => answer redeemUsageText
      | some code =>
          match ← useCase (redeemPromoCode env userId code) with
          | .error e => Talk.raise e
          | .ok result => answer result
  | _, _ => return ()

def handleTopupCommand (lib : BotLibrary) (env : Env)
    (message : IncomingMessage) : Bot Unit := do
  match ← ensureUser env message, message.text with
  | some (userId, _), some text =>
      match decimalArgument lib.url text with
      | .error e => Talk.raise e
      | .ok none => answer topUpUsageText
      | .ok (some credits) =>
          match ← useCase (createMockTopUp env userId credits) with
          | .error e => Talk.raise e
          | .ok result => answer result
  | _, _ => return ()

/-- What is said of an error of the history service. -/
def historyError (e : Exc) : Bot Unit :=
  if e = .other "HistoryAccessDeniedError" "" then
    answerWithMenu historyPaywallText
  else if e = .other "CoverLetterNotFoundError" "" then
    answer historyLetterNotFoundText
  else Talk.raise e

def handleHistoryCommand (lib : BotLibrary) (env : Env) (now : Instant)
    (message : IncomingMessage) : Bot Unit := do
  match ← ensureUser env message with
  | none => return ()
  | some (userId, _) =>
      match historyLetterId lib.url message.text with
      | .error e => Talk.raise e
      | .ok (some letterId) =>
          match ← useCase (getLetter none userId letterId now) with
          | .error e => historyError e
          | .ok letter => answer (formatHistoryDetail letter)
      | .ok none =>
          match ← useCase
            (listHistory none userId now defaultHistoryLimit) with
          | .error e => historyError e
          | .ok history => answer (formatHistoryList history)

/-- What is said after a resume was sent. -/
def resumeReply (result : Except Exc ProfileResult) : Bot Unit :=
  match result with
  | .ok saved => answer (formatProfileSaved saved)
  | .error e =>
      if e = .other "ResumeTextTooShortError" "" then
        answer resumeTextTooShortText
      else Talk.raise e

/-- The name under which a document is read. -/
def documentName (document : TelegramDocument) : String :=
  match document.fileName with
  | none => "resume"
  | some name => if name = "" then "resume" else name

def handleDocument (lib : BotLibrary) (env : Env)
    (message : IncomingMessage) : Bot Unit := do
  match ← ensureUser env message, message.document with
  | some (userId, _), some document => do
      let fileName := documentName document
      match resumeFileText lib.files document fileName with
      | .error e =>
          if e = unsupportedResumeFile ∨ e = resumeTextNotExtracted then
            answer resumeFileUnreadableText
          else resumeReply (.error e)
      | .ok text =>
          resumeReply (← useCase (saveResumeFile userId fileName text))
  | _, _ => return ()

/-- The handler of a menu button, if the text is that of one. -/
def handleMainMenuText (lib : BotLibrary) (env : Env) (now : Instant)
    (message : IncomingMessage) (text : String) : Option (Bot Unit) :=
  if text ∈ [mainMenuProfile, "Профиль"] then
    some (handleProfileCommand env message)
  else if text ∈ [mainMenuPlan, "Тариф и лимиты", "Мой лимит", "Баланс"] then
    some (handlePlanCommand env message)
  else if text ∈ [mainMenuHistory, "История писем"] then
    some (handleHistoryCommand lib env now message)
  else if text ∈ [mainMenuSubscribe, "Тарифы"] then
    some (answerWithMenu subscribeText)
  else if text ∈ [mainMenuHelp, "Помощь"] then some (answerWithMenu helpText)
  else none

/-- The user is registered before the text is looked at, and once more by the
handler of a menu button. -/
def handleTextMessage (lib : BotLibrary) (env : Env) (now : Instant)
    (message : IncomingMessage) : Bot Unit := do
  match ← ensureUser env message, message.text with
  | some (userId, user), some text =>
      match handleMainMenuText lib env now message text with
      | some reply => reply
      | none =>
          match env.parseHhVacancyId text with
          | .error .multipleVacancyUrls => answer multipleVacancyUrlsText
          | .error .invalidVacancyUrl =>
              resumeReply (← useCase (saveResumeText userId text))
          | .error e => Talk.raise e
          | .ok _ => (handleVacancyUrl userId user text).talk env now
  | _, _ => return ()

/-!
# Router
-/

/-- A text that is there and not empty. -/
def hasText (message : IncomingMessage) : Bool :=
  message.text.any fun text => text ≠ ""

/-- The commands in the order in which their handlers are registered. -/
def commandHandlers (lib : BotLibrary) (env : Env) (now : Instant) :
    List (String × (IncomingMessage -> Bot Unit)) :=
  [("start", handleStart env),
    ("profile", handleProfileCommand env),
    ("plan", handlePlanCommand env),
    ("balance", handlePlanCommand env),
    ("redeem", handleRedeemCommand env),
    ("topup", handleTopupCommand lib env),
    ("subscribe", fun _ => handleSubscribeCommand),
    ("history", handleHistoryCommand lib env now),
    ("help", fun _ => handleHelpCommand)]

/-- The commands are registered before the documents and the texts. -/
def routeMessage (lib : BotLibrary) (env : Env) (now : Instant)
    (message : IncomingMessage) : Bot Unit :=
  match (commandHandlers lib env now).find? fun entry =>
    lib.isCommand entry.1 message with
  | some entry => entry.2 message
  | none =>
      if message.document.isSome then handleDocument lib env message
      else if hasText message then handleTextMessage lib env now message
      else return ()

/-- An update that no handler takes is left. -/
def dispatch (lib : BotLibrary) (env : Env) (now : Instant) :
    Update -> Bot Unit
  | .message message => routeMessage lib env now message
  | .callback callback =>
      if callback.data.any fun data => "tone:".toList.isPrefixOf data.toList then
        (handleToneCallback callback).talk env now
      else return ()

end CoverAI
