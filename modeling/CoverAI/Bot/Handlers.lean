import CoverAI.Bot.Runtime
import CoverAI.Services.Profile
import CoverAI.Services.Users

/-!
# Handlers of the bot

A handler awaits the use cases and the Telegram client; between two of these it
runs without a break.  Written as a tree over the calls, it has one meaning
when it runs alone and one when other handlers run at its await points.
-/

namespace CoverAI

open Txn Program

inductive Keyboard where
  | mainMenu
  | tone
  deriving DecidableEq

inductive Answer where
  | message (text : String) (keyboard : Option Keyboard)
  | callback (text : String) (showAlert : Bool)
  deriving DecidableEq

inductive Handler where
  | finish
  | escape (e : Exc)
  | getOrCreateUser (telegramId : Int)
      (k : Except Exc (Int × User) -> Handler)
  | getProfile (userId : Int) (k : Except Exc ResumeProfile -> Handler)
  | enqueueGeneration (userId : Int) (vacancyUrl : String) (tone : Tone)
      (k : Except Exc Unit -> Handler)
  | setPending (userId : Int) (vacancyUrl : String) (next : Handler)
  | popPending (userId : Int) (k : Option String -> Handler)
  | answer (a : Answer) (next : Handler)

/-!
# Texts
-/

def profileRequiredText : String :=
  "📄 Сначала нужен профиль\n\n" ++
    "Отправьте резюме текстом или файлом, затем пришлите ссылку на вакансию."

def toneSelectText : String :=
  "🎙️ Выберите тон письма\n\n" ++
    "Можно сделать письмо формальным, уверенным или кратким."

def creditsExceededText : String :=
  "⚠️ Недостаточно кредитов\n\n" ++
    "Проверьте 💰 Баланс или пополните счет командой /topup 100."

def generationAcceptedText : String :=
  "✅ Вакансия принята\n\n" ++
    "Готовлю письмо. Пришлю результат сюда, когда он будет готов."

/-!
# Links and tones
-/

/-- The user is the one the text handler has read. -/
def handleVacancyUrl (userId : Int) (user : User) (vacancyUrl : String) :
    Handler :=
  .getProfile userId fun
    | .error .profileNotFound =>
        .answer (.message profileRequiredText (some .mainMenu)) .finish
    | .error e => .escape e
    | .ok _ =>
        if user.plan = .standard ∨ user.plan = .pro then
          .setPending userId vacancyUrl
            (.answer (.message toneSelectText (some .tone)) .finish)
        else
          .enqueueGeneration userId vacancyUrl .formal fun
            | .error .insufficientCredits =>
                .answer (.message creditsExceededText (some .mainMenu)) .finish
            | .error .quotaExceeded =>
                .answer (.message "⚠️ Лимит тарифа исчерпан" (some .mainMenu))
                  .finish
            | .error e => .escape e
            | .ok () => .answer (.message generationAcceptedText none) .finish

def toneFromCallback (data : Option String) : Tone :=
  if data = some "tone:confident" then .confident
  else if data = some "tone:concise" then .concise
  else .formal

structure IncomingCallback where
  fromUser : Int
  data : Option String
  hasMessage : Bool

def handleToneCallback (callback : IncomingCallback) : Handler :=
  .getOrCreateUser callback.fromUser fun
    | .error e => .escape e
    | .ok (userId, _) =>
        .popPending userId fun
          | none =>
              .answer (.callback "🔗 Отправьте ссылку заново." true) .finish
          | some vacancyUrl =>
              .enqueueGeneration userId vacancyUrl
                (toneFromCallback callback.data) fun
                | .error .insufficientCredits =>
                    .answer (.callback "⚠️ Недостаточно кредитов." true) .finish
                | .error .quotaExceeded =>
                    .answer (.callback "⚠️ Лимит тарифа исчерпан." true) .finish
                | .error e => .escape e
                | .ok () =>
                    .answer (.callback "✅ Генерация в очереди." false)
                      (if callback.hasMessage then
                        .answer (.message generationAcceptedText none) .finish
                      else .finish)

/-!
# Serial meaning
-/

/-- The links whose tone is still to be chosen. -/
structure PendingToneStore where
  vacancyUrls : Int -> Option String

namespace PendingToneStore

def empty : PendingToneStore where
  vacancyUrls := fun _ => none

def set (p : PendingToneStore) (userId : Int) (vacancyUrl : String) :
    PendingToneStore where
  vacancyUrls := Function.update p.vacancyUrls userId (some vacancyUrl)

def pop (p : PendingToneStore) (userId : Int) : PendingToneStore where
  vacancyUrls := Function.update p.vacancyUrls userId none

end PendingToneStore

structure BotState where
  store : Store coverAI
  pendingTones : PendingToneStore

structure HandlerOutcome where
  answers : List Answer
  result : Except Exc Unit
  state : BotState

/-- The welcome bonus is the price of one generation. -/
def Handler.run (env : Env) (now : Instant) :
    Handler -> BotState -> HandlerOutcome
  | finish, b => { answers := [], result := .ok (), state := b }
  | escape e, b => { answers := [], result := .error e, state := b }
  | getOrCreateUser telegramId k, b =>
      let session :=
        getOrCreateTelegramUser env.predictionCostCredits telegramId
      (k (session.transact b.store).1).run env now
        { b with store := (session.transact b.store).2 }
  | getProfile userId k, b =>
      let session := CoverAI.getProfile userId
      (k (session.transact b.store).1).run env now
        { b with store := (session.transact b.store).2 }
  | enqueueGeneration userId vacancyUrl tone k, b =>
      let session := botEnqueueGeneration env userId vacancyUrl tone now
      (k (session.transact b.store).1).run env now
        { b with store := (session.transact b.store).2 }
  | setPending userId vacancyUrl next, b =>
      next.run env now
        { b with pendingTones := b.pendingTones.set userId vacancyUrl }
  | popPending userId k, b =>
      (k (b.pendingTones.vacancyUrls userId)).run env now
        { b with pendingTones := b.pendingTones.pop userId }
  | answer a next, b =>
      let rest := next.run env now b
      { rest with answers := a :: rest.answers }

end CoverAI
