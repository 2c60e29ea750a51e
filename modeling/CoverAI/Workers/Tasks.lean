import CoverAI.Services.Generation
import CoverAI.Repos.CreditLedger

/-!
# The worker's task

The task opens one session, keeps what it needs of the outcome, and notifies
the user after the session has ended.
-/

namespace CoverAI

open Txn Program

def spendRow (userId amount balance generationRequestId : Int) :
    CreditTransaction where
  userId := userId
  type := .spend
  amount := -amount
  balanceAfter := balance
  description := "Successful LLM cover letter generation"
  generationRequestId := some generationRequestId

/-- The changes are flushed by the commit of the caller's session. -/
def debitGenerationCredits (userId amount generationRequestId : Int) :
    Session Unit := do
  match ← userForUpdate userId with
  | none => raise Exc.quotaExceeded
  | some user =>
      if user.credits < amount then raise Exc.quotaExceeded
      else do
        let credits := user.credits - amount
        flushUnit [LockName.user userId]
          [updateUser userId user { user with credits := credits },
            insertCreditTransaction
              (spendRow userId amount credits generationRequestId)]

/-- What the task's local variables hold when its session has ended. -/
structure SessionResult where
  telegramId : Option Int := none
  text : Option String := none
  letterId : Option Int := none
  hhError : Option Exc := none
  quotaError : Option Exc := none

def telegramIdOf (userId : Int) : Session (Option Int) := do
  let user ← userById none userId
  return user.bind fun u => u.telegramId

/-- `Tone(tone)` is evaluated inside the `try`. -/
def generateForJob (env : Env) (clients : Clients) (job : Job)
    (now : Instant) : Session GeneratedCoverLetter :=
  match Tone.ofValue job.tone with
  | none => raise (Exc.valueError "not a valid Tone")
  | some tone =>
      generateForVacancyUrl env clients job.userId job.vacancyUrl tone
        job.generationRequestId job.generationRequestId.isNone now

/-- The `else` clause of the `try`: its exceptions are not caught by
the clauses beside it. -/
def chargeForLetter (job : Job) (result : GeneratedCoverLetter) :
    Session SessionResult := do
  if job.chargeCredits && 0 < job.costCredits then
    debitGenerationCredits job.userId job.costCredits
      result.letter.generationRequestId
  return {
    telegramId := result.user.telegramId
    text := some result.letter.text
    letterId := some result.letterId }

/-- The two `except` clauses of the task. -/
def keepError (job : Job) (e : Exc) : Session SessionResult :=
  if e.isHHClientError then do
    let telegramId ← telegramIdOf job.userId
    return { telegramId := telegramId, hhError := some e }
  else if e = .quotaExceeded then do
    let telegramId ← telegramIdOf job.userId
    return { telegramId := telegramId, quotaError := some e }
  else raise e

/-- The block under `session_scope`. -/
def generationSession (env : Env) (clients : Clients) (job : Job)
    (now : Instant) : Session SessionResult := do
  let outcome ←
    ((generateForJob env clients job now).bind fun result =>
      ret (Sum.inl result)).tryCatch fun e =>
        (keepError job e).bind fun kept => ret (Sum.inr kept)
  match outcome with
  | .inl result => chargeForLetter job result
  | .inr kept => return kept

/-!
# After the session
-/

def hhClientErrorMessage : String :=
  "⚠️ Не удалось загрузить вакансию с hh.ru\n\n" ++
    "Попробуйте позже или отправьте другую ссылку."

def quotaExceededMessage : String :=
  "⚠️ Лимит тарифа исчерпан\n\nПроверьте 📊 Мой лимит или откройте 💳 Тарифы."

/-- One call of the Telegram sender: a result, or the exception it raises. -/
abbrev TelegramSender := Int -> String -> Except Exc Unit

def notify (sender : Option TelegramSender) (telegramId : Option Int)
    (text : String) : Except Exc Unit :=
  match sender, telegramId with
  | some send, some id => send id text
  | _, _ => .ok ()

def finishTask (job : Job) (sender : Option TelegramSender)
    (r : SessionResult) : Except Exc Int := do
  match r.hhError, r.quotaError with
  | some e, _ => do
      notify sender r.telegramId hhClientErrorMessage
      .error e
  | none, some e => do
      notify sender r.telegramId quotaExceededMessage
      .error e
  | none, none =>
      match r.telegramId, r.text, r.letterId with
      | some _, some text, some letterId => do
          notify sender r.telegramId text
          return letterId
      | some _, some text, none => do
          notify sender r.telegramId text
          .error (Exc.valueError "cover letter id is not assigned")
      | _, _, some letterId =>
          if job.notifyTelegram then
            .error (Exc.runtimeError
              "cover letter generation did not produce a message")
          else return letterId
      | _, _, none =>
          .error (Exc.runtimeError
            "cover letter generation did not produce a message")

/-- One execution of the job: the session ends by commit or rollback, then the
user is notified. -/
def generateCoverLetter (env : Env) (clients : Clients)
    (sender : TelegramSender) (job : Job) (now : Instant)
    (s : Store coverAI) : Except Exc Int × Store coverAI :=
  let ended := (generationSession env clients job now).transact s
  let sender := if job.notifyTelegram then some sender else none
  (ended.1.bind (finishTask job sender), ended.2)

end CoverAI
