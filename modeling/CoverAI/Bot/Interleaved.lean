import CoverAI.Bot.Handlers
import CoverAI.Coop.Pool

/-!
# Interleaved meaning of the handlers

At an await point any other handler may run.  What the awaited call answers is
left open; the links whose tone is to be chosen are the state the handlers
share.
-/

namespace CoverAI

open Coop

/-- What a handler does to the links, and the calls that queue them. -/
inductive BotEvent where
  | identified (userId : Int)
  | stored (userId : Int) (vacancyUrl : String)
  | taken (userId : Int) (found : Option String)
  | enqueued (userId : Int) (vacancyUrl : String) (tone : Tone)
  deriving DecidableEq

/-- How an awaited call ends.  A call of the Telegram client has no answer, and
any call may raise an error the handler does not catch, or be cancelled. -/
inductive Resumption where
  | user (result : Except Exc (Int × User))
  | profile (result : Except Exc ResumeProfile)
  | queued (result : Except Exc Unit)
  | answered
  | aborted (e : Exc)

namespace Handler

/-- The handler goes on if it waits for a call that ends this way. -/
def wake : Handler -> Resumption -> Option (Handler × List BotEvent)
  | .getOrCreateUser _ k, .user (.ok entry) =>
      some (k (.ok entry), [.identified entry.1])
  | .getOrCreateUser _ k, .user (.error e) => some (k (.error e), [])
  | .getProfile _ k, .profile result => some (k result, [])
  | .enqueueGeneration _ _ _ k, .queued result => some (k result, [])
  | .answer _ next, .answered => some (next, [])
  | .getOrCreateUser _ _, .aborted e => some (.escape e, [])
  | .getProfile _ _, .aborted e => some (.escape e, [])
  | .enqueueGeneration _ _ _ _, .aborted e => some (.escape e, [])
  | .answer _ _, .aborted e => some (.escape e, [])
  | _, _ => none

/-- The handler runs up to its next await point; a call is made before its
end is awaited. -/
def advance : Handler -> PendingToneStore ->
    Segment Handler PendingToneStore BotEvent
  | .setPending userId vacancyUrl next, p =>
      let rest := next.advance (p.set userId vacancyUrl)
      { rest with events := .stored userId vacancyUrl :: rest.events }
  | .popPending userId k, p =>
      let found := p.vacancyUrls userId
      let rest := (k found).advance (p.pop userId)
      { rest with events := .taken userId found :: rest.events }
  | .enqueueGeneration userId vacancyUrl tone k, p =>
      { task := .enqueueGeneration userId vacancyUrl tone k
        state := p
        events := [.enqueued userId vacancyUrl tone] }
  | h, p => { task := h, state := p, events := [] }

def resume (h : Handler) (input : Resumption) (p : PendingToneStore) :
    Segment Handler PendingToneStore BotEvent :=
  match h.wake input with
  | none => { task := h, state := p, events := [] }
  | some (next, events) =>
      let rest := next.advance p
      { rest with events := events ++ rest.events }

end Handler

/-- What a user does: send a link, or choose a tone. -/
inductive BotRequest where
  | vacancyUrl (userId : Int) (user : User) (vacancyUrl : String)
  | toneCallback (callback : IncomingCallback)

namespace BotRequest

/-- A handler starts with a call it awaits. -/
def handler : BotRequest -> Handler
  | .vacancyUrl userId user url => handleVacancyUrl userId user url
  | .toneCallback callback => handleToneCallback callback

end BotRequest

abbrev BotPool : Type :=
  Pool Handler PendingToneStore BotEvent

def botRun (requests : List BotRequest)
    (schedule : List (Nat × Resumption)) : BotPool :=
  (Pool.start (requests.map BotRequest.handler) PendingToneStore.empty).run
    Handler.resume schedule

end CoverAI
