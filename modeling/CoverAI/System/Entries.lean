import CoverAI.System.Executions
import CoverAI.System.Routes

/-!
# The entry points of the service

The routes, the bot's calls, the administrator's calls and the executions of
queued jobs, each in a session of its own.  Any number of them run at once, in
any interleaving of their statements, and each can lose its connection before
its commit.
-/

namespace CoverAI

open Txn Program

inductive EntryPoint where
  | ensureAdminUser (email : String)
  | registerApiUser (email : String)
  | getOrCreateTelegramUser (telegramId : Int)
  | saveProfile (userId : Int) (title resumeText : String)
  | saveResume (userId : Int) (title resumeText : String)
  | createGeneration (userId : Int) (vacancyUrl : String) (tone : Tone)
      (now : Instant)
  | botEnqueueGeneration (userId : Int) (vacancyUrl : String) (tone : Tone)
      (now : Instant)
  | generateCoverLetter (clients : Clients) (job : Job) (now : Instant)
  | createPayment (userId creditsAmount : Int) (uuidHex : String)
      (now : Instant)
  | confirmPayment (externalId : String) (now : Instant)
  | failPayment (externalId : String) (now : Instant)
  | cancelPayment (externalId : String) (now : Instant)
  | refundPayment (paymentId : Int) (now : Instant)
  | createMockTopUp (userId creditsAmount : Int)
  | createPromo (adminId : Int) (payload : PromoCreateRequest)
  | redeemPromo (userId : Int) (code : String) (now : Instant)
  | redeemPromoCode (userId : Int) (code : String)
  | adjustBalance (adminId userId amount : Int) (reason : String)
  | activateSubscription (userId : Int) (plan : Plan) (now : Instant)
  | expireSubscription (order : LatestFirst) (adminId userId : Int)
  | expireSubscriptions (now : Instant)
  | look (reading : Session Unit)

/-- New users get the price of one generation. -/
def EntryPoint.session (env : Env) : EntryPoint -> Session Unit
  | ensureAdminUser email => CoverAI.ensureAdminUser email
  | registerApiUser email =>
      (CoverAI.registerApiUser env.predictionCostCredits email).void
  | getOrCreateTelegramUser telegramId =>
      (CoverAI.getOrCreateTelegramUser env.predictionCostCredits
        telegramId).void
  | saveProfile userId title resumeText =>
      (CoverAI.saveProfile userId title resumeText).void
  | saveResume userId title resumeText =>
      (createOrUpdateProfile userId title resumeText).void
  | createGeneration userId vacancyUrl tone now =>
      (CoverAI.createGeneration env userId vacancyUrl tone now).void
  | botEnqueueGeneration userId vacancyUrl tone now =>
      CoverAI.botEnqueueGeneration env userId vacancyUrl tone now
  | generateCoverLetter clients job now =>
      (generationSession env clients job now).void
  | createPayment userId creditsAmount uuidHex now =>
      (CoverAI.createPayment env userId creditsAmount uuidHex now).void
  | confirmPayment externalId now =>
      (CoverAI.confirmPayment externalId now).void
  | failPayment externalId now => (CoverAI.failPayment externalId now).void
  | cancelPayment externalId now => (CoverAI.cancelPayment externalId now).void
  | refundPayment paymentId now => (CoverAI.refundPayment paymentId now).void
  | createMockTopUp userId creditsAmount =>
      (CoverAI.createMockTopUp env userId creditsAmount).void
  | createPromo adminId payload =>
      (CoverAI.createPromo env adminId payload).void
  | redeemPromo userId code now =>
      (CoverAI.redeemPromo env userId code now).void
  | redeemPromoCode userId code =>
      (CoverAI.redeemPromoCode env userId code).void
  | adjustBalance adminId userId amount reason =>
      (CoverAI.adjustBalance adminId userId amount reason).void
  | activateSubscription userId plan now =>
      (CoverAI.activateSubscription userId plan now).void
  | expireSubscription order adminId userId =>
      (CoverAI.expireSubscription order adminId userId).void
  | expireSubscriptions now => (CoverAI.expireSubscriptions now).void
  | look reading => reading

/-- A worker takes a job that was queued, and may take it again.  The bot saves
a resume for a user it has committed before. -/
def EntryPoint.Admissible (w : World coverAI Unit) : EntryPoint -> Prop
  | saveResume userId _ _ => w.committed.Holds (.user userId)
  | generateCoverLetter _ job _ => job ∈ w.out
  | look reading => reading.Within readOnly fun _ => True
  | _ => True

/-- The sessions that are started are those of the entry points. -/
def Operates (env : Env) (w : World coverAI Unit) : Act coverAI Unit -> Prop
  | .start _ p => exists entry : EntryPoint,
      entry.Admissible w ∧ p = entry.session env
  | .step _ | .fail _ _ => True

/-!
# What the entry points settle
-/

section Settles

variable {α : Type} {price : Int} {known : Set Fact}

/-- A session that has only learnt leaves the accounts. -/
theorem settles_of_learns {p : Session α}
    (h : p.Learns (system price)
      (fun _ st => st.change = fun _ => 0) (fun _ _ => True)
      (Known.initial known)) : (system price).Settles known p.void := by
  apply learns_bind
  apply learns_mono h
  · intro _ st hchange a
    rw [hchange]
  · exact fun _ _ _ => trivial

theorem tolerates_true {st : Knows} : Tolerates (fun _ _ => True) st :=
  fun _ _ _ => trivial

/-- An entry point starts with what is known of the database: the user of a
saved resume, and nothing else. -/
def EntryPoint.facts : EntryPoint -> Set Fact
  | saveResume userId _ _ => {.user userId}
  | _ => ∅

theorem EntryPoint.facts_subset {w : World coverAI Unit} {entry : EntryPoint}
    (h : entry.Admissible w) :
    entry.facts ⊆ (system price).facts w.committed := by
  cases entry with
  | saveResume userId title resumeText => exact Set.singleton_subset_iff.mpr h
  | _ => exact Set.empty_subset _

theorem EntryPoint.settles {env : Env} {w : World coverAI Unit}
    {entry : EntryPoint}
    (hprice : 0 < env.predictionCostCredits)
    (hout : forall job, job ∈ w.out ->
      (system env.predictionCostCredits).sends job)
    (h : entry.Admissible w) :
    (system env.predictionCostCredits).Settles entry.facts
      (entry.session env) := by
  cases entry with
  | ensureAdminUser email =>
      apply ensureAdminUser_learns email tolerates_true
      exact fun st hst a => congrFun hst.change a
  | registerApiUser email =>
      apply settles_of_learns
      apply registerApiUser_learns _ email tolerates_true
      exact fun _ st hst => hst.change
  | getOrCreateTelegramUser telegramId =>
      apply settles_of_learns
      apply getOrCreateTelegramUser_learns _ telegramId tolerates_true
      exact fun _ st hst => hst.change
  | saveProfile userId title resumeText =>
      apply settles_of_learns
      apply saveProfile_learns userId title resumeText tolerates_true
      exact fun _ st hst => hst.change
  | saveResume userId title resumeText =>
      apply settles_of_learns
      apply createOrUpdateProfile_learns title resumeText
        (Set.mem_singleton _) tolerates_true
      exact fun _ st hst => hst.change
  | createGeneration userId vacancyUrl tone now =>
      apply settles_of_learns
      apply createGeneration_learns env userId vacancyUrl tone now
        tolerates_true
      exact fun _ st hst => hst.change
  | botEnqueueGeneration userId vacancyUrl tone now =>
      apply botEnqueueGeneration_learns env userId vacancyUrl tone now
        tolerates_true
      exact fun st hst a => congrFun hst.change a
  | generateCoverLetter clients job now =>
      apply settles_of_learns
      apply generationSession_learns env clients now hprice (hout job h)
      · exact fun _ _ => trivial
      · exact fun _ st hchange => hchange
  | createPayment userId creditsAmount uuidHex now =>
      apply settles_of_learns
      apply createPayment_learns env userId creditsAmount uuidHex now
        tolerates_true
      exact fun _ st hst => hst.change
  | confirmPayment externalId now =>
      apply settles_of_learns
      apply confirmPayment_learns externalId now tolerates_true
      exact fun _ st hst => hst.change
  | failPayment externalId now =>
      apply settles_of_learns
      apply endPending_learns .failed externalId now tolerates_true
      exact fun _ st hst => hst.change
  | cancelPayment externalId now =>
      apply settles_of_learns
      apply endPending_learns .canceled externalId now tolerates_true
      exact fun _ st hst => hst.change
  | refundPayment paymentId now =>
      apply settles_of_learns
      apply refundPayment_learns paymentId now tolerates_true
      exact fun _ st hst => hst.change
  | createMockTopUp userId creditsAmount =>
      apply settles_of_learns
      apply createMockTopUp_learns env userId creditsAmount tolerates_true
      exact fun _ st hst => hst.change
  | createPromo adminId payload =>
      apply settles_of_learns
      apply createPromo_learns env adminId payload tolerates_true
      exact fun _ st hst => hst.change
  | redeemPromo userId code now =>
      apply settles_of_learns
      apply redeemPromo_learns env userId code now tolerates_true
      exact fun _ st hst => hst.change
  | redeemPromoCode userId code =>
      apply settles_of_learns
      apply redeemPromoCode_learns env userId code tolerates_true
      exact fun _ st hst => hst.change
  | adjustBalance adminId userId amount reason =>
      apply settles_of_learns
      apply adjustBalance_learns adminId userId amount reason tolerates_true
      exact fun _ st hst => hst.change
  | activateSubscription userId plan now =>
      apply settles_of_learns
      apply activateSubscription_learns userId plan now tolerates_true
      exact fun _ st hst => hst.change
  | expireSubscription order adminId userId =>
      apply settles_of_learns
      apply expireSubscription_learns order adminId userId tolerates_true
      exact fun _ st hst => hst.change
  | expireSubscriptions now =>
      apply settles_of_learns
      apply expireSubscriptions_learns now tolerates_true
      exact fun _ st hst => hst.change
  | look reading =>
      exact learns_of_within h (fun _ => trivial) (fun _ hf => hf)
        (fun _ hf => hf) (fun _ hf => hf)
        (fun _ st _ hst a => congrFun hst.change a) fun _ _ _ _ => trivial

end Settles

/-!
# Runs
-/

/-- What a database that is put to use has to satisfy: an empty one does. -/
structure Consistent (price : Int) (s : Store coverAI) : Prop where
  referential : s.db.Referential
  fresh : forall t n, s.seq t ≤ n -> s.db.Free (t, n)
  priced : forall job, job ∈ s.out -> (system price).sends job

section Runs

variable {env : Env} {w w' : World coverAI Unit}
  {keys : Nat -> Set (SeqName × Int)}

theorem Consistent.sound {price : Int} {s : Store coverAI}
    (h : Consistent price s) :
    (system price).Sound (World.init s) (World.init s : World coverAI Unit)
      fun _ => ∅ :=
  Knowledge.sound_start (fun _ => rfl) h.referential h.priced h.fresh

theorem sound_of_operates {w₀ : World coverAI Unit}
    (hprice : 0 < env.predictionCostCredits)
    (h : (system env.predictionCostCredits).Sound w₀ w keys)
    (hrun : World.Reaches (Operates env) w w') :
    exists keys', (system env.predictionCostCredits).Sound w₀ w' keys' := by
  apply h.reaches hrun
  intro u i p hoperates hout
  rcases hoperates with ⟨entry, hadm, rfl⟩
  exact ⟨entry.facts, EntryPoint.facts_subset hadm,
    EntryPoint.settles hprice hout hadm⟩

end Runs
end CoverAI
