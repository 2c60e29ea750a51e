import CoverAI.Bot.Interleaved
import Mathlib.Data.List.Induction

/-!
# Pending links

A callback takes the link of its user and calls for the generation in one turn.
So the link is the last one the user has sent, and no other call gets it.
-/

namespace CoverAI

open Coop

/-!
# Segments of the handlers
-/

/-- What an event does to the pending links. -/
def applyEvent (p : PendingToneStore) : BotEvent -> PendingToneStore
  | .stored userId vacancyUrl => p.set userId vacancyUrl
  | .taken userId _ => p.pop userId
  | .identified _ | .enqueued _ _ _ => p

/-- The handler only answers from now on. -/
def Handler.Quiet : Handler -> Prop
  | .finish | .escape _ => True
  | .answer _ next => next.Quiet
  | _ => False

/-- The handler has done what it does to the links, and its call is made. -/
def Handler.Spent (h : Handler) : Prop :=
  h.Quiet ∨ exists userId vacancyUrl tone k,
    h = .enqueueGeneration userId vacancyUrl tone k ∧
      forall result, (k result).Quiet

/-- The reads of the events are true of the links. -/
def ReadsFrom (p : PendingToneStore) (es : List BotEvent) : Prop :=
  forall userId found, .taken userId found ∈ es ->
    found = p.vacancyUrls userId

/-- What a handler records in its life. -/
def BotRequest.History : BotRequest -> List BotEvent -> Prop
  | .vacancyUrl userId _ url, es =>
      es = [] ∨ es = [.stored userId url] ∨ es = [.enqueued userId url .formal]
  | .toneCallback callback, es =>
      es = [] ∨ exists userId,
        es = [.identified userId, .taken userId none] ∨
          exists url, es =
            [.identified userId, .taken userId (some url),
              .enqueued userId url (toneFromCallback callback.data)]

/-- A handler has not begun, or it has recorded all it will. -/
def BotRequest.AtWork (request : BotRequest) (h : Handler)
    (es : List BotEvent) : Prop :=
  (h = request.handler ∧ es = []) ∨ (h.Spent ∧ request.History es)

section Segments

variable {h : Handler} {p : PendingToneStore}

theorem advance_records (h : Handler) (p : PendingToneStore) :
    (h.advance p).state = (h.advance p).events.foldl applyEvent p := by
  induction h generalizing p with
  | setPending userId vacancyUrl next ih => exact ih _
  | popPending userId k ih => exact ih _ _
  | finish | escape | getOrCreateUser | getProfile | enqueueGeneration
  | answer => rfl

theorem wake_records {input : Resumption} {next : Handler}
    {es : List BotEvent} (h' : h.wake input = some (next, es)) :
    es.foldl applyEvent p = p := by
  unfold Handler.wake at h'
  split at h' <;> cases h' <;> rfl

theorem resume_records : RecordsState Handler.resume applyEvent := by
  intro h input p
  unfold Handler.resume
  cases hwake : h.wake input with
  | none => rfl
  | some woken =>
      simp only
      rw [List.foldl_append, wake_records hwake, advance_records]

theorem advance_quiet (hquiet : h.Quiet) :
    h.advance p = { task := h, state := p, events := [] } := by
  cases h with
  | finish | escape | answer => rfl
  | setPending | popPending | getOrCreateUser | getProfile
  | enqueueGeneration => exact hquiet.elim

theorem wake_spent (hspent : h.Spent) {input : Resumption} {next : Handler}
    {es : List BotEvent} (hwake : h.wake input = some (next, es)) :
    next.Quiet ∧ es = [] := by
  rcases hspent with hquiet | ⟨userId, vacancyUrl, tone, k, rfl, hk⟩
  · cases h with
    | finish | escape => cases hwake
    | answer a rest =>
        cases input <;> cases hwake
        · exact ⟨hquiet, rfl⟩
        · exact ⟨trivial, rfl⟩
    | setPending | popPending | getOrCreateUser | getProfile
    | enqueueGeneration => exact hquiet.elim
  · cases input <;> cases hwake
    · exact ⟨hk _, rfl⟩
    · exact ⟨trivial, rfl⟩

theorem resume_spent (hspent : h.Spent) (input : Resumption) :
    (h.resume input p).task.Spent ∧ (h.resume input p).events = [] := by
  unfold Handler.resume
  cases hwake : h.wake input with
  | none => exact ⟨hspent, rfl⟩
  | some woken =>
      rcases wake_spent hspent hwake with ⟨hquiet, hnone⟩
      simp only [hnone, advance_quiet hquiet]
      exact ⟨Or.inl hquiet, rfl⟩

/-- The segment leaves the handler as it was, or is all the handler ever
records. -/
def FirstSegment (request : BotRequest) (p : PendingToneStore)
    (segment : Segment Handler PendingToneStore BotEvent) : Prop :=
  (segment.task = request.handler ∧ segment.events = []) ∨
    (segment.task.Spent ∧ request.History segment.events ∧
      ReadsFrom p segment.events)

theorem readsFrom_nil (p : PendingToneStore) : ReadsFrom p [] := by
  intro userId found hmem
  cases hmem

theorem readsFrom_taken {userId : Int} {found : Option String}
    {rest : List BotEvent} (hfound : p.vacancyUrls userId = found)
    (hrest : forall v f, .taken v f ∉ rest) :
    ReadsFrom p (.identified userId :: .taken userId found :: rest) := by
  intro v f hmem
  rcases List.mem_cons.mp hmem with hfirst | hmem
  · cases hfirst
  · rcases List.mem_cons.mp hmem with htaken | hmem
    · cases htaken
      exact hfound.symm
    · exact (hrest v f hmem).elim

theorem firstSegment_toneCallback (callback : IncomingCallback)
    (input : Resumption) (p : PendingToneStore) :
    FirstSegment (.toneCallback callback) p
      ((handleToneCallback callback).resume input p) := by
  cases input with
  | profile | queued | answered => exact Or.inl ⟨rfl, rfl⟩
  | aborted e =>
      exact Or.inr ⟨Or.inl trivial, Or.inl rfl, readsFrom_nil p⟩
  | user result =>
      cases result with
      | error e =>
          exact Or.inr ⟨Or.inl trivial, Or.inl rfl, readsFrom_nil p⟩
      | ok entry =>
          right
          unfold handleToneCallback Handler.resume
          simp only [Handler.wake, Handler.advance]
          cases hfound : p.vacancyUrls entry.1 with
          | none =>
              exact ⟨Or.inl trivial, Or.inr ⟨entry.1, Or.inl rfl⟩,
                readsFrom_taken hfound (by simp [Handler.advance])⟩
          | some url =>
              refine ⟨Or.inr ⟨_, _, _, _, rfl, ?_⟩,
                Or.inr ⟨entry.1, Or.inr ⟨url, rfl⟩⟩,
                readsFrom_taken hfound (by simp [Handler.advance])⟩
              intro result
              split
              · trivial
              · trivial
              · trivial
              · change Handler.Quiet (if _ then _ else _)
                split <;> trivial

theorem readsFrom_of_no_taken {es : List BotEvent}
    (h : forall v f, .taken v f ∉ es) : ReadsFrom p es :=
  fun v f hmem => (h v f hmem).elim

theorem firstSegment_vacancyUrl (userId : Int) (user : User) (url : String)
    (input : Resumption) (p : PendingToneStore) :
    FirstSegment (.vacancyUrl userId user url) p
      ((handleVacancyUrl userId user url).resume input p) := by
  cases input with
  | user result => cases result <;> exact Or.inl ⟨rfl, rfl⟩
  | queued | answered => exact Or.inl ⟨rfl, rfl⟩
  | aborted e =>
      exact Or.inr ⟨Or.inl trivial, Or.inl rfl, readsFrom_nil p⟩
  | profile result =>
      right
      unfold handleVacancyUrl Handler.resume
      simp only [Handler.wake]
      split
      · exact ⟨Or.inl trivial, Or.inl rfl, readsFrom_nil p⟩
      · exact ⟨Or.inl trivial, Or.inl rfl, readsFrom_nil p⟩
      · split
        · exact ⟨Or.inl trivial, Or.inr (Or.inl rfl),
            readsFrom_of_no_taken (by simp [Handler.advance])⟩
        · refine ⟨Or.inr ⟨_, _, _, _, rfl, ?_⟩, Or.inr (Or.inr rfl),
            readsFrom_of_no_taken (by simp [Handler.advance])⟩
          intro result
          split <;> trivial

theorem firstSegment (request : BotRequest) (input : Resumption)
    (p : PendingToneStore) :
    FirstSegment request p (request.handler.resume input p) := by
  cases request with
  | vacancyUrl userId user url =>
      exact firstSegment_vacancyUrl userId user url input p
  | toneCallback callback => exact firstSegment_toneCallback callback input p

end Segments

/-!
# Runs
-/

section Runs

variable {requests : List BotRequest} {schedule : List (Nat × Resumption)}

def BotAsserts (requests : List BotRequest) (i : Nat) (h : Handler)
    (es : List BotEvent) : Prop :=
  exists request, requests[i]? = some request ∧ request.AtWork h es

theorem atWork_resume {request : BotRequest} {h : Handler}
    {es : List BotEvent} (hwork : request.AtWork h es) (input : Resumption)
    (p : PendingToneStore) :
    request.AtWork (h.resume input p).task
      (es ++ (h.resume input p).events) := by
  rcases hwork with ⟨rfl, rfl⟩ | ⟨hspent, hhistory⟩
  · rcases firstSegment request input p with ⟨htask, hevents⟩ |
      ⟨hspent, hhistory, _⟩
    · exact Or.inl ⟨htask, hevents⟩
    · exact Or.inr ⟨hspent, hhistory⟩
  · rcases resume_spent hspent input with ⟨hspent', hevents⟩
    rw [hevents, List.append_nil]
    exact Or.inr ⟨hspent', hhistory⟩

theorem keepsAssertion : KeepsAssertion Handler.resume (BotAsserts requests) := by
  intro i h es input p hasserts
  rcases hasserts with ⟨request, hrequest, hwork⟩
  exact ⟨request, hrequest, atWork_resume hwork input p⟩

theorem traced_botRun (requests : List BotRequest)
    (schedule : List (Nat × Resumption)) :
    Traced Handler.resume applyEvent (BotAsserts requests)
      PendingToneStore.empty (botRun requests schedule) := by
  apply Traced.run resume_records keepsAssertion
  apply traced_start
  intro i h hget
  rw [List.getElem?_map] at hget
  rcases Option.map_eq_some_iff.mp hget with ⟨request, hrequest, rfl⟩
  exact ⟨request, hrequest, Or.inl ⟨rfl, rfl⟩⟩

def pendingAfter (log : List (Turn BotEvent)) : PendingToneStore :=
  replay applyEvent PendingToneStore.empty log

/-- A turn of a handler records nothing, or all the handler ever records, and
then its reads are true. -/
theorem turn_cases {before after : List (Turn BotEvent)} {i : Nat}
    {es : List BotEvent}
    (h : (botRun requests schedule).log = before ++ (i, es) :: after) :
    exists request, requests[i]? = some request ∧
      (es = [] ∨ request.History es ∧ ReadsFrom (pendingAfter before) es) := by
  rcases (traced_botRun requests schedule).turns before i es after h with
    ⟨handler, input, ⟨request, hrequest, hwork⟩, rfl⟩
  refine ⟨request, hrequest, ?_⟩
  rcases hwork with ⟨rfl, _⟩ | ⟨hspent, _⟩
  · rcases firstSegment request input (pendingAfter before) with
      ⟨_, hevents⟩ | ⟨_, hhistory, hreads⟩
    · exact Or.inl hevents
    · exact Or.inr ⟨hhistory, hreads⟩
  · exact Or.inl (resume_spent hspent input).right

end Runs

/-!
# The last link
-/

section LastLink

/-- The event concerns the link of the user. -/
def BotEvent.Touches (userId : Int) : BotEvent -> Prop
  | .stored v _ | .taken v _ => v = userId
  | .identified _ | .enqueued _ _ _ => False

def Untouched (userId : Int) (es : List BotEvent) : Prop :=
  forall e, e ∈ es -> ¬ e.Touches userId

theorem vacancyUrls_set_self (p : PendingToneStore) (userId : Int)
    (url : String) : (p.set userId url).vacancyUrls userId = some url :=
  Function.update_self _ _ _

theorem vacancyUrls_pop_self (p : PendingToneStore) (userId : Int) :
    (p.pop userId).vacancyUrls userId = none :=
  Function.update_self _ _ _

theorem applyEvent_of_untouched {e : BotEvent} {userId : Int}
    (h : ¬ e.Touches userId) (p : PendingToneStore) :
    (applyEvent p e).vacancyUrls userId = p.vacancyUrls userId := by
  cases e with
  | identified | enqueued => rfl
  | stored v url => exact Function.update_of_ne (fun heq => h heq.symm) _ _
  | taken v found => exact Function.update_of_ne (fun heq => h heq.symm) _ _

theorem foldl_of_untouched {es : List BotEvent} {userId : Int}
    (h : Untouched userId es) (p : PendingToneStore) :
    (es.foldl applyEvent p).vacancyUrls userId = p.vacancyUrls userId := by
  induction es generalizing p with
  | nil => rfl
  | cons e es ih =>
      rw [Untouched, List.forall_mem_cons] at h
      rw [List.foldl_cons, ih h.right, applyEvent_of_untouched h.left]

theorem untouched_nil (userId : Int) : Untouched userId [] :=
  List.forall_mem_nil _

/-- A turn leaves a link pending only by storing it. -/
theorem stored_of_pending {request : BotRequest} {es : List BotEvent}
    (hhistory : request.History es) {userId : Int} {url : String}
    {p : PendingToneStore} (htouched : ¬ Untouched userId es)
    (h : (es.foldl applyEvent p).vacancyUrls userId = some url) :
    es = [.stored userId url] := by
  cases request with
  | vacancyUrl v user link =>
      rcases hhistory with rfl | rfl | rfl
      · exact (htouched (untouched_nil userId)).elim
      · have hv : v = userId := by
          simpa [Untouched, BotEvent.Touches] using htouched
        rw [hv] at h ⊢
        rw [Option.some.inj ((vacancyUrls_set_self p userId link).symm.trans h)]
      · simp [Untouched, BotEvent.Touches] at htouched
  | toneCallback callback =>
      rcases hhistory with rfl | ⟨v, rfl | ⟨link, rfl⟩⟩
      · exact (htouched (untouched_nil userId)).elim
      · have hv : v = userId := by
          simpa [Untouched, BotEvent.Touches] using htouched
        rw [hv] at h
        cases (vacancyUrls_pop_self p userId).symm.trans h
      · have hv : v = userId := by
          simpa [Untouched, BotEvent.Touches] using htouched
        rw [hv] at h
        cases (vacancyUrls_pop_self p userId).symm.trans h

/-- The last turn that has concerned the user's link, if it is pending, has
stored it. -/
theorem exists_last_store {userId : Int} {url : String}
    {log : List (Turn BotEvent)}
    (hlog : forall turn, turn ∈ log -> turn.2 = [] ∨
      exists request : BotRequest, request.History turn.2)
    (h : (pendingAfter log).vacancyUrls userId = some url) :
    exists before i after, log = before ++ (i, [.stored userId url]) :: after ∧
      forall turn, turn ∈ after -> Untouched userId turn.2 := by
  induction log using List.reverseRecOn with
  | nil => cases h
  | append_singleton log turn ih =>
      rcases turn with ⟨i, es⟩
      have hrest := fun t ht => hlog t (List.mem_append_left _ ht)
      have hlast := hlog (i, es) (List.mem_append_right _ List.mem_cons_self)
      rw [pendingAfter, replay_append] at h
      by_cases huntouched : Untouched userId es
      · rw [foldl_of_untouched huntouched] at h
        rcases ih hrest h with ⟨before, j, after, rfl, hafter⟩
        refine ⟨before, j, after ++ [(i, es)], by simp, ?_⟩
        intro turn hturn
        rcases List.mem_append.mp hturn with hold | hnew
        · exact hafter turn hold
        · rw [List.mem_singleton.mp hnew]
          exact huntouched
      · rcases hlast with hnone | ⟨request, hhistory⟩
        · simp only at hnone
          rw [hnone] at huntouched
          exact (huntouched (untouched_nil userId)).elim
        · have hes : es = [.stored userId url] :=
            stored_of_pending hhistory huntouched h
          rw [hes]
          exact ⟨log, i, [], rfl, List.forall_mem_nil _⟩

end LastLink

/-!
# Every interleaving
-/

section ConsumedOnce

/-- In one turn, the link of the user is taken and its generation is called
for. -/
def CallsAt (log : List (Turn BotEvent)) (q i : Nat) (userId : Int)
    (url : String) (tone : Tone) : Prop :=
  log[q]? = some (i, [.identified userId, .taken userId (some url),
    .enqueued userId url tone])

/-- The first turn stores the link of the user, and no turn between the two
concerns it. -/
structure Carries (log : List (Turn BotEvent)) (p q : Nat) (userId : Int)
    (url : String) : Prop where
  stored : exists i, log[p]? = some (i, [.stored userId url])
  earlier : p < q
  between : forall r turn, p < r -> r < q -> log[r]? = some turn ->
    Untouched userId turn.2

/-- The calls of the callbacks carry the last link of their user, no stored
link leads to two of them, and a callback touches the link of its own user
only. -/
structure ConsumedOnce (requests : List BotRequest) (P : BotPool) : Prop where
  latest : forall i callback q es userId url tone,
    requests[i]? = some (.toneCallback callback) ->
      P.log[q]? = some (i, es) -> .enqueued userId url tone ∈ es ->
        CallsAt P.log q i userId url tone ∧
          exists p, Carries P.log p q userId url
  once : forall p q q' i i' userId userId' url url' tone tone',
    CallsAt P.log q i userId url tone ->
      CallsAt P.log q' i' userId' url' tone' ->
        Carries P.log p q userId url -> Carries P.log p q' userId' url' ->
          q = q'
  stored : forall (i q : Nat) es userId url, P.log[q]? = some (i, es) ->
    BotEvent.stored userId url ∈ es ->
      exists user, requests[i]? = some (BotRequest.vacancyUrl userId user url)
  history : forall i callback,
    requests[i]? = some (.toneCallback callback) ->
      (BotRequest.toneCallback callback).History (own i P.log)
  others : forall choice callback userId,
    requests[choice.1]? = some (.toneCallback callback) ->
      (P.turn Handler.resume choice).state.vacancyUrls userId =
          P.state.vacancyUrls userId ∨
        .identified userId ∈
          own choice.1 (P.turn Handler.resume choice).log

variable {requests : List BotRequest} {schedule : List (Nat × Resumption)}

theorem not_untouched_call {userId : Int} {url : String} {tone : Tone} :
    ¬ Untouched userId [.identified userId, .taken userId (some url),
      .enqueued userId url tone] := by
  simp [Untouched, BotEvent.Touches]

theorem carries_unique {log : List (Turn BotEvent)} {p q q' i i' : Nat}
    {userId userId' : Int} {url url' : String} {tone tone' : Tone}
    (hcall : CallsAt log q i userId url tone)
    (hcall' : CallsAt log q' i' userId' url' tone')
    (h : Carries log p q userId url) (h' : Carries log p q' userId' url') :
    q = q' := by
  rcases h.stored with ⟨j, hj⟩
  rcases h'.stored with ⟨j', hj'⟩
  cases hj.symm.trans hj'
  rcases Nat.lt_trichotomy q q' with hlt | heq | hgt
  · exact (not_untouched_call (h'.between q _ h.earlier hlt hcall)).elim
  · exact heq
  · exact (not_untouched_call (h.between q' _ h'.earlier hgt hcall')).elim

theorem shaped_of_mem {before after : List (Turn BotEvent)}
    (h : (botRun requests schedule).log = before ++ after)
    {turn : Turn BotEvent} (hturn : turn ∈ before) :
    turn.2 = [] ∨ exists request : BotRequest, request.History turn.2 := by
  rcases List.append_of_mem hturn with ⟨b, a, rfl⟩
  rw [List.append_assoc, List.cons_append] at h
  rcases turn_cases h with ⟨request, _, hnone | ⟨hhistory, _⟩⟩
  · exact Or.inl hnone
  · exact Or.inr ⟨request, hhistory⟩

theorem calls_latest {i q : Nat} {callback : IncomingCallback}
    {es : List BotEvent} {userId : Int} {url : String} {tone : Tone}
    (hrequest : requests[i]? = some (.toneCallback callback))
    (hq : (botRun requests schedule).log[q]? = some (i, es))
    (hmem : .enqueued userId url tone ∈ es) :
    CallsAt (botRun requests schedule).log q i userId url tone ∧
      exists p, Carries (botRun requests schedule).log p q userId url := by
  rcases exists_split _ hq with ⟨before, after, hlog, rfl⟩
  rcases turn_cases hlog with ⟨request, hsame, hcases⟩
  cases hrequest.symm.trans hsame
  rcases hcases with rfl | ⟨rfl | ⟨v, rfl | ⟨link, rfl⟩⟩, hreads⟩
  · cases hmem
  · cases hmem
  · simp at hmem
  · simp only [List.mem_cons, reduceCtorEq, BotEvent.enqueued.injEq,
      List.not_mem_nil, or_false, false_or] at hmem
    rcases hmem with ⟨rfl, rfl, rfl⟩
    refine ⟨hq, ?_⟩
    have hpending : (pendingAfter before).vacancyUrls userId = some url :=
      (hreads userId (some url) (by simp)).symm
    have hshaped := fun turn hturn =>
      @shaped_of_mem requests schedule before _ hlog turn hturn
    rcases exists_last_store hshaped hpending with ⟨b, j, mid, rfl, hmid⟩
    rw [hlog]
    exists b.length
    constructor
    · exists j
      rw [List.append_assoc, List.cons_append]
      exact getElem?_split b _ _
    · simp
    · intro r turn hlow hhigh hturn
      exact hmid turn (mem_between hlow hhigh hturn)

theorem stored_by_owner {i q : Nat} {es : List BotEvent} {userId : Int}
    {url : String} (hq : (botRun requests schedule).log[q]? = some (i, es))
    (hmem : .stored userId url ∈ es) :
    exists user, requests[i]? =
      some (BotRequest.vacancyUrl userId user url) := by
  rcases exists_split _ hq with ⟨before, after, hlog, rfl⟩
  rcases turn_cases hlog with ⟨request, hrequest, rfl | ⟨hhistory, _⟩⟩
  · cases hmem
  · cases request with
    | vacancyUrl v user link =>
        rcases hhistory with rfl | rfl | rfl
        · cases hmem
        · cases List.mem_singleton.mp hmem
          exact ⟨user, hrequest⟩
        · simp at hmem
    | toneCallback callback =>
        rcases hhistory with rfl | ⟨v, rfl | ⟨link, rfl⟩⟩
        · cases hmem
        · simp at hmem
        · simp at hmem

theorem history_of_callback {i : Nat} {callback : IncomingCallback}
    (hrequest : requests[i]? = some (.toneCallback callback)) :
    (BotRequest.toneCallback callback).History
      (own i (botRun requests schedule).log) := by
  have hlength : i < (botRun requests schedule).tasks.length := by
    rw [botRun, Pool.length_run]
    change i < (requests.map BotRequest.handler).length
    rw [List.length_map]
    exact (List.getElem?_eq_some_iff.mp hrequest).1
  rcases (traced_botRun requests schedule).tasks i _
    (List.getElem?_eq_getElem hlength) with ⟨request, hsame, hwork⟩
  cases hrequest.symm.trans hsame
  rcases hwork with ⟨_, hnone⟩ | ⟨_, hhistory⟩
  · rw [hnone]
    exact Or.inl rfl
  · exact hhistory

theorem untouched_or_identified {callback : IncomingCallback}
    {es own : List BotEvent}
    (hhistory : (BotRequest.toneCallback callback).History es) (userId : Int)
    (p : PendingToneStore) :
    (es.foldl applyEvent p).vacancyUrls userId = p.vacancyUrls userId ∨
      .identified userId ∈ own ++ es := by
  rcases hhistory with rfl | ⟨v, hes⟩
  · exact Or.inl rfl
  · by_cases hv : v = userId
    · right
      apply List.mem_append_right
      rcases hes with rfl | ⟨link, rfl⟩ <;> simp [hv]
    · left
      apply foldl_of_untouched
      rcases hes with rfl | ⟨link, rfl⟩ <;>
        simp [Untouched, BotEvent.Touches, hv]

theorem others_untouched {choice : Nat × Resumption}
    {callback : IncomingCallback}
    (hrequest : requests[choice.1]? = some (.toneCallback callback))
    (userId : Int) :
    ((botRun requests schedule).turn Handler.resume
        choice).state.vacancyUrls userId =
        (botRun requests schedule).state.vacancyUrls userId ∨
      .identified userId ∈ own choice.1
        ((botRun requests schedule).turn Handler.resume choice).log := by
  unfold Pool.turn
  cases htask : (botRun requests schedule).tasks[choice.1]? with
  | none => exact Or.inl rfl
  | some h =>
      simp only [resume_records h choice.2 (botRun requests schedule).state,
        own_append_self]
      rcases (traced_botRun requests schedule).tasks choice.1 h htask with
        ⟨request, hsame, hwork⟩
      cases hrequest.symm.trans hsame
      rcases hwork with ⟨rfl, _⟩ | ⟨hspent, _⟩
      · rcases firstSegment (.toneCallback callback) choice.2
          (botRun requests schedule).state with ⟨_, hnone⟩ | ⟨_, hhistory, _⟩
        · rw [hnone]
          exact Or.inl rfl
        · exact untouched_or_identified hhistory userId _
      · rw [(resume_spent hspent choice.2).right]
        exact Or.inl rfl

theorem pending_links_consumed_once (requests : List BotRequest)
    (schedule : List (Nat × Resumption)) :
    ConsumedOnce requests (botRun requests schedule) where
  latest := fun _ _ _ _ _ _ _ hrequest hq hmem =>
    calls_latest hrequest hq hmem
  once := fun _ _ _ _ _ _ _ _ _ _ _ hcall hcall' h h' =>
    carries_unique hcall hcall' h h'
  stored := fun _ _ _ _ _ hq hmem => stored_by_owner hq hmem
  history := fun _ _ hrequest => history_of_callback hrequest
  others := fun _ _ userId hrequest => others_untouched hrequest userId

end ConsumedOnce

/-- A double click while a link is pending. -/
example (user : User) (hpaid : user.plan = .pro) (profile : ResumeProfile)
    (callback : IncomingCallback) :
    (botRun [.vacancyUrl 7 user "link", .toneCallback callback,
        .toneCallback callback]
      [(0, .profile (.ok profile)), (2, .user (.ok (7, user))),
        (1, .user (.ok (7, user))), (2, .queued (.ok ()))]).log =
      [(0, [.stored 7 "link"]),
        (2, [.identified 7, .taken 7 (some "link"),
          .enqueued 7 "link" (toneFromCallback callback.data)]),
        (1, [.identified 7, .taken 7 none]), (2, [])] := by
  cases user
  cases hpaid
  rfl

end CoverAI
