import CoverAI.Txn.Interleaving

/-!
# Sessions that go through stages

The change a session has made so far is a function of the stage it has come to,
and so are the key it has drawn from a sequence and the locks it relies on.  A
stage also says what the committed database is like for as long as the session
is at it: other sessions, with other keys and other locks, must not disturb
that.  The run theorem then takes the committed database apart into the changes
of the sessions that have ended normally, each made where its stage fits.
-/

namespace Txn

structure Staging (S : Signature) (σ : Type) where
  blank : σ
  owns : σ -> S.Db -> S.Db
  holds : σ -> List S.Lock
  key : σ -> Option Int
  seq : S.Seq
  Fits : σ -> S.Db -> Prop
  /-- The keys in the database are below the bound. -/
  Below : Int -> S.Db -> Prop
  blank_owns : forall db, owns blank db = db
  blank_holds : holds blank = []
  blank_key : key blank = none
  blank_fits : forall db, Fits blank db
  fits_owns : forall {st st' db}, Fits st db -> Fits st' db ->
    (forall n, key st = some n -> key st' ≠ some n) ->
    (forall r, r ∈ holds st -> r ∉ holds st') -> Fits st (owns st' db)
  below_mono : forall {m n db}, m ≤ n -> Below m db -> Below n db
  below_owns : forall {st db m}, Fits st db -> Below m db ->
    (forall n, key st = some n -> n < m) -> Below m (owns st db)

namespace Staging

variable {S : Signature} {α β σ : Type} (T : Staging S σ)

/-- A flush that goes through leads from one stage to another. -/
structure Flushes (rs : List S.Lock) (ws : List (Write S)) (st st' : σ) :
    Prop where
  owns : forall db, T.owns st' db = Write.applyAll ws (T.owns st db)
  holds : forall r, r ∈ T.holds st' -> r ∈ T.holds st ∨ r ∈ rs
  key : T.key st' = T.key st
  fits : forall db d, T.Fits st db ->
    Write.attempt ws (T.owns st db) = .ok d -> T.Fits st' db

structure Draws (n : Int) (st st' : σ) : Prop where
  undrawn : T.key st = none
  owns : forall db, T.owns st' db = T.owns st db
  holds : forall r, r ∈ T.holds st' -> r ∈ T.holds st
  key : T.key st' = some n
  fits : forall db, T.Fits st db -> T.Below n db -> T.Fits st' db

/-- The program goes from stage to stage and ends at one its result allows. -/
def Follows (ends : α -> σ -> Prop) : σ -> Program S α -> Prop
  | st, .ret a => ends a st
  | _, .raise _ => True
  | st, .read k => forall db, T.Fits st db -> Follows ends st (k (T.owns st db))
  | st, .lock _ k =>
      forall db, T.Fits st db -> Follows ends st (k (T.owns st db))
  | st, .flush rs ws k =>
      (exists st', T.Flushes rs ws st st' ∧ Follows ends st' (k (.ok ()))) ∧
        forall w, w ∈ ws -> forall db e, w.violation db = some e ->
          Follows ends st (k (.error e))
  | st, .nextval t k =>
      forall n,
        if t = T.seq then exists st', T.Draws n st st' ∧ Follows ends st' (k n)
        else Follows ends st (k n)
  | st, .emit _ k => Follows ends st k

/-!
# Rules for statements
-/

section Rules

variable {T} {ends : α -> σ -> Prop} {st : σ}

theorem follows_ask_bind {q : S.Db -> β} {f : β -> Program S α}
    (h : forall db, T.Fits st db -> T.Follows ends st (f (q (T.owns st db)))) :
    T.Follows ends st ((Program.ask q).bind f) :=
  h

theorem follows_forUpdate_bind {r : S.Lock} {q : S.Db -> β}
    {f : β -> Program S α}
    (h : forall db, T.Fits st db -> T.Follows ends st (f (q (T.owns st db)))) :
    T.Follows ends st ((Program.forUpdate r q).bind f) :=
  h

theorem follows_draw_bind {f : Int -> Program S α}
    (h : forall n, exists st', T.Draws n st st' ∧ T.Follows ends st' (f n)) :
    T.Follows ends st ((Program.draw T.seq).bind f) :=
  fun n => (if_pos rfl).mpr (h n)

theorem follows_flushUnit_bind {st' : σ} {rs : List S.Lock}
    {ws : List (Write S)} {f : Unit -> Program S α}
    (hws : T.Flushes rs ws st st') (h : T.Follows ends st' (f ())) :
    T.Follows ends st ((Program.flushUnit rs ws).bind f) :=
  ⟨⟨st', hws, h⟩, fun _ _ _ _ _ => trivial⟩

end Rules

/-!
# Reachable worlds
-/

/-- The database after the changes of stages, each made where it fits. -/
inductive Commits (db₀ : S.Db) : List σ -> S.Db -> Prop where
  | start : Commits db₀ [] db₀
  | step {history : List σ} {db : S.Db} {st : σ}
      (h : Commits db₀ history db) (hfits : T.Fits st db) :
      Commits db₀ (history ++ [st]) (T.owns st db)

/-- A session at a stage. -/
def Conforms (ends : α -> σ -> Prop) (w : World S α) (i : Nat) (st : σ) :
    Process S α -> Prop
  | .idle => st = T.blank
  | .running own p =>
      (forall db, own db = T.owns st db) ∧ T.Follows ends st p ∧
        T.Fits st w.committed ∧ forall r, r ∈ T.holds st -> w.holder r = some i
  | .done (.ok a) => ends a st
  | .done (.error _) => True

structure Staged (ends : α -> σ -> Prop) (w₀ w : World S α)
    (stage : Nat -> σ) (history : List (Nat × σ)) : Prop where
  conforms : forall i, T.Conforms ends w i (stage i) (w.procs i)
  below : T.Below (w.seq T.seq) w.committed
  bounds : forall i n, T.key (stage i) = some n -> n < w.seq T.seq
  apart : forall i j n, T.key (stage i) = some n -> T.key (stage j) = some n ->
    i = j
  succeeded : forall i st, (i, st) ∈ history <->
    (w.procs i).succeeded = true ∧ stage i = st
  nodup : (history.map Prod.fst).Nodup
  committed : T.Commits w₀.committed (history.map Prod.snd) w.committed

section Runs

variable {T} {ends : α -> σ -> Prop} {w₀ w w' : World S α}
  {stage : Nat -> σ} {history : List (Nat × σ)} {i : Nat} {st : σ}

theorem staged_start (hidle : forall i, w₀.procs i = .idle)
    (hbelow : T.Below (w₀.seq T.seq) w₀.committed) :
    T.Staged ends w₀ w₀ (fun _ => T.blank) [] where
  conforms := by
    intro i
    rw [hidle i]
    rfl
  below := hbelow
  bounds := by
    intro i n h
    rw [T.blank_key] at h
    cases h
  apart := by
    intro i j n h
    rw [T.blank_key] at h
    cases h
  succeeded := by
    intro i st
    rw [hidle i]
    constructor
    · intro h
      cases h
    · intro h
      cases h.left
  nodup := List.nodup_nil
  committed := Commits.start

/-- The other sessions are where they were, if their locks are. -/
theorem Conforms.congr {q : Process S α} {j : Nat}
    (h : T.Conforms ends w j st q)
    (hcommitted : w'.committed = w.committed)
    (hholder : forall r, w.holder r = some j -> w'.holder r = some j) :
    T.Conforms ends w' j st q := by
  cases q with
  | idle => exact h
  | running own p =>
      rcases h with ⟨hown, hp, hfits, hholds⟩
      rw [← hcommitted] at hfits
      exact ⟨hown, hp, hfits, fun r hr => hholder r (hholds r hr)⟩
  | done res =>
      cases res with
      | ok a => exact h
      | error e => trivial

/-- A statement that leads the session to another stage: the other sessions do
not see its effect yet. -/
theorem Staged.leads {u : World S α} {q q' : Process S α}
    (h : T.Staged ends w₀ w stage history) (hu : w.HiddenFrom i u)
    (hproc : w.procs i = q) (hbefore : q.succeeded = false)
    (hafter : q'.succeeded = false) (hseq : w.seq T.seq ≤ u.seq T.seq)
    (hkey : forall n, T.key st = some n -> T.key (stage i) = some n ∨
      w.seq T.seq ≤ n ∧ n < u.seq T.seq)
    (hself : T.Conforms ends u i st q') :
    T.Staged ends w₀ (u.setProc i q') (Function.update stage i st) history where
  conforms := by
    intro j
    by_cases hj : j = i
    · rw [hj, Function.update_self, World.setProc_procs_self]
      exact hself.congr rfl fun _ hr => hr
    · rw [Function.update_of_ne hj, World.setProc_procs_of_ne hj, hu.procs]
      exact (h.conforms j).congr hu.committed (hu.holder j hj)
  below := by
    rw [World.setProc_committed, hu.committed]
    exact T.below_mono hseq h.below
  bounds := by
    intro j n hn
    by_cases hj : j = i
    · rw [hj, Function.update_self] at hn
      rcases hkey n hn with hold | hnew
      · exact Int.lt_of_lt_of_le (h.bounds i n hold) hseq
      · exact hnew.right
    · rw [Function.update_of_ne hj] at hn
      exact Int.lt_of_lt_of_le (h.bounds j n hn) hseq
  apart := World.apart_update h.apart h.bounds
    fun n hn => (hkey n hn).imp_right And.left
  succeeded := by
    intro j st'
    rw [h.succeeded]
    by_cases hj : j = i
    · rw [hj, hproc, hbefore, World.setProc_procs_self, hafter]
      simp
    · rw [World.setProc_procs_of_ne hj, hu.procs, Function.update_of_ne hj]
  nodup := h.nodup
  committed := by
    rw [World.setProc_committed, hu.committed]
    exact h.committed

/-- A statement that leaves the session at its stage. -/
theorem Staged.remains {u : World S α} {q q' : Process S α}
    (h : T.Staged ends w₀ w stage history) (hu : w.HiddenFrom i u)
    (hproc : w.procs i = q) (hbefore : q.succeeded = false)
    (hafter : q'.succeeded = false) (hseq : w.seq T.seq ≤ u.seq T.seq)
    (hself : T.Conforms ends u i (stage i) q') :
    T.Staged ends w₀ (u.setProc i q') stage history := by
  have hleads := h.leads hu hproc hbefore hafter hseq (fun _ hn => Or.inl hn)
    hself
  rwa [Function.update_eq_self] at hleads

/-- A commit makes the change of the session visible to the others. -/
theorem Staged.commits {own : S.Db -> S.Db} {a : α}
    (h : T.Staged ends w₀ w stage history)
    (hproc : w.procs i = .running own (.ret a)) :
    T.Staged ends w₀ (((w.commit own).release i).setProc i (.done (.ok a)))
      stage (history ++ [(i, stage i)]) := by
  have hself := h.conforms i
  rw [hproc] at hself
  rcases hself with ⟨hown, hends, hfits, hholds⟩
  have hnotin : i ∉ history.map Prod.fst := by
    intro hi
    rcases List.mem_map.mp hi with ⟨⟨j, st⟩, hmem, rfl⟩
    have hsucceeded := ((h.succeeded j st).mp hmem).left
    rw [hproc] at hsucceeded
    cases hsucceeded
  refine ⟨?_, ?_, h.bounds, h.apart, ?_, ?_, ?_⟩
  · intro j
    by_cases hj : j = i
    · rw [hj, World.setProc_procs_self]
      exact hends
    · rw [World.setProc_procs_of_ne hj]
      have hconforms := h.conforms j
      change T.Conforms ends _ j (stage j) (w.procs j)
      cases hq : w.procs j with
      | idle =>
          rw [hq] at hconforms
          exact hconforms
      | done res =>
          rw [hq] at hconforms
          cases res with
          | ok b => exact hconforms
          | error e => trivial
      | running own' p =>
          rw [hq] at hconforms
          rcases hconforms with ⟨hown', hp, hfits', hholds'⟩
          refine ⟨hown', hp, ?_, ?_⟩
          · change T.Fits (stage j) (own w.committed)
            rw [hown]
            apply T.fits_owns hfits' hfits
            · intro n hn hn'
              exact hj (h.apart j i n hn hn')
            · intro r hr hr'
              exact hj (Option.some.inj ((hholds' r hr).symm.trans (hholds r hr')))
          · intro r hr
            exact (World.release_holder_other hj r).mpr (hholds' r hr)
  · change T.Below (w.seq T.seq) (own w.committed)
    rw [hown]
    exact T.below_owns hfits h.below (h.bounds i)
  · intro j st
    rw [List.mem_append, List.mem_singleton, h.succeeded]
    by_cases hj : j = i
    · subst hj
      rw [World.setProc_procs_self, hproc]
      simp [Process.succeeded, eq_comm]
    · rw [World.setProc_procs_of_ne hj]
      simp [hj]
  · rw [List.map_append, List.nodup_append]
    refine ⟨h.nodup, by simp, ?_⟩
    intro j hj k hk heq
    rw [heq, List.mem_singleton.mp hk] at hj
    exact hnotin hj
  · have hcommits := h.committed.step hfits
    rw [List.map_append]
    change T.Commits _ _ (own w.committed)
    rw [hown]
    exact hcommits

section Statements

variable {own : S.Db -> S.Db}

theorem Staged.running {p : Program S α}
    (h : T.Staged ends w₀ w stage history)
    (hproc : w.procs i = .running own p) :
    (forall db, own db = T.owns (stage i) db) ∧ T.Follows ends (stage i) p ∧
      T.Fits (stage i) w.committed ∧
      forall r, r ∈ T.holds (stage i) -> w.holder r = some i := by
  have hconforms := h.conforms i
  rw [hproc] at hconforms
  exact hconforms

theorem holds_acquire {rs : List S.Lock}
    (h : forall r, r ∈ T.holds st -> w.holder r = some i ∨ r ∈ rs) :
    forall r, r ∈ T.holds st -> (w.acquire i rs).holder r = some i := by
  intro r hr
  rw [World.acquire_holder]
  split
  · rfl
  · rename_i hnew
    exact (h r hr).resolve_right hnew

theorem Staged.start {p : Program S α}
    (h : T.Staged ends w₀ w stage history) (hproc : w.procs i = .idle)
    (hp : T.Follows ends T.blank p) :
    T.Staged ends w₀ (w.setProc i (.running id p)) stage history := by
  have hblank := h.conforms i
  rw [hproc] at hblank
  change stage i = T.blank at hblank
  refine h.remains (World.HiddenFrom.refl i w) hproc rfl rfl (Int.le_refl _) ?_
  rw [hblank]
  refine ⟨fun db => (T.blank_owns db).symm, hp, T.blank_fits _, ?_⟩
  rw [T.blank_holds]
  intro r hr
  cases hr

theorem Staged.ends_in_error {p : Program S α} (e : S.Exc)
    (h : T.Staged ends w₀ w stage history)
    (hproc : w.procs i = .running own p) :
    T.Staged ends w₀ ((w.release i).setProc i (.done (.error e))) stage
      history :=
  h.remains (World.hiddenFrom_release w i) hproc rfl rfl (Int.le_refl _) trivial

theorem Staged.read {k : S.Db -> Program S α}
    (h : T.Staged ends w₀ w stage history)
    (hproc : w.procs i = .running own (.read k)) :
    T.Staged ends w₀ (w.setProc i (.running own (k (own w.committed)))) stage
      history := by
  rcases h.running hproc with ⟨hown, hk, hfits, hholds⟩
  have hfollows := hk w.committed hfits
  rw [← hown] at hfollows
  exact h.remains (World.HiddenFrom.refl i w) hproc rfl rfl (Int.le_refl _)
    ⟨hown, hfollows, hfits, hholds⟩

theorem Staged.lock {r : S.Lock} {k : S.Db -> Program S α}
    (h : T.Staged ends w₀ w stage history)
    (hproc : w.procs i = .running own (.lock r k))
    (hgrants : w.Grants i [r]) :
    T.Staged ends w₀
      ((w.acquire i [r]).setProc i (.running own (k (own w.committed)))) stage
      history := by
  rcases h.running hproc with ⟨hown, hk, hfits, hholds⟩
  have hfollows := hk w.committed hfits
  rw [← hown] at hfollows
  exact h.remains (World.hiddenFrom_acquire hgrants) hproc rfl rfl
    (Int.le_refl _)
    ⟨hown, hfollows, hfits, holds_acquire fun r' hr => Or.inl (hholds r' hr)⟩

theorem Staged.flush {rs : List S.Lock} {ws : List (Write S)}
    {k : Except S.Exc Unit -> Program S α} {db : S.Db}
    (h : T.Staged ends w₀ w stage history)
    (hproc : w.procs i = .running own (.flush rs ws k))
    (hgrants : w.Grants i rs)
    (hws : Write.attempt ws (own w.committed) = .ok db) :
    exists stage', T.Staged ends w₀
      ((w.acquire i rs).setProc i
        (.running (fun db => Write.applyAll ws (own db)) (k (.ok ()))))
      stage' history := by
  rcases h.running hproc with
    ⟨hown, ⟨⟨st', hflush, hfollows⟩, _⟩, hfits, hholds⟩
  rw [hown] at hws
  refine ⟨Function.update stage i st', h.leads
    (World.hiddenFrom_acquire hgrants) hproc rfl rfl (Int.le_refl _) ?_
    ⟨?_, hfollows, hflush.fits _ _ hfits hws, holds_acquire ?_⟩⟩
  · intro n hn
    rw [hflush.key] at hn
    exact Or.inl hn
  · intro d
    change Write.applyAll ws (own d) = T.owns st' d
    rw [hown, hflush.owns]
  · intro r hr
    exact (hflush.holds r hr).imp_left (hholds r)

theorem Staged.flushError {rs : List S.Lock} {ws : List (Write S)}
    {k : Except S.Exc Unit -> Program S α} {e : S.Exc}
    (h : T.Staged ends w₀ w stage history)
    (hproc : w.procs i = .running own (.flush rs ws k))
    (hgrants : w.Grants i rs)
    (hws : Write.attempt ws (own w.committed) = .error e) :
    T.Staged ends w₀
      ((w.acquire i rs).setProc i (.running own (k (.error e)))) stage
      history := by
  rcases h.running hproc with ⟨hown, ⟨_, hrefused⟩, hfits, hholds⟩
  rcases Write.exists_violation_of_attempt hws with ⟨u, hu, d, he⟩
  exact h.remains (World.hiddenFrom_acquire hgrants) hproc rfl rfl
    (Int.le_refl _)
    ⟨hown, hrefused u hu d _ he, hfits,
      holds_acquire fun r hr => Or.inl (hholds r hr)⟩

theorem Staged.nextval {t : S.Seq} {k : Int -> Program S α}
    (h : T.Staged ends w₀ w stage history)
    (hproc : w.procs i = .running own (.nextval t k)) :
    exists stage', T.Staged ends w₀
      ((w.draw t).setProc i (.running own (k (w.seq t)))) stage' history := by
  rcases h.running hproc with ⟨hown, hk, hfits, hholds⟩
  have hnext := hk (w.seq t)
  split at hnext
  · rename_i ht
    subst ht
    rcases hnext with ⟨st', hdraw, hfollows⟩
    have hseq : (w.draw T.seq).seq T.seq = w.seq T.seq + 1 := by
      simp [World.draw]
    refine ⟨Function.update stage i st', h.leads
      (World.hiddenFrom_draw w i T.seq) hproc rfl rfl ?_ ?_
      ⟨?_, hfollows, hdraw.fits _ hfits h.below, ?_⟩⟩
    · rw [hseq]
      omega
    · intro n hn
      rw [hdraw.key] at hn
      cases hn
      rw [hseq]
      omega
    · intro d
      rw [hown, hdraw.owns]
    · exact fun r hr => hholds r (hdraw.holds r hr)
  · rename_i ht
    have hseq : (w.draw t).seq T.seq = w.seq T.seq := by
      simp [World.draw, Ne.symm ht]
    exact ⟨stage, h.remains (World.hiddenFrom_draw w i t) hproc rfl rfl
      (Int.le_of_eq hseq.symm) ⟨hown, hnext, hfits, hholds⟩⟩

theorem Staged.emit {o : S.Out} {k : Program S α}
    (h : T.Staged ends w₀ w stage history)
    (hproc : w.procs i = .running own (.emit o k)) :
    T.Staged ends w₀ ((w.push o).setProc i (.running own k)) stage history := by
  rcases h.running hproc with ⟨hown, hfollows, hfits, hholds⟩
  exact h.remains (World.hiddenFrom_push w i o) hproc rfl rfl (Int.le_refl _)
    ⟨hown, hfollows, hfits, hholds⟩

end Statements

/-- One step of any session, for some stages and some history. -/
theorem Staged.step {a : Act S α} (h : T.Staged ends w₀ w stage history)
    (hm : World.Moves w a w')
    (hstart : forall j p, a = .start j p -> T.Follows ends T.blank p) :
    exists stage' history', T.Staged ends w₀ w' stage' history' := by
  cases hm with
  | @start i p hproc =>
      exact ⟨stage, history, h.start hproc (hstart i p rfl)⟩
  | fail e hproc => exact ⟨stage, history, h.ends_in_error e hproc⟩
  | @raise i own e hproc => exact ⟨stage, history, h.ends_in_error e hproc⟩
  | ret hproc => exact ⟨stage, _, h.commits hproc⟩
  | read hproc => exact ⟨stage, history, h.read hproc⟩
  | lock hproc hgrants => exact ⟨stage, history, h.lock hproc hgrants⟩
  | flush hproc hgrants hws =>
      rcases h.flush hproc hgrants hws with ⟨stage', hstage'⟩
      exact ⟨stage', history, hstage'⟩
  | flushError hproc hgrants hws =>
      exact ⟨stage, history, h.flushError hproc hgrants hws⟩
  | nextval hproc =>
      rcases h.nextval hproc with ⟨stage', hstage'⟩
      exact ⟨stage', history, hstage'⟩
  | emit hproc => exact ⟨stage, history, h.emit hproc⟩

/-- Sessions that go through the stages, in every interleaving. -/
theorem staged_of_reaches {adm : World S α -> Act S α -> Prop}
    (hrun : World.Reaches adm w₀ w) (hidle : forall i, w₀.procs i = .idle)
    (hbelow : T.Below (w₀.seq T.seq) w₀.committed)
    (hadm : forall u i p, adm u (.start i p) -> T.Follows ends T.blank p) :
    exists stage history, T.Staged ends w₀ w stage history := by
  induction hrun with
  | refl => exact ⟨_, _, staged_start hidle hbelow⟩
  | @step u u' a _ hact hexec ih =>
      rcases ih with ⟨stage, history, h⟩
      apply h.step (World.moves_of_exec hexec)
      intro j p heq
      subst heq
      exact hadm u j p hact

end Runs
end Staging
end Txn
