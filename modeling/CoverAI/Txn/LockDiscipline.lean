import CoverAI.Txn.Interleaving
import Mathlib.Logic.Relation

/-!
# Critical sections

Many sessions share one row and agree to change an observation of the database
only while they hold that row's lock.  A discipline names the lock and the
observation, says what one critical section may do to the observation, and
under which condition a session may enter it.

Two predicates on programs follow the program's own recursion: outside the
critical section a statement leaves the observation alone, inside it a
statement changes the observation in a way the observation determines.  The run
theorem reduces every interleaving of disciplined sessions to a sequence of
whole critical sections.
-/

namespace Txn

structure Discipline (S : Signature) (α β : Type) where
  lock : S.Lock
  obs : S.Db -> β
  /-- Holds of every committed observation. -/
  Good : β -> Prop
  /-- One critical section, from the grant of the lock to the commit. -/
  Post : β -> β -> Prop
  /-- Holds once a session has ended normally. -/
  Final : β -> Prop
  Raises : S.Exc -> Prop
  /-- When a session may be granted the lock, given its remaining program. -/
  Grant : Program S α -> β -> Prop
  good_post : forall {b c}, Good b -> Post b c -> Good c
  final_post : forall {b c}, Final b -> Post b c -> Final c

namespace Discipline

variable {S : Signature} {α β : Type} (D : Discipline S α β)

/-- The effect of a unit of work on the observation `b` is `c`, on
every database with that observation. -/
def Maps (ws : List (Write S)) (b c : β) : Prop :=
  forall db, D.obs db = b -> D.obs (Write.applyAll ws db) = c

/-- Inside the critical section that was entered at `b₀`, with the
observation now at `b`. -/
def Inside (b₀ : β) : β -> Program S α -> Prop
  | b, .ret _ => D.Post b₀ b ∧ D.Final b
  | _, .raise e => D.Raises e
  | b, .read k => forall v, D.obs v = b -> Inside b₀ b (k v)
  | b, .lock _ k => forall v, D.obs v = b -> Inside b₀ b (k v)
  | b, .flush _ ws k =>
      forall v, D.obs v = b ->
        (forall db, Write.attempt ws v = .ok db ->
          exists c, D.Maps ws b c ∧ Inside b₀ c (k (.ok ()))) ∧
        (forall e, Write.attempt ws v = .error e -> Inside b₀ b (k (.error e)))
  | b, .nextval _ k => forall n, Inside b₀ b (k n)
  | b, .emit _ k => Inside b₀ b k

/-- Outside the critical section; `known` says that the final condition
was already seen. -/
def Outside : Prop -> Program S α -> Prop
  | known, .ret _ => known
  | _, .raise e => D.Raises e
  | known, .read k =>
      forall v, D.Good (D.obs v) -> Outside (known ∨ D.Final (D.obs v)) (k v)
  | known, .lock r k =>
      forall v, D.Good (D.obs v) ->
        if r = D.lock then
          D.Grant (.lock r k) (D.obs v) -> D.Inside (D.obs v) (D.obs v) (k v)
        else Outside (known ∨ D.Final (D.obs v)) (k v)
  | known, .flush rs ws k =>
      D.lock ∉ rs ∧
        (forall db, D.obs (Write.applyAll ws db) = D.obs db) ∧
        forall res, Outside known (k res)
  | known, .nextval _ k => forall n, Outside known (k n)
  | known, .emit _ k => Outside known k

/-- Starts are disciplined, failures raise what they may, and the lock is
granted where the discipline allows it. -/
def Admissible (w : World S α) : Act S α -> Prop
  | .start _ p => D.Outside False p
  | .step i =>
      forall own p, w.procs i = .running own p -> D.Grant p (D.obs w.committed)
  | .fail _ e => D.Raises e

theorem Outside.mono {known known' : Prop} {p : Program S α}
    (h : D.Outside known p) (himp : known -> known') : D.Outside known' p := by
  induction p generalizing known known' with
  | ret a => exact himp h
  | raise e => exact h
  | read k ih =>
      intro v hgood
      exact ih v (h v hgood) (Or.imp_left himp)
  | lock r k ih =>
      intro v hgood
      have hv := h v hgood
      split at hv
      · rename_i hr
        rw [if_pos hr]
        exact hv
      · rename_i hr
        rw [if_neg hr]
        exact ih v hv (Or.imp_left himp)
  | flush rs ws k ih =>
      rcases h with ⟨hfree, hsame, hk⟩
      exact ⟨hfree, hsame, fun res => ih res (hk res) himp⟩
  | nextval t k ih => exact fun n => ih n (h n) himp
  | emit o k ih => exact ih h himp

/-!
# Rules for statements
-/

theorem inside_flushUnit_bind {b₀ b : β} {rs : List S.Lock}
    {ws : List (Write S)} {f : Unit -> Program S α}
    (hok : forall v db, D.obs v = b -> Write.attempt ws v = .ok db ->
      exists c, D.Maps ws b c ∧ D.Inside b₀ c (f ()))
    (herror : forall v e, D.obs v = b -> Write.attempt ws v = .error e ->
      D.Raises e) :
    D.Inside b₀ b ((Program.flushUnit rs ws).bind f) := by
  intro v hv
  exact ⟨fun db hdb => hok v db hv hdb, fun e he => herror v e hv he⟩

theorem inside_ask_bind {γ : Type} {b₀ b : β} {q : S.Db -> γ}
    {f : γ -> Program S α}
    (h : forall v, D.obs v = b -> D.Inside b₀ b (f (q v))) :
    D.Inside b₀ b ((Program.ask q).bind f) :=
  h

theorem inside_forUpdate_bind {γ : Type} {b₀ b : β} {r : S.Lock}
    {q : S.Db -> γ} {f : γ -> Program S α}
    (h : forall v, D.obs v = b -> D.Inside b₀ b (f (q v))) :
    D.Inside b₀ b ((Program.forUpdate r q).bind f) :=
  h

theorem outside_ask_bind {γ : Type} {known : Prop} {q : S.Db -> γ}
    {f : γ -> Program S α}
    (h : forall v, D.Good (D.obs v) ->
      D.Outside (known ∨ D.Final (D.obs v)) (f (q v))) :
    D.Outside known ((Program.ask q).bind f) :=
  h

theorem outside_forUpdate_bind {γ : Type} {known : Prop} {r : S.Lock}
    {q : S.Db -> γ} {f : γ -> Program S α} (hr : r ≠ D.lock)
    (h : forall v, D.Good (D.obs v) ->
      D.Outside (known ∨ D.Final (D.obs v)) (f (q v))) :
    D.Outside known ((Program.forUpdate r q).bind f) := by
  intro v hgood
  exact (if_neg hr).mpr (h v hgood)

/-- The grant of the lock enters the critical section. -/
theorem outside_forUpdate_lock_bind {γ : Type} {known : Prop}
    {q : S.Db -> γ} {f : γ -> Program S α}
    (h : forall v, D.Good (D.obs v) ->
      D.Grant ((Program.forUpdate D.lock q).bind f) (D.obs v) ->
      D.Inside (D.obs v) (D.obs v) (f (q v))) :
    D.Outside known ((Program.forUpdate D.lock q).bind f) := by
  intro v hgood
  exact (if_pos rfl).mpr (h v hgood)

theorem outside_flushUnit_bind {known : Prop} {rs : List S.Lock}
    {ws : List (Write S)} {f : Unit -> Program S α} (hfree : D.lock ∉ rs)
    (hsame : forall db, D.obs (Write.applyAll ws db) = D.obs db)
    (hf : D.Outside known (f ())) (hraises : forall e, D.Raises e) :
    D.Outside known ((Program.flushUnit rs ws).bind f) := by
  refine ⟨hfree, hsame, fun res => ?_⟩
  cases res with
  | ok u => exact hf
  | error e => exact hraises e

/-!
# The invariant of disciplined runs
-/

/-- A running session that does not hold the lock has not touched the
observation. -/
def Waiting (w : World S α) (own : S.Db -> S.Db) (p : Program S α) : Prop :=
  (forall db, D.obs (own db) = D.obs db) ∧
    D.Outside (D.Final (D.obs w.committed)) p

def Holding (w : World S α) (own : S.Db -> S.Db) (p : Program S α) : Prop :=
  exists b,
    (forall db, D.obs db = D.obs w.committed -> D.obs (own db) = b) ∧
      D.Inside (D.obs w.committed) b p

def Conforms (w : World S α) (i : Nat) : Prop :=
  match w.procs i with
  | .idle => w.holder D.lock ≠ some i
  | .running own p =>
      (w.holder D.lock = some i -> D.Holding w own p) ∧
        (w.holder D.lock ≠ some i -> D.Waiting w own p)
  | .done (.ok _) => w.holder D.lock ≠ some i ∧ D.Final (D.obs w.committed)
  | .done (.error e) => w.holder D.lock ≠ some i ∧ D.Raises e

structure Kept (w₀ w : World S α) : Prop where
  good : D.Good (D.obs w.committed)
  path : Relation.ReflTransGen D.Post (D.obs w₀.committed)
    (D.obs w.committed)
  conforms : forall i, D.Conforms w i

variable {D}

theorem Conforms.holding {w : World S α} {i : Nat} {own : S.Db -> S.Db}
    {p : Program S α} (h : D.Conforms w i)
    (hproc : w.procs i = .running own p) (hheld : w.holder D.lock = some i) :
    D.Holding w own p := by
  unfold Conforms at h
  rw [hproc] at h
  exact h.left hheld

theorem Conforms.waiting {w : World S α} {i : Nat} {own : S.Db -> S.Db}
    {p : Program S α} (h : D.Conforms w i)
    (hproc : w.procs i = .running own p) (hfree : w.holder D.lock ≠ some i) :
    D.Waiting w own p := by
  unfold Conforms at h
  rw [hproc] at h
  exact h.right hfree

/-- Conformance of a session depends on its process, on whether it holds the
lock and on the committed observation. -/
theorem Conforms.congr {w w' : World S α} {i : Nat} (h : D.Conforms w i)
    (hproc : w'.procs i = w.procs i)
    (hheld : w'.holder D.lock = some i <-> w.holder D.lock = some i)
    (hobs : D.obs w'.committed = D.obs w.committed) : D.Conforms w' i := by
  unfold Conforms Holding Waiting at h ⊢
  rw [hproc, hobs]
  simpa only [ne_eq, hheld] using h

/-- A commit of another session changes the observation by one critical
section at most. -/
theorem Conforms.of_post {w w' : World S α} {i : Nat} (h : D.Conforms w i)
    (hproc : w'.procs i = w.procs i)
    (hheld : w.holder D.lock ≠ some i) (hheld' : w'.holder D.lock ≠ some i)
    (hpost : D.Post (D.obs w.committed) (D.obs w'.committed)) :
    D.Conforms w' i := by
  unfold Conforms at h ⊢
  rw [hproc]
  cases hi : w.procs i with
  | idle => exact hheld'
  | running own p =>
      rw [hi] at h
      refine ⟨fun heq => (hheld' heq).elim, fun _ => ?_⟩
      rcases h.right hheld with ⟨hown, hout⟩
      exact ⟨hown, hout.mono D fun hfinal => D.final_post hfinal hpost⟩
  | done res =>
      rw [hi] at h
      cases res with
      | ok a => exact ⟨hheld', D.final_post h.right hpost⟩
      | error e => exact ⟨hheld', h.right⟩

/-!
# One step
-/

/-- A step that keeps the committed observation concerns its own session
only. -/
theorem Kept.of_local {w₀ w w' : World S α} {i : Nat} (h : D.Kept w₀ w)
    (hobs : D.obs w'.committed = D.obs w.committed)
    (hprocs : forall j, j ≠ i -> w'.procs j = w.procs j)
    (hholder : forall j, j ≠ i ->
      (w'.holder D.lock = some j <-> w.holder D.lock = some j))
    (hi : D.Conforms w' i) : D.Kept w₀ w' := by
  refine ⟨?_, ?_, ?_⟩
  · rw [hobs]
    exact h.good
  · rw [hobs]
    exact h.path
  · intro j
    by_cases hj : j = i
    · rw [hj]
      exact hi
    · exact (h.conforms j).congr (hprocs j hj) (hholder j hj) hobs

theorem conforms_setProc_running {w : World S α} {i : Nat}
    {own : S.Db -> S.Db} {p : Program S α}
    (hhold : w.holder D.lock = some i -> D.Holding w own p)
    (hwait : w.holder D.lock ≠ some i -> D.Waiting w own p) :
    D.Conforms (w.setProc i (.running own p)) i := by
  unfold Conforms
  rw [World.setProc_procs_self]
  exact ⟨hhold, hwait⟩

theorem Kept.setProc_running {w₀ w : World S α} {i : Nat}
    {own : S.Db -> S.Db} {p : Program S α} (h : D.Kept w₀ w)
    (hhold : w.holder D.lock = some i -> D.Holding w own p)
    (hwait : w.holder D.lock ≠ some i -> D.Waiting w own p) :
    D.Kept w₀ (w.setProc i (.running own p)) :=
  h.of_local rfl (fun _ hj => World.setProc_procs_of_ne hj _)
    (fun _ _ => Iff.rfl) (conforms_setProc_running hhold hwait)

theorem conforms_done_error {w : World S α} {i : Nat} {e : S.Exc}
    (he : D.Raises e) :
    D.Conforms ((w.release i).setProc i (.done (.error e))) i := by
  unfold Conforms
  rw [World.setProc_procs_self]
  exact ⟨World.release_holder_self w i D.lock, he⟩

theorem Kept.fail {w₀ w : World S α} {i : Nat} {e : S.Exc} (h : D.Kept w₀ w)
    (he : D.Raises e) :
    D.Kept w₀ ((w.release i).setProc i (.done (.error e))) :=
  h.of_local rfl (fun _ hj => World.setProc_procs_of_ne hj _)
    (fun _ hj => World.release_holder_other hj D.lock)
    (conforms_done_error he)

theorem Kept.commit {w₀ w : World S α} {i : Nat} {own : S.Db -> S.Db} {a : α}
    (h : D.Kept w₀ w) (hproc : w.procs i = .running own (.ret a)) :
    D.Kept w₀ (((w.commit own).release i).setProc i (.done (.ok a))) := by
  by_cases hheld : w.holder D.lock = some i
  · -- the commit ends a critical section; nobody else is in one
    rcases (h.conforms i).holding hproc hheld with ⟨b, hown, hpost, hfinal⟩
    have hobs : D.obs (own w.committed) = b := hown w.committed rfl
    have hstep : D.Post (D.obs w.committed) (D.obs (own w.committed)) := by
      rw [hobs]
      exact hpost
    refine ⟨D.good_post h.good hstep, h.path.tail hstep, ?_⟩
    intro j
    by_cases hj : j = i
    · rw [hj]
      unfold Conforms
      rw [World.setProc_procs_self]
      refine ⟨World.release_holder_self _ i D.lock, ?_⟩
      rw [← hobs] at hfinal
      exact hfinal
    · have hother : w.holder D.lock ≠ some j := by
        rw [hheld]
        intro heq
        exact hj (Option.some.inj heq).symm
      refine (h.conforms j).of_post (World.setProc_procs_of_ne hj _) hother ?_
        hstep
      intro heq
      exact hother ((World.release_holder_other hj D.lock).mp heq)
  · rcases (h.conforms i).waiting hproc hheld with ⟨hown, hfinal⟩
    refine h.of_local (hown w.committed)
      (fun _ hj => World.setProc_procs_of_ne hj _)
      (fun _ hj => World.release_holder_other hj D.lock) ?_
    unfold Conforms
    rw [World.setProc_procs_self]
    refine ⟨World.release_holder_self _ i D.lock, ?_⟩
    change D.Final (D.obs (own w.committed))
    rw [hown w.committed]
    exact hfinal

theorem Kept.lock {w₀ w : World S α} {i : Nat} {own : S.Db -> S.Db}
    {r : S.Lock} {k : S.Db -> Program S α} (h : D.Kept w₀ w)
    (hproc : w.procs i = .running own (.lock r k)) (hgrants : w.Grants i [r])
    (hgrant : D.Grant (.lock r k) (D.obs w.committed)) :
    D.Kept w₀
      ((w.acquire i [r]).setProc i (.running own (k (own w.committed)))) := by
  refine h.of_local rfl (fun _ hj => World.setProc_procs_of_ne hj _)
    (fun _ hj => World.acquire_holder_other hgrants hj D.lock) ?_
  apply conforms_setProc_running
  · intro hheld'
    by_cases hheld : w.holder D.lock = some i
    · rcases (h.conforms i).holding hproc hheld with ⟨b, hown, hin⟩
      exact ⟨b, hown, hin _ (hown w.committed rfl)⟩
    · rcases (h.conforms i).waiting hproc hheld with ⟨hown, hout⟩
      have hr : r = D.lock := by
        by_contra hne
        rw [World.acquire_holder, if_neg] at hheld'
        · exact hheld hheld'
        · simpa using fun heq => hne heq.symm
      have hview : D.obs (own w.committed) = D.obs w.committed :=
        hown w.committed
      have hin := hout (own w.committed) (by rw [hview]; exact h.good)
      rw [if_pos hr, hview] at hin
      refine ⟨D.obs w.committed, ?_, hin hgrant⟩
      intro db hdb
      rw [hown db]
      exact hdb
  · intro hfree'
    have hheld : w.holder D.lock ≠ some i := by
      intro heq
      apply hfree'
      rw [World.acquire_holder]
      split
      · rfl
      · exact heq
    rcases (h.conforms i).waiting hproc hheld with ⟨hown, hout⟩
    have hr : r ≠ D.lock := by
      intro heq
      apply hfree'
      rw [World.acquire_holder, if_pos (by simp [heq])]
    have hview : D.obs (own w.committed) = D.obs w.committed :=
      hown w.committed
    have hk := hout (own w.committed) (by rw [hview]; exact h.good)
    rw [if_neg hr, hview] at hk
    refine ⟨hown, hk.mono D ?_⟩
    exact fun hfinal => hfinal.elim id id

theorem Kept.flush {w₀ w : World S α} {i : Nat} {own : S.Db -> S.Db}
    {rs : List S.Lock} {ws : List (Write S)}
    {k : Except S.Exc Unit -> Program S α} {db : S.Db} (h : D.Kept w₀ w)
    (hproc : w.procs i = .running own (.flush rs ws k))
    (hgrants : w.Grants i rs)
    (hws : Write.attempt ws (own w.committed) = .ok db) :
    D.Kept w₀
      ((w.acquire i rs).setProc i
        (.running (fun db => Write.applyAll ws (own db)) (k (.ok ())))) := by
  refine h.of_local rfl (fun _ hj => World.setProc_procs_of_ne hj _)
    (fun _ hj => World.acquire_holder_other hgrants hj D.lock) ?_
  by_cases hheld : w.holder D.lock = some i
  · rcases (h.conforms i).holding hproc hheld with ⟨b, hown, hin⟩
    have hview : D.obs (own w.committed) = b := hown w.committed rfl
    rcases (hin _ hview).left db hws with ⟨c, hmaps, hin'⟩
    apply conforms_setProc_running
    · intro _
      refine ⟨c, ?_, hin'⟩
      intro d hd
      exact hmaps _ (hown d hd)
    · intro hfree'
      refine (hfree' ?_).elim
      rw [World.acquire_holder]
      split
      · rfl
      · exact hheld
  · rcases (h.conforms i).waiting hproc hheld with ⟨hown, hfree, hsame, hk⟩
    apply conforms_setProc_running
    · intro hheld'
      rw [World.acquire_holder, if_neg hfree] at hheld'
      exact (hheld hheld').elim
    · intro _
      refine ⟨?_, hk (.ok ())⟩
      intro d
      rw [hsame, hown]

theorem Kept.flushError {w₀ w : World S α} {i : Nat} {own : S.Db -> S.Db}
    {rs : List S.Lock} {ws : List (Write S)}
    {k : Except S.Exc Unit -> Program S α} {e : S.Exc} (h : D.Kept w₀ w)
    (hproc : w.procs i = .running own (.flush rs ws k))
    (hgrants : w.Grants i rs)
    (hws : Write.attempt ws (own w.committed) = .error e) :
    D.Kept w₀
      ((w.acquire i rs).setProc i (.running own (k (.error e)))) := by
  refine h.of_local rfl (fun _ hj => World.setProc_procs_of_ne hj _)
    (fun _ hj => World.acquire_holder_other hgrants hj D.lock) ?_
  by_cases hheld : w.holder D.lock = some i
  · rcases (h.conforms i).holding hproc hheld with ⟨b, hown, hin⟩
    have hview : D.obs (own w.committed) = b := hown w.committed rfl
    apply conforms_setProc_running
    · intro _
      exact ⟨b, hown, (hin _ hview).right e hws⟩
    · intro hfree'
      refine (hfree' ?_).elim
      rw [World.acquire_holder]
      split
      · rfl
      · exact hheld
  · rcases (h.conforms i).waiting hproc hheld with ⟨hown, hfree, _, hk⟩
    apply conforms_setProc_running
    · intro hheld'
      rw [World.acquire_holder, if_neg hfree] at hheld'
      exact (hheld hheld').elim
    · intro _
      exact ⟨hown, hk (.error e)⟩

theorem Kept.read {w₀ w : World S α} {i : Nat} {own : S.Db -> S.Db}
    {k : S.Db -> Program S α} (h : D.Kept w₀ w)
    (hproc : w.procs i = .running own (.read k)) :
    D.Kept w₀ (w.setProc i (.running own (k (own w.committed)))) := by
  apply h.setProc_running
  · intro hheld
    rcases (h.conforms i).holding hproc hheld with ⟨b, hown, hin⟩
    exact ⟨b, hown, hin _ (hown w.committed rfl)⟩
  · intro hfree
    rcases (h.conforms i).waiting hproc hfree with ⟨hown, hout⟩
    have hview : D.obs (own w.committed) = D.obs w.committed :=
      hown w.committed
    have hk := hout (own w.committed) (by rw [hview]; exact h.good)
    rw [hview] at hk
    exact ⟨hown, hk.mono D fun hfinal => hfinal.elim id id⟩

theorem Kept.step {w₀ w w' : World S α} {a : Act S α} (h : D.Kept w₀ w)
    (hadm : D.Admissible w a) (hmove : World.Moves w a w') :
    D.Kept w₀ w' := by
  cases hmove with
  | @start i p hproc =>
      have hconf := h.conforms i
      unfold Conforms at hconf
      rw [hproc] at hconf
      apply h.setProc_running
      · intro hheld
        exact (hconf hheld).elim
      · intro _
        exact ⟨fun _ => rfl, Outside.mono D hadm False.elim⟩
  | fail e hproc => exact h.fail hadm
  | ret hproc => exact h.commit hproc
  | @raise i own e hproc =>
      apply h.fail
      by_cases hheld : w.holder D.lock = some i
      · rcases (h.conforms i).holding hproc hheld with ⟨b, _, hraises⟩
        exact hraises
      · exact ((h.conforms i).waiting hproc hheld).right
  | read hproc => exact h.read hproc
  | lock hproc hgrants => exact h.lock hproc hgrants (hadm _ _ hproc)
  | flush hproc hgrants hws => exact h.flush hproc hgrants hws
  | flushError hproc hgrants hws => exact h.flushError hproc hgrants hws
  | @nextval i own t k hproc =>
      refine Kept.setProc_running (w := w.draw t)
        ⟨h.good, h.path, fun j =>
          (h.conforms j).congr rfl Iff.rfl rfl⟩ ?_ ?_
      · intro hheld
        rcases (h.conforms i).holding hproc hheld with ⟨b, hown, hin⟩
        exact ⟨b, hown, hin _⟩
      · intro hfree
        rcases (h.conforms i).waiting hproc hfree with ⟨hown, hout⟩
        exact ⟨hown, hout _⟩
  | @emit i own o k hproc =>
      refine Kept.setProc_running (w := w.push o)
        ⟨h.good, h.path, fun j =>
          (h.conforms j).congr rfl Iff.rfl rfl⟩ ?_ ?_
      · intro hheld
        rcases (h.conforms i).holding hproc hheld with ⟨b, hown, hin⟩
        exact ⟨b, hown, hin⟩
      · intro hfree
        rcases (h.conforms i).waiting hproc hfree with ⟨hown, hout⟩
        exact ⟨hown, hout⟩

/-!
# Runs
-/

theorem kept_init (s : Store S) (hgood : D.Good (D.obs s.db)) :
    D.Kept (World.init s : World S α) (World.init s) :=
  ⟨hgood, Relation.ReflTransGen.refl, fun i => by simp [Conforms, World.init]⟩

/-- Every interleaving of disciplined sessions. -/
theorem kept_of_reaches {s : Store S} {w : World S α}
    (hgood : D.Good (D.obs s.db))
    (h : World.Reaches D.Admissible (World.init s) w) :
    D.Kept (World.init s) w :=
  h.inv (kept_init s hgood) fun hkept hadm hmove => hkept.step hadm hmove

theorem Kept.final_of_ok {w₀ w : World S α} {i : Nat} {a : α}
    (h : D.Kept w₀ w) (hdone : w.procs i = .done (.ok a)) :
    D.Final (D.obs w.committed) := by
  have hconf := h.conforms i
  unfold Conforms at hconf
  rw [hdone] at hconf
  exact hconf.right

theorem Kept.raises_of_error {w₀ w : World S α} {i : Nat} {e : S.Exc}
    (h : D.Kept w₀ w) (hdone : w.procs i = .done (.error e)) :
    D.Raises e := by
  have hconf := h.conforms i
  unfold Conforms at hconf
  rw [hdone] at hconf
  exact hconf.right

end Discipline
end Txn
