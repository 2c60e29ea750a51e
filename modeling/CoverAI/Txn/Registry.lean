import CoverAI.Txn.Footprint

/-!
# Sessions that register a row

A session draws a key from a sequence, inserts one row under it, announces the
row in a message and ends.  The sequence keeps the keys of different sessions
apart.  The message leaves at once, the row becomes visible at the commit: the
run theorem says which rows are there and which messages are under way in every
reachable world.
-/

namespace Txn

/-- The observed part of the database, its rows and the sequence of their
keys. -/
structure Registry (S : Signature) (γ ρ : Type) where
  obs : S.Db -> γ
  get : γ -> Int -> Option ρ
  add : γ -> Int -> ρ -> γ
  seq : S.Seq
  Announces : S.Out -> Int -> ρ -> Prop
  get_add : forall g n r m,
    get (add g n r) m = if m = n ∧ get g n = none then some r else get g m

/-- How far a session has come. -/
inductive Stage (ρ : Type) where
  | blank
  | drawn (n : Int)
  | inserted (n : Int) (r : ρ)
  | announced (n : Int) (r : ρ)

namespace Stage

variable {ρ : Type}

def key : Stage ρ -> Option Int
  | .blank => none
  | .drawn n | .inserted n _ | .announced n _ => some n

def row : Stage ρ -> Option (Int × ρ)
  | .blank | .drawn _ => none
  | .inserted n r | .announced n r => some (n, r)

theorem key_of_row {st : Stage ρ} {n : Int} {r : ρ}
    (h : st.row = some (n, r)) : st.key = some n := by
  cases st <;> cases h <;> rfl

end Stage

namespace Registry

variable {S : Signature} {α β γ ρ : Type} (R : Registry S γ ρ)

/-- The changes a session has made at a stage. -/
def Owns (st : Stage ρ) (own : S.Db -> S.Db) : Prop :=
  match st.row with
  | none => forall db, R.obs (own db) = R.obs db
  | some (n, r) => forall db, R.obs (own db) = R.add (R.obs db) n r

inductive Flushes (ws : List (Write S)) : Stage ρ -> Stage ρ -> Prop where
  | keep {st : Stage ρ}
      (h : forall db, R.obs (Write.applyAll ws db) = R.obs db) :
      Flushes ws st st
  | insert {n : Int} {r : ρ}
      (h : forall db, R.obs (Write.applyAll ws db) = R.add (R.obs db) n r) :
      Flushes ws (.drawn n) (.inserted n r)

/-- The program goes through the stages in order, and ends where its result
says. -/
def Follows (ends : α -> Stage ρ -> Prop) : Stage ρ -> Program S α -> Prop
  | st, .ret a => ends a st
  | _, .raise _ => True
  | st, .read k => forall v, Follows ends st (k v)
  | st, .lock _ k => forall v, Follows ends st (k v)
  | st, .flush _ ws k =>
      (exists st', R.Flushes ws st st' ∧ Follows ends st' (k (.ok ()))) ∧
        forall w, w ∈ ws -> forall db e, w.violation db = some e ->
          Follows ends st (k (.error e))
  | st, .nextval t k =>
      forall n,
        if t = R.seq then st = .blank ∧ Follows ends (.drawn n) (k n)
        else Follows ends st (k n)
  | st, .emit o k =>
      exists n r, st = .inserted n r ∧ R.Announces o n r ∧
        Follows ends (.announced n r) k

/-!
# Rules for statements
-/

section Rules

variable {R} {ends : α -> Stage ρ -> Prop} {st : Stage ρ}

theorem follows_ask_bind {q : S.Db -> β} {f : β -> Program S α}
    (h : forall v, R.Follows ends st (f (q v))) :
    R.Follows ends st ((Program.ask q).bind f) :=
  h

theorem follows_draw_bind {f : Int -> Program S α}
    (h : forall n, R.Follows ends (.drawn n) (f n)) :
    R.Follows ends .blank ((Program.draw R.seq).bind f) :=
  fun n => (if_pos rfl).mpr ⟨rfl, h n⟩

theorem follows_flushUnit_bind {st' : Stage ρ} {rs : List S.Lock}
    {ws : List (Write S)} {f : Unit -> Program S α}
    (hws : R.Flushes ws st st') (h : R.Follows ends st' (f ())) :
    R.Follows ends st ((Program.flushUnit rs ws).bind f) :=
  ⟨⟨st', hws, h⟩, fun _ _ _ _ _ => trivial⟩

theorem follows_send_bind {n : Int} {r : ρ} {o : S.Out}
    {f : Unit -> Program S α} (ho : R.Announces o n r)
    (h : R.Follows ends (.announced n r) (f ())) :
    R.Follows ends (.inserted n r) ((Program.send o).bind f) :=
  ⟨n, r, rfl, ho, h⟩

theorem follows_bind {p : Program S β} {f : β -> Program S α}
    (h : R.Follows (fun b st' => R.Follows ends st' (f b)) st p) :
    R.Follows ends st (p.bind f) := by
  induction p generalizing st with
  | ret b => exact h
  | raise e => trivial
  | read k ih => exact fun v => ih v (h v)
  | lock r k ih => exact fun v => ih v (h v)
  | flush rs ws k ih =>
      rcases h with ⟨⟨st', hws, hok⟩, herror⟩
      exact ⟨⟨st', hws, ih _ hok⟩,
        fun w hw db e he => ih _ (herror w hw db e he)⟩
  | nextval t k ih =>
      intro n
      have hn := h n
      split at hn
      · rename_i ht
        exact (if_pos ht).mpr ⟨hn.left, ih n hn.right⟩
      · rename_i ht
        exact (if_neg ht).mpr (ih n hn)
  | emit o k ih =>
      rcases h with ⟨n, r, hst, ho, hk⟩
      exact ⟨n, r, hst, ho, ih hk⟩

theorem follows_tryCatch {p : Program S α} {h : S.Exc -> Program S α}
    (hp : R.Follows ends st p) (hh : forall e st', R.Follows ends st' (h e)) :
    R.Follows ends st (p.tryCatch h) := by
  induction p generalizing st with
  | ret a => exact hp
  | raise e => exact hh e st
  | read k ih => exact fun v => ih v (hp v)
  | lock r k ih => exact fun v => ih v (hp v)
  | flush rs ws k ih =>
      rcases hp with ⟨⟨st', hws, hok⟩, herror⟩
      exact ⟨⟨st', hws, ih _ hok⟩,
        fun w hw db e he => ih _ (herror w hw db e he)⟩
  | nextval t k ih =>
      intro n
      have hn := hp n
      split at hn
      · rename_i ht
        exact (if_pos ht).mpr ⟨hn.left, ih n hn.right⟩
      · rename_i ht
        exact (if_neg ht).mpr (ih n hn)
  | emit o k ih =>
      rcases hp with ⟨n, r, hst, ho, hk⟩
      exact ⟨n, r, hst, ho, ih hk⟩

/-- A program whose footprint has no part in the registry stays at its
stage. -/
theorem follows_of_within {F : Footprint S} {Q : α -> Prop} {p : Program S α}
    (hp : p.Within F Q) (hsees : forall v, F.sees v)
    (hwrites : forall w, F.writes w -> forall db, R.obs (w.apply db) = R.obs db)
    (hdraws : ¬ F.draws R.seq) (hemits : forall o, ¬ F.emits o)
    (hends : forall a, Q a -> ends a st) : R.Follows ends st p := by
  induction p with
  | ret a => exact hends a hp
  | raise e => trivial
  | read k ih => exact fun v => ih v (hp v (hsees v))
  | lock r k ih => exact fun v => ih v (hp v (hsees v))
  | flush rs ws k ih =>
      rcases hp with ⟨hws, hok, herror⟩
      have hkeep : forall db, R.obs (Write.applyAll ws db) = R.obs db :=
        Write.applyAll_frame R.obs fun w hw => hwrites w (hws w hw)
      exact ⟨⟨st, Flushes.keep hkeep, ih _ hok⟩,
        fun w hw db e he => ih _ (herror w hw db e he)⟩
  | nextval t k ih =>
      intro n
      have ht : t ≠ R.seq := by
        intro heq
        subst heq
        exact hdraws hp.left
      exact (if_neg ht).mpr (ih n (hp.right n))
  | emit o k ih => exact (hemits o hp.left).elim

end Rules

/-!
# Reachable worlds
-/

/-- A session at a stage. -/
def Conforms (ends : α -> Stage ρ -> Prop) (st : Stage ρ) :
    Process S α -> Prop
  | .idle => st = .blank
  | .running own p => R.Follows ends st p ∧ R.Owns st own
  | .done (.ok a) => ends a st
  | .done (.error _) => True

end Registry

/-- The row that a session has made visible. -/
def Process.published {S : Signature} {α ρ : Type} (st : Stage ρ) :
    Process S α -> Option (Int × ρ)
  | .done (.ok _) => st.row
  | _ => none

namespace Registry

variable {S : Signature} {α γ ρ : Type} (R : Registry S γ ρ)

/-- What holds of a world reached from `w₀`, given the stage of each of its
sessions. -/
structure Registered (ends : α -> Stage ρ -> Prop) (w₀ w : World S α)
    (stage : Nat -> Stage ρ) : Prop where
  conforms : forall i, R.Conforms ends (stage i) (w.procs i)
  advances : w₀.seq R.seq ≤ w.seq R.seq
  bounds : forall i n, (stage i).key = some n ->
    w₀.seq R.seq ≤ n ∧ n < w.seq R.seq
  apart : forall i j n, (stage i).key = some n -> (stage j).key = some n -> i = j
  kept : forall i n r, (w.procs i).published (stage i) = some (n, r) ->
    R.get (R.obs w.committed) n = some r
  only : forall n r, R.get (R.obs w.committed) n = some r ->
    R.get (R.obs w₀.committed) n = some r ∨
      exists i, (w.procs i).published (stage i) = some (n, r)
  announced : forall o, o ∈ w.out -> o ∈ w₀.out ∨
    exists i n r, stage i = .announced n r ∧ R.Announces o n r

/-- The keys of the rows that were there at the start come from the sequence. -/
def KeysDrawn (w₀ : World S α) : Prop :=
  forall n, R.get (R.obs w₀.committed) n ≠ none -> n < w₀.seq R.seq

section Runs

variable {R} {ends : α -> Stage ρ -> Prop} {w₀ w w' : World S α}
  {stage : Nat -> Stage ρ} {i : Nat} {st : Stage ρ}

theorem key_of_published {q : Process S α} {n : Int} {r : ρ}
    (h : q.published st = some (n, r)) : st.key = some n := by
  unfold Process.published at h
  split at h
  · exact Stage.key_of_row h
  · cases h

theorem registered_start (hidle : forall i, w₀.procs i = .idle) :
    R.Registered ends w₀ w₀ fun _ => .blank where
  conforms := by
    intro i
    rw [hidle i]
    rfl
  advances := Int.le_refl _
  bounds := fun _ _ h => nomatch h
  apart := fun _ _ _ h => nomatch h
  kept := by
    intro i n r h
    rw [hidle i] at h
    cases h
  only := fun _ _ h => Or.inl h
  announced := fun _ h => Or.inl h

/-- The key of a session that has not committed is free. -/
theorem Registered.free (h : R.Registered ends w₀ w stage)
    (hkeys : R.KeysDrawn w₀) {n : Int} (hkey : (stage i).key = some n)
    (hopen : (w.procs i).published (stage i) = none) :
    R.get (R.obs w.committed) n = none := by
  cases hget : R.get (R.obs w.committed) n with
  | none => rfl
  | some r =>
      rcases h.only n r hget with hold | ⟨j, hpublished⟩
      · have hlt := hkeys n (fun hnone => nomatch hold.symm.trans hnone)
        have hle := (h.bounds i n hkey).left
        omega
      · have hij := h.apart i j n hkey (key_of_published hpublished)
        rw [← hij, hopen] at hpublished
        cases hpublished

/-- A statement that leads the session to another stage, whose key is its own
or a new one. -/
theorem Registered.leads {u : World S α} {q q' : Process S α}
    (h : R.Registered ends w₀ w stage) (hu : w.HiddenFrom i u)
    (hproc : w.procs i = q) (hbefore : q.published (stage i) = none)
    (hafter : q'.published st = none) (hseq : w.seq R.seq ≤ u.seq R.seq)
    (hkey : forall n, st.key = some n -> (stage i).key = some n ∨
      w.seq R.seq ≤ n ∧ n < u.seq R.seq)
    (hsaid : forall n r, stage i = .announced n r -> st = .announced n r)
    (hout : forall o, o ∈ u.out -> o ∈ w.out ∨
      exists n r, st = .announced n r ∧ R.Announces o n r)
    (hself : R.Conforms ends st q') :
    R.Registered ends w₀ (u.setProc i q') (Function.update stage i st) where
  conforms := by
    intro j
    by_cases hj : j = i
    · rw [hj, Function.update_self, World.setProc_procs_self]
      exact hself
    · rw [Function.update_of_ne hj, World.setProc_procs_of_ne hj, hu.procs]
      exact h.conforms j
  advances := Int.le_trans h.advances hseq
  bounds := by
    intro j n hn
    have hadvances := h.advances
    by_cases hj : j = i
    · rw [hj, Function.update_self] at hn
      rcases hkey n hn with hold | hnew
      · have hbounds := h.bounds i n hold
        rw [World.setProc_seq]
        omega
      · rw [World.setProc_seq]
        omega
    · rw [Function.update_of_ne hj] at hn
      have hbounds := h.bounds j n hn
      rw [World.setProc_seq]
      omega
  apart := World.apart_update h.apart (fun j n hn => (h.bounds j n hn).right)
    fun n hn => (hkey n hn).imp_right And.left
  kept := by
    intro j n r hpublished
    rw [World.setProc_committed, hu.committed]
    by_cases hj : j = i
    · rw [hj, Function.update_self, World.setProc_procs_self, hafter]
        at hpublished
      cases hpublished
    · rw [Function.update_of_ne hj, World.setProc_procs_of_ne hj, hu.procs]
        at hpublished
      exact h.kept j n r hpublished
  only := by
    intro n r hget
    rw [World.setProc_committed, hu.committed] at hget
    rcases h.only n r hget with hold | ⟨j, hpublished⟩
    · exact Or.inl hold
    · have hj : j ≠ i := by
        intro heq
        rw [heq, hproc, hbefore] at hpublished
        cases hpublished
      refine Or.inr ⟨j, ?_⟩
      rw [Function.update_of_ne hj, World.setProc_procs_of_ne hj, hu.procs]
      exact hpublished
  announced := by
    intro o ho
    rcases hout o ho with hold | ⟨n, r, hst, hannounces⟩
    · rcases h.announced o hold with hfirst | ⟨j, n, r, hst, hannounces⟩
      · exact Or.inl hfirst
      · refine Or.inr ⟨j, n, r, ?_, hannounces⟩
        by_cases hj : j = i
        · rw [hj, Function.update_self]
          exact hsaid n r (hj ▸ hst)
        · rw [Function.update_of_ne hj]
          exact hst
    · refine Or.inr ⟨i, n, r, ?_, hannounces⟩
      rw [Function.update_self]
      exact hst

/-- A statement that leaves the session at its stage. -/
theorem Registered.remains {u : World S α} {q q' : Process S α}
    (h : R.Registered ends w₀ w stage) (hu : w.HiddenFrom i u)
    (hproc : w.procs i = q) (hbefore : q.published (stage i) = none)
    (hafter : q'.published (stage i) = none) (hout : u.out = w.out)
    (hseq : w.seq R.seq ≤ u.seq R.seq)
    (hself : R.Conforms ends (stage i) q') :
    R.Registered ends w₀ (u.setProc i q') stage := by
  have hleads := h.leads hu hproc hbefore hafter hseq (fun _ hn => Or.inl hn)
    (fun _ _ hst => hst) (fun o ho => Or.inl (hout ▸ ho)) hself
  rwa [Function.update_eq_self] at hleads

theorem get_add_of_some {g : γ} {n m : Int} {r r' : ρ}
    (h : R.get g m = some r') : R.get (R.add g n r) m = some r' := by
  rw [R.get_add]
  split
  · rename_i hm
    rw [hm.left, hm.right] at h
    cases h
  · exact h

/-- What a session that ends normally commits, under a key that is free. -/
theorem Registered.commit_row (h : R.Registered ends w₀ w stage)
    (hkeys : R.KeysDrawn w₀) {own : S.Db -> S.Db} {a : α}
    (hproc : w.procs i = .running own (.ret a)) {n : Int} {r : ρ}
    (hrow : (stage i).row = some (n, r)) :
    R.get (R.obs w.committed) n = none ∧
      R.obs (own w.committed) = R.add (R.obs w.committed) n r := by
  have hself := h.conforms i
  rw [hproc] at hself
  have howns := hself.right
  rw [Owns, hrow] at howns
  exact ⟨h.free hkeys (Stage.key_of_row hrow) (by rw [hproc]; rfl), howns _⟩

/-- A commit makes the row of the session visible. -/
theorem Registered.commits (h : R.Registered ends w₀ w stage)
    (hkeys : R.KeysDrawn w₀) {own : S.Db -> S.Db} {a : α}
    (hproc : w.procs i = .running own (.ret a)) :
    R.Registered ends w₀
      (((w.commit own).release i).setProc i (.done (.ok a))) stage := by
  have hself : R.Conforms ends (stage i) (w.procs i) := h.conforms i
  rw [hproc] at hself
  rcases hself with ⟨hends, howns⟩
  have hbefore : (w.procs i).published (stage i) = none := by
    rw [hproc]
    rfl
  refine ⟨?_, h.advances, h.bounds, h.apart, ?_, ?_, h.announced⟩
  · intro j
    by_cases hj : j = i
    · rw [hj, World.setProc_procs_self]
      exact hends
    · rw [World.setProc_procs_of_ne hj]
      exact h.conforms j
  · intro j n r hpublished
    change R.get (R.obs (own w.committed)) n = some r
    by_cases hj : j = i
    · rw [hj, World.setProc_procs_self] at hpublished
      have hrow : (stage i).row = some (n, r) := hpublished
      rcases h.commit_row hkeys hproc hrow with ⟨hfree, hcommit⟩
      rw [hcommit, R.get_add, if_pos ⟨rfl, hfree⟩]
    · rw [World.setProc_procs_of_ne hj] at hpublished
      have hget := h.kept j n r hpublished
      cases hrow : (stage i).row with
      | none =>
          rw [Owns, hrow] at howns
          rw [howns]
          exact hget
      | some entry =>
          rw [Owns, hrow] at howns
          rw [howns]
          exact get_add_of_some hget
  · intro n r hget
    change R.get (R.obs (own w.committed)) n = some r at hget
    have hold : R.get (R.obs w.committed) n = some r ->
        R.get (R.obs w₀.committed) n = some r ∨ exists j,
          ((((w.commit own).release i).setProc i
            (.done (.ok a))).procs j).published (stage j) = some (n, r) := by
      intro hget
      rcases h.only n r hget with hfirst | ⟨j, hpublished⟩
      · exact Or.inl hfirst
      · have hj : j ≠ i := by
          intro heq
          subst heq
          rw [hbefore] at hpublished
          cases hpublished
        refine Or.inr ⟨j, ?_⟩
        rw [World.setProc_procs_of_ne hj]
        exact hpublished
    cases hrow : (stage i).row with
    | none =>
        rw [Owns, hrow] at howns
        rw [howns] at hget
        exact hold hget
    | some entry =>
        rcases entry with ⟨m, r'⟩
        rw [Owns, hrow] at howns
        rw [howns, R.get_add] at hget
        split at hget
        · rename_i hm
          cases hget
          refine Or.inr ⟨i, ?_⟩
          rw [World.setProc_procs_self, hm.left]
          exact hrow
        · exact hold hget

theorem Flushes.owns {ws : List (Write S)} {st st' : Stage ρ}
    {own : S.Db -> S.Db} (h : R.Flushes ws st st') (howns : R.Owns st own) :
    R.Owns st' fun db => Write.applyAll ws (own db) := by
  cases h with
  | keep hws =>
      unfold Owns at howns ⊢
      split at howns
      · exact fun db => (hws _).trans (howns db)
      · exact fun db => (hws _).trans (howns db)
  | insert hws =>
      intro db
      have hblank : R.obs (own db) = R.obs db := howns db
      rw [hws, hblank]

theorem Flushes.key_eq {ws : List (Write S)} {st st' : Stage ρ}
    (h : R.Flushes ws st st') : st'.key = st.key := by
  cases h <;> rfl

section Statements

variable {own : S.Db -> S.Db}

theorem Registered.running {p : Program S α}
    (h : R.Registered ends w₀ w stage)
    (hproc : w.procs i = .running own p) :
    R.Follows ends (stage i) p ∧ R.Owns (stage i) own := by
  have hconforms := h.conforms i
  rw [hproc] at hconforms
  exact hconforms

theorem Registered.start {p : Program S α} (h : R.Registered ends w₀ w stage)
    (hproc : w.procs i = .idle) (hp : R.Follows ends .blank p) :
    R.Registered ends w₀ (w.setProc i (.running id p)) stage := by
  have hblank := h.conforms i
  rw [hproc] at hblank
  change stage i = .blank at hblank
  refine h.remains (World.HiddenFrom.refl i w) hproc rfl rfl rfl
    (Int.le_refl _) ?_
  rw [hblank]
  exact ⟨hp, fun _ => rfl⟩

theorem Registered.ends_in_error {p : Program S α} (e : S.Exc)
    (h : R.Registered ends w₀ w stage)
    (hproc : w.procs i = .running own p) :
    R.Registered ends w₀ ((w.release i).setProc i (.done (.error e))) stage :=
  h.remains (World.hiddenFrom_release w i) hproc rfl rfl rfl (Int.le_refl _)
    trivial

theorem Registered.read {k : S.Db -> Program S α}
    (h : R.Registered ends w₀ w stage)
    (hproc : w.procs i = .running own (.read k)) :
    R.Registered ends w₀ (w.setProc i (.running own (k (own w.committed))))
      stage := by
  rcases h.running hproc with ⟨hk, howns⟩
  exact h.remains (World.HiddenFrom.refl i w) hproc rfl rfl rfl
    (Int.le_refl _) ⟨hk _, howns⟩

theorem Registered.lock {r : S.Lock} {k : S.Db -> Program S α}
    (h : R.Registered ends w₀ w stage)
    (hproc : w.procs i = .running own (.lock r k))
    (hgrants : w.Grants i [r]) :
    R.Registered ends w₀
      ((w.acquire i [r]).setProc i (.running own (k (own w.committed))))
      stage := by
  rcases h.running hproc with ⟨hk, howns⟩
  exact h.remains (World.hiddenFrom_acquire hgrants) hproc rfl rfl rfl
    (Int.le_refl _) ⟨hk _, howns⟩

theorem Registered.flush {rs : List S.Lock} {ws : List (Write S)}
    {k : Except S.Exc Unit -> Program S α} (h : R.Registered ends w₀ w stage)
    (hproc : w.procs i = .running own (.flush rs ws k))
    (hgrants : w.Grants i rs) :
    exists stage', R.Registered ends w₀
      ((w.acquire i rs).setProc i
        (.running (fun db => Write.applyAll ws (own db)) (k (.ok ()))))
      stage' := by
  rcases h.running hproc with ⟨⟨⟨st', hws, hok⟩, _⟩, howns⟩
  refine ⟨Function.update stage i st', h.leads
    (World.hiddenFrom_acquire hgrants) hproc rfl rfl (Int.le_refl _) ?_ ?_
    (fun _ ho => Or.inl ho) ⟨hok, hws.owns howns⟩⟩
  · intro n hn
    rw [hws.key_eq] at hn
    exact Or.inl hn
  · intro n r hst
    rw [hst] at hws
    cases hws
    rfl

theorem Registered.flushError {rs : List S.Lock} {ws : List (Write S)}
    {k : Except S.Exc Unit -> Program S α} {e : S.Exc}
    (h : R.Registered ends w₀ w stage)
    (hproc : w.procs i = .running own (.flush rs ws k))
    (hgrants : w.Grants i rs)
    (hws : Write.attempt ws (own w.committed) = .error e) :
    R.Registered ends w₀
      ((w.acquire i rs).setProc i (.running own (k (.error e)))) stage := by
  rcases h.running hproc with ⟨⟨_, hrefused⟩, howns⟩
  rcases Write.exists_violation_of_attempt hws with ⟨u, hu, d, he⟩
  exact h.remains (World.hiddenFrom_acquire hgrants) hproc rfl rfl rfl
    (Int.le_refl _) ⟨hrefused u hu d _ he, howns⟩

theorem Registered.nextval {t : S.Seq} {k : Int -> Program S α}
    (h : R.Registered ends w₀ w stage)
    (hproc : w.procs i = .running own (.nextval t k)) :
    exists stage', R.Registered ends w₀
      ((w.draw t).setProc i (.running own (k (w.seq t)))) stage' := by
  rcases h.running hproc with ⟨hfollows, howns⟩
  have hnext := hfollows (w.seq t)
  split at hnext
  · rename_i ht
    subst ht
    rcases hnext with ⟨hblank, hk⟩
    have hseq : (w.draw R.seq).seq R.seq = w.seq R.seq + 1 := by
      simp [World.draw]
    rw [hblank] at howns
    refine ⟨Function.update stage i (.drawn (w.seq R.seq)), h.leads
      (World.hiddenFrom_draw w i R.seq) hproc rfl rfl ?_ ?_ ?_
      (fun _ ho => Or.inl ho) ⟨hk, howns⟩⟩
    · rw [hseq]
      omega
    · intro n hn
      cases hn
      rw [hseq]
      omega
    · intro n r hst
      cases hblank.symm.trans hst
  · rename_i ht
    have hseq : (w.draw t).seq R.seq = w.seq R.seq := by
      simp [World.draw, Ne.symm ht]
    exact ⟨stage, h.remains (World.hiddenFrom_draw w i t) hproc rfl rfl rfl
      (Int.le_of_eq hseq.symm) ⟨hnext, howns⟩⟩

theorem Registered.emit {o : S.Out} {k : Program S α}
    (h : R.Registered ends w₀ w stage)
    (hproc : w.procs i = .running own (.emit o k)) :
    exists stage', R.Registered ends w₀
      ((w.push o).setProc i (.running own k)) stage' := by
  rcases h.running hproc with ⟨⟨n, r, hst, ho, hk⟩, howns⟩
  rw [hst] at howns
  refine ⟨Function.update stage i (.announced n r), h.leads
    (World.hiddenFrom_push w i o) hproc rfl rfl (Int.le_refl _) ?_ ?_ ?_
    ⟨hk, howns⟩⟩
  · intro m hm
    cases hm
    exact Or.inl (congrArg Stage.key hst)
  · intro m r' hst'
    cases hst.symm.trans hst'
  · intro o' ho'
    rcases List.mem_append.mp ho' with hold | hnew
    · exact Or.inl hold
    · cases List.mem_singleton.mp hnew
      exact Or.inr ⟨n, r, rfl, ho⟩

end Statements

/-- One step of any session, for some stage it has then. -/
theorem Registered.step {a : Act S α} (h : R.Registered ends w₀ w stage)
    (hkeys : R.KeysDrawn w₀) (hm : World.Moves w a w')
    (hstart : forall j p, a = .start j p -> R.Follows ends .blank p) :
    exists stage', R.Registered ends w₀ w' stage' := by
  cases hm with
  | @start i p hproc => exact ⟨stage, h.start hproc (hstart i p rfl)⟩
  | fail e hproc => exact ⟨stage, h.ends_in_error e hproc⟩
  | @raise i own e hproc => exact ⟨stage, h.ends_in_error e hproc⟩
  | ret hproc => exact ⟨stage, h.commits hkeys hproc⟩
  | read hproc => exact ⟨stage, h.read hproc⟩
  | lock hproc hgrants => exact ⟨stage, h.lock hproc hgrants⟩
  | flush hproc hgrants _ => exact h.flush hproc hgrants
  | flushError hproc hgrants hws =>
      exact ⟨stage, h.flushError hproc hgrants hws⟩
  | nextval hproc => exact h.nextval hproc
  | emit hproc => exact h.emit hproc

/-- Sessions that follow the stages, in every interleaving. -/
theorem registered_of_reaches {adm : World S α -> Act S α -> Prop}
    (hrun : World.Reaches adm w₀ w) (hidle : forall i, w₀.procs i = .idle)
    (hkeys : R.KeysDrawn w₀)
    (hadm : forall u stage i p, R.Registered ends w₀ u stage ->
      adm u (.start i p) -> R.Follows ends .blank p) :
    exists stage, R.Registered ends w₀ w stage := by
  induction hrun with
  | refl => exact ⟨_, registered_start hidle⟩
  | @step u u' a _ hact hexec ih =>
      rcases ih with ⟨stage, h⟩
      apply h.step hkeys (World.moves_of_exec hexec)
      intro j p heq
      subst heq
      exact hadm u stage j p h hact

end Runs
end Registry
end Txn
