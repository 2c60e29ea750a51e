import CoverAI.Txn.Program

/-!
# Interleaved transactions under READ COMMITTED

Any number of sessions run their programs in steps.  A statement sees the
committed database with the session's own changes on top; a lock or a flush
waits while another session holds one of its rows; changes become visible to
others, and locks are released, at the commit.  A session can also fail before
its commit, which rolls it back.

The serial meaning of a program is one of its interleaved runs: a session that
no other session disturbs ends as `Program.transact` says.
-/

namespace Txn

/-- A session holds the change it has made so far and the rest of its
program. -/
inductive Process (S : Signature) (α : Type) : Type where
  | idle
  | running (own : S.Db -> S.Db) (p : Program S α)
  | done (res : Except S.Exc α)

/-- The next statement is to lock the row. -/
def Program.awaits {S : Signature} {α : Type} (r : S.Lock) :
    Program S α -> Bool
  | .lock r' _ => r' = r
  | _ => false

def Process.awaits {S : Signature} {α : Type} (r : S.Lock) :
    Process S α -> Bool
  | .running _ p => p.awaits r
  | _ => false

def Process.succeeded {S : Signature} {α : Type} : Process S α -> Bool
  | .done (.ok _) => true
  | _ => false

def Process.ended {S : Signature} {α : Type} :
    Process S α -> Option (Except S.Exc α)
  | .done res => some res
  | _ => none

theorem Process.eq_done_of_ended {S : Signature} {α : Type} {q : Process S α}
    {res : Except S.Exc α} (h : q.ended = some res) : q = .done res := by
  cases q <;> cases h
  rfl

theorem Process.exists_of_succeeded {S : Signature} {α : Type}
    {q : Process S α} (h : q.succeeded = true) :
    exists a, q = .done (.ok a) := by
  unfold succeeded at h
  split at h
  · exact ⟨_, rfl⟩
  · cases h

inductive Act (S : Signature) (α : Type) : Type where
  | start (i : Nat) (p : Program S α)
  | step (i : Nat)
  | fail (i : Nat) (e : S.Exc)

/-- The session that acts. -/
def Act.session {S : Signature} {α : Type} : Act S α -> Nat
  | .start i _ | .step i | .fail i _ => i

/-- What an act makes of the process of its session, where `db` is
committed. -/
inductive Process.Moves {S : Signature} {α : Type} (db : S.Db) :
    Process S α -> Act S α -> Process S α -> Prop where
  | start {i : Nat} {p : Program S α} :
      Moves db .idle (.start i p) (.running id p)
  | fail {i : Nat} {own : S.Db -> S.Db} {p : Program S α} (e : S.Exc) :
      Moves db (.running own p) (.fail i e) (.done (.error e))
  | ret {i : Nat} {own : S.Db -> S.Db} {a : α} :
      Moves db (.running own (.ret a)) (.step i) (.done (.ok a))
  | raise {i : Nat} {own : S.Db -> S.Db} {e : S.Exc} :
      Moves db (.running own (.raise e)) (.step i) (.done (.error e))
  | read {i : Nat} {own : S.Db -> S.Db} {k : S.Db -> Program S α} :
      Moves db (.running own (.read k)) (.step i) (.running own (k (own db)))
  | lock {i : Nat} {own : S.Db -> S.Db} {r : S.Lock}
      {k : S.Db -> Program S α} :
      Moves db (.running own (.lock r k)) (.step i) (.running own (k (own db)))
  | flush {i : Nat} {own : S.Db -> S.Db} {rs : List S.Lock}
      {ws : List (Write S)} {k : Except S.Exc Unit -> Program S α} :
      Moves db (.running own (.flush rs ws k)) (.step i)
        (.running (fun db => Write.applyAll ws (own db)) (k (.ok ())))
  | flushError {i : Nat} {own : S.Db -> S.Db} {rs : List S.Lock}
      {ws : List (Write S)} {k : Except S.Exc Unit -> Program S α} {e : S.Exc}
      (hws : Write.attempt ws (own db) = .error e) :
      Moves db (.running own (.flush rs ws k)) (.step i)
        (.running own (k (.error e)))
  | nextval {i : Nat} {own : S.Db -> S.Db} {t : S.Seq}
      {k : Int -> Program S α} (n : Int) :
      Moves db (.running own (.nextval t k)) (.step i) (.running own (k n))
  | emit {i : Nat} {own : S.Db -> S.Db} {o : S.Out} {k : Program S α} :
      Moves db (.running own (.emit o k)) (.step i) (.running own k)

theorem Process.Moves.ne_idle {S : Signature} {α : Type} {db : S.Db}
    {a : Act S α} {q q' : Process S α} (h : q.Moves db a q') : q' ≠ .idle := by
  intro hidle
  cases h <;> cases hidle

structure World (S : Signature) (α : Type) where
  committed : S.Db
  seq : S.Seq -> Int
  out : List S.Out
  holder : S.Lock -> Option Nat
  procs : Nat -> Process S α

namespace World

variable {S : Signature} {α : Type}

def init (s : Store S) : World S α where
  committed := s.db
  seq := s.seq
  out := s.out
  holder := fun _ => none
  procs := fun _ => Process.idle

def store (w : World S α) : Store S where
  db := w.committed
  seq := w.seq
  out := w.out

def setProc (w : World S α) (i : Nat) (q : Process S α) : World S α :=
  { w with procs := Function.update w.procs i q }

def acquire (w : World S α) (i : Nat) (rs : List S.Lock) : World S α :=
  { w with holder := fun r => if r ∈ rs then some i else w.holder r }

def release (w : World S α) (i : Nat) : World S α :=
  { w with holder := fun r => if w.holder r = some i then none else w.holder r }

def commit (w : World S α) (own : S.Db -> S.Db) : World S α :=
  { w with committed := own w.committed }

def draw (w : World S α) (t : S.Seq) : World S α :=
  { w with seq := Function.update w.seq t (w.seq t + 1) }

def push (w : World S α) (o : S.Out) : World S α :=
  { w with out := w.out ++ [o] }

/-- The rows are free or already held by the session. -/
def Grants (w : World S α) (i : Nat) (rs : List S.Lock) : Prop :=
  forall r, r ∈ rs -> w.holder r = none ∨ w.holder r = some i

instance (w : World S α) (i : Nat) (rs : List S.Lock) :
    Decidable (w.Grants i rs) :=
  inferInstanceAs
    (Decidable (forall r, r ∈ rs -> w.holder r = none ∨ w.holder r = some i))

/-!
# Steps
-/

def advance (w : World S α) (i : Nat) (own : S.Db -> S.Db) :
    Program S α -> Option (World S α)
  | .ret a => some (((w.commit own).release i).setProc i (.done (.ok a)))
  | .raise e => some ((w.release i).setProc i (.done (.error e)))
  | .read k => some (w.setProc i (.running own (k (own w.committed))))
  | .lock r k =>
      if w.Grants i [r] then
        some ((w.acquire i [r]).setProc i (.running own (k (own w.committed))))
      else none
  | .flush rs ws k =>
      if w.Grants i rs then
        match Write.attempt ws (own w.committed) with
        | .ok _ =>
            some ((w.acquire i rs).setProc i
              (.running (fun db => Write.applyAll ws (own db)) (k (.ok ()))))
        | .error e =>
            some ((w.acquire i rs).setProc i (.running own (k (.error e))))
      else none
  | .nextval t k =>
      some ((w.draw t).setProc i (.running own (k (w.seq t))))
  | .emit o k => some ((w.push o).setProc i (.running own k))

/-- A blocked or impossible act has no successor. -/
def exec (w : World S α) : Act S α -> Option (World S α)
  | .start i p =>
      match w.procs i with
      | .idle => some (w.setProc i (.running id p))
      | _ => none
  | .step i =>
      match w.procs i with
      | .running own p => w.advance i own p
      | _ => none
  | .fail i e =>
      match w.procs i with
      | .running _ _ => some ((w.release i).setProc i (.done (.error e)))
      | _ => none

/-- What an act can do, one case for each statement. -/
inductive Moves (w : World S α) : Act S α -> World S α -> Prop where
  | start {i : Nat} {p : Program S α} (h : w.procs i = .idle) :
      Moves w (.start i p) (w.setProc i (.running id p))
  | fail {i : Nat} {own : S.Db -> S.Db} {p : Program S α} (e : S.Exc)
      (h : w.procs i = .running own p) :
      Moves w (.fail i e) ((w.release i).setProc i (.done (.error e)))
  | ret {i : Nat} {own : S.Db -> S.Db} {a : α}
      (h : w.procs i = .running own (.ret a)) :
      Moves w (.step i)
        (((w.commit own).release i).setProc i (.done (.ok a)))
  | raise {i : Nat} {own : S.Db -> S.Db} {e : S.Exc}
      (h : w.procs i = .running own (.raise e)) :
      Moves w (.step i) ((w.release i).setProc i (.done (.error e)))
  | read {i : Nat} {own : S.Db -> S.Db} {k : S.Db -> Program S α}
      (h : w.procs i = .running own (.read k)) :
      Moves w (.step i) (w.setProc i (.running own (k (own w.committed))))
  | lock {i : Nat} {own : S.Db -> S.Db} {r : S.Lock} {k : S.Db -> Program S α}
      (h : w.procs i = .running own (.lock r k)) (hgrants : w.Grants i [r]) :
      Moves w (.step i)
        ((w.acquire i [r]).setProc i (.running own (k (own w.committed))))
  | flush {i : Nat} {own : S.Db -> S.Db} {rs : List S.Lock}
      {ws : List (Write S)} {k : Except S.Exc Unit -> Program S α} {db : S.Db}
      (h : w.procs i = .running own (.flush rs ws k)) (hgrants : w.Grants i rs)
      (hws : Write.attempt ws (own w.committed) = .ok db) :
      Moves w (.step i)
        ((w.acquire i rs).setProc i
          (.running (fun db => Write.applyAll ws (own db)) (k (.ok ()))))
  | flushError {i : Nat} {own : S.Db -> S.Db} {rs : List S.Lock}
      {ws : List (Write S)} {k : Except S.Exc Unit -> Program S α} {e : S.Exc}
      (h : w.procs i = .running own (.flush rs ws k)) (hgrants : w.Grants i rs)
      (hws : Write.attempt ws (own w.committed) = .error e) :
      Moves w (.step i)
        ((w.acquire i rs).setProc i (.running own (k (.error e))))
  | nextval {i : Nat} {own : S.Db -> S.Db} {t : S.Seq} {k : Int -> Program S α}
      (h : w.procs i = .running own (.nextval t k)) :
      Moves w (.step i)
        ((w.draw t).setProc i (.running own (k (w.seq t))))
  | emit {i : Nat} {own : S.Db -> S.Db} {o : S.Out} {k : Program S α}
      (h : w.procs i = .running own (.emit o k)) :
      Moves w (.step i) ((w.push o).setProc i (.running own k))

theorem moves_of_exec {w w' : World S α} {a : Act S α}
    (h : w.exec a = some w') : Moves w a w' := by
  cases a with
  | start i p =>
      cases hproc : w.procs i with
      | idle =>
          simp only [exec, hproc, Option.some.injEq] at h
          exact h ▸ Moves.start hproc
      | running own q => simp [exec, hproc] at h
      | done res => simp [exec, hproc] at h
  | fail i e =>
      cases hproc : w.procs i with
      | idle => simp [exec, hproc] at h
      | running own q =>
          simp only [exec, hproc, Option.some.injEq] at h
          exact h ▸ Moves.fail e hproc
      | done res => simp [exec, hproc] at h
  | step i =>
      cases hproc : w.procs i with
      | idle => simp [exec, hproc] at h
      | done res => simp [exec, hproc] at h
      | running own q =>
          simp only [exec, hproc] at h
          cases q with
          | ret a =>
              simp only [advance, Option.some.injEq] at h
              exact h ▸ Moves.ret hproc
          | raise e =>
              simp only [advance, Option.some.injEq] at h
              exact h ▸ Moves.raise hproc
          | read k =>
              simp only [advance, Option.some.injEq] at h
              exact h ▸ Moves.read hproc
          | lock r k =>
              simp only [advance] at h
              split at h
              · rename_i hgrants
                simp only [Option.some.injEq] at h
                exact h ▸ Moves.lock hproc hgrants
              · cases h
          | flush rs ws k =>
              simp only [advance] at h
              split at h
              · rename_i hgrants
                cases hws : Write.attempt ws (own w.committed) with
                | ok db =>
                    simp only [hws, Option.some.injEq] at h
                    exact h ▸ Moves.flush hproc hgrants hws
                | error e =>
                    simp only [hws, Option.some.injEq] at h
                    exact h ▸ Moves.flushError hproc hgrants hws
              · cases h
          | nextval t k =>
              simp only [advance, Option.some.injEq] at h
              exact h ▸ Moves.nextval hproc
          | emit o k =>
              simp only [advance, Option.some.injEq] at h
              exact h ▸ Moves.emit hproc

/-!
# Runs
-/

def runActs (w : World S α) : List (Act S α) -> Option (World S α)
  | [] => some w
  | a :: rest => (w.exec a).bind fun w' => w'.runActs rest

/-- The worlds reached from a world by acts that are admissible where they
happen. -/
inductive Reaches (adm : World S α -> Act S α -> Prop) (w₀ : World S α) :
    World S α -> Prop where
  | refl : Reaches adm w₀ w₀
  | step {w w' : World S α} {a : Act S α} :
      Reaches adm w₀ w -> adm w a -> w.exec a = some w' -> Reaches adm w₀ w'

theorem Reaches.inv {adm : World S α -> Act S α -> Prop} {w₀ w : World S α}
    {Inv : World S α -> Prop} (h : Reaches adm w₀ w) (h₀ : Inv w₀)
    (hstep : forall {w w' a}, Inv w -> adm w a -> Moves w a w' -> Inv w') :
    Inv w := by
  induction h with
  | refl => exact h₀
  | step _ hadm hexec ih => exact hstep ih hadm (moves_of_exec hexec)

theorem Reaches.mono {adm adm' : World S α -> Act S α -> Prop}
    {w₀ w : World S α} (h : Reaches adm w₀ w)
    (himp : forall w a, adm w a -> adm' w a) : Reaches adm' w₀ w := by
  induction h with
  | refl => exact Reaches.refl
  | step _ hadm hexec ih => exact Reaches.step ih (himp _ _ hadm) hexec

theorem Reaches.trans {adm : World S α -> Act S α -> Prop}
    {w₀ w w' : World S α} (h : Reaches adm w₀ w) (h' : Reaches adm w w') :
    Reaches adm w₀ w' := by
  induction h' with
  | refl => exact h
  | step _ hadm hexec ih => exact Reaches.step ih hadm hexec

/-- A list of acts, each checked in the world it is done in. -/
def runChecked (check : World S α -> Act S α -> Bool) (w : World S α) :
    List (Act S α) -> Option (World S α)
  | [] => some w
  | a :: rest =>
      if check w a then (w.exec a).bind fun w' => w'.runChecked check rest
      else none

/-- The acts are admissible where an invariant and their check hold. -/
theorem reaches_of_runChecked_inv {adm : World S α -> Act S α -> Prop}
    {check : World S α -> Act S α -> Bool} {Inv : World S α -> Prop}
    {acts : List (Act S α)} {w w' : World S α} (hw : Inv w)
    (hstep : forall a, a ∈ acts -> forall u u', Inv u -> Moves u a u' -> Inv u')
    (hadm : forall a, a ∈ acts -> forall u, Inv u -> check u a = true ->
      adm u a)
    (h : w.runChecked check acts = some w') : Reaches adm w w' := by
  induction acts generalizing w with
  | nil =>
      simp only [runChecked, Option.some.injEq] at h
      exact h ▸ Reaches.refl
  | cons a rest ih =>
      rw [runChecked] at h
      split at h
      · rename_i hcheck
        rcases Option.bind_eq_some_iff.mp h with ⟨u, hexec, hrest⟩
        have hfirst : Reaches adm w u :=
          Reaches.step Reaches.refl (hadm a List.mem_cons_self w hw hcheck) hexec
        have hu := hstep a List.mem_cons_self w u hw (moves_of_exec hexec)
        exact hfirst.trans (ih hu
          (fun b hb => hstep b (List.mem_cons_of_mem a hb))
          (fun b hb => hadm b (List.mem_cons_of_mem a hb)) hrest)
      · cases h

theorem reaches_of_runChecked {adm : World S α -> Act S α -> Prop}
    {check : World S α -> Act S α -> Bool} {acts : List (Act S α)}
    {w w' : World S α}
    (hadm : forall a, a ∈ acts -> forall u, check u a = true -> adm u a)
    (h : w.runChecked check acts = some w') : Reaches adm w w' := by
  have htrue : forall a, a ∈ acts -> forall u u' : World S α, True ->
      Moves u a u' -> True := fun _ _ _ _ _ _ => trivial
  exact reaches_of_runChecked_inv trivial htrue
    (fun a ha u _ hcheck => hadm a ha u hcheck) h

theorem runChecked_true (w : World S α) (acts : List (Act S α)) :
    w.runChecked (fun _ _ => true) acts = w.runActs acts := by
  induction acts generalizing w with
  | nil => rfl
  | cons a rest ih =>
      rw [runChecked, runActs, if_pos rfl]
      cases w.exec a with
      | none => rfl
      | some u => exact ih u

/-- A list of acts is a run when the starts among it are allowed: the other
acts need no permission. -/
theorem reaches_of_runActs {adm : World S α -> Act S α -> Prop}
    {acts : List (Act S α)} {w w' : World S α}
    (hadm : forall a, a ∈ acts -> forall u, adm u a)
    (h : w.runActs acts = some w') : Reaches adm w w' := by
  rw [← runChecked_true] at h
  exact reaches_of_runChecked (fun a ha u _ => hadm a ha u) h

theorem runActs_append {w : World S α} {as bs : List (Act S α)} :
    w.runActs (as ++ bs) = (w.runActs as).bind fun w' => w'.runActs bs := by
  induction as generalizing w with
  | nil => rfl
  | cons a rest ih =>
      simp only [List.cons_append, runActs]
      cases w.exec a with
      | none => rfl
      | some u => exact ih

/-!
# Field equations
-/

@[simp] theorem setProc_committed (w : World S α) (i : Nat) (q : Process S α) :
    (w.setProc i q).committed = w.committed := rfl

@[simp] theorem setProc_seq (w : World S α) (i : Nat) (q : Process S α) :
    (w.setProc i q).seq = w.seq := rfl

@[simp] theorem setProc_out (w : World S α) (i : Nat) (q : Process S α) :
    (w.setProc i q).out = w.out := rfl

@[simp] theorem setProc_holder (w : World S α) (i : Nat) (q : Process S α) :
    (w.setProc i q).holder = w.holder := rfl

@[simp] theorem setProc_procs_self (w : World S α) (i : Nat)
    (q : Process S α) : (w.setProc i q).procs i = q := by
  simp [setProc]

theorem setProc_procs_of_ne {w : World S α} {i j : Nat} (h : j ≠ i)
    (q : Process S α) : (w.setProc i q).procs j = w.procs j := by
  simp [setProc, h]

@[simp] theorem acquire_committed (w : World S α) (i : Nat)
    (rs : List S.Lock) : (w.acquire i rs).committed = w.committed := rfl

@[simp] theorem acquire_seq (w : World S α) (i : Nat) (rs : List S.Lock) :
    (w.acquire i rs).seq = w.seq := rfl

@[simp] theorem acquire_out (w : World S α) (i : Nat) (rs : List S.Lock) :
    (w.acquire i rs).out = w.out := rfl

@[simp] theorem acquire_procs (w : World S α) (i : Nat) (rs : List S.Lock) :
    (w.acquire i rs).procs = w.procs := rfl

theorem acquire_holder (w : World S α) (i : Nat) (rs : List S.Lock)
    (r : S.Lock) :
    (w.acquire i rs).holder r = if r ∈ rs then some i else w.holder r := rfl

@[simp] theorem release_committed (w : World S α) (i : Nat) :
    (w.release i).committed = w.committed := rfl

@[simp] theorem release_seq (w : World S α) (i : Nat) :
    (w.release i).seq = w.seq := rfl

@[simp] theorem release_out (w : World S α) (i : Nat) :
    (w.release i).out = w.out := rfl

@[simp] theorem release_procs (w : World S α) (i : Nat) :
    (w.release i).procs = w.procs := rfl

theorem release_holder (w : World S α) (i : Nat) (r : S.Lock) :
    (w.release i).holder r =
      if w.holder r = some i then none else w.holder r := rfl

@[simp] theorem commit_committed (w : World S α) (own : S.Db -> S.Db) :
    (w.commit own).committed = own w.committed := rfl

@[simp] theorem commit_seq (w : World S α) (own : S.Db -> S.Db) :
    (w.commit own).seq = w.seq := rfl

@[simp] theorem commit_out (w : World S α) (own : S.Db -> S.Db) :
    (w.commit own).out = w.out := rfl

@[simp] theorem commit_holder (w : World S α) (own : S.Db -> S.Db) :
    (w.commit own).holder = w.holder := rfl

@[simp] theorem commit_procs (w : World S α) (own : S.Db -> S.Db) :
    (w.commit own).procs = w.procs := rfl

@[simp] theorem draw_committed (w : World S α) (t : S.Seq) :
    (w.draw t).committed = w.committed := rfl

@[simp] theorem draw_out (w : World S α) (t : S.Seq) :
    (w.draw t).out = w.out := rfl

@[simp] theorem draw_holder (w : World S α) (t : S.Seq) :
    (w.draw t).holder = w.holder := rfl

@[simp] theorem draw_procs (w : World S α) (t : S.Seq) :
    (w.draw t).procs = w.procs := rfl

@[simp] theorem push_committed (w : World S α) (o : S.Out) :
    (w.push o).committed = w.committed := rfl

@[simp] theorem push_seq (w : World S α) (o : S.Out) :
    (w.push o).seq = w.seq := rfl

@[simp] theorem push_out (w : World S α) (o : S.Out) :
    (w.push o).out = w.out ++ [o] := rfl

@[simp] theorem push_holder (w : World S α) (o : S.Out) :
    (w.push o).holder = w.holder := rfl

@[simp] theorem push_procs (w : World S α) (o : S.Out) :
    (w.push o).procs = w.procs := rfl

theorem Moves.procs_of_ne {w w' : World S α} {a : Act S α}
    (h : Moves w a w') {j : Nat} (hj : j ≠ a.session) :
    w'.procs j = w.procs j := by
  cases h <;> exact setProc_procs_of_ne hj _

theorem Moves.proc {w w' : World S α} {a : Act S α} (h : Moves w a w') :
    (w.procs a.session).Moves w.committed a (w'.procs a.session) := by
  cases h with
  | start hproc =>
      rw [Act.session, hproc, setProc_procs_self]
      exact .start
  | fail e hproc =>
      rw [Act.session, hproc, setProc_procs_self]
      exact .fail e
  | ret hproc =>
      rw [Act.session, hproc, setProc_procs_self]
      exact .ret
  | raise hproc =>
      rw [Act.session, hproc, setProc_procs_self]
      exact .raise
  | read hproc =>
      rw [Act.session, hproc, setProc_procs_self]
      exact .read
  | lock hproc _ =>
      rw [Act.session, hproc, setProc_procs_self]
      exact .lock
  | flush hproc _ _ =>
      rw [Act.session, hproc, setProc_procs_self]
      exact .flush
  | flushError hproc _ hws =>
      rw [Act.session, hproc, setProc_procs_self]
      exact .flushError hws
  | nextval hproc =>
      rw [Act.session, hproc, setProc_procs_self]
      exact .nextval _
  | emit hproc =>
      rw [Act.session, hproc, setProc_procs_self]
      exact .emit

theorem Moves.idle_of_start {w w' : World S α} {i : Nat} {p : Program S α}
    (h : Moves w (.start i p) w') : w.procs i = .idle := by
  cases h with
  | start hidle => exact hidle

/-- A session that has started does not become idle again. -/
theorem Moves.idle_of_idle {w w' : World S α} {a : Act S α}
    (h : Moves w a w') {j : Nat} (hj : w'.procs j = .idle) :
    w.procs j = .idle := by
  by_cases hself : j = a.session
  · subst hself
    exact absurd hj h.proc.ne_idle
  · rwa [h.procs_of_ne hself] at hj

/-- Granted locks were not another session's. -/
theorem acquire_holder_other {w : World S α} {i j : Nat} {rs : List S.Lock}
    (hgrants : w.Grants i rs) (hj : j ≠ i) (r : S.Lock) :
    (w.acquire i rs).holder r = some j <-> w.holder r = some j := by
  rw [acquire_holder]
  split
  · rename_i hr
    have hne : i ≠ j := fun h => hj h.symm
    rcases hgrants r hr with hnone | hself
    · simp [hnone, hne]
    · simp [hself]
  · exact Iff.rfl

theorem release_holder_other {w : World S α} {i j : Nat} (hj : j ≠ i)
    (r : S.Lock) :
    (w.release i).holder r = some j <-> w.holder r = some j := by
  rw [release_holder]
  split
  · rename_i hr
    have hne : i ≠ j := fun h => hj h.symm
    simp [hr, hne]
  · exact Iff.rfl

theorem release_holder_self (w : World S α) (i : Nat) (r : S.Lock) :
    (w.release i).holder r ≠ some i := by
  rw [release_holder]
  split
  · simp
  · assumption

/-- What a session does before its commit, seen by the other sessions. -/
structure HiddenFrom (w : World S α) (i : Nat) (u : World S α) : Prop where
  procs : u.procs = w.procs
  committed : u.committed = w.committed
  holder : forall j, j ≠ i -> forall r, w.holder r = some j ->
    u.holder r = some j

theorem HiddenFrom.refl (i : Nat) (w : World S α) : w.HiddenFrom i w :=
  ⟨rfl, rfl, fun _ _ _ hr => hr⟩

theorem hiddenFrom_acquire {w : World S α} {i : Nat} {rs : List S.Lock}
    (hgrants : w.Grants i rs) : w.HiddenFrom i (w.acquire i rs) :=
  ⟨rfl, rfl, fun _ hj r hr => (acquire_holder_other hgrants hj r).mpr hr⟩

theorem hiddenFrom_release (w : World S α) (i : Nat) :
    w.HiddenFrom i (w.release i) :=
  ⟨rfl, rfl, fun _ hj r hr => (release_holder_other hj r).mpr hr⟩

theorem hiddenFrom_draw (w : World S α) (i : Nat) (t : S.Seq) :
    w.HiddenFrom i (w.draw t) :=
  ⟨rfl, rfl, fun _ _ _ hr => hr⟩

theorem hiddenFrom_push (w : World S α) (i : Nat) (o : S.Out) :
    w.HiddenFrom i (w.push o) :=
  ⟨rfl, rfl, fun _ _ _ hr => hr⟩

/-- Keys that sessions have drawn stay apart when one of them goes on: a new key
is not below the old value of the sequence. -/
theorem apart_update {σ : Type} {key : σ -> Option Int} {stage : Nat -> σ}
    {i : Nat} {st : σ} {m : Int}
    (hapart : forall i j n, key (stage i) = some n -> key (stage j) = some n ->
      i = j)
    (hbounds : forall i n, key (stage i) = some n -> n < m)
    (hkey : forall n, key st = some n -> key (stage i) = some n ∨ m ≤ n) :
    forall j k n, key (Function.update stage i st j) = some n ->
      key (Function.update stage i st k) = some n -> j = k := by
  have hother : forall j n, j ≠ i -> key (stage j) = some n ->
      key st ≠ some n := by
    intro j n hj hjn hn
    rcases hkey n hn with hold | hnew
    · exact hj (hapart j i n hjn hold)
    · have hbound := hbounds j n hjn
      omega
  intro j k n hjn hkn
  by_cases hj : j = i
  · by_cases hk : k = i
    · rw [hj, hk]
    · rw [hj, Function.update_self] at hjn
      rw [Function.update_of_ne hk] at hkn
      exact (hother k n hk hkn hjn).elim
  · rw [Function.update_of_ne hj] at hjn
    by_cases hk : k = i
    · rw [hk, Function.update_self] at hkn
      exact (hother j n hj hjn hkn).elim
    · rw [Function.update_of_ne hk] at hkn
      exact hapart j k n hjn hkn

/-!
# A session that runs alone
-/

/-- No lock is held by another session. -/
def Undisturbed (w : World S α) (i : Nat) : Prop :=
  forall r, w.holder r = none ∨ w.holder r = some i

private theorem undisturbed_acquire {w : World S α} {i : Nat}
    (h : w.Undisturbed i) (rs : List S.Lock) :
    (w.acquire i rs).Undisturbed i := by
  intro r
  rw [acquire_holder]
  split
  · exact Or.inr rfl
  · exact h r

private theorem release_of_undisturbed {w : World S α} {i : Nat}
    (h : w.Undisturbed i) (r : S.Lock) : (w.release i).holder r = none := by
  rw [release_holder]
  rcases h r with hnone | hself
  · simp [hnone]
  · simp [hself]

/-- What a lone session leaves behind, given how its body ends on the view. -/
def EndsAs (w w' : World S α) (i : Nat) :
    Except S.Exc α × Store S -> Prop
  | (.ok a, s') =>
      w'.store = s' ∧ w'.procs i = .done (.ok a) ∧
        (forall r, w'.holder r = none) ∧
        forall j, j ≠ i -> w'.procs j = w.procs j
  | (.error e, s') =>
      w'.store = s'.setDb w.committed ∧
        w'.procs i = .done (.error e) ∧ (forall r, w'.holder r = none) ∧
        forall j, j ≠ i -> w'.procs j = w.procs j

private theorem exists_run_of_exec {w u : World S α} {i : Nat}
    {res : Except S.Exc α × Store S}
    (hexec : w.exec (.step i) = some u) (hcommitted : u.committed = w.committed)
    (hothers : forall j, j ≠ i -> u.procs j = w.procs j)
    (h : exists n w', u.runActs (List.replicate n (.step i)) = some w' ∧
      EndsAs u w' i res) :
    exists n w', w.runActs (List.replicate n (.step i)) = some w' ∧
      EndsAs w w' i res := by
  rcases h with ⟨n, w', hrun, hend⟩
  refine ⟨n + 1, w', ?_, ?_⟩
  · rw [List.replicate_succ, runActs, hexec]
    exact hrun
  · rcases res with ⟨res, s'⟩
    cases res with
    | ok a =>
        rcases hend with ⟨hstore, hdone, hfree, hsame⟩
        exact ⟨hstore, hdone, hfree,
          fun j hj => (hsame j hj).trans (hothers j hj)⟩
    | error e =>
        rcases hend with ⟨hstore, hdone, hfree, hsame⟩
        rw [hcommitted] at hstore
        exact ⟨hstore, hdone, hfree,
          fun j hj => (hsame j hj).trans (hothers j hj)⟩

theorem exists_run_of_running {w : World S α} {i : Nat} {own : S.Db -> S.Db}
    {p : Program S α} (hproc : w.procs i = .running own p)
    (halone : w.Undisturbed i) :
    exists n w', w.runActs (List.replicate n (.step i)) = some w' ∧
      EndsAs w w' i (p.run (w.store.setDb (own w.committed))) := by
  -- the induction is on the rest of the program; every statement is enabled
  induction p generalizing w own with
  | ret a =>
      refine ⟨1, ((w.commit own).release i).setProc i (.done (.ok a)), ?_, ?_⟩
      · simp [List.replicate, runActs, exec, hproc, advance]
      · refine ⟨rfl, setProc_procs_self _ _ _, ?_,
        fun _ hj => setProc_procs_of_ne hj _⟩
        intro r
        exact release_of_undisturbed (w := w.commit own) halone r
  | raise e =>
      refine ⟨1, (w.release i).setProc i (.done (.error e)), ?_, ?_⟩
      · simp [List.replicate, runActs, exec, hproc, advance]
      · refine ⟨rfl, setProc_procs_self _ _ _, ?_,
        fun _ hj => setProc_procs_of_ne hj _⟩
        intro r
        exact release_of_undisturbed halone r
  | read k ih =>
      let u := w.setProc i (.running own (k (own w.committed)))
      have hexec : w.exec (.step i) = some u := by
        simp [exec, hproc, advance, u]
      exact exists_run_of_exec hexec rfl (fun _ hj => setProc_procs_of_ne hj _)
        (ih _ (w := u) (setProc_procs_self _ _ _) halone)
  | lock r k ih =>
      let u := (w.acquire i [r]).setProc i (.running own (k (own w.committed)))
      have hgrants : w.Grants i [r] := fun r' _ => halone r'
      have hexec : w.exec (.step i) = some u := by
        simp [exec, hproc, advance, u, hgrants]
      exact exists_run_of_exec hexec rfl (fun _ hj => setProc_procs_of_ne hj _)
        (ih _ (w := u) (setProc_procs_self _ _ _)
          (undisturbed_acquire halone [r]))
  | flush rs ws k ih =>
      have hgrants : w.Grants i rs := fun r' _ => halone r'
      cases hws : Write.attempt ws (own w.committed) with
      | ok db =>
          let u := (w.acquire i rs).setProc i
            (.running (fun db => Write.applyAll ws (own db)) (k (.ok ())))
          have hexec : w.exec (.step i) = some u := by
            simp [exec, hproc, advance, u, hgrants, hws]
          have hproc' : u.procs i =
              .running (fun db => Write.applyAll ws (own db)) (k (.ok ())) :=
            setProc_procs_self _ _ _
          have hrest := ih (.ok ()) hproc' (undisturbed_acquire halone rs)
          rw [Program.run]
          simp only [Store.setDb_db, hws]
          rw [Write.applyAll_of_attempt hws]
          exact exists_run_of_exec hexec rfl
            (fun _ hj => setProc_procs_of_ne hj _) hrest
      | error e =>
          let u := (w.acquire i rs).setProc i (.running own (k (.error e)))
          have hexec : w.exec (.step i) = some u := by
            simp [exec, hproc, advance, u, hgrants, hws]
          have hproc' : u.procs i = .running own (k (.error e)) :=
            setProc_procs_self _ _ _
          have hrest := ih (.error e) hproc' (undisturbed_acquire halone rs)
          rw [Program.run]
          simp only [Store.setDb_db, hws]
          exact exists_run_of_exec hexec rfl
            (fun _ hj => setProc_procs_of_ne hj _) hrest
  | nextval t k ih =>
      let u := (w.draw t).setProc i (.running own (k (w.seq t)))
      have hexec : w.exec (.step i) = some u := by
        simp [exec, hproc, advance, u]
      exact exists_run_of_exec hexec rfl (fun _ hj => setProc_procs_of_ne hj _)
        (ih _ (w := u) (setProc_procs_self _ _ _) halone)
  | emit o k ih =>
      let u := (w.push o).setProc i (.running own k)
      have hexec : w.exec (.step i) = some u := by
        simp [exec, hproc, advance, u]
      exact exists_run_of_exec hexec rfl (fun _ hj => setProc_procs_of_ne hj _)
        (ih (w := u) (setProc_procs_self _ _ _) halone)

/-- A session that is started and runs to its end without another session in
between leaves the store `Program.transact` computes. -/
theorem exists_run_transact {w : World S α} {i : Nat} (hidle : w.procs i = .idle)
    (hfree : forall r, w.holder r = none) (p : Program S α) :
    exists n w',
      w.runActs (.start i p :: List.replicate n (.step i)) = some w' ∧
        w'.store = (p.transact w.store).2 ∧
        w'.procs i = .done (p.transact w.store).1 ∧
        (forall r, w'.holder r = none) ∧
        forall j, j ≠ i -> w'.procs j = w.procs j := by
  let u := w.setProc i (.running id p)
  have hexec : w.exec (.start i p) = some u := by
    simp [exec, hidle, u]
  have hproc : u.procs i = .running id p := setProc_procs_self _ _ _
  rcases exists_run_of_running hproc (fun r => Or.inl (hfree r)) with
    ⟨n, w', hrun, hend⟩
  have hothers : forall j, j ≠ i -> u.procs j = w.procs j :=
    fun j hj => setProc_procs_of_ne hj _
  refine ⟨n, w', ?_, ?_⟩
  · rw [runActs, hexec]
    exact hrun
  · change EndsAs u w' i (p.run w.store) at hend
    rcases hres : p.run w.store with ⟨res, s'⟩
    rw [hres] at hend
    cases res with
    | ok a =>
        rw [Program.transact_of_ok hres]
        rcases hend with ⟨hstore, hdone, hfree', hsame⟩
        exact ⟨hstore, hdone, hfree',
          fun j hj => (hsame j hj).trans (hothers j hj)⟩
    | error e =>
        rw [Program.transact_of_error hres]
        rcases hend with ⟨hstore, hdone, hfree', hsame⟩
        exact ⟨hstore, hdone, hfree',
          fun j hj => (hsame j hj).trans (hothers j hj)⟩

/-- Every serial history is an interleaved run in which each session ends
before the next one starts. -/
theorem exists_run_transactAll (ps : List (Program S Unit)) :
    forall (w : World S Unit) (n : Nat),
      (forall i, n ≤ i -> w.procs i = .idle) ->
      (forall r, w.holder r = none) ->
      exists acts w', w.runActs acts = some w' ∧
        w'.store = Program.transactAll w.store ps := by
  induction ps with
  | nil =>
      intro w n _ _
      exact ⟨[], w, rfl, rfl⟩
  | cons p rest ih =>
      intro w n hidle hfree
      rcases exists_run_transact (hidle n (Nat.le_refl n)) hfree p with
        ⟨m, u, hrun, hstore, _, hfree', hsame⟩
      have hidle' : forall i, n + 1 ≤ i -> u.procs i = .idle := by
        intro i hi
        rw [hsame i (by omega)]
        exact hidle i (by omega)
      rcases ih u (n + 1) hidle' hfree' with ⟨acts, w', hrest, hall⟩
      refine ⟨(.start n p :: List.replicate m (.step n)) ++ acts, w', ?_, ?_⟩
      · rw [runActs_append, hrun]
        exact hrest
      · rw [hall, hstore, Program.transactAll_cons]

end World
end Txn
