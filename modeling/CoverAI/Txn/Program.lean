import Mathlib.Data.List.Basic
import Mathlib.Logic.Function.Basic

/-!
# Transaction programs

A request handler that talks to a database through one session is a program
over six effects: a plain read, a row lock, a flush of pending writes, a
sequence draw, a message to a system outside the database, and an exception.
The same program has two meanings.  This module gives the serial one, where the
program runs alone and its session commits or rolls back at the end;
the interleaved one is built on the same syntax.
-/

namespace Txn

/-- What a program can touch: the database, the names of its locks and
sequences, the messages that leave it and the exceptions it can raise. -/
structure Signature where
  Db : Type
  Lock : Type
  Seq : Type
  Out : Type
  Exc : Type
  lockDecidableEq : DecidableEq Lock
  seqDecidableEq : DecidableEq Seq

instance (S : Signature) : DecidableEq S.Lock := S.lockDecidableEq

instance (S : Signature) : DecidableEq S.Seq := S.seqDecidableEq

/-- A pending write: the constraint it may violate, and its effect. -/
structure Write (S : Signature) where
  violation : S.Db -> Option S.Exc
  apply : S.Db -> S.Db

namespace Write

variable {S : Signature}

def applyAll (ws : List (Write S)) (db : S.Db) : S.Db :=
  ws.foldl (fun db w => w.apply db) db

/-- The writes in order, each on the result of those before it. -/
def attempt : List (Write S) -> S.Db -> Except S.Exc S.Db
  | [], db => .ok db
  | w :: ws, db =>
      match w.violation db with
      | none => attempt ws (w.apply db)
      | some e => .error e

/-- Every one of the writes has the property. -/
inductive All (P : Write S -> Prop) : List (Write S) -> Prop where
  | nil : All P []
  | cons {w : Write S} {ws : List (Write S)} (h : P w) (hws : All P ws) :
      All P (w :: ws)

theorem All.one {P : Write S -> Prop} {w : Write S} (h : P w) : All P [w] :=
  .cons h .nil

theorem All.map {α : Type} {P : Write S -> Prop} {f : α -> Write S}
    (h : forall a, P (f a)) (items : List α) : All P (items.map f) := by
  induction items with
  | nil => exact .nil
  | cons a items ih => exact .cons (h a) ih

theorem All.mono {P Q : Write S -> Prop} (himp : forall w, P w -> Q w)
    {ws : List (Write S)} (h : All P ws) : All Q ws := by
  induction h with
  | nil => exact .nil
  | cons h _ ih => exact .cons (himp _ h) ih

theorem All.of_mem {P : Write S -> Prop} {ws : List (Write S)}
    (h : All P ws) {w : Write S} (hw : w ∈ ws) : P w := by
  induction h with
  | nil => cases hw
  | cons h _ ih =>
      rcases List.mem_cons.mp hw with rfl | hrest
      · exact h
      · exact ih hrest

@[simp] theorem applyAll_nil (db : S.Db) : applyAll [] db = db := rfl

@[simp] theorem applyAll_cons (w : Write S) (ws : List (Write S))
    (db : S.Db) : applyAll (w :: ws) db = applyAll ws (w.apply db) := rfl

@[simp] theorem attempt_nil (db : S.Db) :
    attempt ([] : List (Write S)) db = .ok db := rfl

theorem attempt_cons (w : Write S) (ws : List (Write S)) (db : S.Db) :
    attempt (w :: ws) db =
      match w.violation db with
      | none => attempt ws (w.apply db)
      | some e => .error e := rfl

theorem attempt_cons_of_none {w : Write S} {db : S.Db}
    (h : w.violation db = none) (ws : List (Write S)) :
    attempt (w :: ws) db = attempt ws (w.apply db) := by
  rw [attempt_cons, h]

theorem attempt_cons_eq_ok {w : Write S} {ws : List (Write S)}
    {db d : S.Db} :
    attempt (w :: ws) db = .ok d <->
      w.violation db = none ∧ attempt ws (w.apply db) = .ok d := by
  rw [attempt_cons]
  cases w.violation db with
  | none => simp
  | some e => simp

theorem applyAll_of_attempt {ws : List (Write S)} {db d : S.Db}
    (h : attempt ws db = .ok d) : d = applyAll ws db := by
  induction ws generalizing db with
  | nil =>
      cases h
      rfl
  | cons w ws ih => exact ih (attempt_cons_eq_ok.mp h).right

/-- A unit of work fails at one of its writes. -/
theorem exists_violation_of_attempt {ws : List (Write S)} {db : S.Db}
    {e : S.Exc} (h : attempt ws db = .error e) :
    exists w, w ∈ ws ∧ exists d, w.violation d = some e := by
  induction ws generalizing db with
  | nil => cases h
  | cons w ws ih =>
      rw [attempt_cons] at h
      cases hw : w.violation db with
      | none =>
          rw [hw] at h
          rcases ih h with ⟨u, hu, d, he⟩
          exact ⟨u, List.mem_cons_of_mem w hu, d, he⟩
      | some e' =>
          rw [hw] at h
          cases h
          exact ⟨w, List.mem_cons_self, db, hw⟩

/-- A fact about the database that every write of a unit of work keeps. -/
theorem applyAll_keeps {ok : S.Db -> Prop} {ws : List (Write S)}
    (h : forall w, w ∈ ws -> forall db, ok db -> ok (w.apply db)) {db : S.Db}
    (hok : ok db) : ok (applyAll ws db) := by
  induction ws generalizing db with
  | nil => exact hok
  | cons w ws ih =>
      exact ih (fun u hu => h u (List.mem_cons_of_mem w hu))
        (h w List.mem_cons_self db hok)

/-- A value of the database that no write of a unit of work changes. -/
theorem applyAll_frame {β : Type} (obs : S.Db -> β) {ws : List (Write S)}
    (h : forall w, w ∈ ws -> forall db, obs (w.apply db) = obs db)
    (db : S.Db) : obs (applyAll ws db) = obs db := by
  induction ws generalizing db with
  | nil => rfl
  | cons w ws ih =>
      rw [applyAll_cons, ih (fun v hv => h v (List.mem_cons_of_mem w hv)),
        h w List.mem_cons_self]

end Write

/-- A flush sends the pending writes; the rest of the program sees whether a
constraint was violated. -/
inductive Program (S : Signature) (α : Type) : Type where
  | ret (a : α)
  | raise (e : S.Exc)
  | read (k : S.Db -> Program S α)
  | lock (r : S.Lock) (k : S.Db -> Program S α)
  | flush (rs : List S.Lock) (ws : List (Write S))
      (k : Except S.Exc Unit -> Program S α)
  | nextval (t : S.Seq) (k : Int -> Program S α)
  | emit (o : S.Out) (k : Program S α)

namespace Program

variable {S : Signature} {α β : Type}

def bind : Program S α -> (α -> Program S β) -> Program S β
  | ret a, f => f a
  | raise e, _ => raise e
  | read k, f => read fun v => (k v).bind f
  | lock r k, f => lock r fun v => (k v).bind f
  | flush rs ws k, f => flush rs ws fun res => (k res).bind f
  | nextval t k, f => nextval t fun n => (k n).bind f
  | emit o k, f => emit o (k.bind f)

instance : Monad (Program S) where
  pure := ret
  bind := bind

/-- An exception leaves the changes made so far in the session. -/
def tryCatch : Program S α -> (S.Exc -> Program S α) -> Program S α
  | ret a, _ => ret a
  | raise e, h => h e
  | read k, h => read fun v => (k v).tryCatch h
  | lock r k, h => lock r fun v => (k v).tryCatch h
  | flush rs ws k, h => flush rs ws fun res => (k res).tryCatch h
  | nextval t k, h => nextval t fun n => (k n).tryCatch h
  | emit o k, h => emit o (k.tryCatch h)

def void (p : Program S α) : Program S Unit :=
  p.bind fun _ => ret ()

/-!
# Single statements
-/

def view : Program S S.Db :=
  read ret

def ask (q : S.Db -> α) : Program S α :=
  read fun v => ret (q v)

def forUpdate (r : S.Lock) (q : S.Db -> α) : Program S α :=
  lock r fun v => ret (q v)

def flushUnit (rs : List S.Lock) (ws : List (Write S)) : Program S Unit :=
  flush rs ws fun
    | .ok () => ret ()
    | .error e => raise e

def draw (t : S.Seq) : Program S Int :=
  nextval t ret

def send (o : S.Out) : Program S Unit :=
  emit o (ret ())

end Program

/-!
# Serial meaning
-/

structure Store (S : Signature) where
  db : S.Db
  seq : S.Seq -> Int
  out : List S.Out

namespace Store

variable {S : Signature}

def setDb (s : Store S) (db : S.Db) : Store S :=
  { s with db := db }

def draw (s : Store S) (t : S.Seq) : Store S :=
  { s with seq := Function.update s.seq t (s.seq t + 1) }

def push (s : Store S) (o : S.Out) : Store S :=
  { s with out := s.out ++ [o] }

@[simp] theorem setDb_db (s : Store S) (db : S.Db) : (s.setDb db).db = db := rfl

@[simp] theorem setDb_seq (s : Store S) (db : S.Db) :
    (s.setDb db).seq = s.seq := rfl

@[simp] theorem setDb_out (s : Store S) (db : S.Db) :
    (s.setDb db).out = s.out := rfl

@[simp] theorem draw_db (s : Store S) (t : S.Seq) : (s.draw t).db = s.db := rfl

@[simp] theorem draw_out (s : Store S) (t : S.Seq) :
    (s.draw t).out = s.out := rfl

theorem draw_seq (s : Store S) (t t' : S.Seq) :
    (s.draw t).seq t' = if t' = t then s.seq t + 1 else s.seq t' := by
  simp [draw, Function.update_apply]

@[simp] theorem push_db (s : Store S) (o : S.Out) : (s.push o).db = s.db := rfl

@[simp] theorem push_seq (s : Store S) (o : S.Out) :
    (s.push o).seq = s.seq := rfl

@[simp] theorem push_out (s : Store S) (o : S.Out) :
    (s.push o).out = s.out ++ [o] := rfl

/-- Sequences and messages are outside the transaction: they only grow. -/
structure Advances (s s' : Store S) : Prop where
  seq : forall t, s.seq t ≤ s'.seq t
  out : s.out <+: s'.out

theorem Advances.refl (s : Store S) : Advances s s :=
  ⟨fun _ => Int.le_refl _, List.prefix_rfl⟩

theorem Advances.trans {s s' s'' : Store S} (h : Advances s s')
    (h' : Advances s' s'') : Advances s s'' :=
  ⟨fun t => Int.le_trans (h.seq t) (h'.seq t), h.out.trans h'.out⟩

theorem advances_setDb (s : Store S) (db : S.Db) : Advances s (s.setDb db) :=
  ⟨fun _ => Int.le_refl _, List.prefix_rfl⟩

theorem advances_draw (s : Store S) (t : S.Seq) : Advances s (s.draw t) := by
  refine ⟨fun t' => ?_, List.prefix_rfl⟩
  rw [draw_seq]
  split
  · rename_i ht
    rw [ht]
    omega
  · exact Int.le_refl _

theorem advances_push (s : Store S) (o : S.Out) : Advances s (s.push o) :=
  ⟨fun _ => Int.le_refl _, List.prefix_append _ _⟩

end Store

namespace Program

variable {S : Signature} {α β : Type}

/-- The body of a session, run alone: locks are free and changes are visible
to the statements after them. -/
def run : Program S α -> Store S -> Except S.Exc α × Store S
  | ret a, s => (.ok a, s)
  | raise e, s => (.error e, s)
  | read k, s => (k s.db).run s
  | lock _ k, s => (k s.db).run s
  | flush _ ws k, s =>
      match Write.attempt ws s.db with
      | .ok db => (k (.ok ())).run (s.setDb db)
      | .error e => (k (.error e)).run s
  | nextval t k, s => (k (s.seq t)).run (s.draw t)
  | emit o k, s => k.run (s.push o)

/-- A session: an exception that leaves the body rolls the database back. -/
def transact (p : Program S α) (s : Store S) : Except S.Exc α × Store S :=
  match p.run s with
  | (.ok a, s') => (.ok a, s')
  | (.error e, s') => (.error e, s'.setDb s.db)

/-- The store after sessions that were executed one after another. -/
def transactAll (s : Store S) (ps : List (Program S Unit)) : Store S :=
  ps.foldl (fun s p => (p.transact s).2) s

@[simp] theorem transactAll_nil (s : Store S) : transactAll s [] = s := rfl

@[simp] theorem transactAll_cons (s : Store S) (p : Program S Unit)
    (ps : List (Program S Unit)) :
    transactAll s (p :: ps) = transactAll (p.transact s).2 ps := rfl

/-!
# Equations

The monad operations reduce to the constructors, so a handler written with
`do` unfolds to its statements.
-/

@[simp] theorem pure_eq (a : α) : (pure a : Program S α) = ret a := rfl

@[simp] theorem bind_eq (p : Program S α) (f : α -> Program S β) :
    p >>= f = p.bind f := rfl

@[simp] theorem ret_bind (a : α) (f : α -> Program S β) :
    (ret a).bind f = f a := rfl

@[simp] theorem raise_bind (e : S.Exc) (f : α -> Program S β) :
    (raise e).bind f = raise e := rfl

@[simp] theorem read_bind (k : S.Db -> Program S α) (f : α -> Program S β) :
    (read k).bind f = read fun v => (k v).bind f := rfl

@[simp] theorem lock_bind (r : S.Lock) (k : S.Db -> Program S α)
    (f : α -> Program S β) :
    (lock r k).bind f = lock r fun v => (k v).bind f := rfl

@[simp] theorem flush_bind (rs : List S.Lock) (ws : List (Write S))
    (k : Except S.Exc Unit -> Program S α) (f : α -> Program S β) :
    (flush rs ws k).bind f = flush rs ws fun res => (k res).bind f := rfl

@[simp] theorem nextval_bind (t : S.Seq) (k : Int -> Program S α)
    (f : α -> Program S β) :
    (nextval t k).bind f = nextval t fun n => (k n).bind f := rfl

@[simp] theorem emit_bind (o : S.Out) (k : Program S α)
    (f : α -> Program S β) : (emit o k).bind f = emit o (k.bind f) := rfl

theorem bind_assoc {γ : Type} (p : Program S α) (f : α -> Program S β)
    (g : β -> Program S γ) :
    (p.bind f).bind g = p.bind fun a => (f a).bind g := by
  induction p with
  | ret a => rfl
  | raise e => rfl
  | read k ih => simp [ih]
  | lock r k ih => simp [ih]
  | flush rs ws k ih => simp [ih]
  | nextval t k ih => simp [ih]
  | emit o k ih => simp [ih]

theorem bind_ret (p : Program S α) : p.bind ret = p := by
  induction p with
  | ret a => rfl
  | raise e => rfl
  | read k ih => simp [ih]
  | lock r k ih => simp [ih]
  | flush rs ws k ih => simp [ih]
  | nextval t k ih => simp [ih]
  | emit o k ih => simp [ih]

theorem run_bind (p : Program S α) (f : α -> Program S β) (s : Store S) :
    (p.bind f).run s =
      match p.run s with
      | (.ok a, s') => (f a).run s'
      | (.error e, s') => (.error e, s') := by
  induction p generalizing s with
  | ret a => rfl
  | raise e => rfl
  | read k ih => exact ih s.db s
  | lock r k ih => exact ih s.db s
  | flush rs ws k ih =>
      simp only [flush_bind, run]
      cases Write.attempt ws s.db with
      | ok db => exact ih (.ok ()) _
      | error e => exact ih (.error e) _
  | nextval t k ih => exact ih _ _
  | emit o k ih => exact ih _

theorem run_tryCatch (p : Program S α) (h : S.Exc -> Program S α)
    (s : Store S) :
    (p.tryCatch h).run s =
      match p.run s with
      | (.ok a, s') => (.ok a, s')
      | (.error e, s') => (h e).run s' := by
  induction p generalizing s with
  | ret a => rfl
  | raise e => rfl
  | read k ih => exact ih s.db s
  | lock r k ih => exact ih s.db s
  | flush rs ws k ih =>
      simp only [tryCatch, run]
      cases Write.attempt ws s.db with
      | ok db => exact ih (.ok ()) _
      | error e => exact ih (.error e) _
  | nextval t k ih => exact ih _ _
  | emit o k ih => exact ih _

theorem run_void (p : Program S α) (s : Store S) :
    p.void.run s =
      match p.run s with
      | (.ok _, s') => (.ok (), s')
      | (.error e, s') => (.error e, s') := by
  rw [void, run_bind]
  rcases p.run s with ⟨res, s'⟩
  cases res <;> rfl

theorem run_advances (p : Program S α) (s : Store S) :
    s.Advances (p.run s).2 := by
  induction p generalizing s with
  | ret a => exact Store.Advances.refl s
  | raise e => exact Store.Advances.refl s
  | read k ih => exact ih s.db s
  | lock r k ih => exact ih s.db s
  | flush rs ws k ih =>
      rw [run]
      cases Write.attempt ws s.db with
      | ok db => exact (s.advances_setDb db).trans (ih (.ok ()) _)
      | error e => exact ih (.error e) s
  | nextval t k ih =>
      rw [run]
      exact (s.advances_draw t).trans (ih _ _)
  | emit o k ih =>
      rw [run]
      exact (s.advances_push o).trans (ih _)

theorem transact_of_ok {p : Program S α} {s s' : Store S} {a : α}
    (h : p.run s = (.ok a, s')) : p.transact s = (.ok a, s') := by
  simp [transact, h]

theorem transact_of_error {p : Program S α} {s s' : Store S} {e : S.Exc}
    (h : p.run s = (.error e, s')) :
    p.transact s = (.error e, s'.setDb s.db) := by
  simp [transact, h]

theorem transact_db_of_error {p : Program S α} {s : Store S} {e : S.Exc}
    (h : (p.transact s).1 = .error e) : (p.transact s).2.db = s.db := by
  rcases hrun : p.run s with ⟨res, s'⟩
  cases res with
  | ok a =>
      rw [transact_of_ok hrun] at h
      cases h
  | error e' =>
      rw [transact_of_error hrun]
      rfl

theorem transact_advances (p : Program S α) (s : Store S) :
    s.Advances (p.transact s).2 := by
  have h := run_advances p s
  rcases hrun : p.run s with ⟨res, s'⟩
  rw [hrun] at h
  cases res with
  | ok a =>
      rw [transact_of_ok hrun]
      exact h
  | error e =>
      rw [transact_of_error hrun]
      exact ⟨h.seq, h.out⟩

theorem run_of_transact_ok {p : Program S α} {s s' : Store S} {a : α}
    (h : p.transact s = (.ok a, s')) : p.run s = (.ok a, s') := by
  rcases hrun : p.run s with ⟨res, t⟩
  cases res with
  | ok b =>
      rw [transact_of_ok hrun] at h
      exact h
  | error e =>
      rw [transact_of_error hrun] at h
      cases h

theorem transact_void (p : Program S α) (s : Store S) :
    (p.void.transact s).2 = (p.transact s).2 := by
  simp only [transact, run_void]
  rcases p.run s with ⟨res, s'⟩
  cases res with
  | ok a => rfl
  | error e => rfl

/-- Other names for the exceptions and the result leave the same store. -/
theorem transact_renamed {p : Program S α} (g : S.Exc -> S.Exc) (f : α -> β)
    (s : Store S) :
    (((p.tryCatch fun e => raise (g e)).bind fun a => ret (f a)).transact s).2 =
      (p.transact s).2 := by
  simp only [transact, run_bind, run_tryCatch]
  rcases p.run s with ⟨res, s'⟩
  cases res with
  | ok a => rfl
  | error e => rfl

/-- The steps of a run are its first step and the steps of the rest. -/
theorem forall_steps_cons {ρ : Type} {P : List ρ -> ρ -> Prop} {r : ρ}
    {rest : List ρ} :
    (forall done next, done ++ [next] <+: r :: rest -> P done next) <->
      P [] r ∧ forall done next, done ++ [next] <+: rest ->
        P (r :: done) next := by
  constructor
  · intro h
    constructor
    · exact h [] r (List.prefix_append [r] rest)
    · intro done next hprefix
      exact h (r :: done) next ((List.prefix_cons_inj r).mpr hprefix)
  · intro h done next hprefix
    cases done with
    | nil =>
        rw [(List.cons_prefix_cons.mp hprefix).left]
        exact h.left
    | cons first done =>
        rcases List.cons_prefix_cons.mp hprefix with ⟨rfl, hdone⟩
        exact h.right done next hdone

theorem forall_steps_nil {ρ : Type} {P : List ρ -> ρ -> Prop} :
    forall done next, done ++ [next] <+: [] -> P done next := by
  intro done next hprefix
  simp at hprefix

/-- Where one step keeps a fact exactly when it is allowed, a run keeps it
exactly when each of its steps is allowed where it is taken. -/
theorem foldl_holds_iff {σ ρ : Type} {step : σ -> ρ -> σ}
    {wf holds : σ -> Prop} {allowed : σ -> ρ -> Prop}
    (hwf : forall s r, wf s -> wf (step s r))
    (hstep : forall s r, wf s -> holds s ->
      (holds (step s r) <-> allowed s r))
    {s : σ} (hs : wf s) (h : holds s) (rs : List ρ) :
    (forall done, done <+: rs -> holds (done.foldl step s)) <->
      forall done next, done ++ [next] <+: rs ->
        allowed (done.foldl step s) next := by
  induction rs generalizing s with
  | nil =>
      apply iff_of_true
      · intro done hprefix
        rw [List.prefix_nil.mp hprefix]
        exact h
      · exact forall_steps_nil
  | cons r rest ih =>
      rw [forall_steps_cons]
      constructor
      · intro hall
        have hfirst := hall [r] (List.prefix_append [r] rest)
        have hrest := (ih (hwf s r hs) hfirst).mp fun done hdone =>
          hall (r :: done) ((List.prefix_cons_inj r).mpr hdone)
        exact ⟨(hstep s r hs h).mp hfirst, hrest⟩
      · intro hall
        have hfirst := (hstep s r hs h).mpr hall.left
        have hrest := (ih (hwf s r hs) hfirst).mpr hall.right
        intro done hprefix
        cases done with
        | nil => exact h
        | cons first done =>
            rcases List.cons_prefix_cons.mp hprefix with ⟨rfl, hdone⟩
            exact hrest done hdone

/-- A sequence of sessions keeps a fact exactly when each of them is allowed
where it is executed. -/
theorem transactAll_holds_iff {ρ : Type} {session : ρ -> Program S Unit}
    {wf holds : Store S -> Prop} {allowed : Store S -> ρ -> Prop}
    (hwf : forall s r, wf s -> wf ((session r).transact s).2)
    (hstep : forall s r, wf s -> holds s ->
      (holds ((session r).transact s).2 <-> allowed s r))
    {s : Store S} (hs : wf s) (h : holds s) (rs : List ρ) :
    (forall done, done <+: rs -> holds (transactAll s (done.map session))) <->
      forall done next, done ++ [next] <+: rs ->
        allowed (transactAll s (done.map session)) next := by
  simp only [transactAll, List.foldl_map]
  exact foldl_holds_iff hwf hstep hs h rs

/-!
# Postconditions

A postcondition speaks of how the body ends and of the store it leaves.  The
rules reduce it, statement by statement, to a condition on the store before.
-/

def Exits (p : Program S α) (Q : Except S.Exc α -> Store S -> Prop)
    (s : Store S) : Prop :=
  Q (p.run s).1 (p.run s).2

variable {Q : Except S.Exc α -> Store S -> Prop}

@[simp] theorem exits_ret (a : α) (s : Store S) :
    (ret a).Exits Q s <-> Q (.ok a) s := Iff.rfl

@[simp] theorem exits_raise (e : S.Exc) (s : Store S) :
    (raise e).Exits Q s <-> Q (.error e) s := Iff.rfl

@[simp] theorem exits_read (k : S.Db -> Program S α) (s : Store S) :
    (read k).Exits Q s <-> (k s.db).Exits Q s := Iff.rfl

@[simp] theorem exits_lock (r : S.Lock) (k : S.Db -> Program S α)
    (s : Store S) : (lock r k).Exits Q s <-> (k s.db).Exits Q s := Iff.rfl

theorem exits_flush (rs : List S.Lock) (ws : List (Write S))
    (k : Except S.Exc Unit -> Program S α) (s : Store S) :
    (flush rs ws k).Exits Q s <->
      match Write.attempt ws s.db with
      | .ok db => (k (.ok ())).Exits Q (s.setDb db)
      | .error e => (k (.error e)).Exits Q s := by
  simp only [Exits, run]
  cases Write.attempt ws s.db <;> exact Iff.rfl

@[simp] theorem exits_nextval (t : S.Seq) (k : Int -> Program S α)
    (s : Store S) :
    (nextval t k).Exits Q s <-> (k (s.seq t)).Exits Q (s.draw t) := Iff.rfl

@[simp] theorem exits_emit (o : S.Out) (k : Program S α) (s : Store S) :
    (emit o k).Exits Q s <-> k.Exits Q (s.push o) := Iff.rfl

theorem exits_bind {R : Except S.Exc β -> Store S -> Prop} (p : Program S α)
    (f : α -> Program S β) (s : Store S) :
    (p.bind f).Exits R s <->
      p.Exits (fun res s' =>
        match res with
        | .ok a => (f a).Exits R s'
        | .error e => R (.error e) s') s := by
  simp only [Exits, run_bind]
  rcases p.run s with ⟨res, s'⟩
  cases res <;> exact Iff.rfl

theorem exits_tryCatch (p : Program S α) (h : S.Exc -> Program S α)
    (s : Store S) :
    (p.tryCatch h).Exits Q s <->
      p.Exits (fun res s' =>
        match res with
        | .ok a => Q (.ok a) s'
        | .error e => (h e).Exits Q s') s := by
  simp only [Exits, run_tryCatch]
  rcases p.run s with ⟨res, s'⟩
  cases res <;> exact Iff.rfl

theorem exits_mono {Q' : Except S.Exc α -> Store S -> Prop}
    {p : Program S α} {s : Store S} (h : p.Exits Q s)
    (himp : forall res s', Q res s' -> Q' res s') : p.Exits Q' s :=
  himp _ _ h

theorem exits_of_run {p : Program S α} {s s' : Store S}
    {res : Except S.Exc α} (h : p.Exits Q s) (hrun : p.run s = (res, s')) :
    Q res s' := by
  unfold Exits at h
  rwa [hrun] at h

/-!
# Postconditions of normal exits

A session that raises is rolled back, so an invariant of committed states is
established by the normal exits alone.
-/

/-- Every normal exit of the program from the store satisfies the
postcondition. -/
def Ensures (p : Program S α) (R : α -> Store S -> Prop) (s : Store S) : Prop :=
  p.Exits (fun res s' => forall a, res = .ok a -> R a s') s

variable {R : α -> Store S -> Prop}

@[simp] theorem ensures_ret (a : α) (s : Store S) :
    (ret a).Ensures R s <-> R a s := by
  simp [Ensures]

@[simp] theorem ensures_raise (e : S.Exc) (s : Store S) :
    (raise e).Ensures R s := by
  simp [Ensures]

@[simp] theorem ensures_read (k : S.Db -> Program S α) (s : Store S) :
    (read k).Ensures R s <-> (k s.db).Ensures R s := Iff.rfl

@[simp] theorem ensures_lock (r : S.Lock) (k : S.Db -> Program S α)
    (s : Store S) : (lock r k).Ensures R s <-> (k s.db).Ensures R s := Iff.rfl

@[simp] theorem ensures_nextval (t : S.Seq) (k : Int -> Program S α)
    (s : Store S) :
    (nextval t k).Ensures R s <-> (k (s.seq t)).Ensures R (s.draw t) := Iff.rfl

@[simp] theorem ensures_emit (o : S.Out) (k : Program S α) (s : Store S) :
    (emit o k).Ensures R s <-> k.Ensures R (s.push o) := Iff.rfl

theorem ensures_bind {T : β -> Store S -> Prop} (p : Program S α)
    (f : α -> Program S β) (s : Store S) :
    (p.bind f).Ensures T s <->
      p.Ensures (fun a s' => (f a).Ensures T s') s := by
  simp only [Ensures, Exits, run_bind]
  rcases p.run s with ⟨res, s'⟩
  cases res with
  | ok a => simp
  | error e => simp

/-- A unit of work whose violations escape: only its success goes on. -/
theorem ensures_flushUnit_bind {T : β -> Store S -> Prop} (rs : List S.Lock)
    (ws : List (Write S)) (f : Unit -> Program S β) (s : Store S) :
    ((flushUnit rs ws).bind f).Ensures T s <->
      forall db, Write.attempt ws s.db = .ok db ->
        (f ()).Ensures T (s.setDb db) := by
  simp only [flushUnit, flush_bind, Ensures, exits_flush]
  cases Write.attempt ws s.db with
  | ok db => simp
  | error e => simp

@[simp] theorem ensures_flushUnit {T : Unit -> Store S -> Prop}
    (rs : List S.Lock) (ws : List (Write S)) (s : Store S) :
    (flushUnit rs ws).Ensures T s <->
      forall db, Write.attempt ws s.db = .ok db -> T () (s.setDb db) := by
  simp only [flushUnit, Ensures, exits_flush]
  cases Write.attempt ws s.db with
  | ok db =>
      constructor
      · intro h db' heq
        cases heq
        exact h () rfl
      · intro h a _
        exact h db rfl
  | error e => simp

theorem ensures_mono {R' : α -> Store S -> Prop} {p : Program S α}
    {s : Store S} (h : p.Ensures R s) (himp : forall a s', R a s' -> R' a s') :
    p.Ensures R' s :=
  exits_mono h fun _ s' hres a heq => himp a s' (hres a heq)

theorem ensures_of_run {p : Program S α} {s s' : Store S} {a : α}
    (h : p.Ensures R s) (hrun : p.run s = (.ok a, s')) : R a s' :=
  exits_of_run h hrun a rfl

/-- What is said of the store does not depend on the result. -/
theorem ensures_void {T : Store S -> Prop} {p : Program S α} {s : Store S}
    (h : p.Ensures (fun _ s' => T s') s) : p.void.Ensures (fun _ s' => T s') s := by
  rw [void, ensures_bind]
  exact ensures_mono h fun _ s' hs' => (ensures_ret () s').mpr hs'

/-- A session commits with its postcondition, or it is rolled back. -/
theorem ensures_transact {p : Program S α} {s : Store S} (h : p.Ensures R s) :
    (exists a, (p.transact s).1 = .ok a ∧ R a (p.transact s).2) ∨
      exists e, (p.transact s).1 = .error e ∧
        (p.transact s).2.db = s.db := by
  rcases hrun : p.run s with ⟨res, s'⟩
  cases res with
  | ok a =>
      rw [transact_of_ok hrun]
      exact Or.inl ⟨a, rfl, ensures_of_run h hrun⟩
  | error e =>
      rw [transact_of_error hrun]
      exact Or.inr ⟨e, rfl, rfl⟩

theorem exits_transact {p : Program S α} {s : Store S} (h : p.Exits Q s) :
    (exists a s', p.transact s = (.ok a, s') ∧ Q (.ok a) s') ∨
      exists e s', p.transact s = (.error e, s'.setDb s.db) ∧
        Q (.error e) s' := by
  rcases hrun : p.run s with ⟨res, s'⟩
  have hQ := exits_of_run h hrun
  cases res with
  | ok a => exact Or.inl ⟨a, s', transact_of_ok hrun, hQ⟩
  | error e => exact Or.inr ⟨e, s', transact_of_error hrun, hQ⟩

/-!
# Frames

A value of the store that a program leaves alone, however it ends.
-/

def Preserves {γ : Type} (obs : Store S -> γ) (p : Program S α) : Prop :=
  forall s, obs (p.run s).2 = obs s

section Frames

variable {γ : Type} {obs : Store S -> γ}

/-- The frame rule: what a program does not touch is the same at its exits. -/
theorem exits_of_preserves {p : Program S α} (h : p.Preserves obs)
    {Q : Except S.Exc α -> Store S -> Prop} {s : Store S}
    (hQ : forall s', obs s' = obs s -> Q (p.run s).1 s') : p.Exits Q s :=
  hQ _ (h s)

theorem transact_db_of_preserves {p : Program S α}
    (h : p.Preserves fun s : Store S => s.db) (s : Store S) :
    (p.transact s).2.db = s.db := by
  have hdb : (p.run s).2.db = s.db := h s
  rcases hrun : p.run s with ⟨res, s'⟩
  rw [hrun] at hdb
  cases res with
  | ok a =>
      rw [transact_of_ok hrun]
      exact hdb
  | error e =>
      rw [transact_of_error hrun]
      rfl

end Frames

end Program
end Txn
