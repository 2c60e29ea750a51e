import CoverAI.Txn.Program
import CoverAI.Txn.Table

/-!
# Two runs

A property of two runs compares what a program does on two databases.  A
relation between databases says in what they may differ; two programs simulate
each other over it when they pass through the same statements, with writes that
keep the relation, and end alike.
-/

namespace Txn

/-!
# Tables that differ in some columns
-/

namespace Table

variable {row : Type} {check : row -> Bool}

def EntryAlike (r : Int -> row -> row -> Prop) (e e' : Int × row) : Prop :=
  e.1 = e'.1 ∧ r e.1 e.2 e'.2

/-- The same keys in the same order, each with rows that are related. -/
def Alike (r : Int -> row -> row -> Prop) (T T' : Table row check) : Prop :=
  List.Forall₂ (EntryAlike r) T.rows T'.rows

variable {r : Int -> row -> row -> Prop} {T T' : Table row check}

theorem alike_refl (hr : forall id a, r id a a) (T : Table row check) :
    Alike r T T :=
  List.forall₂_same.mpr fun entry _ => ⟨rfl, hr entry.1 entry.2⟩

theorem alike_get (h : Alike r T T') (id : Int) :
    Option.Rel (r id) (T.get id) (T'.get id) := by
  unfold get
  unfold Alike at h
  generalize T.rows = rows at h
  generalize T'.rows = rows' at h
  induction h with
  | nil => exact Option.Rel.none
  | @cons e e' rest rest' hentry _ ih =>
      rcases e with ⟨key, a⟩
      rcases e' with ⟨key', a'⟩
      rcases hentry with ⟨hkey, hrow⟩
      simp only at hkey hrow
      subst hkey
      simp only [List.lookup_cons]
      by_cases hid : id = key
      · subst hid
        simp only [beq_self_eq_true]
        exact Option.Rel.some hrow
      · simp only [beq_eq_false_iff_ne.mpr hid]
        exact ih

theorem alike_get_eq_none (h : Alike r T T') (id : Int) :
    T.get id = none <-> T'.get id = none := by
  have hrel := alike_get h id
  generalize T.get id = found at hrel
  generalize T'.get id = found' at hrel
  cases hrel with
  | none => simp
  | some _ => simp

/-- The entries found are related, and they have the property looked for. -/
theorem alike_first? (h : Alike r T T') {p : row -> Bool}
    (hp : forall id a b, r id a b -> p a = p b) :
    Option.Rel (fun e e' => EntryAlike r e e' ∧ p e.2 = true) (T.first? p)
      (T'.first? p) := by
  unfold first?
  unfold Alike at h
  generalize T.rows = rows at h
  generalize T'.rows = rows' at h
  induction h with
  | nil => exact Option.Rel.none
  | @cons e e' rest rest' hentry _ ih =>
      have hsame : p e.2 = p e'.2 := hp e.1 e.2 e'.2 hentry.right
      cases hpe : p e.2 with
      | false =>
          rw [List.find?_cons_of_neg (by simp [hpe]),
            List.find?_cons_of_neg (by simp [← hsame, hpe])]
          exact ih
      | true =>
          rw [List.find?_cons_of_pos (by simp [hpe]),
            List.find?_cons_of_pos (by simp [← hsame, hpe])]
          exact Option.Rel.some ⟨hentry, hpe⟩

theorem alike_count (h : Alike r T T') {p : row -> Bool}
    (hp : forall id a b, r id a b -> p a = p b) : T.count p = T'.count p := by
  unfold count
  unfold Alike at h
  generalize T.rows = rows at h
  generalize T'.rows = rows' at h
  induction h with
  | nil => rfl
  | @cons e e' rest rest' hentry _ ih =>
      rw [List.countP_cons, List.countP_cons, ih,
        hp e.1 e.2 e'.2 hentry.right]

theorem alike_insert (h : Alike r T T') {id : Int} {a b : row}
    (hrow : r id a b) (hcheck : check a = check b) :
    Alike r (T.insert id a) (T'.insert id b) := by
  by_cases hfree : T.get id = none ∧ check a = true
  · have hfree' : T'.get id = none ∧ check b = true :=
      ⟨(alike_get_eq_none h id).mp hfree.left, hcheck ▸ hfree.right⟩
    unfold Alike
    rw [rows_insert hfree.left hfree.right, rows_insert hfree'.left hfree'.right]
    exact List.rel_append h (List.Forall₂.cons ⟨rfl, hrow⟩ List.Forall₂.nil)
  · have hfree' : ¬ (T'.get id = none ∧ check b = true) := by
      rw [← alike_get_eq_none h id, ← hcheck]
      exact hfree
    rw [insert_of_rejected hfree, insert_of_rejected hfree']
    exact h

theorem alike_modify (h : Alike r T T') (id : Int) {f g : row -> row}
    (hrow : forall a b, r id a b ->
      r id (checkedUpdate check f a) (checkedUpdate check g b)) :
    Alike r (T.modify id f) (T'.modify id g) := by
  unfold Alike modify
  rw [List.forall₂_map_left_iff, List.forall₂_map_right_iff]
  apply List.Forall₂.imp _ h
  intro e e' hentry
  unfold modifyEntry
  by_cases hid : e.1 = id
  · have hrel := hentry.right
    rw [hid] at hrel
    rw [if_pos hid, if_pos (hentry.left.symm.trans hid)]
    refine ⟨hentry.left, ?_⟩
    rw [hid]
    exact hrow _ _ hrel
  · rw [if_neg hid, if_neg (fun h => hid (hentry.left.trans h))]
    exact hentry

/-- An update of one side that stays within the relation. -/
theorem alike_modify_left (h : Alike r T T') (id : Int) {f : row -> row}
    (hrow : forall a b, r id a b -> r id (checkedUpdate check f a) b) :
    Alike r (T.modify id f) T' := by
  unfold Alike modify
  rw [List.forall₂_map_left_iff]
  apply List.Forall₂.imp _ h
  intro e e' hentry
  unfold modifyEntry
  by_cases hid : e.1 = id
  · have hrel := hentry.right
    rw [hid] at hrel
    rw [if_pos hid]
    refine ⟨hentry.left, ?_⟩
    rw [hid]
    exact hrow _ _ hrel
  · rw [if_neg hid]
    exact hentry

/-!
# Tables that agree on some rows
-/

/-- The two tables have the same rows with a property, whatever the others
are. -/
def AgreeOn (p : row -> Bool) (T T' : Table row check) : Prop :=
  forall id a, p a = true -> (T.get id = some a <-> T'.get id = some a)

theorem rows_nodup (T : Table row check) : T.rows.Nodup :=
  List.Nodup.of_map Prod.fst T.keysNodup

theorem mem_rows_iff {T : Table row check} {id : Int} {a : row} :
    (id, a) ∈ T.rows <-> T.get id = some a :=
  ⟨get_of_mem, mem_of_get⟩

theorem AgreeOn.filter_get {p : row -> Bool} (h : AgreeOn p T T') (id : Int) :
    (T.get id).filter p = (T'.get id).filter p := by
  apply Option.ext
  intro a
  rw [Option.filter_eq_some_iff, Option.filter_eq_some_iff]
  constructor
  · intro ha
    exact ⟨(h id a ha.right).mp ha.left, ha.right⟩
  · intro ha
    exact ⟨(h id a ha.right).mpr ha.left, ha.right⟩

/-- The rows asked for are the same, but for their order. -/
theorem agreeOn_perm {p q : row -> Bool} (h : AgreeOn p T T')
    (hq : forall a, q a = true -> p a = true) :
    (T.rows.filter fun e => q e.2).Perm (T'.rows.filter fun e => q e.2) := by
  apply (List.perm_ext_iff_of_nodup (T.rows_nodup.filter _)
    (T'.rows_nodup.filter _)).mpr
  intro entry
  rcases entry with ⟨id, a⟩
  rw [List.mem_filter, List.mem_filter, mem_rows_iff, mem_rows_iff]
  constructor
  · intro ha
    exact ⟨(h id a (hq a ha.right)).mp ha.left, ha.right⟩
  · intro ha
    exact ⟨(h id a (hq a ha.right)).mpr ha.left, ha.right⟩

theorem agreeOn_count {p q : row -> Bool} (h : AgreeOn p T T')
    (hq : forall a, q a = true -> p a = true) : T.count q = T'.count q := by
  unfold count
  rw [List.countP_eq_length_filter, List.countP_eq_length_filter]
  exact (agreeOn_perm h hq).length_eq

end Table

/-!
# Stores and writes
-/

section Relational

variable {S : Signature} {R : S.Db -> S.Db -> Prop}

/-- The databases are related, and what is outside of them is the same. -/
structure Store.Related (R : S.Db -> S.Db -> Prop) (s t : Store S) : Prop where
  db : R s.db t.db
  seq : s.seq = t.seq
  out : s.out = t.out

/-- Two writes that fail together and keep the relation. -/
structure Write.Agrees (R : S.Db -> S.Db -> Prop) (w w' : Write S) : Prop where
  violation : forall v v', R v v' -> w.violation v = w'.violation v'
  apply : forall v v', R v v' -> R (w.apply v) (w'.apply v')

/-- Two outcomes: the same exception, or results that are related. -/
inductive SameOutcome {ε α β : Type} (A : α -> β -> Prop) :
    Except ε α -> Except ε β -> Prop where
  | ok {a : α} {b : β} (h : A a b) : SameOutcome A (.ok a) (.ok b)
  | error (e : ε) : SameOutcome A (.error e) (.error e)

theorem SameOutcome.eq {ε α : Type} {res res' : Except ε α}
    (h : SameOutcome Eq res res') : res = res' := by
  cases h with
  | ok h => rw [h]
  | error e => rfl

theorem Write.attempt_agrees {ws ws' : List (Write S)}
    (hws : List.Forall₂ (Write.Agrees R) ws ws') {v v' : S.Db} (h : R v v') :
    SameOutcome R (Write.attempt ws v) (Write.attempt ws' v') := by
  induction hws generalizing v v' with
  | nil => exact SameOutcome.ok h
  | cons hw _ ih =>
      rw [Write.attempt_cons, Write.attempt_cons, ← hw.violation v v' h]
      split
      · exact ih (hw.apply v v' h)
      · exact SameOutcome.error _

end Relational

namespace Program

variable {S : Signature} {α β γ δ : Type}

/-!
# Simulation
-/

inductive Sim (R : S.Db -> S.Db -> Prop) (A : α -> β -> Prop) :
    Program S α -> Program S β -> Prop where
  | ret {a : α} {b : β} (h : A a b) : Sim R A (ret a) (ret b)
  | raise (e : S.Exc) : Sim R A (raise e) (raise e)
  | read {k : S.Db -> Program S α} {k' : S.Db -> Program S β}
      (h : forall v v', R v v' -> Sim R A (k v) (k' v')) :
      Sim R A (read k) (read k')
  | lock (r : S.Lock) {k : S.Db -> Program S α} {k' : S.Db -> Program S β}
      (h : forall v v', R v v' -> Sim R A (k v) (k' v')) :
      Sim R A (lock r k) (lock r k')
  | flush (rs : List S.Lock) {ws ws' : List (Write S)}
      {k : Except S.Exc Unit -> Program S α}
      {k' : Except S.Exc Unit -> Program S β}
      (hws : List.Forall₂ (Write.Agrees R) ws ws')
      (h : forall res, Sim R A (k res) (k' res)) :
      Sim R A (flush rs ws k) (flush rs ws' k')
  | nextval (t : S.Seq) {k : Int -> Program S α} {k' : Int -> Program S β}
      (h : forall n, Sim R A (k n) (k' n)) :
      Sim R A (nextval t k) (nextval t k')
  | emit (o : S.Out) {k : Program S α} {k' : Program S β}
      (h : Sim R A k k') : Sim R A (emit o k) (emit o k')

variable {R : S.Db -> S.Db -> Prop} {A : α -> β -> Prop}
  {B : γ -> δ -> Prop}

theorem sim_bind {p : Program S γ} {q : Program S δ} {f : γ -> Program S α}
    {g : δ -> Program S β} (hp : p.Sim R B q)
    (hf : forall a b, B a b -> (f a).Sim R A (g b)) :
    (p.bind f).Sim R A (q.bind g) := by
  induction hp with
  | ret h => exact hf _ _ h
  | raise e => exact Sim.raise e
  | read _ ih => exact Sim.read ih
  | lock r _ ih => exact Sim.lock r ih
  | flush rs hws _ ih => exact Sim.flush rs hws ih
  | nextval t _ ih => exact Sim.nextval t ih
  | emit o _ ih => exact Sim.emit o ih

theorem sim_bind_eq {p q : Program S γ} {f : γ -> Program S α}
    {g : γ -> Program S β} (hp : p.Sim R Eq q)
    (hf : forall a, (f a).Sim R A (g a)) :
    (p.bind f).Sim R A (q.bind g) := by
  apply sim_bind hp
  intro a b hab
  rw [← hab]
  exact hf a

theorem sim_tryCatch {p : Program S α} {q : Program S β}
    {h : S.Exc -> Program S α} {h' : S.Exc -> Program S β}
    (hp : p.Sim R A q) (hh : forall e, (h e).Sim R A (h' e)) :
    (p.tryCatch h).Sim R A (q.tryCatch h') := by
  induction hp with
  | ret h => exact Sim.ret h
  | raise e => exact hh e
  | read _ ih => exact Sim.read ih
  | lock r _ ih => exact Sim.lock r ih
  | flush rs hws _ ih => exact Sim.flush rs hws ih
  | nextval t _ ih => exact Sim.nextval t ih
  | emit o _ ih => exact Sim.emit o ih

theorem sim_void {p : Program S γ} {q : Program S δ} (h : p.Sim R B q) :
    p.void.Sim R Eq q.void :=
  sim_bind h fun _ _ _ => Sim.ret rfl

theorem sim_ask_bind {q : S.Db -> γ} {q' : S.Db -> δ} {f : γ -> Program S α}
    {g : δ -> Program S β} (hq : forall v v', R v v' -> B (q v) (q' v'))
    (hf : forall a b, B a b -> (f a).Sim R A (g b)) :
    ((ask q).bind f).Sim R A ((ask q').bind g) :=
  Sim.read fun v v' h => hf _ _ (hq v v' h)

/-- A query that does not see the difference. -/
theorem sim_ask_bind_eq {q : S.Db -> γ} {f : γ -> Program S α}
    {g : γ -> Program S β} (hq : forall v v', R v v' -> q v = q v')
    (hf : forall a, (f a).Sim R A (g a)) :
    ((ask q).bind f).Sim R A ((ask q).bind g) := by
  apply sim_ask_bind hq
  intro a b hab
  rw [← hab]
  exact hf a

theorem sim_draw_bind {t : S.Seq} {f : Int -> Program S α}
    {g : Int -> Program S β} (hf : forall n, (f n).Sim R A (g n)) :
    ((draw t).bind f).Sim R A ((draw t).bind g) :=
  Sim.nextval t hf

theorem sim_flushOne_bind {rs : List S.Lock} {w w' : Write S}
    {f : Unit -> Program S α} {g : Unit -> Program S β}
    (hw : w.Agrees R w') (hf : (f ()).Sim R A (g ())) :
    ((flushUnit rs [w]).bind f).Sim R A ((flushUnit rs [w']).bind g) := by
  refine Sim.flush rs (List.Forall₂.cons hw List.Forall₂.nil) ?_
  intro res
  cases res with
  | ok _ => exact hf
  | error e => exact Sim.raise e

theorem sim_forUpdate_eq {r : S.Lock} {q : S.Db -> α}
    (hq : forall v v', R v v' -> q v = q v') :
    (forUpdate r q).Sim R Eq (forUpdate r q) :=
  Sim.lock r fun v v' h => Sim.ret (hq v v' h)

/-- The writes of a unit of work, where they agree with themselves. -/
theorem sim_flushAll {rs : List S.Lock} {ws : List (Write S)}
    (hws : Write.All (fun w => w.Agrees R w) ws) :
    (flushUnit rs ws).Sim R Eq (flushUnit rs ws) := by
  refine Sim.flush rs (List.forall₂_same.mpr fun _ hw => hws.of_mem hw) ?_
  intro res
  cases res with
  | ok _ => exact Sim.ret rfl
  | error e => exact Sim.raise e

/-!
# Related stores
-/

/-- Programs that simulate each other end alike and leave related stores. -/
theorem sim_run {p : Program S α} {q : Program S β} (h : p.Sim R A q)
    {s t : Store S} (hst : s.Related R t) :
    SameOutcome A (p.run s).1 (q.run t).1 ∧
      (p.run s).2.Related R (q.run t).2 := by
  induction h generalizing s t with
  | ret h => exact ⟨SameOutcome.ok h, hst⟩
  | raise e => exact ⟨SameOutcome.error e, hst⟩
  | read _ ih => exact ih _ _ hst.db hst
  | lock r _ ih => exact ih _ _ hst.db hst
  | @flush rs ws ws' k k' hws _ ih =>
      simp only [run]
      have hdb := Write.attempt_agrees hws hst.db
      generalize Write.attempt ws s.db = res at hdb
      generalize Write.attempt ws' t.db = res' at hdb
      cases hdb with
      | ok hdb => exact ih (.ok ()) ⟨hdb, hst.seq, hst.out⟩
      | error e => exact ih (.error e) hst
  | nextval u _ ih =>
      simp only [run, hst.seq]
      refine ih _ ⟨hst.db, ?_, hst.out⟩
      simp only [Store.draw, hst.seq]
  | emit o _ ih =>
      refine ih ⟨hst.db, hst.seq, ?_⟩
      simp only [Store.push_out, hst.out]

theorem sim_transact {p : Program S α} {q : Program S β} (h : p.Sim R A q)
    {s t : Store S} (hst : s.Related R t) :
    SameOutcome A (p.transact s).1 (q.transact t).1 ∧
      (p.transact s).2.Related R (q.transact t).2 := by
  have hrun := sim_run h hst
  rcases hp : p.run s with ⟨res, s'⟩
  rcases hq : q.run t with ⟨res', t'⟩
  rw [hp, hq] at hrun
  rcases hrun with ⟨hres, hst'⟩
  cases hres with
  | ok hab =>
      rw [transact_of_ok hp, transact_of_ok hq]
      exact ⟨SameOutcome.ok hab, hst'⟩
  | error e =>
      rw [transact_of_error hp, transact_of_error hq]
      exact ⟨SameOutcome.error e, hst.db, hst'.seq, hst'.out⟩

/-- From related stores the programs end both in success or with the same
exception, and leave related stores. -/
def Tracks (R : S.Db -> S.Db -> Prop) (p : Program S α) (q : Program S β) :
    Prop :=
  forall {s t : Store S}, s.Related R t ->
    SameOutcome (fun _ _ => True) (p.run s).1 (q.run t).1 ∧
      (p.run s).2.Related R (q.run t).2

theorem tracks_of_sim {p : Program S α} {q : Program S β}
    (h : p.Sim R A q) : Tracks R p q := by
  intro s t hst
  rcases sim_run h hst with ⟨hres, hstores⟩
  refine ⟨?_, hstores⟩
  generalize (p.run s).1 = res at hres ⊢
  generalize (q.run t).1 = res' at hres ⊢
  cases hres with
  | ok _ => exact SameOutcome.ok trivial
  | error e => exact SameOutcome.error e

theorem tracks_bind {p : Program S γ} {q : Program S δ}
    {f : γ -> Program S α} {g : δ -> Program S β} (hp : Tracks R p q)
    (hf : forall a b, Tracks R (f a) (g b)) :
    Tracks R (p.bind f) (q.bind g) := by
  intro s t hst
  have hrun := hp hst
  rw [run_bind, run_bind]
  generalize p.run s = r at hrun ⊢
  generalize q.run t = r' at hrun ⊢
  rcases r with ⟨res, s'⟩
  rcases r' with ⟨res', t'⟩
  rcases hrun with ⟨hres, hstores⟩
  cases hres with
  | ok _ => exact hf _ _ hstores
  | error e => exact ⟨SameOutcome.error e, hstores⟩

theorem tracks_tryCatch {p : Program S α} {q : Program S β}
    {h : S.Exc -> Program S α} {h' : S.Exc -> Program S β}
    (hp : Tracks R p q) (hh : forall e, Tracks R (h e) (h' e)) :
    Tracks R (p.tryCatch h) (q.tryCatch h') := by
  intro s t hst
  have hrun := hp hst
  rw [run_tryCatch, run_tryCatch]
  generalize p.run s = r at hrun ⊢
  generalize q.run t = r' at hrun ⊢
  rcases r with ⟨res, s'⟩
  rcases r' with ⟨res', t'⟩
  rcases hrun with ⟨hres, hstores⟩
  cases hres with
  | ok _ => exact ⟨SameOutcome.ok trivial, hstores⟩
  | error e => exact hh e hstores

theorem Tracks.transact {p : Program S α} {q : Program S β}
    (h : Tracks R p q) {s t : Store S} (hst : s.Related R t) :
    (p.transact s).2.Related R (q.transact t).2 := by
  have hrun := h hst
  rcases hp : p.run s with ⟨res, s'⟩
  rcases hq : q.run t with ⟨res', t'⟩
  rw [hp, hq] at hrun
  rcases hrun with ⟨hres, hstores⟩
  cases hres with
  | ok _ =>
      rw [transact_of_ok hp, transact_of_ok hq]
      exact hstores
  | error e =>
      rw [transact_of_error hp, transact_of_error hq]
      exact ⟨hst.db, hstores.seq, hstores.out⟩

/-!
# Programs that only read
-/

/-- Both programs only read, and on related databases they are shown the
same. -/
inductive SameReads (R : S.Db -> S.Db -> Prop) :
    Program S α -> Program S α -> Prop where
  | ret (a : α) : SameReads R (ret a) (ret a)
  | raise (e : S.Exc) : SameReads R (raise e) (raise e)
  | read {k k' : S.Db -> Program S α}
      (h : forall v v', R v v' -> SameReads R (k v) (k' v')) :
      SameReads R (read k) (read k')

theorem sameReads_mono {R' : S.Db -> S.Db -> Prop} {p q : Program S α}
    (h : p.SameReads R q) (himp : forall v v', R' v v' -> R v v') :
    p.SameReads R' q := by
  induction h with
  | ret a => exact SameReads.ret a
  | raise e => exact SameReads.raise e
  | read _ ih => exact SameReads.read fun v v' hv => ih v v' (himp v v' hv)

theorem sameReads_bind {p q : Program S γ} {f g : γ -> Program S α}
    (hp : p.SameReads R q) (hf : forall a, (f a).SameReads R (g a)) :
    (p.bind f).SameReads R (q.bind g) := by
  induction hp with
  | ret a => exact hf a
  | raise e => exact SameReads.raise e
  | read _ ih => exact SameReads.read ih

theorem sameReads_ask {q q' : S.Db -> α}
    (hq : forall v v', R v v' -> q v = q' v') :
    (ask q).SameReads R (ask q') := by
  apply SameReads.read
  intro v v' h
  rw [hq v v' h]
  exact SameReads.ret _

/-- Whatever else is in the stores, the answers are the same. -/
theorem sameReads_transact {p q : Program S α} (h : p.SameReads R q)
    {s t : Store S} (hst : R s.db t.db) :
    (p.transact s).1 = (q.transact t).1 := by
  have hrun : (p.run s).1 = (q.run t).1 := by
    induction h with
    | ret a => rfl
    | raise e => rfl
    | read _ ih => exact ih s.db t.db hst
  unfold transact
  rcases hp : p.run s with ⟨res, s'⟩
  rcases hq : q.run t with ⟨res', t'⟩
  rw [hp, hq] at hrun
  cases hrun
  cases res with
  | ok a => rfl
  | error e => rfl

end Program
end Txn
