import CoverAI.Txn.Interleaving

/-!
# Sessions that take turns

A session reads for a while before it does anything another session can notice.
The reads before its last one have the same answer whenever the other sessions
commit.  If each session does its last read only while no other session is past
its own last read, then every interleaving leaves the store of some serial
order, and each session has the result it has in that order.
-/

namespace Txn

namespace Program

variable {S : Signature} {α β : Type}

/-!
# Reads of a program
-/

/-- No statement of the program looks at the database. -/
def NoReads : Program S α -> Prop
  | .ret _ => True
  | .raise _ => True
  | .read _ => False
  | .lock _ _ => False
  | .flush _ _ k => forall res, (k res).NoReads
  | .nextval _ k => forall n, (k n).NoReads
  | .emit _ k => k.NoReads

def LastRead (p : Program S α) : Prop :=
  exists k, p = .read k ∧ forall db, (k db).NoReads

theorem noReads_bind {p : Program S α} {f : α -> Program S β}
    (hp : p.NoReads) (hf : forall a, (f a).NoReads) : (p.bind f).NoReads := by
  induction p with
  | ret a => exact hf a
  | raise e => trivial
  | read k ih => exact hp.elim
  | lock r k ih => exact hp.elim
  | flush rs ws k ih => exact fun res => ih res (hp res)
  | nextval t k ih => exact fun n => ih n (hp n)
  | emit o k ih => exact ih hp

theorem noReads_tryCatch {p : Program S α} {h : S.Exc -> Program S α}
    (hp : p.NoReads) (hh : forall e, (h e).NoReads) :
    (p.tryCatch h).NoReads := by
  induction p with
  | ret a => trivial
  | raise e => exact hh e
  | read k ih => exact hp.elim
  | lock r k ih => exact hp.elim
  | flush rs ws k ih => exact fun res => ih res (hp res)
  | nextval t k ih => exact fun n => ih n (hp n)
  | emit o k ih => exact ih hp

theorem noReads_flushUnit (rs : List S.Lock) (ws : List (Write S)) :
    (flushUnit rs ws).NoReads := by
  intro res
  cases res with
  | ok _ => trivial
  | error e => trivial

theorem noReads_draw (t : S.Seq) : (Program.draw t : Program S Int).NoReads :=
  fun _ => trivial

theorem lastRead_ask_bind {γ : Type} {q : S.Db -> γ} {f : γ -> Program S α}
    (h : forall c, (f c).NoReads) : ((ask q).bind f).LastRead :=
  ⟨_, rfl, fun db => h (q db)⟩

theorem LastRead.bind {p : Program S α} {f : α -> Program S β}
    (hp : p.LastRead) (hf : forall a, (f a).NoReads) : (p.bind f).LastRead := by
  rcases hp with ⟨k, rfl, hk⟩
  exact ⟨_, rfl, fun db => noReads_bind (hk db) hf⟩

theorem LastRead.tryCatch {p : Program S α} {h : S.Exc -> Program S α}
    (hp : p.LastRead) (hh : forall e, (h e).NoReads) :
    (p.tryCatch h).LastRead := by
  rcases hp with ⟨k, rfl, hk⟩
  exact ⟨_, rfl, fun db => noReads_tryCatch (hk db) hh⟩

/-- The program comes to the point by reads that have one answer on all
databases of the kind. -/
inductive LeadsTo (kind : S.Db -> Prop) (point : Program S α) :
    Program S α -> Prop where
  | here : LeadsTo kind point point
  | read {k : S.Db -> Program S α} {p : Program S α}
      (h : forall db, kind db -> k db = p) (hp : LeadsTo kind point p) :
      LeadsTo kind point (.read k)

section LeadsTo

variable {kind : S.Db -> Prop} {point p : Program S α}

theorem leadsTo_ask_bind {γ : Type} {q : S.Db -> γ} {f : γ -> Program S α}
    {c : γ} (h : forall db, kind db -> q db = c)
    (hf : LeadsTo kind point (f c)) :
    LeadsTo kind point ((ask q).bind f) :=
  LeadsTo.read (fun db hdb => congrArg f (h db hdb)) hf

theorem LeadsTo.bind (h : LeadsTo kind point p) (f : α -> Program S β) :
    LeadsTo kind (point.bind f) (p.bind f) := by
  induction h with
  | here => exact LeadsTo.here
  | read h _ ih =>
      exact LeadsTo.read (fun db hdb => congrArg (Program.bind · f) (h db hdb))
        ih

theorem LeadsTo.tryCatch (h : LeadsTo kind point p)
    (c : S.Exc -> Program S α) :
    LeadsTo kind (point.tryCatch c) (p.tryCatch c) := by
  induction h with
  | here => exact LeadsTo.here
  | read h _ ih =>
      exact LeadsTo.read
        (fun db hdb => congrArg (Program.tryCatch · c) (h db hdb)) ih

theorem LeadsTo.trans {q : Program S α} (h : LeadsTo kind q p)
    (hq : LeadsTo kind point q) : LeadsTo kind point p := by
  induction h with
  | here => exact hq
  | read h _ ih => exact LeadsTo.read h ih

/-- The reads before the point change nothing and answer the same. -/
theorem LeadsTo.run_eq (h : LeadsTo kind point p) {s : Store S}
    (hs : kind s.db) : p.run s = point.run s := by
  induction h with
  | here => rfl
  | read h _ ih =>
      rw [run, h s.db hs]
      exact ih

theorem LeadsTo.exists_read (h : LeadsTo kind point p)
    (hpoint : point.LastRead) : exists k, p = .read k := by
  cases h with
  | here =>
      rcases hpoint with ⟨k, hk, _⟩
      exact ⟨k, hk⟩
  | @read k _ h hp => exact ⟨k, rfl⟩

theorem LeadsTo.after_read {k : S.Db -> Program S α} {db : S.Db}
    (h : LeadsTo kind point (.read k)) (hne : point ≠ .read k)
    (hdb : kind db) : LeadsTo kind point (k db) := by
  cases h with
  | here => exact absurd rfl hne
  | read hk hp =>
      rw [hk db hdb]
      exact hp

end LeadsTo

end Program

/-!
# Turns
-/

/-- An open session that has nothing left to read. -/
def Process.Past {S : Signature} {α : Type} (q : Process S α) : Prop :=
  exists own p, q = .running own p ∧ p.NoReads

/-- A session does its last read only while no other session is past its own. -/
def World.TakesTurn {S : Signature} {α : Type} (w : World S α) :
    Act S α -> Prop
  | .step i =>
      forall own p, w.procs i = .running own p -> p.LastRead ->
        forall j, j ≠ i -> ¬ (w.procs j).Past
  | _ => True

/-- Sessions, each with its last read and with the databases on which the
earlier reads are settled; another session does not unsettle them. -/
structure Turns (S : Signature) (α : Type) where
  opened : Nat -> Prop
  program : Nat -> Program S α
  point : Nat -> Program S α
  kind : Nat -> S.Db -> Prop
  leads : forall i, opened i -> Program.LeadsTo (kind i) (point i) (program i)
  last : forall i, opened i -> (point i).LastRead
  keeps : forall i j, opened i -> opened j -> i ≠ j -> forall s : Store S,
    kind j s.db -> kind j ((program i).transact s).2.db

namespace Turns

variable {S : Signature} {α : Type} (T : Turns S α)

/-- The store after sessions that were executed one after another. -/
def serially (s : Store S) (order : List Nat) : Store S :=
  order.foldl (fun s i => ((T.program i).transact s).2) s

theorem serially_snoc (s : Store S) (order : List Nat) (i : Nat) :
    T.serially s (order ++ [i]) =
      ((T.program i).transact (T.serially s order)).2 := by
  rw [serially, List.foldl_append]
  rfl

variable {T} in
theorem kind_serially {s : Store S} {order : List Nat} {j : Nat}
    (hj : T.opened j) (hopened : forall i, i ∈ order -> T.opened i)
    (hnot : j ∉ order) (hs : T.kind j s.db) :
    T.kind j (T.serially s order).db := by
  induction order generalizing s with
  | nil => exact hs
  | cons i rest ih =>
      rw [List.mem_cons, not_or] at hnot
      rcases List.forall_mem_cons.mp hopened with ⟨hi, hrest⟩
      exact ih hrest hnot.right
        (T.keeps i j hi hj (Ne.symm hnot.left) s hs)

/-- The session whose turn it is has got as far as it would have got alone
after the ended ones; the others have only read. -/
def Conforms (s : Store S) (w : World S α) (order : List Nat)
    (turn : Option Nat) (i : Nat) : Process S α -> Prop
  | .idle => i ∉ order ∧ turn ≠ some i
  | .running own p =>
      i ∉ order ∧ T.opened i ∧
        (turn = some i ∧ p.NoReads ∧
            p.run (w.store.setDb (own w.committed)) =
              (T.program i).run (T.serially s order) ∨
          turn ≠ some i ∧ own = id ∧
            Program.LeadsTo (T.kind i) (T.point i) p)
  | .done res =>
      turn ≠ some i ∧ exists before after, order = before ++ i :: after ∧
        res = ((T.program i).transact (T.serially s before)).1

structure InTurn (s : Store S) (w : World S α) (order : List Nat)
    (turn : Option Nat) : Prop where
  conforms : forall i, T.Conforms s w order turn i (w.procs i)
  opened : forall i, i ∈ order -> T.opened i
  nodup : order.Nodup
  committed : w.committed = (T.serially s order).db
  store : turn = none -> w.store = T.serially s order

section Steps

variable {T} {s : Store S} {w w' : World S α} {order : List Nat}
  {turn turn' : Option Nat} {i : Nat}

theorem inTurn_start (h : forall i, w.procs i = .idle) :
    T.InTurn w.store w [] none where
  conforms := by
    intro i
    rw [h i]
    exact ⟨List.not_mem_nil, (Option.some_ne_none i).symm⟩
  opened := fun i hi => by cases hi
  nodup := List.nodup_nil
  committed := rfl
  store := fun _ => rfl

/-- A step that ends no session.  Only the session whose turn it is changes the
store. -/
theorem InTurn.goes_on (h : T.InTurn s w order turn)
    (hother : forall j, j ≠ i -> w'.procs j = w.procs j)
    (hcommitted : w'.committed = w.committed)
    (hstore : turn ≠ some i -> w'.store = w.store)
    (hturn : turn' = turn ∨ turn = none ∧ turn' = some i)
    (hself : T.Conforms s w' order turn' i (w'.procs i)) :
    T.InTurn s w' order turn' where
  conforms := by
    intro j
    by_cases hj : j = i
    · rw [hj]
      exact hself
    · rw [hother j hj]
      have hnot : turn ≠ some j -> turn' ≠ some j := by
        intro hne
        rcases hturn with hsame | ⟨_, hnew⟩
        · rw [hsame]
          exact hne
        · rw [hnew]
          exact fun heq => hj (Option.some.inj heq).symm
      have hconforms := h.conforms j
      cases hq : w.procs j with
      | idle =>
          rw [hq] at hconforms
          exact ⟨hconforms.left, hnot hconforms.right⟩
      | done res =>
          rw [hq] at hconforms
          exact ⟨hnot hconforms.left, hconforms.right⟩
      | running own p =>
          rw [hq] at hconforms
          rcases hconforms with ⟨hout, hopen, hcase⟩
          refine ⟨hout, hopen, ?_⟩
          rcases hcase with ⟨heq, hno, hrun⟩ | ⟨hne, hlead⟩
          · left
            have hnone : turn ≠ none := by
              rw [heq]
              exact Option.some_ne_none j
            have hi : turn ≠ some i := by
              rw [heq]
              exact fun heq => hj (Option.some.inj heq)
            rw [hstore hi, hcommitted]
            rcases hturn with hsame | ⟨habsurd, _⟩
            · exact ⟨hsame.trans heq, hno, hrun⟩
            · exact absurd habsurd hnone
          · exact Or.inr ⟨hnot hne, hlead⟩
  opened := h.opened
  nodup := h.nodup
  committed := hcommitted.trans h.committed
  store := by
    intro hnone
    rcases hturn with hsame | ⟨_, hnew⟩
    · have hturn := hsame.symm.trans hnone
      rw [hstore (hturn ▸ (Option.some_ne_none i).symm)]
      exact h.store hturn
    · rw [hnew] at hnone
      cases hnone

/-- The session whose turn it is ends. -/
theorem InTurn.ends {res : Except S.Exc α} (h : T.InTurn s w order (some i))
    (hother : forall j, j ≠ i -> w'.procs j = w.procs j)
    (hout : i ∉ order) (hopen : T.opened i)
    (hself : w'.procs i = .done res)
    (hend : (T.program i).transact (T.serially s order) = (res, w'.store)) :
    T.InTurn s w' (order ++ [i]) none where
  conforms := by
    intro j
    by_cases hj : j = i
    · rw [hj, hself]
      exact ⟨(Option.some_ne_none i).symm, order, [], rfl, by rw [hend]⟩
    · rw [hother j hj]
      have hmem : j ∉ order -> j ∉ order ++ [i] := by
        intro hnot hmem
        rcases List.mem_append.mp hmem with hold | hnew
        · exact hnot hold
        · exact hj (List.mem_singleton.mp hnew)
      have hconforms := h.conforms j
      cases hq : w.procs j with
      | idle =>
          rw [hq] at hconforms
          exact ⟨hmem hconforms.left, (Option.some_ne_none j).symm⟩
      | done res' =>
          rw [hq] at hconforms
          rcases hconforms with ⟨_, before, after, horder, hres⟩
          refine ⟨(Option.some_ne_none j).symm, before, after ++ [i], ?_, hres⟩
          rw [horder, List.append_assoc, List.cons_append]
      | running own p =>
          rw [hq] at hconforms
          rcases hconforms with ⟨hnot, hopen', ⟨heq, _⟩ | ⟨_, hlead⟩⟩
          · exact absurd (Option.some.inj heq).symm hj
          · exact ⟨hmem hnot, hopen',
              Or.inr ⟨(Option.some_ne_none j).symm, hlead⟩⟩
  opened := by
    intro j hmem
    rcases List.mem_append.mp hmem with hold | hnew
    · exact h.opened j hold
    · rw [List.mem_singleton.mp hnew]
      exact hopen
  nodup := by
    rw [List.nodup_append]
    refine ⟨h.nodup, by simp, ?_⟩
    intro j hj k hk heq
    rw [heq, List.mem_singleton.mp hk] at hj
    exact hout hj
  committed := by
    rw [serially_snoc, hend]
    rfl
  store := by
    intro _
    rw [serially_snoc, hend]

/-- The session whose turn it is goes on as it would alone. -/
theorem InTurn.continues {own own' : S.Db -> S.Db} {p p' : Program S α}
    (h : T.InTurn s w order turn) (hproc : w.procs i = .running own p)
    (hturn : turn = some i)
    (hother : forall j, j ≠ i -> w'.procs j = w.procs j)
    (hcommitted : w'.committed = w.committed)
    (hself : w'.procs i = .running own' p') (hno : p'.NoReads)
    (hrun : p'.run (w'.store.setDb (own' w'.committed)) =
      p.run (w.store.setDb (own w.committed))) :
    T.InTurn s w' order turn := by
  have hconforms := h.conforms i
  rw [hproc] at hconforms
  rcases hconforms with ⟨hout, hopen, ⟨_, _, halone⟩ | ⟨hne, _⟩⟩
  · refine h.goes_on hother hcommitted (fun hne => absurd hturn hne)
      (Or.inl rfl) ?_
    rw [hself]
    exact ⟨hout, hopen, Or.inl ⟨hturn, hno, hrun.trans halone⟩⟩
  · exact absurd hturn hne

/-- A session that is not past its last read makes one of the reads before it,
or takes its turn. -/
theorem InTurn.reads {own : S.Db -> S.Db} {k : S.Db -> Program S α}
    (h : T.InTurn s w order turn) (hs : forall j, T.opened j -> T.kind j s.db)
    (hproc : w.procs i = .running own (.read k))
    (htakes : w.TakesTurn (.step i)) :
    exists turn', T.InTurn s
      (w.setProc i (.running own (k (own w.committed)))) order turn' := by
  have hother : forall j, j ≠ i ->
      (w.setProc i (.running own (k (own w.committed)))).procs j =
        w.procs j := fun j hj => World.setProc_procs_of_ne hj _
  have hself := World.setProc_procs_self w i
    (.running own (k (own w.committed)))
  have hconforms := h.conforms i
  rw [hproc] at hconforms
  rcases hconforms with ⟨hout, hopen, ⟨_, hno, _⟩ | ⟨hne, rfl, hlead⟩⟩
  · exact hno.elim
  · have hkind : T.kind i w.committed := by
      rw [h.committed]
      exact kind_serially hopen h.opened hout (hs i hopen)
    have hlast := T.last i hopen
    by_cases hpoint : T.point i = .read k
    · rw [hpoint] at hlast
      -- nobody else has the turn: the session with the turn is past its reads
      have hnone : turn = none := by
        cases turn with
        | none => rfl
        | some j =>
            have hj : j ≠ i := fun heq => hne (congrArg some heq)
            have hpast := htakes id (.read k) hproc hlast j hj
            have hholder := h.conforms j
            cases hq : w.procs j with
            | idle =>
                rw [hq] at hholder
                exact absurd rfl hholder.right
            | done res =>
                rw [hq] at hholder
                exact absurd rfl hholder.left
            | running own' p =>
                rw [hq] at hholder
                rcases hholder with ⟨_, _, ⟨_, hno, _⟩ | ⟨hne', _⟩⟩
                · exact absurd ⟨own', p, hq, hno⟩ hpast
                · exact absurd rfl hne'
      refine ⟨some i, h.goes_on hother rfl (fun _ => rfl)
        (Or.inr ⟨hnone, rfl⟩) ?_⟩
      rw [hself]
      refine ⟨hout, hopen, Or.inl ⟨rfl, ?_, ?_⟩⟩
      · rcases hlast with ⟨k', hk, hno⟩
        cases hk
        exact hno w.committed
      · have hstore := h.store hnone
        have hdb : T.kind i (T.serially s order).db := by
          rw [← h.committed]
          exact hkind
        rw [(T.leads i hopen).run_eq hdb, hpoint, ← hstore]
        rfl
    · refine ⟨turn, h.goes_on hother rfl (fun _ => rfl) (Or.inl rfl) ?_⟩
      rw [hself]
      exact ⟨hout, hopen, Or.inr ⟨hne, rfl, hlead.after_read hpoint hkind⟩⟩

theorem InTurn.past_of_not_read {own : S.Db -> S.Db} {p : Program S α}
    (h : T.InTurn s w order turn) (hproc : w.procs i = .running own p)
    (hno : forall k, p ≠ .read k) :
    turn = some i ∧ p.NoReads ∧ i ∉ order ∧ T.opened i ∧
      p.run (w.store.setDb (own w.committed)) =
        (T.program i).run (T.serially s order) := by
  have hconforms := h.conforms i
  rw [hproc] at hconforms
  rcases hconforms with ⟨hout, hopen, ⟨hturn, hp, hrun⟩ | ⟨_, _, hlead⟩⟩
  · exact ⟨hturn, hp, hout, hopen, hrun⟩
  · rcases hlead.exists_read (T.last i hopen) with ⟨k, hk⟩
    exact absurd hk (hno k)

/-- One step of any session that takes turns. -/
theorem InTurn.step {a : Act S α} (h : T.InTurn s w order turn)
    (hs : forall j, T.opened j -> T.kind j s.db) (hm : World.Moves w a w')
    (hstart : forall j p, a = .start j p -> T.opened j ∧ p = T.program j)
    (hfail : forall j e, a ≠ .fail j e) (htakes : w.TakesTurn a) :
    exists order' turn', T.InTurn s w' order' turn' := by
  have hother : forall j, j ≠ a.session -> w'.procs j = w.procs j :=
    fun j hj => hm.procs_of_ne hj
  cases hm with
  | @fail i own p e hproc => exact absurd rfl (hfail i e)
  | @start i p hproc =>
      rcases hstart i p rfl with ⟨hopen, rfl⟩
      have hidle := h.conforms i
      rw [hproc] at hidle
      refine ⟨order, turn, h.goes_on hother rfl (fun _ => rfl) (Or.inl rfl) ?_⟩
      rw [Act.session, World.setProc_procs_self]
      exact ⟨hidle.left, hopen, Or.inr ⟨hidle.right, rfl, T.leads i hopen⟩⟩
  | @read i own k hproc =>
      rcases h.reads hs hproc htakes with ⟨turn', hturn'⟩
      exact ⟨order, turn', hturn'⟩
  | @lock i own r k hproc hgrants =>
      rcases h.past_of_not_read hproc (fun k h => by cases h) with ⟨_, hno, _⟩
      exact hno.elim
  | @ret i own a hproc =>
      rcases h.past_of_not_read hproc (fun k h => by cases h) with
        ⟨rfl, _, hout, hopen, hrun⟩
      refine ⟨order ++ [i], none, h.ends hother hout hopen
        (World.setProc_procs_self _ _ _) ?_⟩
      rw [Program.transact_of_ok hrun.symm]
      rfl
  | @raise i own e hproc =>
      rcases h.past_of_not_read hproc (fun k h => by cases h) with
        ⟨rfl, _, hout, hopen, hrun⟩
      refine ⟨order ++ [i], none, h.ends hother hout hopen
        (World.setProc_procs_self _ _ _) ?_⟩
      rw [Program.transact_of_error hrun.symm, ← h.committed]
      rfl
  | @flush i own rs ws k db hproc hgrants hws =>
      rcases h.past_of_not_read hproc (fun k h => by cases h) with
        ⟨hturn, hno, _⟩
      refine ⟨order, turn, h.continues hproc hturn hother rfl
        (World.setProc_procs_self _ _ _) (hno (.ok ())) ?_⟩
      simp only [Program.run, Store.setDb_db, hws]
      rw [Write.applyAll_of_attempt hws]
      rfl
  | @flushError i own rs ws k e hproc hgrants hws =>
      rcases h.past_of_not_read hproc (fun k h => by cases h) with
        ⟨hturn, hno, _⟩
      refine ⟨order, turn, h.continues hproc hturn hother rfl
        (World.setProc_procs_self _ _ _) (hno (.error e)) ?_⟩
      simp only [Program.run, Store.setDb_db, hws]
      rfl
  | @nextval i own t k hproc =>
      rcases h.past_of_not_read hproc (fun k h => by cases h) with
        ⟨hturn, hno, _⟩
      exact ⟨order, turn, h.continues hproc hturn hother rfl
        (World.setProc_procs_self _ _ _) (hno (w.seq t)) rfl⟩
  | @emit i own o k hproc =>
      rcases h.past_of_not_read hproc (fun k h => by cases h) with
        ⟨hturn, hno, _⟩
      exact ⟨order, turn, h.continues hproc hturn hother rfl
        (World.setProc_procs_self _ _ _) hno rfl⟩

end Steps

/-- Sessions that take turns end as in some serial order. -/
theorem inTurn_of_reaches {adm : World S α -> Act S α -> Prop} {s : Store S}
    {w : World S α} (hrun : World.Reaches adm (World.init s) w)
    (hs : forall i, T.opened i -> T.kind i s.db)
    (hstart : forall w i p, adm w (.start i p) -> T.opened i ∧ p = T.program i)
    (hfail : forall w i e, ¬ adm w (.fail i e))
    (htakes : forall w a, adm w a -> w.TakesTurn a) :
    exists order turn, T.InTurn s w order turn := by
  have hfirst : T.InTurn s (World.init s) [] none :=
    @inTurn_start S α T (World.init s) fun _ => rfl
  refine @World.Reaches.inv S α adm _ _
    (fun w => exists order turn, T.InTurn s w order turn) hrun
    ⟨[], none, hfirst⟩ ?_
  intro u u' a hinv hadm hm
  rcases hinv with ⟨order, turn, h⟩
  apply h.step hs hm
  · intro j p heq
    subst heq
    exact hstart u j p hadm
  · intro j e heq
    subst heq
    exact hfail u j e hadm
  · exact htakes u a hadm

/-- When no session is open the store is that of the serial order. -/
theorem InTurn.store_of_ended {T : Turns S α} {s : Store S} {w : World S α}
    {order : List Nat} {turn : Option Nat} (h : T.InTurn s w order turn)
    (hended : forall i own p, w.procs i ≠ .running own p) :
    w.store = T.serially s order := by
  apply h.store
  cases turn with
  | none => rfl
  | some i =>
      have hconforms := h.conforms i
      cases hq : w.procs i with
      | idle =>
          rw [hq] at hconforms
          exact absurd rfl hconforms.right
      | done res =>
          rw [hq] at hconforms
          exact absurd rfl hconforms.left
      | running own p => exact absurd hq (hended i own p)

end Turns
end Txn
