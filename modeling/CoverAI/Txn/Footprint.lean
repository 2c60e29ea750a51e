import CoverAI.Txn.Interleaving

/-!
# Footprints

A footprint bounds what a program can do: the databases its statements are
shown, the writes it may flush, the sequences it may draw from, the messages it
may send and the exceptions it may raise.  A program stays within a footprint
whatever other sessions do between its statements, so one footprint serves the
serial meaning and the interleaved one.
-/

namespace Txn

structure Footprint (S : Signature) where
  sees : S.Db -> Prop
  writes : Write S -> Prop
  draws : S.Seq -> Prop
  emits : S.Out -> Prop
  raises : S.Exc -> Prop

namespace Program

variable {S : Signature} {α β : Type}

/-- The program stays within the footprint, and its normal results have the
property. -/
def Within (F : Footprint S) (Q : α -> Prop) : Program S α -> Prop
  | .ret a => Q a
  | .raise e => F.raises e
  | .read k => forall v, F.sees v -> (k v).Within F Q
  | .lock _ k => forall v, F.sees v -> (k v).Within F Q
  | .flush _ ws k =>
      (forall w, w ∈ ws -> F.writes w) ∧ (k (.ok ())).Within F Q ∧
        forall w, w ∈ ws -> forall db e, w.violation db = some e ->
          (k (.error e)).Within F Q
  | .nextval t k => F.draws t ∧ forall n, (k n).Within F Q
  | .emit o k => F.emits o ∧ k.Within F Q

variable {F : Footprint S} {Q : α -> Prop}

/-!
# Rules for statements
-/

theorem within_ask_bind {q : S.Db -> β} {f : β -> Program S α}
    (h : forall v, F.sees v -> (f (q v)).Within F Q) :
    ((ask q).bind f).Within F Q :=
  h

theorem within_forUpdate_bind {r : S.Lock} {q : S.Db -> β}
    {f : β -> Program S α} (h : forall v, F.sees v -> (f (q v)).Within F Q) :
    ((forUpdate r q).bind f).Within F Q :=
  h

theorem within_draw_bind {t : S.Seq} {f : Int -> Program S α}
    (ht : F.draws t) (h : forall n, (f n).Within F Q) :
    ((draw t).bind f).Within F Q :=
  ⟨ht, h⟩

theorem within_flushUnit {rs : List S.Lock} {ws : List (Write S)}
    {Q : Unit -> Prop} (hws : forall w, w ∈ ws -> F.writes w)
    (hraises : forall w, w ∈ ws -> forall db e, w.violation db = some e ->
      F.raises e)
    (h : Q ()) : (flushUnit rs ws).Within F Q :=
  ⟨hws, h, hraises⟩

/-- A unit of work of a single write. -/
theorem within_flushOne {rs : List S.Lock} {w : Write S} {Q : Unit -> Prop}
    (hw : F.writes w) (hraises : forall db e, w.violation db = some e ->
      F.raises e)
    (h : Q ()) : (flushUnit rs [w]).Within F Q := by
  apply within_flushUnit
  · intro u hu
    rw [List.mem_singleton.mp hu]
    exact hw
  · intro u hu
    rw [List.mem_singleton.mp hu]
    exact hraises
  · exact h

theorem within_bind {R : β -> Prop} {p : Program S β} {f : β -> Program S α}
    (hp : p.Within F R) (hf : forall b, R b -> (f b).Within F Q) :
    (p.bind f).Within F Q := by
  induction p with
  | ret b => exact hf b hp
  | raise e => exact hp
  | read k ih => exact fun v hv => ih v (hp v hv)
  | lock r k ih => exact fun v hv => ih v (hp v hv)
  | flush rs ws k ih =>
      rcases hp with ⟨hws, hok, herror⟩
      exact ⟨hws, ih _ hok, fun w hw db e he => ih _ (herror w hw db e he)⟩
  | nextval t k ih => exact ⟨hp.left, fun n => ih n (hp.right n)⟩
  | emit o k ih => exact ⟨hp.left, ih hp.right⟩

theorem within_flushOne_bind {rs : List S.Lock} {w : Write S}
    {f : Unit -> Program S α} (hw : F.writes w)
    (hraises : forall db e, w.violation db = some e -> F.raises e)
    (h : (f ()).Within F Q) : ((flushUnit rs [w]).bind f).Within F Q :=
  within_bind (within_flushOne hw hraises trivial) fun _ (_ : True) => h

/-- A handler sees the exceptions of the body. -/
theorem within_tryCatch {G : S.Exc -> Prop} {p : Program S α}
    {h : S.Exc -> Program S α} (hp : p.Within { F with raises := G } Q)
    (hh : forall e, G e -> (h e).Within F Q) : (p.tryCatch h).Within F Q := by
  induction p with
  | ret a => exact hp
  | raise e => exact hh e hp
  | read k ih => exact fun v hv => ih v (hp v hv)
  | lock r k ih => exact fun v hv => ih v (hp v hv)
  | flush rs ws k ih =>
      rcases hp with ⟨hws, hok, herror⟩
      exact ⟨hws, ih _ hok, fun w hw db e he => ih _ (herror w hw db e he)⟩
  | nextval t k ih => exact ⟨hp.left, fun n => ih n (hp.right n)⟩
  | emit o k ih => exact ⟨hp.left, ih hp.right⟩

theorem within_mono {G : Footprint S} {R : α -> Prop} {p : Program S α}
    (hp : p.Within F Q) (hsees : forall v, G.sees v -> F.sees v)
    (hwrites : forall w, F.writes w -> G.writes w)
    (hdraws : forall t, F.draws t -> G.draws t)
    (hemits : forall o, F.emits o -> G.emits o)
    (hraises : forall e, F.raises e -> G.raises e)
    (hresult : forall a, Q a -> R a) : p.Within G R := by
  induction p with
  | ret a => exact hresult a hp
  | raise e => exact hraises e hp
  | read k ih => exact fun v hv => ih v (hp v (hsees v hv))
  | lock r k ih => exact fun v hv => ih v (hp v (hsees v hv))
  | flush rs ws k ih =>
      rcases hp with ⟨hws, hok, herror⟩
      exact ⟨fun w hw => hwrites w (hws w hw), ih _ hok,
        fun w hw db e he => ih _ (herror w hw db e he)⟩
  | nextval t k ih => exact ⟨hdraws t hp.left, fun n => ih n (hp.right n)⟩
  | emit o k ih => exact ⟨hemits o hp.left, ih hp.right⟩

/-- A fact about the store is kept when each effect of the footprint keeps
it. -/
theorem run_of_within {ok : Store S -> Prop} {p : Program S α}
    (hp : p.Within F Q) (hsees : forall v, F.sees v)
    (hwrites : forall w, F.writes w -> forall s, ok s ->
      ok (s.setDb (w.apply s.db)))
    (hdraws : forall t, F.draws t -> forall s, ok s -> ok (s.draw t))
    (hemits : forall o, F.emits o -> forall s, ok s -> ok (s.push o))
    {s : Store S} (hs : ok s) : ok (p.run s).2 := by
  have hflush : forall ws : List (Write S), (forall w, w ∈ ws -> F.writes w) ->
      forall s : Store S, ok s -> ok (s.setDb (Write.applyAll ws s.db)) := by
    intro ws
    induction ws with
    | nil => exact fun _ _ hs => hs
    | cons w ws ih =>
        intro hws s hs
        exact ih (fun u hu => hws u (List.mem_cons_of_mem w hu)) _
          (hwrites w (hws w List.mem_cons_self) s hs)
  induction p generalizing s with
  | ret a => exact hs
  | raise e => exact hs
  | read k ih => exact ih s.db (hp s.db (hsees s.db)) hs
  | lock r k ih => exact ih s.db (hp s.db (hsees s.db)) hs
  | flush rs ws k ih =>
      rcases hp with ⟨hws, hok, herror⟩
      rw [run]
      cases hdb : Write.attempt ws s.db with
      | ok db =>
          rw [Write.applyAll_of_attempt hdb]
          exact ih _ hok (hflush ws hws s hs)
      | error e =>
          rcases Write.exists_violation_of_attempt hdb with ⟨w, hw, d, he⟩
          exact ih _ (herror w hw d e he) hs
  | nextval t k ih => exact ih _ (hp.right _) (hdraws t hp.left s hs)
  | emit o k ih => exact ih hp.right (hemits o hp.left s hs)

/-- What a transaction returns is a result that the program may have, and what it
raises an exception that the program may raise. -/
theorem transact_of_within {p : Program S α} (hp : p.Within F Q)
    (hsees : forall v, F.sees v) (s : Store S) :
    (forall a, (p.transact s).1 = .ok a -> Q a) ∧
      forall e, (p.transact s).1 = .error e -> F.raises e := by
  have hrun : forall s : Store S, (forall a, (p.run s).1 = .ok a -> Q a) ∧
      forall e, (p.run s).1 = .error e -> F.raises e := by
    induction p with
    | ret a =>
        intro s
        constructor
        · intro b h
          cases h
          exact hp
        · intro e h
          cases h
    | raise e =>
        intro s
        constructor
        · intro a h
          cases h
        · intro e' h
          cases h
          exact hp
    | read k ih => exact fun s => ih s.db (hp s.db (hsees s.db)) s
    | lock r k ih => exact fun s => ih s.db (hp s.db (hsees s.db)) s
    | flush rs ws k ih =>
        rcases hp with ⟨_, hok, herror⟩
        intro s
        rw [run]
        cases hdb : Write.attempt ws s.db with
        | ok db => exact ih _ hok _
        | error e =>
            rcases Write.exists_violation_of_attempt hdb with ⟨w, hw, d, he⟩
            exact ih _ (herror w hw d e he) _
    | nextval t k ih => exact fun s => ih _ (hp.right _) _
    | emit o k ih => exact fun s => ih hp.right _
  have hresult : (p.transact s).1 = (p.run s).1 := by
    rcases hres : p.run s with ⟨res, s'⟩
    cases res with
    | ok a => rw [transact_of_ok hres]
    | error e => rw [transact_of_error hres]
  rw [hresult]
  exact hrun s

/-- A value of the store is kept when none of the effects of the footprint
changes it. -/
theorem preserves_of_within {γ : Type} {obs : Store S -> γ} {p : Program S α}
    (hp : p.Within F Q) (hsees : forall v, F.sees v)
    (hwrites : forall w, F.writes w -> forall s : Store S,
      obs (s.setDb (w.apply s.db)) = obs s)
    (hdraws : forall t, F.draws t -> forall s : Store S, obs (s.draw t) = obs s)
    (hemits : forall o, F.emits o -> forall s : Store S,
      obs (s.push o) = obs s) : p.Preserves obs := by
  intro s
  apply @run_of_within S α F Q (fun t => obs t = obs s) p hp hsees
  · exact fun w hw t ht => (hwrites w hw t).trans ht
  · exact fun n hn t ht => (hdraws n hn t).trans ht
  · exact fun o ho t ht => (hemits o ho t).trans ht
  · rfl

/-- The footprint of a program that sends nothing. -/
def Silent (p : Program S α) : Prop :=
  p.Within { sees := fun _ => True, writes := fun _ => True,
             draws := fun _ => True, emits := fun _ => False,
             raises := fun _ => True } fun _ => True

theorem Silent.transact_out {p : Program S α} (h : p.Silent) (s : Store S) :
    (p.transact s).2.out = s.out := by
  have hout : (p.run s).2.out = s.out :=
    preserves_of_within h (fun _ => trivial) (fun _ _ _ => rfl)
      (fun _ _ _ => rfl) (fun _ hemits => hemits.elim) s
  rcases hrun : p.run s with ⟨res, s'⟩
  rw [hrun] at hout
  cases res with
  | ok a =>
      rw [transact_of_ok hrun]
      exact hout
  | error e =>
      rw [transact_of_error hrun]
      exact hout

end Program

/-!
# Facts that every session keeps
-/

section Stability

variable {S : Signature} {α : Type}

/-- The footprint of a program that keeps a fact about the database. -/
def Footprint.keeping (ok : S.Db -> Prop) : Footprint S where
  sees := fun _ => True
  writes := fun w => forall db, ok db -> ok (w.apply db)
  draws := fun _ => True
  emits := fun _ => True
  raises := fun _ => True

def Program.Keeps (ok : S.Db -> Prop) (p : Program S α) : Prop :=
  p.Within (Footprint.keeping ok) fun _ => True

theorem Program.Keeps.run {ok : S.Db -> Prop} {p : Program S α}
    (h : p.Keeps ok) {s : Store S} (hs : ok s.db) : ok (p.run s).2.db := by
  apply @run_of_within S α (Footprint.keeping ok) (fun _ => True)
    (fun t => ok t.db) p h fun _ => trivial
  · exact fun w hw t ht => hw t.db ht
  · exact fun _ _ _ ht => ht
  · exact fun _ _ _ ht => ht
  · exact hs

theorem Program.Keeps.transact {ok : S.Db -> Prop} {p : Program S α}
    (h : p.Keeps ok) {s : Store S} (hs : ok s.db) :
    ok (p.transact s).2.db := by
  have hkept := h.run hs
  rcases hrun : p.run s with ⟨res, s'⟩
  rw [hrun] at hkept
  cases res with
  | ok a =>
      rw [transact_of_ok hrun]
      exact hkept
  | error e =>
      rw [transact_of_error hrun]
      exact hs

/-- An open session that keeps the fact goes on keeping it. -/
theorem Process.Moves.keeps {ok : S.Db -> Prop} {db : S.Db} {a : Act S α}
    {q : Process S α} {own' : S.Db -> S.Db} {p' : Program S α}
    (hm : q.Moves db a (.running own' p'))
    (h : forall own p, q = .running own p ->
      (forall db, ok db -> ok (own db)) ∧ p.Keeps ok)
    (hstart : forall p, a = .start a.session p -> p.Keeps ok) :
    (forall db, ok db -> ok (own' db)) ∧ p'.Keeps ok := by
  cases hm with
  | start => exact ⟨fun _ hdb => hdb, hstart _ rfl⟩
  | read =>
      rcases h _ _ rfl with ⟨hown, hp⟩
      exact ⟨hown, hp _ trivial⟩
  | lock =>
      rcases h _ _ rfl with ⟨hown, hp⟩
      exact ⟨hown, hp _ trivial⟩
  | flush =>
      rcases h _ _ rfl with ⟨hown, hws, hp, _⟩
      exact ⟨fun db hdb => Write.applyAll_keeps hws (hown db hdb), hp⟩
  | flushError hws =>
      rcases h _ _ rfl with ⟨hown, _, _, hp⟩
      rcases Write.exists_violation_of_attempt hws with ⟨u, hu, d, he⟩
      exact ⟨hown, hp u hu d _ he⟩
  | nextval n =>
      rcases h _ _ rfl with ⟨hown, _, hp⟩
      exact ⟨hown, hp n⟩
  | emit =>
      rcases h _ _ rfl with ⟨hown, _, hp⟩
      exact ⟨hown, hp⟩

namespace World

/-- Every open session keeps the fact, with the changes it has made and with
the rest of its program. -/
def Keepers (ok : S.Db -> Prop) (w : World S α) : Prop :=
  forall i own p, w.procs i = .running own p ->
    (forall db, ok db -> ok (own db)) ∧ p.Keeps ok

theorem Keepers.step {ok : S.Db -> Prop} {w w' : World S α} {a : Act S α}
    (h : w.Keepers ok) (hm : Moves w a w')
    (hstart : forall i p, a = .start i p -> p.Keeps ok) : w'.Keepers ok := by
  intro j own' p' hj
  by_cases hself : j = a.session
  · subst hself
    have hproc := hm.proc
    rw [hj] at hproc
    exact hproc.keeps (h a.session) (hstart a.session)
  · rw [hm.procs_of_ne hself] at hj
    exact h j own' p' hj

theorem Keepers.committed {ok : S.Db -> Prop} {w w' : World S α}
    {a : Act S α} (h : w.Keepers ok) (hm : Moves w a w')
    (hok : ok w.committed) : ok w'.committed := by
  cases hm with
  | ret hproc => exact (h _ _ _ hproc).left _ hok
  | start _ => exact hok
  | fail _ _ => exact hok
  | raise _ => exact hok
  | read _ => exact hok
  | lock _ _ => exact hok
  | flush _ _ _ => exact hok
  | flushError _ _ _ => exact hok
  | nextval _ => exact hok
  | emit _ => exact hok

end World

/-- A session stays within a footprint, and so do its results. -/
def Process.Within (F : Footprint S) (Q : α -> Prop) : Process S α -> Prop
  | .idle => True
  | .running _ p => p.Within F Q
  | .done (.ok a) => Q a
  | .done (.error e) => F.raises e

theorem Process.Moves.within {F : Footprint S} {Q : α -> Prop} {db : S.Db}
    {a : Act S α} {q q' : Process S α} (hm : q.Moves db a q')
    (h : q.Within F Q)
    (hview : forall own p, q = .running own p -> F.sees (own db))
    (hstart : forall p, a = .start a.session p -> p.Within F Q)
    (hfail : forall e, a = .fail a.session e -> F.raises e) :
    q'.Within F Q := by
  cases hm with
  | start => exact hstart _ rfl
  | fail e => exact hfail e rfl
  | ret => exact h
  | raise => exact h
  | read => exact h _ (hview _ _ rfl)
  | lock => exact h _ (hview _ _ rfl)
  | flush => exact h.right.left
  | flushError hws =>
      rcases Write.exists_violation_of_attempt hws with ⟨u, hu, d, he⟩
      exact h.right.right u hu d _ he
  | nextval n => exact h.right n
  | emit => exact h.right

namespace World

variable {F : Footprint S} {Q : α -> Prop} {w w' : World S α} {i : Nat}

theorem within_step {a : Act S α} (h : (w.procs i).Within F Q)
    (hm : Moves w a w') (hkeepers : w.Keepers F.sees)
    (hsees : F.sees w.committed)
    (hstart : forall p, a = .start i p -> p.Within F Q)
    (hfail : forall e, a = .fail i e -> F.raises e) :
    (w'.procs i).Within F Q := by
  by_cases hself : i = a.session
  · subst hself
    apply hm.proc.within h _ hstart hfail
    intro own p hproc
    exact (hkeepers _ own p hproc).left _ hsees
  · rw [hm.procs_of_ne hself]
    exact h

theorem Reaches.keepers {ok : S.Db -> Prop}
    {adm : World S α -> Act S α -> Prop} (h : Reaches adm w w')
    (hkeepers : w.Keepers ok)
    (hkeeps : forall u j p, Reaches adm w u -> adm u (.start j p) ->
      p.Keeps ok) : w'.Keepers ok := by
  induction h with
  | refl => exact hkeepers
  | @step u u' a hrun hadm hexec ih =>
      apply ih.step (moves_of_exec hexec)
      intro j p heq
      subst heq
      exact hkeeps u j p hrun hadm

/-- A session that stays within a footprint on the databases with a fact keeps
to it in every run whose sessions keep the fact. -/
theorem Reaches.within {adm : World S α -> Act S α -> Prop}
    (h : Reaches adm w w') (hkeepers : w.Keepers F.sees)
    (hsees : F.sees w.committed) (hself : (w.procs i).Within F Q)
    (hkeeps : forall u j p, Reaches adm w u -> adm u (.start j p) ->
      p.Keeps F.sees)
    (hstart : w.procs i = .idle -> forall u p, adm u (.start i p) ->
      p.Within F Q)
    (hfail : forall u e, adm u (.fail i e) -> F.raises e) :
    (w'.procs i).Within F Q := by
  have hall : F.sees w'.committed ∧ (w'.procs i).Within F Q ∧
      (w'.procs i = .idle -> w.procs i = .idle) := by
    induction h with
    | refl => exact ⟨hsees, hself, fun hidle => hidle⟩
    | @step u u' a hrun hadm hexec ih =>
        rcases ih with ⟨hsees, hself, hidle⟩
        have hm := moves_of_exec hexec
        have hkeepers := hrun.keepers hkeepers hkeeps
        refine ⟨hkeepers.committed hm hsees,
          within_step hself hm hkeepers hsees ?_ ?_, ?_⟩
        · intro p heq
          subst heq
          exact hstart (hidle (hm.idle_of_start)) u p hadm
        · intro e heq
          subst heq
          exact hfail u e hadm
        · intro hidle'
          exact hidle (hm.idle_of_idle hidle')
  exact hall.right.left

end World

/-!
# Lookups

A lookup raises an exception when it does not find what it is looking for.  A
program that raises the exception nowhere else is spared it as long as its
lookups find.
-/

variable {β : Type}

namespace Program

/-- The next statement is a read that raises the exception on some database. -/
def LooksUp (e : S.Exc) : Program S α -> Prop
  | .read k => exists v, k v = .raise e
  | _ => False

def Spares (e : S.Exc) (found : S.Db -> Prop) : Program S α -> Prop
  | .ret _ => True
  | .raise e' => e' ≠ e
  | .read k =>
      forall v, ((exists u, k u = .raise e) -> found v) -> (k v).Spares e found
  | .lock _ k => forall v, (k v).Spares e found
  | .flush _ ws k =>
      (k (.ok ())).Spares e found ∧
        forall w, w ∈ ws -> forall db e', w.violation db = some e' ->
          (k (.error e')).Spares e found
  | .nextval _ k => forall n, (k n).Spares e found
  | .emit _ k => k.Spares e found

variable {e : S.Exc} {found : S.Db -> Prop}

theorem spares_of_within {F : Footprint S} {Q : α -> Prop} {p : Program S α}
    (hp : p.Within F Q) (hsees : forall v, F.sees v)
    (hraises : forall e', F.raises e' -> e' ≠ e) : p.Spares e found := by
  induction p with
  | ret a => trivial
  | raise e' => exact hraises e' hp
  | read k ih => exact fun v _ => ih v (hp v (hsees v))
  | lock r k ih => exact fun v => ih v (hp v (hsees v))
  | flush rs ws k ih =>
      rcases hp with ⟨_, hok, herror⟩
      exact ⟨ih _ hok, fun w hw db e' he => ih _ (herror w hw db e' he)⟩
  | nextval t k ih => exact fun n => ih n (hp.right n)
  | emit o k ih => exact ih hp.right

theorem spares_ask_bind {q : S.Db -> β} {f : β -> Program S α}
    (h : forall v, (f (q v)).Spares e found) :
    ((ask q).bind f).Spares e found :=
  fun v _ => h v

/-- A lookup: the database may be taken to hold what is looked for. -/
theorem spares_lookup_bind {q : S.Db -> β} {f : β -> Program S α}
    (h : forall v, (f (q v) = .raise e -> found v) ->
      (f (q v)).Spares e found) :
    ((ask q).bind f).Spares e found :=
  fun v hfound => h v fun hraise => hfound ⟨v, hraise⟩

theorem spares_bind {p : Program S β} {f : β -> Program S α}
    (hp : p.Spares e found) (hf : forall b, (f b).Spares e found) :
    (p.bind f).Spares e found := by
  induction p with
  | ret b => exact hf b
  | raise e' => exact hp
  | read k ih =>
      intro v hfound
      refine ih v (hp v ?_)
      intro hseen
      rcases hseen with ⟨u, hu⟩
      refine hfound ⟨u, ?_⟩
      simp only [hu, bind]
  | lock r k ih => exact fun v => ih v (hp v)
  | flush rs ws k ih =>
      exact ⟨ih _ hp.left,
        fun w hw db e' he => ih _ (hp.right w hw db e' he)⟩
  | nextval t k ih => exact fun n => ih n (hp n)
  | emit o k ih => exact ih hp

/-- A handler that lets the exception pass. -/
theorem spares_tryCatch {p : Program S α} {h : S.Exc -> Program S α}
    (hp : p.Spares e found) (hpasses : h e = .raise e)
    (hh : forall e', e' ≠ e -> (h e').Spares e found) :
    (p.tryCatch h).Spares e found := by
  induction p with
  | ret a => trivial
  | raise e' => exact hh e' hp
  | read k ih =>
      intro v hfound
      refine ih v (hp v ?_)
      intro hseen
      rcases hseen with ⟨u, hu⟩
      refine hfound ⟨u, ?_⟩
      simp only [hu, tryCatch, hpasses]
  | lock r k ih => exact fun v => ih v (hp v)
  | flush rs ws k ih =>
      exact ⟨ih _ hp.left,
        fun w hw db e' he => ih _ (hp.right w hw db e' he)⟩
  | nextval t k ih => exact fun n => ih n (hp n)
  | emit o k ih => exact ih hp

end Program

def Process.Spares (e : S.Exc) (found : S.Db -> Prop) : Process S α -> Prop
  | .idle => True
  | .running _ p => p.Spares e found
  | .done res => res ≠ .error e

theorem Process.Moves.spares {e : S.Exc} {found : S.Db -> Prop} {db : S.Db}
    {a : Act S α} {q q' : Process S α} (hm : q.Moves db a q')
    (h : q.Spares e found)
    (hstart : forall p, a = .start a.session p -> p.Spares e found)
    (hlooks : forall own p, a = .step a.session -> q = .running own p ->
      p.LooksUp e -> found (own db))
    (hfail : forall e', a = .fail a.session e' -> e' ≠ e) :
    q'.Spares e found := by
  cases hm with
  | start => exact hstart _ rfl
  | fail e' =>
      intro heq
      cases heq
      exact hfail _ rfl rfl
  | ret =>
      intro heq
      cases heq
  | raise =>
      intro heq
      cases heq
      exact h rfl
  | read => exact h _ fun hlookup => hlooks _ _ rfl rfl hlookup
  | lock => exact h _
  | flush => exact h.left
  | flushError hws =>
      rcases Write.exists_violation_of_attempt hws with ⟨u, hu, d, he⟩
      exact h.right u hu d _ he
  | nextval n => exact h n
  | emit => exact h

namespace World

variable {e : S.Exc} {found : S.Db -> Prop} {w w' : World S α} {i : Nat}

theorem spares_step {a : Act S α} (h : (w.procs i).Spares e found)
    (hm : Moves w a w')
    (hstart : forall p, a = .start i p -> p.Spares e found)
    (hlooks : forall own p, a = .step i -> w.procs i = .running own p ->
      p.LooksUp e -> found (own w.committed))
    (hfail : forall e', a = .fail i e' -> e' ≠ e) :
    (w'.procs i).Spares e found := by
  by_cases hself : i = a.session
  · subst hself
    exact hm.proc.spares h hstart hlooks hfail
  · rw [hm.procs_of_ne hself]
    exact h

/-- A session whose lookups find is spared the exception. -/
theorem Reaches.spares {adm : World S α -> Act S α -> Prop}
    (h : Reaches adm w w') (hself : (w.procs i).Spares e found)
    (hstart : forall u p, Reaches adm w u -> adm u (.start i p) ->
      p.Spares e found)
    (hlooks : forall u own p, Reaches adm w u -> adm u (.step i) ->
      u.procs i = .running own p -> p.LooksUp e -> found (own u.committed))
    (hfail : forall u e', adm u (.fail i e') -> e' ≠ e) :
    (w'.procs i).Spares e found := by
  induction h with
  | refl => exact hself
  | @step u u' a hrun hadm hexec ih =>
      apply spares_step ih (moves_of_exec hexec)
      · intro p heq
        subst heq
        exact hstart u p hrun hadm
      · intro own p heq hproc hlookup
        subst heq
        exact hlooks u own p hrun hadm hproc hlookup
      · intro e' heq
        subst heq
        exact hfail u e' hadm

end World
end Stability
end Txn
