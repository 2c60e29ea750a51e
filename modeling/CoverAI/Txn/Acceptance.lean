import CoverAI.Txn.Footprint

/-!
# Writes that are never refused

A flush is refused when one of its writes violates a constraint.  A program
accepts a kind of writes when no flush with such a write is refused in its run;
it upholds a fact when, from every store with the fact, it accepts them and
ends with the fact again, whether it returns or raises.
-/

namespace Txn
namespace Program

variable {S : Signature} {α β : Type}

/-- No flush with a watched write is refused in the run from the store. -/
def Accepts (watched : Write S -> Prop) : Program S α -> Store S -> Prop
  | .ret _, _ => True
  | .raise _, _ => True
  | .read k, s => (k s.db).Accepts watched s
  | .lock _ k, s => (k s.db).Accepts watched s
  | .flush _ ws k, s =>
      ((exists w, w ∈ ws ∧ watched w) ->
        exists db, Write.attempt ws s.db = .ok db) ∧
      match Write.attempt ws s.db with
      | .ok db => (k (.ok ())).Accepts watched (s.setDb db)
      | .error e => (k (.error e)).Accepts watched s
  | .nextval t k, s => (k (s.seq t)).Accepts watched (s.draw t)
  | .emit o k, s => k.Accepts watched (s.push o)

variable {watched : Write S -> Prop}

theorem accepts_bind {p : Program S α} {f : α -> Program S β} {s : Store S}
    (hp : p.Accepts watched s)
    (hf : forall a s', p.run s = (.ok a, s') -> (f a).Accepts watched s') :
    (p.bind f).Accepts watched s := by
  induction p generalizing s with
  | ret a => exact hf a s rfl
  | raise e => trivial
  | read k ih => exact ih s.db hp hf
  | lock r k ih => exact ih s.db hp hf
  | flush rs ws k ih =>
      rw [Accepts] at hp
      rcases hp with ⟨hsent, hrest⟩
      simp only [run] at hf
      rw [flush_bind, Accepts]
      refine ⟨hsent, ?_⟩
      cases hws : Write.attempt ws s.db with
      | ok db =>
          simp only [hws] at hrest hf
          exact ih _ hrest hf
      | error e =>
          simp only [hws] at hrest hf
          exact ih _ hrest hf
  | nextval t k ih => exact ih _ hp hf
  | emit o k ih => exact ih hp hf

theorem accepts_void {p : Program S α} {s : Store S}
    (h : p.Accepts watched s) : p.void.Accepts watched s :=
  accepts_bind h fun _ _ _ => trivial

theorem accepts_tryCatch {p : Program S α} {h : S.Exc -> Program S α}
    {s : Store S} (hp : p.Accepts watched s)
    (hh : forall e s', p.run s = (.error e, s') -> (h e).Accepts watched s') :
    (p.tryCatch h).Accepts watched s := by
  induction p generalizing s with
  | ret a => trivial
  | raise e => exact hh e s rfl
  | read k ih => exact ih s.db hp hh
  | lock r k ih => exact ih s.db hp hh
  | flush rs ws k ih =>
      rw [Accepts] at hp
      rcases hp with ⟨hsent, hrest⟩
      simp only [run] at hh
      rw [tryCatch, Accepts]
      refine ⟨hsent, ?_⟩
      cases hws : Write.attempt ws s.db with
      | ok db =>
          simp only [hws] at hrest hh
          exact ih _ hrest hh
      | error e =>
          simp only [hws] at hrest hh
          exact ih _ hrest hh
  | nextval t k ih => exact ih _ hp hh
  | emit o k ih => exact ih hp hh

theorem accepts_of_within {F : Footprint S} {Q : α -> Prop} {p : Program S α}
    (hp : p.Within F Q) (hsees : forall v, F.sees v)
    (hwrites : forall w, F.writes w -> ¬ watched w) (s : Store S) :
    p.Accepts watched s := by
  induction p generalizing s with
  | ret a => trivial
  | raise e => trivial
  | read k ih => exact ih s.db (hp s.db (hsees s.db)) s
  | lock r k ih => exact ih s.db (hp s.db (hsees s.db)) s
  | flush rs ws k ih =>
      rcases hp with ⟨hws, hok, herror⟩
      rw [Accepts]
      constructor
      · intro hwatched
        rcases hwatched with ⟨w, hw, hwatched⟩
        exact (hwrites w (hws w hw) hwatched).elim
      · cases hdb : Write.attempt ws s.db with
        | ok db => exact ih _ hok _
        | error e =>
            rcases Write.exists_violation_of_attempt hdb with ⟨w, hw, d, he⟩
            exact ih _ (herror w hw d e he) s
  | nextval t k ih => exact ih _ (hp.right _) _
  | emit o k ih => exact ih hp.right _

/-- A unit of work whose violations escape, in a run that ends normally. -/
theorem accepts_flushUnit_bind {rs : List S.Lock} {ws : List (Write S)}
    {f : Unit -> Program S α} {s s' : Store S} {a : α}
    (hrun : ((flushUnit rs ws).bind f).run s = (.ok a, s'))
    (hf : forall db, (f ()).Accepts watched (s.setDb db)) :
    ((flushUnit rs ws).bind f).Accepts watched s := by
  simp only [flushUnit, flush_bind, run] at hrun
  rw [flushUnit, flush_bind, Accepts]
  cases hws : Write.attempt ws s.db with
  | ok db => exact ⟨fun _ => ⟨db, rfl⟩, hf db⟩
  | error e =>
      rw [hws] at hrun
      cases hrun

/-!
# Facts that are upheld
-/

/-- From every store with the fact the program accepts the watched writes, and
it ends in a store with the fact. -/
def Upholds (watched : Write S -> Prop) (ok : Store S -> Prop)
    (p : Program S α) : Prop :=
  forall s, ok s -> p.Accepts watched s ∧ ok (p.run s).2

variable {ok : Store S -> Prop}

theorem upholds_ret (a : α) : (ret a : Program S α).Upholds watched ok :=
  fun _ hs => ⟨trivial, hs⟩

theorem upholds_raise (e : S.Exc) :
    (raise e : Program S α).Upholds watched ok :=
  fun _ hs => ⟨trivial, hs⟩

theorem upholds_bind_of {Q : α -> Prop} {p : Program S α}
    {f : α -> Program S β} (hp : p.Upholds watched ok)
    (hresult : forall s, p.Ensures (fun a _ => Q a) s)
    (hf : forall a, Q a -> (f a).Upholds watched ok) :
    (p.bind f).Upholds watched ok := by
  intro s hs
  rcases hp s hs with ⟨haccepts, hexit⟩
  constructor
  · apply accepts_bind haccepts
    intro a s' hrun
    rw [hrun] at hexit
    exact (hf a (ensures_of_run (hresult s) hrun) s' hexit).left
  · rw [run_bind]
    rcases hrun : p.run s with ⟨res, s'⟩
    rw [hrun] at hexit
    cases res with
    | ok a => exact (hf a (ensures_of_run (hresult s) hrun) s' hexit).right
    | error e => exact hexit

theorem upholds_bind {p : Program S α} {f : α -> Program S β}
    (hp : p.Upholds watched ok) (hf : forall a, (f a).Upholds watched ok) :
    (p.bind f).Upholds watched ok :=
  upholds_bind_of hp (fun _ => fun _ _ => trivial) fun a _ => hf a

theorem upholds_tryCatch {p : Program S α} {h : S.Exc -> Program S α}
    (hp : p.Upholds watched ok) (hh : forall e, (h e).Upholds watched ok) :
    (p.tryCatch h).Upholds watched ok := by
  intro s hs
  rcases hp s hs with ⟨haccepts, hexit⟩
  constructor
  · apply accepts_tryCatch haccepts
    intro e s' hrun
    rw [hrun] at hexit
    exact (hh e s' hexit).left
  · rw [run_tryCatch]
    rcases hrun : p.run s with ⟨res, s'⟩
    rw [hrun] at hexit
    cases res with
    | ok a => exact hexit
    | error e => exact (hh e s' hexit).right

theorem upholds_ask_bind {q : S.Db -> β} {f : β -> Program S α}
    (hf : forall b, (f b).Upholds watched ok) :
    ((ask q).bind f).Upholds watched ok :=
  fun s hs => hf (q s.db) s hs

theorem upholds_of_within {F : Footprint S} {Q : α -> Prop} {p : Program S α}
    (hp : p.Within F Q) (hsees : forall v, F.sees v)
    (hwatched : forall w, F.writes w -> ¬ watched w)
    (hwrites : forall w, F.writes w -> forall s, ok s ->
      ok (s.setDb (w.apply s.db)))
    (hdraws : forall t, F.draws t -> forall s, ok s -> ok (s.draw t))
    (hemits : forall o, F.emits o -> forall s, ok s -> ok (s.push o)) :
    p.Upholds watched ok :=
  fun s hs => ⟨accepts_of_within hp hsees hwatched s,
    run_of_within hp hsees hwrites hdraws hemits hs⟩

theorem Upholds.and {good : Store S -> Prop} {p : Program S α}
    (h : p.Upholds watched ok)
    (hgood : forall s, good s -> good (p.run s).2) :
    p.Upholds watched fun s => ok s ∧ good s :=
  fun s hs => ⟨(h s hs.left).left, (h s hs.left).right, hgood s hs.right⟩

/-- A session that is rolled back has drawn from sequences only. -/
theorem Upholds.transact {p : Program S α} (h : p.Upholds watched ok)
    (hrollback : forall s s', ok s -> ok s' -> s.Advances s' ->
      ok (s'.setDb s.db))
    {s : Store S} (hs : ok s) : ok (p.transact s).2 := by
  have hexit := (h s hs).right
  have hadvances := run_advances p s
  rcases hrun : p.run s with ⟨res, s'⟩
  rw [hrun] at hexit hadvances
  cases res with
  | ok a =>
      rw [transact_of_ok hrun]
      exact hexit
  | error e =>
      rw [transact_of_error hrun]
      exact hrollback s s' hs hexit hadvances

end Program
end Txn
