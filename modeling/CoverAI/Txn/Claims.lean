import CoverAI.Txn.Turns
import Mathlib.Data.Set.Insert

/-!
# Names that sessions claim

Up to its last read a session changes nothing.  With that read it may find names
free, and from then on it inserts rows under these names and under keys drawn
from sequences.  If two sessions that are past their last read never claim a
common name, none of the insertions fails, in whatever order the statements of
the sessions come.
-/

namespace Txn

structure Claims (S : Signature) (ν : Type) where
  /-- The database has a row under the name. -/
  Has : S.Db -> ν -> Prop
  /-- A key is a name that a sequence gives away once. -/
  key : S.Seq -> Int -> ν
  /-- Holds of every committed database. -/
  ok : S.Db -> Prop
  key_inj : forall {t t' n n'}, key t n = key t' n' -> t = t' ∧ n = n'

/-- The names a session has inserted rows under, and those it still may. -/
structure Held (ν : Type) where
  spent : Set ν
  left : Set ν

namespace Held

variable {ν : Type}

def none : Held ν where
  spent := ∅
  left := ∅

def all (h : Held ν) : Set ν :=
  h.spent ∪ h.left

theorem not_mem_none {x : ν} : x ∉ (none : Held ν).all := by
  intro h
  rcases h with h | h
  · exact h
  · exact h

def spend (h : Held ν) (used : Set ν) : Held ν where
  spent := h.spent ∪ used
  left := h.left \ used

def claim (h : Held ν) (names : Set ν) : Held ν where
  spent := h.spent
  left := names ∪ h.left

theorem mem_of_mem_spend {h : Held ν} {used : Set ν} (hused : used ⊆ h.left)
    {x : ν} (hx : x ∈ (h.spend used).all) : x ∈ h.all := by
  rcases hx with (hspent | hnew) | hleft
  · exact Or.inl hspent
  · exact Or.inr (hused hnew)
  · exact Or.inr hleft.left

theorem mem_claim {h : Held ν} {names : Set ν} {x : ν}
    (hx : x ∈ (h.claim names).all) : x ∈ names ∨ x ∈ h.all := by
  rcases hx with hspent | hnew | hleft
  · exact Or.inr (Or.inl hspent)
  · exact Or.inl hnew
  · exact Or.inr (Or.inr hleft)

end Held

namespace Claims

variable {S : Signature} {α β ν : Type} (C : Claims S ν)

/-- Where the names are free the writes go through, and they take no others. -/
structure Inserts (ws : List (Write S)) (used : Set ν) : Prop where
  goes : forall db, (forall x, x ∈ used -> ¬ C.Has db x) ->
    exists d, Write.attempt ws db = .ok d
  adds : forall db x, C.Has (Write.applyAll ws db) x -> C.Has db x ∨ x ∈ used

/-- The program ends normally once it holds the names.  What it has written by
then makes a database out of the committed one. -/
def Sure : List (Write S) -> Held ν -> Program S α -> Prop
  | done, h, .ret _ => forall db, C.ok db ->
      (forall x, x ∈ h.spent -> ¬ C.Has db x) -> C.ok (Write.applyAll done db)
  | _, _, .raise _ => False
  | _, _, .read _ => False
  | _, _, .lock _ _ => False
  | done, h, .flush _ ws k => exists used, used ⊆ h.left ∧ C.Inserts ws used ∧
      Sure (done ++ ws) (h.spend used) (k (.ok ()))
  | done, h, .nextval t k => forall n, Sure done (h.claim {C.key t n}) (k n)
  | done, h, .emit _ k => Sure done h k

/-- The last read finds that no name is needed, or that the names are free. -/
def LooksUp (names : Set ν) (p : Program S α) : Prop :=
  exists k, p = .read k ∧ (forall db, (k db).NoReads) ∧
    forall db, C.ok db -> C.Sure [] Held.none (k db) ∨
      (forall x, x ∈ names -> ¬ C.Has db x) ∧
        C.Sure [] (Held.none.claim names) (k db)

/-- The program reads until it raises an exception or comes to its last read. -/
inductive Approaches (raises : S.Exc -> Prop) (names : Set ν) :
    Program S α -> Prop where
  | looks {p : Program S α} (h : C.LooksUp names p) :
      Approaches raises names p
  | read {k : S.Db -> Program S α}
      (h : forall db, Approaches raises names (k db)) :
      Approaches raises names (.read k)
  | raise {e : S.Exc} (h : raises e) : Approaches raises names (.raise e)

/-- The program only reads, and what it raises and returns is of a kind. -/
inductive Checks (raises : S.Exc -> Prop) (Q : β -> Prop) :
    Program S β -> Prop where
  | ret {b : β} (h : Q b) : Checks raises Q (.ret b)
  | raise {e : S.Exc} (h : raises e) : Checks raises Q (.raise e)
  | read {k : S.Db -> Program S β} (h : forall db, Checks raises Q (k db)) :
      Checks raises Q (.read k)

/-!
# Rules for statements
-/

section Rules

variable {C} {done : List (Write S)} {h : Held ν} {raises : S.Exc -> Prop}
  {names : Set ν}

theorem sure_draw_bind {t : S.Seq} {f : Int -> Program S α}
    (hf : forall n, C.Sure done (h.claim {C.key t n}) (f n)) :
    C.Sure done h ((Program.draw t).bind f) :=
  hf

theorem sure_flushUnit_bind {rs : List S.Lock} {ws : List (Write S)}
    {f : Unit -> Program S α} (used : Set ν) (hused : used ⊆ h.left)
    (hws : C.Inserts ws used)
    (hf : C.Sure (done ++ ws) (h.spend used) (f ())) :
    C.Sure done h ((Program.flushUnit rs ws).bind f) :=
  ⟨used, hused, hws, hf⟩

theorem Sure.tryCatch {p : Program S α} (hp : C.Sure done h p)
    (c : S.Exc -> Program S α) : C.Sure done h (p.tryCatch c) := by
  induction p generalizing done h with
  | ret a => exact hp
  | raise e => exact hp.elim
  | read k ih => exact hp.elim
  | lock r k ih => exact hp.elim
  | flush rs ws k ih =>
      rcases hp with ⟨used, hused, hws, hk⟩
      exact ⟨used, hused, hws, ih _ hk⟩
  | nextval t k ih => exact fun n => ih n (hp n)
  | emit o k ih => exact ih hp

theorem Sure.map {p : Program S α} (hp : C.Sure done h p) (f : α -> β) :
    C.Sure done h (p.bind fun a => .ret (f a)) := by
  induction p generalizing done h with
  | ret a => exact hp
  | raise e => exact hp.elim
  | read k ih => exact hp.elim
  | lock r k ih => exact hp.elim
  | flush rs ws k ih =>
      rcases hp with ⟨used, hused, hws, hk⟩
      exact ⟨used, hused, hws, ih _ hk⟩
  | nextval t k ih => exact fun n => ih n (hp n)
  | emit o k ih => exact ih hp

theorem looksUp_ask_bind {q : S.Db -> β} {f : β -> Program S α}
    (hreads : forall b, (f b).NoReads)
    (hf : forall db, C.ok db -> C.Sure [] Held.none (f (q db)) ∨
      (forall x, x ∈ names -> ¬ C.Has db x) ∧
        C.Sure [] (Held.none.claim names) (f (q db))) :
    C.LooksUp names ((Program.ask q).bind f) :=
  ⟨_, rfl, fun _ => hreads _, hf⟩

theorem LooksUp.tryCatch {p : Program S α} (hp : C.LooksUp names p)
    {c : S.Exc -> Program S α} (hc : forall e, (c e).NoReads) :
    C.LooksUp names (p.tryCatch c) := by
  rcases hp with ⟨k, rfl, hreads, hk⟩
  refine ⟨_, rfl, fun db => Program.noReads_tryCatch (hreads db) hc, ?_⟩
  intro db hok
  rcases hk db hok with hsure | ⟨hfree, hsure⟩
  · exact Or.inl (hsure.tryCatch c)
  · exact Or.inr ⟨hfree, hsure.tryCatch c⟩

theorem LooksUp.map {p : Program S α} (hp : C.LooksUp names p) (f : α -> β) :
    C.LooksUp names (p.bind fun a => .ret (f a)) := by
  rcases hp with ⟨k, rfl, hreads, hk⟩
  refine ⟨_, rfl,
    fun db => Program.noReads_bind (hreads db) fun _ => trivial, ?_⟩
  intro db hok
  rcases hk db hok with hsure | ⟨hfree, hsure⟩
  · exact Or.inl (hsure.map f)
  · exact Or.inr ⟨hfree, hsure.map f⟩

theorem checks_ask_bind {γ : Type} {Q : β -> Prop} {q : S.Db -> γ}
    {f : γ -> Program S β} (hf : forall c, Checks raises Q (f c)) :
    Checks raises Q ((Program.ask q).bind f) :=
  .read fun _ => hf _

theorem checks_bind {γ : Type} {P : γ -> Prop} {Q : β -> Prop}
    {p : Program S γ} {f : γ -> Program S β} (hp : Checks raises P p)
    (hf : forall c, P c -> Checks raises Q (f c)) :
    Checks raises Q (p.bind f) := by
  induction hp with
  | ret h => exact hf _ h
  | raise h => exact .raise h
  | read _ ih => exact .read ih

theorem approaches_bind {P : β -> Prop} {p : Program S β}
    {f : β -> Program S α} (hp : Checks raises P p)
    (hf : forall b, P b -> C.Approaches raises names (f b)) :
    C.Approaches raises names (p.bind f) := by
  induction hp with
  | ret h => exact hf _ h
  | raise h => exact .raise h
  | read _ ih => exact .read ih

theorem Approaches.tryCatch {caught : S.Exc -> Prop} {p : Program S α}
    (hp : C.Approaches caught names p) {c : S.Exc -> S.Exc}
    (hc : forall e, caught e -> raises (c e)) :
    C.Approaches raises names (p.tryCatch fun e => .raise (c e)) := by
  induction hp with
  | looks h => exact .looks (h.tryCatch fun _ => trivial)
  | read _ ih => exact .read ih
  | raise h => exact .raise (hc _ h)

theorem Approaches.map {p : Program S α} (hp : C.Approaches raises names p)
    (f : α -> β) :
    C.Approaches raises names (p.bind fun a => .ret (f a)) := by
  induction hp with
  | looks h => exact .looks (h.map f)
  | read _ ih => exact .read ih
  | raise h => exact .raise h

end Rules

/-!
# Worlds
-/

/-- A session, with the names it holds. -/
def Conforms (raises : S.Exc -> Prop) (names : Set ν) (h : Held ν) :
    Process S α -> Prop
  | .idle => h = Held.none
  | .running own p =>
      own = id ∧ h = Held.none ∧ C.Approaches raises names p ∨
      (exists done, (forall db, own db = Write.applyAll done db) ∧
        (forall db x, C.Has (own db) x -> C.Has db x ∨ x ∈ h.spent) ∧
        (forall x, x ∈ h.spent -> x ∉ h.left) ∧ p.NoReads ∧ C.Sure done h p)
  | .done (.ok _) => h = Held.none
  | .done (.error e) => raises e ∧ h = Held.none

/-- A session does its last read only if one of its names has a row, or if no
other session that is past its own last read has a name in common with it. -/
def Alone (names : Nat -> Set ν) (w : World S α) : Act S α -> Prop
  | .step i =>
      forall own p, w.procs i = .running own p -> p.LastRead ->
        (exists x, x ∈ names i ∧ C.Has w.committed x) ∨
        forall j, j ≠ i -> (w.procs j).Past ->
          forall x, x ∈ names j -> x ∉ names i
  | _ => True

/-- Nobody holds a name that has a row, or that another session holds. -/
structure Settled (raises : Nat -> S.Exc -> Prop) (names : Nat -> Set ν)
    (w : World S α) (held : Nat -> Held ν) : Prop where
  conforms : forall i, C.Conforms (raises i) (names i) (held i) (w.procs i)
  free : forall i x, x ∈ (held i).all -> ¬ C.Has w.committed x
  apart : forall i j x, x ∈ (held i).all -> x ∈ (held j).all -> i = j
  named : forall i x, x ∈ (held i).all ->
    x ∈ names i ∨ exists t n, x = C.key t n
  drawn : forall i t n, C.key t n ∈ (held i).all -> n < w.seq t
  below : forall t n, C.Has w.committed (C.key t n) -> n < w.seq t
  ok : C.ok w.committed

section Worlds

variable {C} {raises : Nat -> S.Exc -> Prop} {names : Nat -> Set ν}
  {w w' : World S α} {held : Nat -> Held ν} {i : Nat}

theorem settled_start {s : Store S} (hok : C.ok s.db)
    (hbelow : forall t n, C.Has s.db (C.key t n) -> n < s.seq t) :
    C.Settled raises names (World.init s : World S α) fun _ => Held.none where
  conforms := fun _ => rfl
  free := fun _ _ hx => absurd hx Held.not_mem_none
  apart := fun _ _ _ hx => absurd hx Held.not_mem_none
  named := fun _ _ hx => absurd hx Held.not_mem_none
  drawn := fun _ _ _ hx => absurd hx Held.not_mem_none
  below := hbelow
  ok := hok

/-- A step that commits nothing.  The session may come to hold names that are
free. -/
theorem Settled.goesOn (hw : C.Settled raises names w held) {h : Held ν}
    (hother : forall j, j ≠ i -> w'.procs j = w.procs j)
    (hcommitted : w'.committed = w.committed)
    (hseq : forall t, w.seq t ≤ w'.seq t)
    (hself : C.Conforms (raises i) (names i) h (w'.procs i))
    (hnew : forall x, x ∈ h.all -> x ∈ (held i).all ∨
      ¬ C.Has w.committed x ∧ (forall j, j ≠ i -> x ∉ (held j).all) ∧
        (x ∈ names i ∨ exists t n, x = C.key t n) ∧
        forall t n, x = C.key t n -> n < w'.seq t) :
    C.Settled raises names w' (Function.update held i h) := by
  have hupdate : forall j, j ≠ i -> Function.update held i h j = held j :=
    fun j hj => Function.update_of_ne hj _ _
  constructor
  case conforms =>
    intro j
    by_cases hj : j = i
    · subst hj
      rw [Function.update_self]
      exact hself
    · rw [hupdate j hj, hother j hj]
      exact hw.conforms j
  case free =>
    intro j x hx
    rw [hcommitted]
    by_cases hj : j = i
    · subst hj
      rw [Function.update_self] at hx
      rcases hnew x hx with hold | hfresh
      · exact hw.free j x hold
      · exact hfresh.left
    · rw [hupdate j hj] at hx
      exact hw.free j x hx
  case apart =>
    intro j k x hj hk
    by_cases hji : j = i
    · by_cases hki : k = i
      · rw [hji, hki]
      · rw [hupdate k hki] at hk
        rw [hji, Function.update_self] at hj
        rcases hnew x hj with hold | hfresh
        · rw [hji]
          exact hw.apart i k x hold hk
        · exact absurd hk (hfresh.right.left k hki)
    · rw [hupdate j hji] at hj
      by_cases hki : k = i
      · rw [hki, Function.update_self] at hk
        rcases hnew x hk with hold | hfresh
        · rw [hki]
          exact hw.apart j i x hj hold
        · exact absurd hj (hfresh.right.left j hji)
      · rw [hupdate k hki] at hk
        exact hw.apart j k x hj hk
  case named =>
    intro j x hx
    by_cases hj : j = i
    · subst hj
      rw [Function.update_self] at hx
      rcases hnew x hx with hold | hfresh
      · exact hw.named j x hold
      · exact hfresh.right.right.left
    · rw [hupdate j hj] at hx
      exact hw.named j x hx
  case drawn =>
    intro j t n hx
    by_cases hj : j = i
    · subst hj
      rw [Function.update_self] at hx
      rcases hnew _ hx with hold | hfresh
      · exact Int.lt_of_lt_of_le (hw.drawn j t n hold) (hseq t)
      · exact hfresh.right.right.right t n rfl
    · rw [hupdate j hj] at hx
      exact Int.lt_of_lt_of_le (hw.drawn j t n hx) (hseq t)
  case below =>
    intro t n hx
    rw [hcommitted] at hx
    exact Int.lt_of_lt_of_le (hw.below t n hx) (hseq t)
  case ok =>
    rw [hcommitted]
    exact hw.ok

theorem Settled.holdsNone (hw : C.Settled raises names w held)
    (hother : forall j, j ≠ i -> w'.procs j = w.procs j)
    (hcommitted : w'.committed = w.committed) (hseq : w'.seq = w.seq)
    (hself : C.Conforms (raises i) (names i) Held.none (w'.procs i)) :
    C.Settled raises names w' (Function.update held i Held.none) := by
  apply hw.goesOn hother hcommitted _ hself
  · exact fun _ hx => absurd hx Held.not_mem_none
  · intro t
    rw [hseq]

theorem Settled.commits (hw : C.Settled raises names w held)
    {own : S.Db -> S.Db} {a : α} (hproc : w.procs i = .running own (.ret a)) :
    C.Settled raises names (((w.commit own).release i).setProc i (.done (.ok a)))
      (Function.update held i Held.none) := by
  have hself := hw.conforms i
  rw [hproc] at hself
  rcases hself with ⟨_, _, happroaches⟩ | ⟨done, hown, hadds, _, _, hsure⟩
  · exfalso
    cases happroaches with
    | looks h =>
        rcases h with ⟨k, hk, _⟩
        cases hk
  · have hother : forall j, j ≠ i ->
        Function.update held i Held.none j = held j :=
      fun j hj => Function.update_of_ne hj _ _
    have hgone : forall x, x ∉ (Function.update held i Held.none i).all := by
      intro x
      rw [Function.update_self]
      exact Held.not_mem_none
    constructor
    case conforms =>
      intro j
      by_cases hj : j = i
      · subst hj
        rw [World.setProc_procs_self, Function.update_self]
        rfl
      · rw [World.setProc_procs_of_ne hj, hother j hj]
        exact hw.conforms j
    case free =>
      intro j x hx hhas
      by_cases hj : j = i
      · subst hj
        exact hgone x hx
      · rw [hother j hj] at hx
        rcases hadds w.committed x hhas with hold | hspent
        · exact hw.free j x hx hold
        · exact hj (hw.apart j i x hx (Or.inl hspent))
    case apart =>
      intro j k x hj hk
      by_cases hji : j = i
      · subst hji
        exact absurd hj (hgone x)
      · by_cases hki : k = i
        · subst hki
          exact absurd hk (hgone x)
        · rw [hother j hji] at hj
          rw [hother k hki] at hk
          exact hw.apart j k x hj hk
    case named =>
      intro j x hx
      by_cases hj : j = i
      · subst hj
        exact absurd hx (hgone x)
      · rw [hother j hj] at hx
        exact hw.named j x hx
    case drawn =>
      intro j t n hx
      by_cases hj : j = i
      · subst hj
        exact absurd hx (hgone _)
      · rw [hother j hj] at hx
        exact hw.drawn j t n hx
    case below =>
      intro t n hhas
      rcases hadds w.committed _ hhas with hold | hspent
      · exact hw.below t n hold
      · exact hw.drawn i t n (Or.inl hspent)
    case ok =>
      show C.ok (own w.committed)
      rw [hown]
      exact hsure _ hw.ok fun x hx => hw.free i x (Or.inl hx)

theorem Settled.running (hw : C.Settled raises names w held)
    {own : S.Db -> S.Db} {p : Program S α}
    (hproc : w.procs i = .running own p) :
    own = id ∧ held i = Held.none ∧ C.Approaches (raises i) (names i) p ∨
      (exists done, (forall db, own db = Write.applyAll done db) ∧
        (forall db x, C.Has (own db) x -> C.Has db x ∨ x ∈ (held i).spent) ∧
        (forall x, x ∈ (held i).spent -> x ∉ (held i).left) ∧ p.NoReads ∧
        C.Sure done (held i) p) := by
  have hself := hw.conforms i
  rwa [hproc] at hself

theorem Settled.past (hw : C.Settled raises names w held) {x : ν}
    (hx : x ∈ (held i).all) : (w.procs i).Past := by
  have hself := hw.conforms i
  have hnone : held i ≠ Held.none := by
    intro heq
    rw [heq] at hx
    exact Held.not_mem_none hx
  cases hproc : w.procs i with
  | idle =>
      rw [hproc] at hself
      exact absurd hself hnone
  | running own p =>
      rw [hproc] at hself
      rcases hself with ⟨_, heq, _⟩ | ⟨_, _, _, _, hreads, _⟩
      · exact absurd heq hnone
      · exact ⟨own, p, rfl, hreads⟩
  | done res =>
      rw [hproc] at hself
      cases res with
      | ok a => exact absurd hself hnone
      | error e => exact absurd hself.right hnone

def NoKeys (C : Claims S ν) (names : Nat -> Set ν) : Prop :=
  forall i t n, C.key t n ∉ names i

theorem Settled.read (hw : C.Settled raises names w held)
    (hkeys : C.NoKeys names) {own : S.Db -> S.Db} {k : S.Db -> Program S α}
    (hproc : w.procs i = .running own (.read k))
    (halone : C.Alone names w (.step i)) :
    exists held', C.Settled raises names
      (w.setProc i (.running own (k (own w.committed)))) held' := by
  have hgoes : forall {h : Held ν},
      C.Conforms (raises i) (names i) h (.running own (k (own w.committed))) ->
      (forall x, x ∈ h.all -> x ∈ (held i).all ∨ ¬ C.Has w.committed x ∧
        (forall j, j ≠ i -> x ∉ (held j).all) ∧
        (x ∈ names i ∨ exists t n, x = C.key t n) ∧
        forall t n, x = C.key t n -> n < w.seq t) ->
      exists held', C.Settled raises names
        (w.setProc i (.running own (k (own w.committed)))) held' := by
    intro h hself hnew
    refine ⟨_, hw.goesOn (i := i) (h := h)
      (fun _ hj => World.setProc_procs_of_ne hj _) rfl
      (fun _ => Int.le_refl _) ?_ hnew⟩
    rw [World.setProc_procs_self]
    exact hself
  rcases hw.running hproc with ⟨rfl, hnone, happroaches⟩ | ⟨_, _, _, _, hno, _⟩
  · cases happroaches with
    | read hk =>
        refine hgoes (h := Held.none) (Or.inl ⟨rfl, rfl, hk _⟩) ?_
        exact fun _ hx => absurd hx Held.not_mem_none
    | looks hlooks =>
        rcases hlooks with ⟨k', hk', hreads, hlook⟩
        cases hk'
        rcases hlook w.committed hw.ok with hsure | ⟨hfree, hsure⟩
        · refine hgoes (h := Held.none) (Or.inr ⟨[], fun _ => rfl, ?_, ?_,
            hreads _, hsure⟩) ?_
          · exact fun _ _ hx => Or.inl hx
          · exact fun _ hx => hx.elim
          · exact fun _ hx => absurd hx Held.not_mem_none
        · refine hgoes (h := Held.none.claim (names i)) (Or.inr ⟨[],
            fun _ => rfl, ?_, ?_, hreads _, hsure⟩) ?_
          · exact fun _ _ hx => Or.inl hx
          · exact fun _ hx => hx.elim
          · intro x hx
            rcases Held.mem_claim hx with hname | hold
            · right
              refine ⟨hfree x hname, ?_, Or.inl hname, ?_⟩
              · intro j hj hheld
                rcases halone _ _ hproc ⟨k, rfl, hreads⟩ with
                  ⟨y, hy, hhas⟩ | hapart
                · exact hfree y hy hhas
                · rcases hw.named j x hheld with hother | ⟨t, n, hkey⟩
                  · exact hapart j hj (hw.past hheld) x hother hname
                  · rw [hkey] at hname
                    exact hkeys i t n hname
              · intro t n hkey
                rw [hkey] at hname
                exact absurd hname (hkeys i t n)
            · exact absurd hold Held.not_mem_none
  · exact hno.elim

theorem Settled.flush (hw : C.Settled raises names w held)
    {own : S.Db -> S.Db} {rs : List S.Lock} {ws : List (Write S)}
    {k : Except S.Exc Unit -> Program S α}
    (hproc : w.procs i = .running own (.flush rs ws k)) :
    (exists d, Write.attempt ws (own w.committed) = .ok d) ∧
      exists held', C.Settled raises names ((w.acquire i rs).setProc i
        (.running (fun db => Write.applyAll ws (own db)) (k (.ok ()))))
        held' := by
  rcases hw.running hproc with ⟨_, _, happroaches⟩ |
    ⟨done, hown, hadds, hapart, hreads, used, hused, hws, hsure⟩
  · exfalso
    cases happroaches with
    | looks h =>
        rcases h with ⟨k', hk', _⟩
        cases hk'
  · constructor
    · apply hws.goes
      intro x hx hhas
      have hleft := hused hx
      rcases hadds w.committed x hhas with hold | hspent
      · exact hw.free i x (Or.inr hleft) hold
      · exact hapart x hspent hleft
    · refine ⟨_, hw.goesOn (i := i) (h := (held i).spend used)
        (fun _ hj => World.setProc_procs_of_ne hj _) rfl
        (fun _ => Int.le_refl _) ?_
        (fun x hx => Or.inl (Held.mem_of_mem_spend hused hx))⟩
      rw [World.setProc_procs_self]
      right
      refine ⟨done ++ ws, ?_, ?_, ?_, hreads _, hsure⟩
      · intro db
        show Write.applyAll ws (own db) = Write.applyAll (done ++ ws) db
        rw [hown, Write.applyAll, Write.applyAll, Write.applyAll,
          List.foldl_append]
      · intro db x hx
        rcases hws.adds _ x hx with hbefore | hnew
        · exact (hadds db x hbefore).imp_right Or.inl
        · exact Or.inr (Or.inr hnew)
      · intro x hx hleft
        rcases hx with hspent | hnew
        · exact hapart x hspent hleft.left
        · exact hleft.right hnew

theorem Settled.nextval (hw : C.Settled raises names w held)
    {own : S.Db -> S.Db} {t : S.Seq} {k : Int -> Program S α}
    (hproc : w.procs i = .running own (.nextval t k)) :
    exists held', C.Settled raises names
      ((w.draw t).setProc i (.running own (k (w.seq t)))) held' := by
  have hseq : forall t', w.seq t' ≤ (w.draw t).seq t' := by
    intro t'
    show w.seq t' ≤ Function.update w.seq t (w.seq t + 1) t'
    by_cases ht : t' = t
    · rw [ht, Function.update_self]
      omega
    · rw [Function.update_of_ne ht]
  rcases hw.running hproc with ⟨_, _, happroaches⟩ |
    ⟨done, hown, hadds, hapart, hreads, hsure⟩
  · exfalso
    cases happroaches with
    | looks h =>
        rcases h with ⟨k', hk', _⟩
        cases hk'
  · have hfresh : forall j, C.key t (w.seq t) ∉ (held j).all := by
      intro j hj
      exact Int.lt_irrefl _ (hw.drawn j t _ hj)
    refine ⟨_, hw.goesOn (i := i)
      (h := (held i).claim {C.key t (w.seq t)})
      (fun _ hj => World.setProc_procs_of_ne hj _) rfl hseq ?_ ?_⟩
    · rw [World.setProc_procs_self]
      right
      refine ⟨done, hown, hadds, ?_, hreads _, hsure _⟩
      intro x hx hleft
      rcases hleft with hkey | hold
      · rw [hkey] at hx
        exact hfresh i (Or.inl hx)
      · exact hapart x hx hold
    · intro x hx
      rcases Held.mem_claim hx with hkey | hold
      · right
        rw [Set.mem_singleton_iff.mp hkey]
        refine ⟨?_, fun j _ => hfresh j, Or.inr ⟨t, _, rfl⟩, ?_⟩
        · intro hhas
          exact Int.lt_irrefl _ (hw.below t _ hhas)
        · intro t' n hsame
          rcases C.key_inj hsame with ⟨rfl, rfl⟩
          show w.seq t < Function.update w.seq t (w.seq t + 1) t
          rw [Function.update_self]
          omega
      · exact Or.inl hold

theorem Settled.step {a : Act S α} (hw : C.Settled raises names w held)
    (hkeys : C.NoKeys names) (hm : World.Moves w a w')
    (hstart : forall i p, a = .start i p -> C.Approaches (raises i) (names i) p)
    (hfail : forall i e, a = .fail i e -> raises i e)
    (halone : C.Alone names w a) :
    exists held', C.Settled raises names w' held' := by
  cases hm with
  | @start i p hproc =>
      refine ⟨_, hw.holdsNone (i := i)
        (fun _ hj => World.setProc_procs_of_ne hj _) rfl rfl ?_⟩
      rw [World.setProc_procs_self]
      exact Or.inl ⟨rfl, rfl, hstart i p rfl⟩
  | @fail i own p e hproc =>
      refine ⟨_, hw.holdsNone (i := i)
        (fun _ hj => World.setProc_procs_of_ne hj _) rfl rfl ?_⟩
      rw [World.setProc_procs_self]
      exact ⟨hfail i e rfl, rfl⟩
  | ret hproc => exact ⟨_, hw.commits hproc⟩
  | @raise i own e hproc =>
      rcases hw.running hproc with ⟨_, _, happroaches⟩ | ⟨_, _, _, _, _, hsure⟩
      · refine ⟨_, hw.holdsNone (i := i)
          (fun _ hj => World.setProc_procs_of_ne hj _) rfl rfl ?_⟩
        rw [World.setProc_procs_self]
        cases happroaches with
        | looks h =>
            rcases h with ⟨k', hk', _⟩
            cases hk'
        | raise h => exact ⟨h, rfl⟩
      · exact hsure.elim
  | read hproc => exact hw.read hkeys hproc halone
  | lock hproc _ =>
      rcases hw.running hproc with ⟨_, _, happroaches⟩ | ⟨_, _, _, _, _, hsure⟩
      · cases happroaches with
        | looks h =>
            rcases h with ⟨k', hk', _⟩
            cases hk'
      · exact hsure.elim
  | flush hproc _ _ => exact (hw.flush hproc).right
  | flushError hproc _ hws =>
      rcases (hw.flush hproc).left with ⟨d, hd⟩
      rw [hd] at hws
      cases hws
  | nextval hproc => exact hw.nextval hproc
  | @emit i own o k hproc =>
      refine ⟨_, hw.goesOn (i := i) (h := held i)
        (fun _ hj => World.setProc_procs_of_ne hj _) rfl
        (fun _ => Int.le_refl _) ?_ (fun _ hx => Or.inl hx)⟩
      rw [World.setProc_procs_self]
      rcases hw.running hproc with ⟨_, _, happroaches⟩ | hpast
      · exfalso
        cases happroaches with
        | looks h =>
            rcases h with ⟨k', hk', _⟩
            cases hk'
      · exact Or.inr hpast

variable (raises names) in
/-- However the statements of the sessions come, what a session raises it has
raised before its last read, or as its connection failed. -/
theorem raises_of_reaches {adm : World S α -> Act S α -> Prop} {s : Store S}
    (hrun : World.Reaches adm (World.init s) w) (hkeys : C.NoKeys names)
    (hok : C.ok s.db)
    (hbelow : forall t n, C.Has s.db (C.key t n) -> n < s.seq t)
    (hstart : forall u i p, adm u (.start i p) ->
      C.Approaches (raises i) (names i) p)
    (hfail : forall u i e, adm u (.fail i e) -> raises i e)
    (halone : forall u a, adm u a -> C.Alone names u a) {e : S.Exc}
    (hdone : w.procs i = .done (.error e)) : raises i e := by
  have hsettled : exists held, C.Settled raises names w held := by
    clear hdone
    induction hrun with
    | refl => exact ⟨_, settled_start hok hbelow⟩
    | @step u u' a _ hadm hexec ih =>
        rcases ih with ⟨held, hw⟩
        apply hw.step hkeys (World.moves_of_exec hexec) ?_ ?_ (halone u a hadm)
        · intro i p heq
          rw [heq] at hadm
          exact hstart u i p hadm
        · intro i e heq
          rw [heq] at hadm
          exact hfail u i e hadm
  rcases hsettled with ⟨held, hw⟩
  have hself := hw.conforms i
  rw [hdone] at hself
  exact hself.left

end Worlds

end Claims
end Txn
