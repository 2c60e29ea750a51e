import Mathlib.Order.BooleanAlgebra.Set
import CoverAI.Txn.Footprint

/-!
# What a session knows

Some facts about a database never cease to hold once they do: a row that is
there stays, with the columns nothing updates.  A session collects such facts
from what its statements show it and from its own writes, and may rely on them
at any later statement, whatever other sessions commit in between.  The keys it
draws from the sequences are its own until it uses them.

This module has rules for what a program may conclude, and the theorem that in
every interleaving an invariant of the committed database, built on such facts,
holds, and that a measure which each session leaves balanced does not change.
-/

namespace Txn

/-- The facts, the invariant and the measure a development reasons about. -/
structure Knowledge (S : Signature) (φ ι : Type) where
  ok : S.Db -> Prop
  holds : S.Db -> φ -> Prop
  free : S.Seq × Int -> S.Db -> Prop
  measure : S.Db -> ι -> Int
  sends : S.Out -> Prop

/-- The facts a session has seen or made, the keys it has drawn and not used,
and what its writes have added to the measure. -/
@[ext] structure Known (S : Signature) (φ ι : Type) where
  facts : Set φ
  drawn : Set (S.Seq × Int)
  change : ι -> Int

namespace Known

variable {S : Signature} {φ ι : Type}

/-- What a session knows before its first statement. -/
def initial (facts : Set φ) : Known S φ ι where
  facts := facts
  drawn := ∅
  change := fun _ => 0

def record (st : Known S φ ι) (new : Set φ) (used : Set (S.Seq × Int))
    (d : ι -> Int) : Known S φ ι where
  facts := st.facts ∪ new
  drawn := st.drawn \ used
  change := fun i => st.change i + d i

def draw (st : Known S φ ι) (t : S.Seq) (n : Int) : Known S φ ι :=
  { st with drawn := insert (t, n) st.drawn }

/-- The session knows more facts, and its writes are as balanced as before. -/
structure Extends (st st' : Known S φ ι) : Prop where
  facts : st.facts ⊆ st'.facts
  change : st'.change = st.change

theorem Extends.refl (st : Known S φ ι) : st.Extends st :=
  ⟨fun _ hf => hf, rfl⟩

theorem Extends.trans {st st' st'' : Known S φ ι} (h : st.Extends st')
    (h' : st'.Extends st'') : st.Extends st'' :=
  ⟨fun _ hf => h'.facts (h.facts hf), h'.change.trans h.change⟩

theorem extends_draw (st : Known S φ ι) (t : S.Seq) (n : Int) :
    st.Extends (st.draw t n) :=
  ⟨fun _ hf => hf, rfl⟩

theorem extends_record (st : Known S φ ι) (new : Set φ)
    (used : Set (S.Seq × Int)) :
    st.Extends (st.record new used fun _ => 0) := by
  constructor
  · exact fun _ hf => Or.inl hf
  · funext i
    exact Int.add_zero _

@[simp] theorem record_nothing (st : Known S φ ι) :
    st.record ∅ ∅ (fun _ => 0) = st := by
  apply Known.ext
  · exact Set.union_empty _
  · exact Set.sdiff_empty
  · funext i
    exact Int.add_zero _

theorem record_record (st : Known S φ ι) (new new' : Set φ)
    (used used' : Set (S.Seq × Int)) (d d' : ι -> Int) :
    (st.record new used d).record new' used' d' =
      st.record (new ∪ new') (used ∪ used') fun i => d i + d' i := by
  apply Known.ext
  · exact Set.union_assoc _ _ _
  · exact Set.sdiff_sdiff
  · funext i
    exact Int.add_assoc _ _ _

/-- A key that was not drawn before is not among the used ones. -/
theorem draw_record {st : Known S φ ι} {t : S.Seq} {n : Int}
    (hfresh : (t, n) ∉ st.drawn) {used : Set (S.Seq × Int)}
    (hused : used ⊆ st.drawn) (new : Set φ) (d : ι -> Int) :
    (st.draw t n).record new used d = (st.record new used d).draw t n := by
  apply Known.ext
  · rfl
  · exact Set.insert_sdiff_of_notMem _ fun h => hfresh (hused h)
  · rfl

end Known

namespace Knowledge

variable {S : Signature} {φ ι : Type} (K : Knowledge S φ ι)

def facts (v : S.Db) : Set φ :=
  {f | K.holds v f}

/-- What a statement may show a session that knows this much. -/
structure Shows (st : Known S φ ι) (v : S.Db) : Prop where
  ok : K.ok v
  facts : st.facts ⊆ K.facts v
  drawn : forall k, k ∈ st.drawn -> K.free k v

/-- The session has seen the database. -/
def see (st : Known S φ ι) (v : S.Db) : Known S φ ι :=
  { st with facts := K.facts v }

/-!
# Effects
-/

/-- The change of the database makes exactly the new facts, uses up no other
keys and adds to the measure. -/
structure Advances (new : Set φ) (used : Set (S.Seq × Int)) (d : ι -> Int)
    (v v' : S.Db) : Prop where
  ok : K.ok v'
  facts : K.facts v' = K.facts v ∪ new
  free : forall k, k ∉ used -> K.free k v -> K.free k v'
  measure : forall i, K.measure v' i = K.measure v i + d i

/-- The effect of a change on every database it may be applied to. -/
structure Makes (st : Known S φ ι) (g : S.Db -> S.Db) (new : Set φ)
    (used : Set (S.Seq × Int)) (d : ι -> Int) : Prop where
  usesDrawn : used ⊆ st.drawn
  advances : forall v, K.Shows st v -> K.Advances new used d v (g v)

/-- The effects of a unit of work, one write after the other.  A write that is
refused by every database is not considered. -/
inductive Flushes : Known S φ ι -> List (Write S) -> Known S φ ι -> Prop where
  | nil {st : Known S φ ι} : Flushes st [] st
  | cons {st st' : Known S φ ι} {w : Write S} {ws : List (Write S)}
      {new : Set φ} {used : Set (S.Seq × Int)} {d : ι -> Int}
      (hw : (exists v, w.violation v = none) -> K.Makes st w.apply new used d)
      (hws : Flushes (st.record new used d) ws st') :
      Flushes st (w :: ws) st'

variable {K}

theorem Shows.weaken {st st' : Known S φ ι} {v : S.Db} (h : K.Shows st' v)
    (hfacts : st.facts ⊆ st'.facts) (hdrawn : st.drawn ⊆ st'.drawn) :
    K.Shows st v :=
  ⟨h.ok, fun _ hf => h.facts (hfacts hf), fun k hk => h.drawn k (hdrawn hk)⟩

theorem extends_see {st : Known S φ ι} {v : S.Db} (h : K.Shows st v) :
    st.Extends (K.see st v) :=
  ⟨h.facts, rfl⟩

theorem makes_id (st : Known S φ ι) : K.Makes st id ∅ ∅ fun _ => 0 where
  usesDrawn := Set.empty_subset _
  advances := by
    intro v hv
    constructor
    · exact hv.ok
    · exact (Set.union_empty _).symm
    · exact fun _ _ hk => hk
    · exact fun _ => (Int.add_zero _).symm

theorem Makes.weaken {st st' : Known S φ ι} {g : S.Db -> S.Db} {new : Set φ}
    {used : Set (S.Seq × Int)} {d : ι -> Int} (h : K.Makes st g new used d)
    (hfacts : st.facts ⊆ st'.facts) (hdrawn : st.drawn ⊆ st'.drawn) :
    K.Makes st' g new used d where
  usesDrawn := fun _ hk => hdrawn (h.usesDrawn hk)
  advances := fun v hv => h.advances v (hv.weaken hfacts hdrawn)

theorem Makes.shows {st : Known S φ ι} {g : S.Db -> S.Db} {new : Set φ}
    {used : Set (S.Seq × Int)} {d : ι -> Int} (h : K.Makes st g new used d)
    {v : S.Db} (hv : K.Shows st v) : K.Shows (st.record new used d) (g v) := by
  have hadv := h.advances v hv
  constructor
  · exact hadv.ok
  · rw [hadv.facts]
    exact Set.union_subset_union_left new hv.facts
  · exact fun k hk => hadv.free k hk.right (hv.drawn k hk.left)

theorem Makes.comp {st : Known S φ ι} {g g' : S.Db -> S.Db}
    {new new' : Set φ} {used used' : Set (S.Seq × Int)} {d d' : ι -> Int}
    (h : K.Makes st g new used d)
    (h' : K.Makes (st.record new used d) g' new' used' d') :
    K.Makes st (fun v => g' (g v)) (new ∪ new') (used ∪ used')
      fun i => d i + d' i where
  usesDrawn := Set.union_subset h.usesDrawn fun _ hk => (h'.usesDrawn hk).left
  advances := by
    intro v hv
    have hfirst := h.advances v hv
    have hsecond := h'.advances (g v) (h.shows hv)
    constructor
    · exact hsecond.ok
    · rw [hsecond.facts, hfirst.facts]
      exact Set.union_assoc _ _ _
    · intro k hk hfree
      exact hsecond.free k (fun h => hk (Or.inr h))
        (hfirst.free k (fun h => hk (Or.inl h)) hfree)
    · intro i
      rw [hsecond.measure, hfirst.measure]
      exact Int.add_assoc _ _ _

/-- A unit of work that succeeds makes of the database what its writes
say. -/
theorem Flushes.makes {st st' : Known S φ ι} {ws : List (Write S)}
    (h : K.Flushes st ws st') {v d : S.Db} (hok : Write.attempt ws v = .ok d) :
    exists new used e, st' = st.record new used e ∧
      K.Makes st (Write.applyAll ws) new used e := by
  induction h generalizing v with
  | nil =>
      exists ∅, ∅, fun _ => 0
      constructor
      · exact (Known.record_nothing _).symm
      · exact makes_id _
  | cons hw _ ih =>
      rcases Write.attempt_cons_eq_ok.mp hok with ⟨hnone, hrest⟩
      have hfirst := hw ⟨v, hnone⟩
      rcases ih hrest with ⟨new', used', d', hst, hmakes⟩
      refine ⟨_, _, _, ?_, hfirst.comp hmakes⟩
      rw [hst, Known.record_record]

end Knowledge

/-!
# What a program may conclude
-/

namespace Program

variable {S : Signature} {φ ι α β : Type}

/-- However the statements are answered, the program ends normally in a state
of knowledge with the postcondition, or it raises in one with the exceptional
postcondition. -/
def Learns (K : Knowledge S φ ι) (Q : α -> Known S φ ι -> Prop)
    (E : S.Exc -> Known S φ ι -> Prop) :
    Program S α -> Known S φ ι -> Prop
  | .ret a, st => Q a st
  | .raise e, st => E e st
  | .read k, st => forall v, K.Shows st v -> (k v).Learns K Q E (K.see st v)
  | .lock _ k, st => forall v, K.Shows st v -> (k v).Learns K Q E (K.see st v)
  | .flush _ ws k, st =>
      (exists st', K.Flushes st ws st' ∧ (k (.ok ())).Learns K Q E st') ∧
        forall w, w ∈ ws -> forall db e, w.violation db = some e ->
          (k (.error e)).Learns K Q E st
  | .nextval t k, st =>
      forall n, (t, n) ∉ st.drawn -> (k n).Learns K Q E (st.draw t n)
  | .emit o k, st => K.sends o ∧ k.Learns K Q E st

variable {K : Knowledge S φ ι} {Q : α -> Known S φ ι -> Prop}
  {E : S.Exc -> Known S φ ι -> Prop} {st : Known S φ ι}

theorem learns_ask_bind {q : S.Db -> β} {f : β -> Program S α}
    (h : forall v, K.Shows st v -> (f (q v)).Learns K Q E (K.see st v)) :
    ((ask q).bind f).Learns K Q E st :=
  h

theorem learns_forUpdate_bind {r : S.Lock} {q : S.Db -> β}
    {f : β -> Program S α}
    (h : forall v, K.Shows st v -> (f (q v)).Learns K Q E (K.see st v)) :
    ((forUpdate r q).bind f).Learns K Q E st :=
  h

theorem learns_draw_bind {t : S.Seq} {f : Int -> Program S α}
    (h : forall n, (t, n) ∉ st.drawn -> (f n).Learns K Q E (st.draw t n)) :
    ((draw t).bind f).Learns K Q E st :=
  h

theorem learns_flushUnit_bind {st' : Known S φ ι} {rs : List S.Lock}
    {ws : List (Write S)} {f : Unit -> Program S α}
    (hws : K.Flushes st ws st') (h : (f ()).Learns K Q E st')
    (hraises : forall w, w ∈ ws -> forall db e, w.violation db = some e ->
      E e st) : ((flushUnit rs ws).bind f).Learns K Q E st := by
  constructor
  · exact ⟨st', hws, h⟩
  · exact hraises

theorem learns_flushUnit {Q : Unit -> Known S φ ι -> Prop}
    {st' : Known S φ ι} {rs : List S.Lock} {ws : List (Write S)}
    (hws : K.Flushes st ws st') (hQ : Q () st')
    (hraises : forall w, w ∈ ws -> forall db e, w.violation db = some e ->
      E e st) : (flushUnit rs ws).Learns K Q E st := by
  constructor
  · exact ⟨st', hws, hQ⟩
  · exact hraises

theorem learns_mono {R : α -> Known S φ ι -> Prop}
    {G : S.Exc -> Known S φ ι -> Prop} {p : Program S α}
    (h : p.Learns K Q E st) (hret : forall a st', Q a st' -> R a st')
    (hraise : forall e st', E e st' -> G e st') : p.Learns K R G st := by
  induction p generalizing st with
  | ret a => exact hret a st h
  | raise e => exact hraise e st h
  | read k ih => exact fun v hv => ih v (h v hv)
  | lock r k ih => exact fun v hv => ih v (h v hv)
  | flush rs ws k ih =>
      rcases h with ⟨⟨st', hws, hok⟩, herror⟩
      constructor
      · exact ⟨st', hws, ih _ hok⟩
      · exact fun w hw db e he => ih _ (herror w hw db e he)
  | nextval t k ih => exact fun n hn => ih n (h n hn)
  | emit o k ih => exact ⟨h.left, ih h.right⟩

theorem learns_bind {p : Program S β} {f : β -> Program S α}
    (h : p.Learns K (fun b st' => (f b).Learns K Q E st') E st) :
    (p.bind f).Learns K Q E st := by
  induction p generalizing st with
  | ret b => exact h
  | raise e => exact h
  | read k ih => exact fun v hv => ih v (h v hv)
  | lock r k ih => exact fun v hv => ih v (h v hv)
  | flush rs ws k ih =>
      rcases h with ⟨⟨st', hws, hok⟩, herror⟩
      constructor
      · exact ⟨st', hws, ih _ hok⟩
      · exact fun w hw db e he => ih _ (herror w hw db e he)
  | nextval t k ih => exact fun n hn => ih n (h n hn)
  | emit o k ih => exact ⟨h.left, ih h.right⟩

/-- A handler goes on with what the body has learnt. -/
theorem learns_tryCatch {p : Program S α} {h : S.Exc -> Program S α}
    (hp : p.Learns K Q (fun e st' => (h e).Learns K Q E st') st) :
    (p.tryCatch h).Learns K Q E st := by
  induction p generalizing st with
  | ret a => exact hp
  | raise e => exact hp
  | read k ih => exact fun v hv => ih v (hp v hv)
  | lock r k ih => exact fun v hv => ih v (hp v hv)
  | flush rs ws k ih =>
      rcases hp with ⟨⟨st', hws, hok⟩, herror⟩
      constructor
      · exact ⟨st', hws, ih _ hok⟩
      · exact fun w hw db e he => ih _ (herror w hw db e he)
  | nextval t k ih => exact fun n hn => ih n (hp n hn)
  | emit o k ih => exact ⟨hp.left, ih hp.right⟩

/-- A program that only looks at the database keeps what was known. -/
theorem learns_of_within {F : Footprint S} {R : α -> Prop} {p : Program S α}
    (hp : p.Within F R) (hsees : forall v, F.sees v)
    (hwrites : forall w, ¬ F.writes w) (hdraws : forall t, ¬ F.draws t)
    (hemits : forall o, ¬ F.emits o)
    (hret : forall a st', R a -> st.Extends st' -> Q a st')
    (hraise : forall e st', F.raises e -> st.Extends st' -> E e st') :
    p.Learns K Q E st := by
  induction p generalizing st with
  | ret a => exact hret a st hp (Known.Extends.refl st)
  | raise e => exact hraise e st hp (Known.Extends.refl st)
  | read k ih =>
      intro v hv
      exact ih v (hp v (hsees v))
        (fun a st' ha hst => hret a st' ha ((Knowledge.extends_see hv).trans hst))
        fun e st' he hst => hraise e st' he ((Knowledge.extends_see hv).trans hst)
  | lock r k ih =>
      intro v hv
      exact ih v (hp v (hsees v))
        (fun a st' ha hst => hret a st' ha ((Knowledge.extends_see hv).trans hst))
        fun e st' he hst => hraise e st' he ((Knowledge.extends_see hv).trans hst)
  | flush rs ws k ih =>
      have hnil : ws = [] :=
        List.eq_nil_iff_forall_not_mem.mpr fun w hw => hwrites w (hp.left w hw)
      subst hnil
      constructor
      · exact ⟨st, .nil, ih _ hp.right.left hret hraise⟩
      · exact fun w hw => nomatch hw
  | nextval t k ih => exact (hdraws t hp.left).elim
  | emit o k ih => exact (hemits o hp.left).elim

end Program

/-!
# Every interleaving
-/

namespace Knowledge

variable {S : Signature} {φ ι α : Type} (K : Knowledge S φ ι)

/-- The writes of a session that ends are balanced. -/
def Balanced (_ : α) (st : Known S φ ι) : Prop :=
  forall i, st.change i = 0

/-- A program that may be started by who knows the facts. -/
def Settles (facts : Set φ) (p : Program S α) : Prop :=
  p.Learns K Balanced (fun _ _ => True) (Known.initial facts)

/-- An open session: what it knew of the committed database, the keys it has
drawn, and what its writes make of both. -/
structure Informed (db : S.Db) (keys : Set (S.Seq × Int))
    (own : S.Db -> S.Db) (p : Program S α) : Prop where
  exists_makes : exists (base : Set φ) (new : Set φ)
    (used : Set (S.Seq × Int)) (d : ι -> Int),
    base ⊆ K.facts db ∧
      K.Makes ⟨base, keys, fun _ => 0⟩ own new used d ∧
      p.Learns K Balanced (fun _ _ => True)
        ((⟨base, keys, fun _ => 0⟩ : Known S φ ι).record new used d)

/-- The invariant of the runs from a world: the committed database keeps the
facts, and the sessions have drawn different keys, which no row has. -/
structure Sound (w₀ w : World S α) (keys : Nat -> Set (S.Seq × Int)) :
    Prop where
  ok : K.ok w.committed
  sends : forall o, o ∈ w.out -> K.sends o
  facts : K.facts w₀.committed ⊆ K.facts w.committed
  measure : K.measure w.committed = K.measure w₀.committed
  fresh : forall t n, w.seq t ≤ n -> K.free (t, n) w.committed
  below : forall i k, k ∈ keys i -> k.2 < w.seq k.1
  free : forall i k, k ∈ keys i -> K.free k w.committed
  apart : forall i j k, k ∈ keys i -> k ∈ keys j -> i = j
  informed : forall i own p, w.procs i = .running own p ->
    K.Informed w.committed (keys i) own p

variable {K}

theorem Informed.shows {db : S.Db} {keys : Set (S.Seq × Int)} {base : Set φ}
    (hok : K.ok db) (hbase : base ⊆ K.facts db)
    (hfree : forall k, k ∈ keys -> K.free k db) :
    K.Shows (⟨base, keys, fun _ => 0⟩ : Known S φ ι) db :=
  ⟨hok, hbase, hfree⟩

/-- What others commit does not take away what a session knows. -/
theorem Informed.mono {db db' : S.Db} {keys : Set (S.Seq × Int)}
    {own : S.Db -> S.Db} {p : Program S α} (h : K.Informed db keys own p)
    (hfacts : K.facts db ⊆ K.facts db') : K.Informed db' keys own p := by
  rcases h with ⟨base, new, used, d, hbase, hmakes, hp⟩
  exact ⟨base, new, used, d, fun _ hf => hfacts (hbase hf), hmakes, hp⟩

theorem informed_start {db : S.Db} {facts : Set φ} {p : Program S α}
    (hfacts : facts ⊆ K.facts db) (hp : K.Settles facts p) :
    K.Informed db ∅ id p := by
  refine ⟨facts, ∅, ∅, fun _ => 0, hfacts, makes_id _, ?_⟩
  rw [Known.record_nothing]
  exact hp

/-- A statement shows the session its view of the committed database. -/
theorem Informed.read {db : S.Db} {keys : Set (S.Seq × Int)}
    {own : S.Db -> S.Db} {p : Program S α} {k : S.Db -> Program S α}
    (h : K.Informed db keys own p) (hok : K.ok db)
    (hfree : forall key, key ∈ keys -> K.free key db)
    (hk : forall st, p.Learns K Balanced (fun _ _ => True) st ->
      forall v, K.Shows st v -> (k v).Learns K Balanced (fun _ _ => True)
        (K.see st v)) :
    K.Informed db keys own (k (own db)) := by
  rcases h with ⟨base, new, used, d, hbase, hmakes, hp⟩
  have hshows := Informed.shows (K := K) hok hbase hfree
  have hall : K.Makes ⟨K.facts db, keys, fun _ => 0⟩ own new used d :=
    hmakes.weaken hbase fun _ hkey => hkey
  refine ⟨K.facts db, new, used, d, fun _ hf => hf, hall, ?_⟩
  have hrest := hk _ hp (own db) (hmakes.shows hshows)
  have hsee : K.see ((⟨base, keys, fun _ => 0⟩ : Known S φ ι).record new used d)
      (own db) =
        (⟨K.facts db, keys, fun _ => 0⟩ : Known S φ ι).record new used d := by
    apply Known.ext
    · exact (hmakes.advances db hshows).facts
    · rfl
    · rfl
  rwa [hsee] at hrest

theorem Informed.flush {db : S.Db} {keys : Set (S.Seq × Int)}
    {own : S.Db -> S.Db} {rs : List S.Lock} {ws : List (Write S)}
    {k : Except S.Exc Unit -> Program S α} {d : S.Db}
    (h : K.Informed db keys own (.flush rs ws k))
    (hws : Write.attempt ws (own db) = .ok d) :
    K.Informed db keys (fun v => Write.applyAll ws (own v)) (k (.ok ())) := by
  rcases h with ⟨base, new, used, e, hbase, hmakes, hp⟩
  rcases hp.left with ⟨st', hflushes, hrest⟩
  rcases hflushes.makes hws with ⟨new', used', e', hst, hunit⟩
  refine ⟨base, _, _, _, hbase, hmakes.comp hunit, ?_⟩
  rw [hst, Known.record_record] at hrest
  exact hrest

theorem Informed.flushError {db : S.Db} {keys : Set (S.Seq × Int)}
    {own : S.Db -> S.Db} {rs : List S.Lock} {ws : List (Write S)}
    {k : Except S.Exc Unit -> Program S α} {e : S.Exc}
    (h : K.Informed db keys own (.flush rs ws k))
    (hws : Write.attempt ws (own db) = .error e) :
    K.Informed db keys own (k (.error e)) := by
  rcases h with ⟨base, new, used, d, hbase, hmakes, hp⟩
  rcases Write.exists_violation_of_attempt hws with ⟨u, hu, v, he⟩
  exact ⟨base, new, used, d, hbase, hmakes, hp.right u hu v e he⟩

/-- A key that no session has drawn before becomes the session's own. -/
theorem Informed.nextval {db : S.Db} {keys : Set (S.Seq × Int)}
    {own : S.Db -> S.Db} {t : S.Seq} {k : Int -> Program S α} {n : Int}
    (h : K.Informed db keys own (.nextval t k)) (hn : (t, n) ∉ keys) :
    K.Informed db (insert (t, n) keys) own (k n) := by
  rcases h with ⟨base, new, used, d, hbase, hmakes, hp⟩
  have hall : K.Makes ⟨base, insert (t, n) keys, fun _ => 0⟩ own new used d :=
    hmakes.weaken (fun _ hf => hf) (Set.subset_insert _ _)
  refine ⟨base, new, used, d, hbase, hall, ?_⟩
  have hrest := hp n fun hmem => hn hmem.left
  rw [← Known.draw_record hn hmakes.usesDrawn] at hrest
  exact hrest

theorem Informed.emit {db : S.Db} {keys : Set (S.Seq × Int)}
    {own : S.Db -> S.Db} {o : S.Out} {k : Program S α}
    (h : K.Informed db keys own (.emit o k)) :
    K.sends o ∧ K.Informed db keys own k := by
  rcases h with ⟨base, new, used, d, hbase, hmakes, hp⟩
  exact ⟨hp.left, base, new, used, d, hbase, hmakes, hp.right⟩

/-- What a session that ends leaves to be committed. -/
theorem Informed.ret {db : S.Db} {keys : Set (S.Seq × Int)}
    {own : S.Db -> S.Db} {a : α} (h : K.Informed db keys own (.ret a))
    (hok : K.ok db) (hfree : forall key, key ∈ keys -> K.free key db) :
    K.ok (own db) ∧ K.facts db ⊆ K.facts (own db) ∧
      K.measure (own db) = K.measure db ∧
      forall key, key ∉ keys -> K.free key db -> K.free key (own db) := by
  rcases h with ⟨base, new, used, d, hbase, hmakes, hp⟩
  have hadv := hmakes.advances db (Informed.shows hok hbase hfree)
  have hbalanced : forall i, 0 + d i = 0 := hp
  constructor
  · exact hadv.ok
  constructor
  · rw [hadv.facts]
    exact Set.subset_union_left
  constructor
  · funext i
    have hzero := hbalanced i
    rw [hadv.measure]
    omega
  · exact fun key hkey => hadv.free key fun hused => hkey (hmakes.usesDrawn hused)

/-!
# Steps
-/

theorem draw_seq (w : World S α) (t t' : S.Seq) :
    (w.draw t).seq t' = if t' = t then w.seq t + 1 else w.seq t' := by
  simp [World.draw, Function.update_apply]

variable {w₀ w w' : World S α} {keys : Nat -> Set (S.Seq × Int)}

/-- A step of one session before its commit: its keys are old ones or come from
a sequence it has advanced. -/
theorem Sound.advance {i : Nat} {ks : Set (S.Seq × Int)}
    (h : K.Sound w₀ w keys) (hcommitted : w'.committed = w.committed)
    (hseq : forall t, w.seq t ≤ w'.seq t)
    (hout : forall o, o ∈ w'.out -> o ∈ w.out ∨ K.sends o)
    (hks : forall k, k ∈ ks -> k ∈ keys i ∨
      (w.seq k.1 ≤ k.2 ∧ k.2 < w'.seq k.1))
    (hothers : forall j, j ≠ i -> w'.procs j = w.procs j)
    (hself : forall own p, w'.procs i = .running own p ->
      K.Informed w.committed ks own p) :
    K.Sound w₀ w' (Function.update keys i ks) := by
  have hnew : forall j k, k ∈ Function.update keys i ks j ->
      k ∈ keys j ∨ (j = i ∧ w.seq k.1 ≤ k.2 ∧ k.2 < w'.seq k.1) := by
    intro j k hk
    by_cases hj : j = i
    · subst hj
      rw [Function.update_self] at hk
      rcases hks k hk with hold | hfresh
      · exact Or.inl hold
      · exact Or.inr ⟨rfl, hfresh⟩
    · rw [Function.update_of_ne hj] at hk
      exact Or.inl hk
  have hold_ne_new : forall j k, k ∈ keys j -> ¬ w.seq k.1 ≤ k.2 :=
    fun j k hk => Int.not_le.mpr (h.below j k hk)
  constructor
  case ok => exact hcommitted ▸ h.ok
  case sends =>
    intro o ho
    rcases hout o ho with hold | hsends
    · exact h.sends o hold
    · exact hsends
  case facts => exact hcommitted ▸ h.facts
  case measure => rw [hcommitted, h.measure]
  case fresh =>
    intro t n hn
    rw [hcommitted]
    exact h.fresh t n (Int.le_trans (hseq t) hn)
  case below =>
    intro j k hk
    rcases hnew j k hk with hold | hfresh
    · exact Int.lt_of_lt_of_le (h.below j k hold) (hseq k.1)
    · exact hfresh.right.right
  case free =>
    intro j k hk
    rw [hcommitted]
    rcases hnew j k hk with hold | hfresh
    · exact h.free j k hold
    · exact h.fresh k.1 k.2 hfresh.right.left
  case apart =>
    intro j l k hj hl
    rcases hnew j k hj with hjold | hjnew
    · rcases hnew l k hl with hlold | hlnew
      · exact h.apart j l k hjold hlold
      · exact (hold_ne_new j k hjold hlnew.right.left).elim
    · rcases hnew l k hl with hlold | hlnew
      · exact (hold_ne_new l k hlold hjnew.right.left).elim
      · exact hjnew.left.trans hlnew.left.symm
  case informed =>
    intro j own p hproc
    rw [hcommitted]
    by_cases hj : j = i
    · subst hj
      rw [Function.update_self]
      exact hself own p hproc
    · rw [Function.update_of_ne hj]
      rw [hothers j hj] at hproc
      exact h.informed j own p hproc

/-- A step that keeps the keys of its session. -/
theorem Sound.goesOn {i : Nat} {u : World S α} {own : S.Db -> S.Db}
    {p : Program S α} (h : K.Sound w₀ w keys)
    (hcommitted : u.committed = w.committed) (hseq : u.seq = w.seq)
    (hout : forall o, o ∈ u.out -> o ∈ w.out ∨ K.sends o)
    (hprocs : u.procs = w.procs) (hself : K.Informed w.committed (keys i) own p) :
    K.Sound w₀ (u.setProc i (.running own p))
      (Function.update keys i (keys i)) := by
  have hle : forall t, w.seq t ≤ (u.setProc i (.running own p)).seq t := by
    intro t
    rw [World.setProc_seq, hseq]
  have hcommitted' : (u.setProc i (.running own p)).committed = w.committed :=
    hcommitted
  have hout' : forall o, o ∈ (u.setProc i (.running own p)).out ->
      o ∈ w.out ∨ K.sends o := hout
  apply h.advance hcommitted' hle hout' fun k hk => Or.inl hk
  · intro j hj
    rw [World.setProc_procs_of_ne hj, hprocs]
  · intro own' p' hproc
    rw [World.setProc_procs_self] at hproc
    cases hproc
    exact hself

/-- A session that ends without a commit gives its keys up. -/
theorem Sound.drop {i : Nat} {res : Except S.Exc α}
    (h : K.Sound w₀ w keys) :
    K.Sound w₀ ((w.release i).setProc i (.done res))
      (Function.update keys i ∅) := by
  refine h.advance rfl (fun t => Int.le_refl _) (fun o ho => Or.inl ho)
    (fun k hk => hk.elim) ?_ ?_
  · exact fun j hj => World.setProc_procs_of_ne hj _
  · intro own p hproc
    rw [World.setProc_procs_self] at hproc
    cases hproc

theorem Sound.commit {i : Nat} {own : S.Db -> S.Db} {a : α}
    (h : K.Sound w₀ w keys) (hproc : w.procs i = .running own (.ret a)) :
    K.Sound w₀ (((w.commit own).release i).setProc i (.done (.ok a)))
      (Function.update keys i ∅) := by
  rcases (h.informed i own _ hproc).ret h.ok (h.free i) with
    ⟨hok, hfacts, hmeasure, hfree⟩
  have hkept : forall j k, k ∈ Function.update keys i ∅ j ->
      j ≠ i ∧ k ∈ keys j := by
    intro j k hk
    by_cases hj : j = i
    · subst hj
      rw [Function.update_self] at hk
      exact hk.elim
    · rw [Function.update_of_ne hj] at hk
      exact ⟨hj, hk⟩
  constructor
  case ok => exact hok
  case sends => exact h.sends
  case facts => exact fun _ hf => hfacts (h.facts hf)
  case measure => exact hmeasure.trans h.measure
  case fresh =>
    intro t n hn
    have hnot : (t, n) ∉ keys i := by
      intro hmem
      exact absurd hn (Int.not_le.mpr (h.below i _ hmem))
    exact hfree (t, n) hnot (h.fresh t n hn)
  case below => exact fun j k hk => h.below j k (hkept j k hk).right
  case free =>
    intro j k hk
    rcases hkept j k hk with ⟨hj, hmem⟩
    have hnot : k ∉ keys i := fun hi => hj (h.apart j i k hmem hi)
    exact hfree k hnot (h.free j k hmem)
  case apart =>
    exact fun j l k hj hl =>
      h.apart j l k (hkept j k hj).right (hkept l k hl).right
  case informed =>
    intro j own' p hj
    by_cases hself : j = i
    · subst hself
      rw [World.setProc_procs_self] at hj
      cases hj
    · rw [World.setProc_procs_of_ne hself] at hj
      rw [Function.update_of_ne hself]
      exact (h.informed j own' p hj).mono hfacts

theorem Sound.step {a : Act S α} (h : K.Sound w₀ w keys)
    (hm : World.Moves w a w')
    (hstart : forall i p, a = .start i p ->
      exists facts, facts ⊆ K.facts w.committed ∧ K.Settles facts p) :
    exists keys', K.Sound w₀ w' keys' := by
  cases hm with
  | @start i p _ =>
      rcases hstart i p rfl with ⟨facts, hfacts, hp⟩
      exists Function.update keys i ∅
      refine h.advance rfl (fun t => Int.le_refl _) (fun o ho => Or.inl ho)
        (fun k hk => hk.elim) ?_ ?_
      · exact fun j hj => World.setProc_procs_of_ne hj _
      · intro own q hproc
        rw [World.setProc_procs_self] at hproc
        cases hproc
        exact informed_start hfacts hp
  | fail e _ => exact ⟨_, h.drop⟩
  | raise _ => exact ⟨_, h.drop⟩
  | ret hproc => exact ⟨_, h.commit hproc⟩
  | read hproc =>
      have hinf := h.informed _ _ _ hproc
      exact ⟨_, h.goesOn rfl rfl (fun o ho => Or.inl ho) rfl
        (hinf.read h.ok (h.free _) fun _ hp => hp)⟩
  | lock hproc _ =>
      have hinf := h.informed _ _ _ hproc
      exact ⟨_, h.goesOn rfl rfl (fun o ho => Or.inl ho) rfl
        (hinf.read h.ok (h.free _) fun _ hp => hp)⟩
  | flush hproc _ hws =>
      have hinf := h.informed _ _ _ hproc
      exact ⟨_, h.goesOn rfl rfl (fun o ho => Or.inl ho) rfl (hinf.flush hws)⟩
  | flushError hproc _ hws =>
      have hinf := h.informed _ _ _ hproc
      exact ⟨_, h.goesOn rfl rfl (fun o ho => Or.inl ho) rfl
        (hinf.flushError hws)⟩
  | @nextval i own t k hproc =>
      have hnot : (t, w.seq t) ∉ keys i := by
        intro hmem
        exact Int.lt_irrefl _ (h.below i _ hmem)
      have hle : forall t', w.seq t' ≤ (w.draw t).seq t' := by
        intro t'
        rw [draw_seq]
        split
        · rename_i ht
          rw [ht]
          omega
        · exact Int.le_refl _
      exists Function.update keys i (insert (t, w.seq t) (keys i))
      refine h.advance rfl hle (fun o ho => Or.inl ho) ?_ ?_ ?_
      · intro key hkey
        rcases hkey with rfl | hold
        · right
          constructor
          · exact Int.le_refl _
          · show w.seq t < (w.draw t).seq t
            rw [draw_seq, if_pos rfl]
            omega
        · exact Or.inl hold
      · exact fun j hj => World.setProc_procs_of_ne hj _
      · intro own' p hp
        rw [World.setProc_procs_self] at hp
        cases hp
        exact (h.informed i own _ hproc).nextval hnot
  | @emit i own o k hproc =>
      rcases (h.informed i own _ hproc).emit with ⟨hsends, hinf⟩
      refine ⟨_, h.goesOn rfl rfl ?_ rfl hinf⟩
      intro o' ho
      rcases List.mem_append.mp ho with hold | hnew
      · exact Or.inl hold
      · rw [List.mem_singleton.mp hnew]
        exact Or.inr hsends

/-!
# Runs
-/

/-- Before the first session nobody has drawn a key. -/
theorem sound_start (hidle : forall i, w₀.procs i = .idle)
    (hok : K.ok w₀.committed) (hsends : forall o, o ∈ w₀.out -> K.sends o)
    (hfresh : forall t n, w₀.seq t ≤ n -> K.free (t, n) w₀.committed) :
    K.Sound w₀ w₀ fun _ => ∅ := by
  constructor
  case ok => exact hok
  case sends => exact hsends
  case facts => exact fun _ hf => hf
  case measure => rfl
  case fresh => exact hfresh
  case below => exact fun _ _ hk => hk.elim
  case free => exact fun _ _ hk => hk.elim
  case apart => exact fun _ _ _ hk => hk.elim
  case informed =>
    intro i own p hproc
    rw [hidle i] at hproc
    cases hproc

/-- The committed database is as the invariant says, its facts stay, and the
measure does not change, if every program that is started knows enough and
balances its writes. -/
theorem Sound.reaches {adm : World S α -> Act S α -> Prop}
    (h : K.Sound w₀ w keys) (hrun : World.Reaches adm w w')
    (hstart : forall u i p, adm u (.start i p) ->
      (forall o, o ∈ u.out -> K.sends o) ->
      exists facts, facts ⊆ K.facts u.committed ∧ K.Settles facts p) :
    exists keys', K.Sound w₀ w' keys' := by
  induction hrun with
  | refl => exact ⟨keys, h⟩
  | @step u u' a _ hadm hexec ih =>
      rcases ih with ⟨keys', hsound⟩
      apply hsound.step (World.moves_of_exec hexec)
      intro i p heq
      subst heq
      exact hstart u i p hadm hsound.sends

end Knowledge
end Txn
