import CoverAI.Txn.Footprint

/-!
# Sessions that append to a list

The observed part of the database is a list, and a session only appends to it.
The run theorem puts the sessions that have ended normally in the order of
their commits: the committed list is the one of the start, followed by what
these sessions have appended.  A session that fails leaves nothing in it.
-/

namespace Txn

/-- The observed list, a fact about the database that every session keeps, and
what a session with a result has appended. -/
structure Journal (S : Signature) (α ρ : Type) where
  obs : S.Db -> List ρ
  sees : S.Db -> Prop
  ends : α -> List ρ -> Prop

namespace Journal

variable {S : Signature} {α β ρ : Type} (J : Journal S α ρ)

/-- The program goes on after it has appended `added`. -/
def Appends : List ρ -> Program S α -> Prop
  | added, .ret a => J.ends a added
  | _, .raise _ => True
  | added, .read k => forall v, J.sees v -> Appends added (k v)
  | added, .lock _ k => forall v, J.sees v -> Appends added (k v)
  | added, .flush _ ws k =>
      (exists new,
        (forall db, J.obs (Write.applyAll ws db) = J.obs db ++ new) ∧
          Appends (added ++ new) (k (.ok ()))) ∧
        forall w, w ∈ ws -> forall db e, w.violation db = some e ->
          Appends added (k (.error e))
  | added, .nextval _ k => forall n, Appends added (k n)
  | added, .emit _ k => Appends added k

/-!
# Rules for statements
-/

section Rules

variable {J} {added : List ρ}

theorem appends_ask_bind {q : S.Db -> β} {f : β -> Program S α}
    (h : forall v, J.sees v -> J.Appends added (f (q v))) :
    J.Appends added ((Program.ask q).bind f) :=
  h

theorem appends_forUpdate_bind {r : S.Lock} {q : S.Db -> β}
    {f : β -> Program S α} (h : forall v, J.sees v -> J.Appends added (f (q v))) :
    J.Appends added ((Program.forUpdate r q).bind f) :=
  h

theorem appends_flushUnit_bind {rs : List S.Lock} {ws : List (Write S)}
    {f : Unit -> Program S α} (new : List ρ)
    (hws : forall db, J.obs (Write.applyAll ws db) = J.obs db ++ new)
    (h : J.Appends (added ++ new) (f ())) :
    J.Appends added ((Program.flushUnit rs ws).bind f) :=
  ⟨⟨new, hws, h⟩, fun _ _ _ _ _ => trivial⟩

end Rules

/-!
# One step
-/

def Conforms (added : List ρ) : Process S α -> Prop
  | .idle => added = []
  | .running own p =>
      (forall db, J.obs (own db) = J.obs db ++ added) ∧ J.Appends added p
  | .done (.ok a) => J.ends a added
  | .done (.error _) => True

/-- Where a session has come to with a step: it has committed what it has
appended, or nothing was committed. -/
structure Advanced (w w' : World S α) (i : Nat) (added : List ρ) : Prop where
  open_ : (w.procs i).succeeded = false
  conforms : J.Conforms added (w'.procs i)
  pending : (w'.procs i).succeeded = false -> w'.committed = w.committed
  committed : (w'.procs i).succeeded = true ->
    J.obs w'.committed = J.obs w.committed ++ added

variable {J}

theorem advanced_pending {w w' : World S α} {i : Nat} {added : List ρ}
    {p q : Process S α} (hp : w.procs i = p) (hopen : p.succeeded = false)
    (hq : w'.procs i = q) (hpending : q.succeeded = false)
    (hcommitted : w'.committed = w.committed) (hconforms : J.Conforms added q) :
    J.Advanced w w' i added := by
  refine ⟨?_, ?_, fun _ => hcommitted, ?_⟩
  · rw [hp]
    exact hopen
  · rw [hq]
    exact hconforms
  · rw [hq, hpending]
    intro h
    cases h

theorem conforms_step {w w' : World S α} {a : Act S α} {added : List ρ}
    (h : J.Conforms added (w.procs a.session)) (hm : World.Moves w a w')
    (hkeepers : w.Keepers J.sees) (hsees : J.sees w.committed)
    (hstart : forall i p, a = .start i p -> J.Appends [] p) :
    exists added', J.Advanced w w' a.session added' := by
  have hview : forall own p, w.procs a.session = .running own p ->
      J.sees (own w.committed) :=
    fun own p hproc => (hkeepers _ own p hproc).left _ hsees
  cases hm with
  | start hproc =>
      refine ⟨[], advanced_pending hproc rfl (World.setProc_procs_self _ _ _) rfl
        rfl ⟨?_, hstart _ _ rfl⟩⟩
      exact fun db => (List.append_nil _).symm
  | fail e hproc =>
      exact ⟨[], advanced_pending hproc rfl (World.setProc_procs_self _ _ _) rfl
        rfl trivial⟩
  | raise hproc =>
      exact ⟨[], advanced_pending hproc rfl (World.setProc_procs_self _ _ _) rfl
        rfl trivial⟩
  | @ret i own b hproc =>
      simp only [Act.session, hproc] at h
      rcases h with ⟨hown, hends⟩
      refine ⟨added, ?_, ?_, ?_, ?_⟩
      · simp only [Act.session, hproc]
        rfl
      · simp only [Act.session, World.setProc_procs_self]
        exact hends
      · simp only [Act.session, World.setProc_procs_self]
        intro h
        cases h
      · exact fun _ => hown w.committed
  | read hproc =>
      have hv := hview _ _ hproc
      simp only [Act.session, hproc] at h
      exact ⟨added, advanced_pending hproc rfl (World.setProc_procs_self _ _ _)
        rfl rfl ⟨h.left, h.right _ hv⟩⟩
  | lock hproc _ =>
      have hv := hview _ _ hproc
      simp only [Act.session, hproc] at h
      exact ⟨added, advanced_pending hproc rfl (World.setProc_procs_self _ _ _)
        rfl rfl ⟨h.left, h.right _ hv⟩⟩
  | flush hproc _ _ =>
      simp only [Act.session, hproc] at h
      rcases h with ⟨hown, ⟨new, hws, hk⟩, _⟩
      refine ⟨added ++ new, advanced_pending hproc rfl
        (World.setProc_procs_self _ _ _) rfl rfl ⟨?_, hk⟩⟩
      intro db
      rw [hws, hown, List.append_assoc]
  | flushError hproc _ hws =>
      simp only [Act.session, hproc] at h
      rcases h with ⟨hown, _, hk⟩
      rcases Write.exists_violation_of_attempt hws with ⟨u, hu, d, he⟩
      exact ⟨added, advanced_pending hproc rfl (World.setProc_procs_self _ _ _)
        rfl rfl ⟨hown, hk u hu d _ he⟩⟩
  | nextval hproc =>
      simp only [Act.session, hproc] at h
      exact ⟨added, advanced_pending hproc rfl (World.setProc_procs_self _ _ _)
        rfl rfl ⟨h.left, h.right _⟩⟩
  | emit hproc =>
      simp only [Act.session, hproc] at h
      exact ⟨added, advanced_pending hproc rfl (World.setProc_procs_self _ _ _)
        rfl rfl ⟨h.left, h.right⟩⟩

/-!
# Runs
-/

variable (J)

/-- The sessions that have ended normally are `order`, and the list holds
what they have appended, in that order. -/
structure Written (w₀ w : World S α) (order : List Nat)
    (added : Nat -> List ρ) : Prop where
  conforms : forall i, J.Conforms (added i) (w.procs i)
  nodup : order.Nodup
  succeeded : forall i, i ∈ order <-> (w.procs i).succeeded = true
  committed : J.obs w.committed = J.obs w₀.committed ++ order.flatMap added

variable {J} {w₀ w w' : World S α}

theorem flatMap_update_of_not_mem {order : List Nat} {i : Nat}
    (hi : i ∉ order) (added : Nat -> List ρ) (new : List ρ) :
    order.flatMap (Function.update added i new) = order.flatMap added := by
  unfold List.flatMap
  congr 1
  apply List.map_congr_left
  intro j hj
  have hne : j ≠ i := by
    intro heq
    rw [heq] at hj
    exact hi hj
  exact Function.update_of_ne hne _ _

theorem Written.advance {order : List Nat} {added : Nat -> List ρ} {i : Nat}
    {new : List ρ} (h : J.Written w₀ w order added)
    (hadvanced : J.Advanced w w' i new)
    (hother : forall j, j ≠ i -> w'.procs j = w.procs j) :
    exists order', J.Written w₀ w' order' (Function.update added i new) := by
  have hnotin : i ∉ order := by
    intro hi
    have hsucceeded := (h.succeeded i).mp hi
    rw [hadvanced.open_] at hsucceeded
    cases hsucceeded
  have hconforms : forall j,
      J.Conforms (Function.update added i new j) (w'.procs j) := by
    intro j
    by_cases hj : j = i
    · rw [hj, Function.update_self]
      exact hadvanced.conforms
    · rw [Function.update_of_ne hj, hother j hj]
      exact h.conforms j
  cases hends : (w'.procs i).succeeded with
  | false =>
      refine ⟨order, hconforms, h.nodup, ?_, ?_⟩
      · intro j
        by_cases hj : j = i
        · rw [hj, hends]
          constructor
          · exact fun hi => (hnotin hi).elim
          · intro hfalse
            cases hfalse
        · rw [hother j hj]
          exact h.succeeded j
      · rw [hadvanced.pending hends, h.committed,
          flatMap_update_of_not_mem hnotin]
  | true =>
      refine ⟨order ++ [i], hconforms, ?_, ?_, ?_⟩
      · refine List.nodup_append.mpr ⟨h.nodup, by simp, ?_⟩
        intro j hj k hk heq
        rw [heq, List.mem_singleton.mp hk] at hj
        exact hnotin hj
      · intro j
        rw [List.mem_append, List.mem_singleton]
        by_cases hj : j = i
        · rw [hj, hends]
          exact ⟨fun _ => rfl, fun _ => Or.inr rfl⟩
        · rw [hother j hj]
          exact ⟨fun hmem => (h.succeeded j).mp (hmem.resolve_right hj),
            fun hsucceeded => Or.inl ((h.succeeded j).mpr hsucceeded)⟩
      · rw [hadvanced.committed hends, h.committed, List.flatMap_append,
          flatMap_update_of_not_mem hnotin, List.append_assoc]
        simp

theorem written_start (hidle : forall i, w₀.procs i = .idle) :
    J.Written w₀ w₀ [] fun _ => [] where
  conforms := by
    intro i
    rw [hidle i]
    rfl
  nodup := List.nodup_nil
  succeeded := by
    intro i
    rw [hidle i]
    constructor
    · intro h
      cases h
    · intro h
      cases h
  committed := (List.append_nil _).symm

/-- Sessions that only append, in every interleaving. -/
theorem written_of_reaches {adm : World S α -> Act S α -> Prop}
    (hrun : World.Reaches adm w₀ w) (hidle : forall i, w₀.procs i = .idle)
    (hsees : J.sees w₀.committed)
    (hkeeps : forall u i p, adm u (.start i p) -> p.Keeps J.sees)
    (happends : forall u i p, adm u (.start i p) -> J.Appends [] p) :
    exists order added, J.Written w₀ w order added := by
  have hall : J.sees w.committed ∧ exists order added,
      J.Written w₀ w order added := by
    induction hrun with
    | refl => exact ⟨hsees, _, _, written_start hidle⟩
    | @step u u' a hrun hact hexec ih =>
        rcases ih with ⟨hsees, order, added, h⟩
        have hm := World.moves_of_exec hexec
        have hkeepers : u.Keepers J.sees := by
          apply hrun.keepers
          · intro i own p hproc
            cases (hidle i).symm.trans hproc
          · exact fun u i p _ hadm => hkeeps u i p hadm
        have hstart : forall i p, a = .start i p -> J.Appends [] p := by
          intro i p ha
          subst ha
          exact happends u i p hact
        rcases conforms_step (h.conforms _) hm hkeepers hsees hstart with
          ⟨new, hadvanced⟩
        rcases h.advance hadvanced (fun j hj => hm.procs_of_ne hj) with
          ⟨order', h'⟩
        exact ⟨hkeepers.committed hm hsees, order', _, h'⟩
  exact hall.right

end Journal
end Txn
