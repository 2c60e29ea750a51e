import CoverAI.Txn.Registry

/-!
# Checks of a count before an insertion

Each session counts rows, goes on only below a limit, and inserts one more row.
The count does not see the rows of open sessions, so the limit holds where a
check that passes leaves room for every open session that has passed its own.
-/

namespace Txn

variable {S : Signature} {α γ ρ : Type}

/-- As long as the statements see databases where the stock is used up, the
program does not end normally: its check is still ahead of it. -/
def Program.Refuses (full : S.Db -> Prop) (p : Program S α) : Prop :=
  p.Within
    { sees := full
      writes := fun _ => True
      draws := fun _ => True
      emits := fun _ => True
      raises := fun _ => True }
    fun _ => False

/-- An open session that has passed its check. -/
def Process.Admitted (full : S.Db -> Prop) : Process S α -> Prop
  | .running _ p => ¬ p.Refuses full
  | _ => False

theorem not_admitted_running {full : S.Db -> Prop} {own : S.Db -> S.Db}
    {p : Program S α} (h : p.Refuses full) :
    ¬ (Process.running own p).Admitted full :=
  fun hne => hne h

theorem not_admitted_done {full : S.Db -> Prop} (res : Except S.Exc α) :
    ¬ (Process.done res).Admitted full :=
  fun h => h

/-- A limited stock: every session that ends normally has inserted a row that
counts. -/
structure Reservation (R : Registry S γ ρ) (ends : α -> Stage ρ -> Prop) where
  count : γ -> Nat
  limit : Nat
  full : S.Db -> Prop
  takes : forall a st, ends a st -> exists n r, st.row = some (n, r) ∧
    forall g, R.get g n = none -> count (R.add g n r) = count g + 1

namespace Reservation

variable {R : Registry S γ ρ} {ends : α -> Stage ρ -> Prop}
  (V : Reservation R ends)

def used (w : World S α) : Nat :=
  V.count (R.obs w.committed)

def LeavesRoom (w : World S α) (i : Nat) : Prop :=
  forall w', w.exec (.step i) = some w' -> ¬ (w.procs i).Admitted V.full ->
    (w'.procs i).Admitted V.full ->
    forall js : List Nat, js.Nodup ->
      (forall j, j ∈ js -> (w.procs j).Admitted V.full) ->
      V.used w + js.length < V.limit

/-- The rows in use and the open sessions that have passed their check are
together within the limit. -/
def Within (w : World S α) : Prop :=
  forall js : List Nat, js.Nodup ->
    (forall j, j ∈ js -> (w.procs j).Admitted V.full) ->
    V.used w + js.length ≤ V.limit

def Counted (w₀ w : World S α) : Prop :=
  forall js : List Nat, js.Nodup ->
    (forall j, j ∈ js -> (w.procs j).succeeded = true) ->
    V.used w₀ + js.length ≤ V.used w

/-!
# Steps
-/

section Steps

variable {V} {w₀ w w' : World S α} {i : Nat}

/-- Nothing is committed, and a session that is admitted now was admitted, or
there is room for it. -/
theorem Within.same (h : V.Within w) (hused : V.used w' = V.used w)
    (hother : forall j, j ≠ i -> w'.procs j = w.procs j)
    (hself : (w'.procs i).Admitted V.full -> ¬ (w.procs i).Admitted V.full ->
      forall js : List Nat, js.Nodup ->
        (forall j, j ∈ js -> (w.procs j).Admitted V.full) ->
        V.used w + js.length < V.limit) : V.Within w' := by
  intro js hnodup hadmitted
  rw [hused]
  by_cases hold : i ∈ js -> (w.procs i).Admitted V.full
  · apply h js hnodup
    intro j hj
    by_cases hji : j = i
    · rw [hji] at hj ⊢
      exact hold hj
    · rw [← hother j hji]
      exact hadmitted j hj
  · rcases Classical.not_imp.mp hold with ⟨hi, hnew⟩
    have hroom := hself (hadmitted i hi) hnew (js.erase i) (hnodup.erase i)
      fun j hj => by
        rcases hnodup.mem_erase_iff.mp hj with ⟨hji, hjs⟩
        rw [← hother j hji]
        exact hadmitted j hjs
    rw [List.length_erase_of_mem hi] at hroom
    have hpos := List.length_pos_of_mem hi
    omega

theorem Within.commit (h : V.Within w) (hused : V.used w' = V.used w + 1)
    (hother : forall j, j ≠ i -> w'.procs j = w.procs j)
    (hbefore : (w.procs i).Admitted V.full)
    (hafter : ¬ (w'.procs i).Admitted V.full) : V.Within w' := by
  intro js hnodup hadmitted
  have hi : i ∉ js := fun hi => hafter (hadmitted i hi)
  have hall := h (i :: js) (List.nodup_cons.mpr ⟨hi, hnodup⟩) (by
    intro j hj
    rcases List.mem_cons.mp hj with rfl | hjs
    · exact hbefore
    · have hji : j ≠ i := fun heq => hi (heq ▸ hjs)
      rw [← hother j hji]
      exact hadmitted j hjs)
  rw [List.length_cons] at hall
  omega

theorem Counted.same (h : V.Counted w₀ w) (hused : V.used w' = V.used w)
    (hother : forall j, j ≠ i -> w'.procs j = w.procs j)
    (hself : (w'.procs i).succeeded = true -> (w.procs i).succeeded = true) :
    V.Counted w₀ w' := by
  intro js hnodup hsucceeded
  rw [hused]
  apply h js hnodup
  intro j hj
  by_cases hji : j = i
  · rw [hji] at hj ⊢
    exact hself (hsucceeded i hj)
  · rw [← hother j hji]
    exact hsucceeded j hj

theorem Counted.commit (h : V.Counted w₀ w) (hused : V.used w' = V.used w + 1)
    (hother : forall j, j ≠ i -> w'.procs j = w.procs j) :
    V.Counted w₀ w' := by
  intro js hnodup hsucceeded
  have hrest := h (js.erase i) (hnodup.erase i) fun j hj => by
    rcases hnodup.mem_erase_iff.mp hj with ⟨hji, hjs⟩
    rw [← hother j hji]
    exact hsucceeded j hjs
  have hlength : js.length ≤ (js.erase i).length + 1 := by
    rw [List.length_erase]
    split <;> omega
  omega

end Steps

/-!
# Runs
-/

section Runs

variable {V} {w₀ w w' : World S α}

theorem succeeded_setProc {i : Nat} {q : Process S α}
    (h : q.succeeded = false) :
    ((w.setProc i q).procs i).succeeded = false := by
  rwa [World.setProc_procs_self]

theorem not_admitted_setProc {full : S.Db -> Prop} {i : Nat}
    {q : Process S α} (h : ¬ q.Admitted full) :
    ¬ ((w.setProc i q).procs i).Admitted full := by
  rwa [World.setProc_procs_self]

theorem within_idle (hidle : forall i, w.procs i = .idle)
    (h : V.used w ≤ V.limit) : V.Within w := by
  intro js _ hadmitted
  cases js with
  | nil => exact h
  | cons j js =>
      have hj := hadmitted j List.mem_cons_self
      rw [hidle j] at hj
      exact hj.elim

theorem counted_idle (hidle : forall i, w.procs i = .idle) :
    V.Counted w w := by
  intro js _ hsucceeded
  cases js with
  | nil => exact Nat.le_refl _
  | cons j js =>
      have hj := hsucceeded j List.mem_cons_self
      rw [hidle j] at hj
      cases hj

theorem commit_within {i : Nat} {own : S.Db -> S.Db} {a : α}
    {stage : Nat -> Stage ρ} (hregistered : R.Registered ends w₀ w stage)
    (hkeys : R.KeysDrawn w₀) (hproc : w.procs i = .running own (.ret a))
    (hwithin : V.Within w) (hcounted : V.Counted w₀ w) :
    V.Within (((w.commit own).release i).setProc i (.done (.ok a))) ∧
      V.Counted w₀ (((w.commit own).release i).setProc i (.done (.ok a))) := by
  have hconforms := hregistered.conforms i
  rw [hproc] at hconforms
  rcases V.takes a (stage i) hconforms.left with ⟨n, r, hrow, htakes⟩
  rcases hregistered.commit_row hkeys hproc hrow with ⟨hfree, hcommit⟩
  have hother : forall j, j ≠ i ->
      (((w.commit own).release i).setProc i (.done (.ok a))).procs j =
        w.procs j :=
    fun j hj => World.setProc_procs_of_ne hj _
  have hused : V.used (((w.commit own).release i).setProc i (.done (.ok a))) =
      V.used w + 1 := by
    change V.count (R.obs (own w.committed)) = _
    rw [hcommit, htakes _ hfree]
    rfl
  have hadmitted : (w.procs i).Admitted V.full := by
    rw [hproc]
    exact fun h => h
  constructor
  · exact hwithin.commit hused hother hadmitted
      (not_admitted_setProc (not_admitted_done _))
  · exact hcounted.commit hused hother

theorem within_step {a : Act S α} {stage : Nat -> Stage ρ}
    (hregistered : R.Registered ends w₀ w stage) (hkeys : R.KeysDrawn w₀)
    (hexec : w.exec a = some w')
    (hrefuses : forall i p, a = .start i p -> p.Refuses V.full)
    (hroom : forall i, a = .step i -> V.LeavesRoom w i)
    (hwithin : V.Within w) (hcounted : V.Counted w₀ w) :
    V.Within w' ∧ V.Counted w₀ w' := by
  have hm := World.moves_of_exec hexec
  have hother : forall j, j ≠ a.session -> w'.procs j = w.procs j :=
    fun j hj => hm.procs_of_ne hj
  have hsame (hcommitted : w'.committed = w.committed)
      (hended : (w'.procs a.session).succeeded = false)
      (hself : (w'.procs a.session).Admitted V.full ->
        ¬ (w.procs a.session).Admitted V.full ->
        forall js : List Nat, js.Nodup ->
          (forall j, j ∈ js -> (w.procs j).Admitted V.full) ->
          V.used w + js.length < V.limit) :
      V.Within w' ∧ V.Counted w₀ w' := by
    have hused : V.used w' = V.used w := by
      rw [used, used, hcommitted]
    constructor
    · exact hwithin.same hused hother hself
    · apply hcounted.same hused hother
      intro hsucceeded
      cases hended.symm.trans hsucceeded
  have hstep : forall i, a = .step i ->
      (w'.procs i).Admitted V.full -> ¬ (w.procs i).Admitted V.full ->
      forall js : List Nat, js.Nodup ->
        (forall j, j ∈ js -> (w.procs j).Admitted V.full) ->
        V.used w + js.length < V.limit := by
    intro i heq hafter hbefore
    subst heq
    exact hroom i rfl w' hexec hbefore hafter
  cases hm with
  | @start i p _ =>
      refine hsame rfl (succeeded_setProc rfl) fun hafter _ => ?_
      exact (not_admitted_setProc
        (not_admitted_running (hrefuses i p rfl)) hafter).elim
  | fail e _ =>
      exact hsame rfl (succeeded_setProc rfl)
        fun hafter _ => (not_admitted_setProc (not_admitted_done _) hafter).elim
  | raise _ =>
      exact hsame rfl (succeeded_setProc rfl)
        fun hafter _ => (not_admitted_setProc (not_admitted_done _) hafter).elim
  | read _ => exact hsame rfl (succeeded_setProc rfl) (hstep _ rfl)
  | lock _ _ => exact hsame rfl (succeeded_setProc rfl) (hstep _ rfl)
  | flush _ _ _ => exact hsame rfl (succeeded_setProc rfl) (hstep _ rfl)
  | flushError _ _ _ => exact hsame rfl (succeeded_setProc rfl) (hstep _ rfl)
  | nextval _ => exact hsame rfl (succeeded_setProc rfl) (hstep _ rfl)
  | emit _ => exact hsame rfl (succeeded_setProc rfl) (hstep _ rfl)
  | ret hproc => exact commit_within hregistered hkeys hproc hwithin hcounted

/-- Where every check that passes leaves room, the rows in use stay within the
limit, in every interleaving, and each session that has ended normally is one
of them. -/
theorem within_of_reaches {adm : World S α -> Act S α -> Prop}
    (hrun : World.Reaches adm w₀ w) (hidle : forall i, w₀.procs i = .idle)
    (hkeys : R.KeysDrawn w₀)
    (hfollows : forall u i p, adm u (.start i p) -> R.Follows ends .blank p)
    (hrefuses : forall u i p, adm u (.start i p) -> p.Refuses V.full)
    (hroom : forall u i, adm u (.step i) -> V.LeavesRoom u i)
    (hstart : V.used w₀ ≤ V.limit) : V.Within w ∧ V.Counted w₀ w := by
  induction hrun with
  | refl => exact ⟨within_idle hidle hstart, counted_idle hidle⟩
  | @step u u' a hrun hact hexec ih =>
      rcases Registry.registered_of_reaches hrun hidle hkeys
        (fun u _ i p _ => hfollows u i p) with ⟨stage, hregistered⟩
      rcases ih with ⟨hwithin, hcounted⟩
      apply within_step hregistered hkeys hexec _ _ hwithin hcounted
      · intro i p heq
        subst heq
        exact hrefuses u i p hact
      · intro i heq
        subst heq
        exact hroom u i hact

end Runs
end Reservation
end Txn
