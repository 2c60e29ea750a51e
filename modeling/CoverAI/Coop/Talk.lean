import Mathlib.Init

/-!
# Programs that talk

A handler of a chat says things, works on a state and may end with an exception.
Any call that it awaits may fail instead of being carried out.  What was said
before an exception stays said.
-/

namespace Coop

/-- The exception that ends a program: one that it raises, or one of a call that
it awaits. -/
inductive Escape (ε : Type) where
  | raised (e : ε)
  | aborted (e : ε)

/-- The exceptions of the awaited calls, which are counted from zero. -/
abbrev Faults (ε : Type) : Type :=
  Nat -> Option ε

def noFaults {ε : Type} : Faults ε :=
  fun _ => none

/-- The faults of the calls after the first ones. -/
def Faults.after {ε : Type} (faults : Faults ε) (awaited : Nat) : Faults ε :=
  fun n => faults (awaited + n)

/-- What a program has said, how it ended, the state it leaves and how many
calls it has awaited. -/
structure Talk.Outcome (σ ε ρ α : Type) where
  said : List ρ
  result : Except (Escape ε) α
  state : σ
  awaited : Nat

def Talk (σ ε ρ α : Type) : Type :=
  Faults ε -> σ -> Talk.Outcome σ ε ρ α

namespace Talk

variable {σ ε ρ α β : Type}

def ret (a : α) : Talk σ ε ρ α :=
  fun _ s => { said := [], result := .ok a, state := s, awaited := 0 }

def bind (c : Talk σ ε ρ α) (f : α -> Talk σ ε ρ β) : Talk σ ε ρ β :=
  fun faults s =>
    let first := c faults s
    match first.result with
    | .ok a =>
        let rest := f a (faults.after first.awaited) first.state
        { said := first.said ++ rest.said
          result := rest.result
          state := rest.state
          awaited := first.awaited + rest.awaited }
    | .error e =>
        { said := first.said
          result := .error e
          state := first.state
          awaited := first.awaited }

instance : Monad (Talk σ ε ρ) where
  pure := ret
  bind := bind

def raise (e : ε) : Talk σ ε ρ α :=
  fun _ s =>
    { said := [], result := .error (.raised e), state := s, awaited := 0 }

/-- An answer that cannot be delivered is not said. -/
def say (r : ρ) : Talk σ ε ρ Unit :=
  fun faults s =>
    match faults 0 with
    | none => { said := [r], result := .ok (), state := s, awaited := 1 }
    | some e =>
        { said := []
          result := .error (.aborted e)
          state := s
          awaited := 1 }

/-- A call that answers with a result or an error, and says nothing.  One that
fails has no effect. -/
def call (f : σ -> Except ε α × σ) : Talk σ ε ρ (Except ε α) :=
  fun faults s =>
    match faults 0 with
    | none =>
        { said := [], result := .ok (f s).1, state := (f s).2, awaited := 1 }
    | some e =>
        { said := []
          result := .error (.aborted e)
          state := s
          awaited := 1 }

/-- A change of the state between two calls. -/
def update (f : σ -> α × σ) : Talk σ ε ρ α :=
  fun _ s =>
    { said := [], result := .ok (f s).1, state := (f s).2, awaited := 0 }

@[simp] theorem pure_eq (a : α) : (pure a : Talk σ ε ρ α) = ret a := rfl

@[simp] theorem bind_eq (c : Talk σ ε ρ β) (f : β -> Talk σ ε ρ α) :
    c >>= f = c.bind f := rfl

theorem Faults.after_zero (faults : Faults ε) : faults.after 0 = faults := by
  funext n
  rw [Faults.after, Nat.zero_add]

theorem Faults.after_add (faults : Faults ε) (m n : Nat) :
    faults.after (m + n) = (faults.after m).after n := by
  funext k
  rw [Faults.after, Faults.after, Faults.after, Nat.add_assoc]

theorem ret_bind (a : β) (f : β -> Talk σ ε ρ α) : (ret a).bind f = f a := by
  funext faults s
  simp only [bind, ret, Faults.after_zero, List.nil_append, Nat.zero_add]

theorem bind_assoc {γ : Type} (c : Talk σ ε ρ γ) (f : γ -> Talk σ ε ρ β)
    (g : β -> Talk σ ε ρ α) :
    (c.bind f).bind g = c.bind fun a => (f a).bind g := by
  funext faults s
  unfold bind
  simp only
  cases (c faults s).result with
  | error e => rfl
  | ok a =>
      simp only
      cases (f a (faults.after (c faults s).awaited) (c faults s).state).result
        with
      | error e => rfl
      | ok b =>
          simp only [Faults.after_add, List.append_assoc, Nat.add_assoc]

section Calls

variable {faults : Faults ε} {s : σ}

theorem say_of_none (h : faults 0 = none) (r : ρ) :
    (say r : Talk σ ε ρ Unit) faults s =
      { said := [r], result := .ok (), state := s, awaited := 1 } := by
  unfold say
  rw [h]

theorem say_of_fault {e : ε} (h : faults 0 = some e) (r : ρ) :
    (say r : Talk σ ε ρ Unit) faults s =
      { said := []
        result := .error (.aborted e)
        state := s
        awaited := 1 } := by
  unfold say
  rw [h]

theorem call_of_none (h : faults 0 = none) (f : σ -> Except ε α × σ) :
    (call f : Talk σ ε ρ (Except ε α)) faults s =
      { said := []
        result := .ok (f s).1
        state := (f s).2
        awaited := 1 } := by
  unfold call
  rw [h]

theorem call_of_fault {e : ε} (h : faults 0 = some e)
    (f : σ -> Except ε α × σ) :
    (call f : Talk σ ε ρ (Except ε α)) faults s =
      { said := []
        result := .error (.aborted e)
        state := s
        awaited := 1 } := by
  unfold call
  rw [h]

/-- Without faults a call is carried out. -/
theorem said_call_bind (f : σ -> Except ε β × σ)
    (g : Except ε β -> Talk σ ε ρ α) :
    (((call f).bind g) noFaults s).said = (g (f s).1 noFaults (f s).2).said :=
  rfl

end Calls

/-!
# What holds in the end
-/

/-- Whatever calls fail, the program ends like this. -/
def Ends (Q : List ρ -> Except (Escape ε) α -> σ -> Prop) (c : Talk σ ε ρ α)
    (s : σ) : Prop :=
  forall faults, Q (c faults s).said (c faults s).result (c faults s).state

section Ends

variable {Q : List ρ -> Except (Escape ε) α -> σ -> Prop} {s : σ}

theorem ends_ret {a : α} (h : Q [] (.ok a) s) : (ret a).Ends Q s :=
  fun _ => h

theorem ends_raise {e : ε} (h : Q [] (.error (.raised e)) s) :
    (raise e).Ends Q s :=
  fun _ => h

theorem ends_say {Q : List ρ -> Except (Escape ε) Unit -> σ -> Prop} {r : ρ}
    (hsaid : Q [r] (.ok ()) s)
    (habort : forall e, Q [] (.error (.aborted e)) s) : (say r).Ends Q s := by
  intro faults
  cases hfault : faults 0 with
  | none =>
      rw [say_of_none hfault]
      exact hsaid
  | some e =>
      rw [say_of_fault hfault]
      exact habort e

theorem ends_call_bind {f : σ -> Except ε β × σ}
    {g : Except ε β -> Talk σ ε ρ α} (hg : (g (f s).1).Ends Q (f s).2)
    (habort : forall e, Q [] (.error (.aborted e)) s) :
    ((call f).bind g).Ends Q s := by
  intro faults
  unfold bind
  cases hfault : faults 0 with
  | none =>
      simp only [call_of_none hfault]
      exact hg _
  | some e =>
      simp only [call_of_fault hfault]
      exact habort e

theorem ends_say_bind {r : ρ} {g : Unit -> Talk σ ε ρ α}
    (hg : (g ()).Ends (fun said => Q (r :: said)) s)
    (habort : forall e, Q [] (.error (.aborted e)) s) :
    ((say r).bind g).Ends Q s := by
  intro faults
  unfold bind
  cases hfault : faults 0 with
  | none =>
      simp only [say_of_none hfault]
      exact hg _
  | some e =>
      simp only [say_of_fault hfault]
      exact habort e

theorem ends_update_bind {f : σ -> β × σ} {g : β -> Talk σ ε ρ α}
    (hg : (g (f s).1).Ends Q (f s).2) : ((update f).bind g).Ends Q s :=
  fun faults => hg (faults.after 0)

theorem ends_bind {c : Talk σ ε ρ β} {f : β -> Talk σ ε ρ α}
    {R : List ρ -> Except (Escape ε) β -> σ -> Prop} (hc : c.Ends R s)
    (hret : forall said b s', R said (.ok b) s' ->
      (f b).Ends (fun more => Q (said ++ more)) s')
    (hraise : forall said e s', R said (.error e) s' ->
      Q said (.error e) s') : (c.bind f).Ends Q s := by
  intro faults
  have hfirst := hc faults
  unfold bind
  simp only
  cases hresult : (c faults s).result with
  | ok b =>
      rw [hresult] at hfirst
      exact hret _ b _ hfirst _
  | error e =>
      rw [hresult] at hfirst
      exact hraise _ e _ hfirst

theorem ends_mono {R : List ρ -> Except (Escape ε) α -> σ -> Prop}
    {c : Talk σ ε ρ α} (h : c.Ends R s)
    (himp : forall said res s', R said res s' -> Q said res s') :
    c.Ends Q s :=
  fun faults => himp _ _ _ (h faults)

end Ends

/-!
# What every run keeps
-/

/-- From a state with the first property the program ends in one, and all that
it says has the second. -/
def Keeps (I : σ -> Prop) (R : ρ -> Prop) (c : Talk σ ε ρ α) : Prop :=
  forall s, I s -> c.Ends (fun said _ s' => I s' ∧ forall r, r ∈ said -> R r) s

section Keeps

variable {I : σ -> Prop} {R : ρ -> Prop}

theorem keeps_ret (a : α) : (ret a : Talk σ ε ρ α).Keeps I R :=
  fun _ h => ends_ret ⟨h, fun _ hr => absurd hr List.not_mem_nil⟩

theorem keeps_raise (e : ε) : (raise e : Talk σ ε ρ α).Keeps I R :=
  fun _ h => ends_raise ⟨h, fun _ hr => absurd hr List.not_mem_nil⟩

theorem keeps_say {r : ρ} (hr : R r) : (say r : Talk σ ε ρ Unit).Keeps I R := by
  intro s h
  refine ends_say ?_ ?_
  · constructor
    · exact h
    · intro r' hmem
      rw [List.mem_singleton.mp hmem]
      exact hr
  · exact fun _ => ⟨h, fun _ hr => absurd hr List.not_mem_nil⟩

theorem keeps_bind {c : Talk σ ε ρ β} {f : β -> Talk σ ε ρ α}
    (hc : c.Keeps I R) (hf : forall b, (f b).Keeps I R) :
    (c.bind f).Keeps I R := by
  intro s h
  refine ends_bind (hc s h) ?_ ?_
  · intro said b s' hfirst
    refine ends_mono (hf b s' hfirst.left) ?_
    intro more _ s'' hrest
    constructor
    · exact hrest.left
    · intro r hmem
      rcases List.mem_append.mp hmem with hmem | hmem
      · exact hfirst.right r hmem
      · exact hrest.right r hmem
  · exact fun _ _ _ hfirst => hfirst

/-- A call, and what is done with a result that it may have. -/
theorem keeps_call_bind {P : β -> Prop} {f : σ -> Except ε β × σ}
    {g : Except ε β -> Talk σ ε ρ α}
    (hf : forall s, I s -> I (f s).2 ∧ forall b, (f s).1 = .ok b -> P b)
    (hok : forall b, P b -> (g (.ok b)).Keeps I R)
    (herror : forall e, (g (.error e)).Keeps I R) :
    ((call f).bind g).Keeps I R := by
  intro s h
  have hcalled := hf s h
  refine ends_call_bind ?_ ?_
  · cases hres : (f s).1 with
    | ok b => exact hok b (hcalled.right b hres) _ hcalled.left
    | error e => exact herror e _ hcalled.left
  · exact fun _ => ⟨h, fun _ hr => absurd hr List.not_mem_nil⟩

end Keeps
end Talk
end Coop
