import Mathlib.Data.List.Basic

/-!
# Computations that may fail
-/

namespace CoverAI
namespace Fallible

variable {ε α β : Type} {P : ε -> Prop}

def Returns (x : Except ε α) : Prop :=
  exists a, x = .ok a

theorem bind_eq_ok_iff {x : Except ε α} {f : α -> Except ε β} {b : β} :
    x.bind f = .ok b <-> exists a, x = .ok a ∧ f a = .ok b := by
  cases x with
  | error e =>
      constructor
      · intro h
        cases h
      · intro hsteps
        rcases hsteps with ⟨a, ha, _⟩
        cases ha
  | ok a =>
      constructor
      · exact fun h => ⟨a, rfl, h⟩
      · intro hsteps
        rcases hsteps with ⟨a', ha', h⟩
        cases ha'
        exact h

end Fallible
end CoverAI
