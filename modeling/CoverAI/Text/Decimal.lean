import Mathlib.Algebra.Order.Group.Int

/-!
# Decimal literals

The literal of an integer is made of digits after an optional sign, and it
tells the integer.
-/

namespace CoverAI
namespace Decimal

theorem isDigit_of_mem {n : Nat} {c : Char} (h : c ∈ Nat.toDigits 10 n) :
    c.isDigit = true :=
  Nat.isDigit_of_mem_toDigits (by decide) (by decide) h

theorem toDigits_inj {m n : Nat} :
    Nat.toDigits 10 m = Nat.toDigits 10 n <-> m = n := by
  constructor
  · intro h
    rw [<- @Nat.ofDigitChars_ten_toDigits m, h, Nat.ofDigitChars_ten_toDigits]
  · exact congrArg (Nat.toDigits 10)

theorem toList_toString_natCast (n : Nat) :
    (toString (n : Int)).toList = Nat.toDigits 10 n :=
  Nat.toList_repr

theorem toList_toString_negSucc (n : Nat) :
    (toString (Int.negSucc n)).toList = '-' :: Nat.toDigits 10 (n + 1) := by
  change ("-" ++ Nat.repr (n + 1)).toList = _
  rw [String.toList_append, Nat.toList_repr]
  rfl

theorem minus_not_mem_toDigits (n : Nat) : '-' ∉ Nat.toDigits 10 n := by
  intro h
  exact absurd (isDigit_of_mem h) (by decide)

theorem mem_toString {i : Int} {c : Char} (h : c ∈ (toString i).toList) :
    c.isDigit = true ∨ c = '-' := by
  cases i with
  | ofNat n =>
      change c ∈ (toString (n : Int)).toList at h
      rw [toList_toString_natCast] at h
      exact Or.inl (isDigit_of_mem h)
  | negSucc n =>
      rw [toList_toString_negSucc] at h
      rcases List.mem_cons.mp h with hminus | hdigit
      · exact Or.inr hminus
      · exact Or.inl (isDigit_of_mem hdigit)

theorem toString_injective {i j : Int} (h : toString i = toString j) :
    i = j := by
  have hlists := congrArg String.toList h
  cases i with
  | ofNat m =>
      change (toString (m : Int)).toList = _ at hlists
      rw [toList_toString_natCast] at hlists
      cases j with
      | ofNat n =>
          change _ = (toString (n : Int)).toList at hlists
          rw [toList_toString_natCast, toDigits_inj] at hlists
          rw [hlists]
      | negSucc n =>
          rw [toList_toString_negSucc] at hlists
          exact absurd (hlists ▸ List.mem_cons_self) (minus_not_mem_toDigits m)
  | negSucc m =>
      rw [toList_toString_negSucc] at hlists
      cases j with
      | ofNat n =>
          change _ = (toString (n : Int)).toList at hlists
          rw [toList_toString_natCast] at hlists
          exact absurd (hlists ▸ List.mem_cons_self) (minus_not_mem_toDigits n)
      | negSucc n =>
          rw [toList_toString_negSucc, List.cons.injEq, toDigits_inj] at hlists
          rw [Nat.succ.inj hlists.right]

end Decimal
end CoverAI
