import Mathlib.Data.List.DropRight
import Mathlib.Data.List.TakeWhile

/-!
# Scanning of lists

A scan takes what satisfies a predicate and stops where the rest begins.
-/

namespace CoverAI
namespace Scan

variable {α : Type} {p : α -> Bool} {xs ys : List α}

/-- A scan for `p` stops at the head of the list, or the list is empty. -/
def Stops (p : α -> Bool) (ys : List α) : Prop :=
  forall a, ys.head? = some a -> p a = false

theorem stops_nil : Stops p [] :=
  fun _ h => by cases h

theorem stops_cons {a : α} (h : p a = false) : Stops p (a :: ys) := by
  intro b hb
  cases hb
  exact h

theorem Stops.mono {q : α -> Bool} (h : Stops p ys)
    (himp : forall a, p a = false -> q a = false) : Stops q ys :=
  fun a ha => himp a (h a ha)

theorem Stops.takeWhile_eq (h : Stops p ys) : ys.takeWhile p = [] := by
  cases ys with
  | nil => rfl
  | cons a ys =>
      rw [List.takeWhile_cons, h a rfl]
      rfl

theorem takeWhile_append_stops (hxs : forall a, a ∈ xs -> p a = true)
    (hys : Stops p ys) : (xs ++ ys).takeWhile p = xs := by
  rw [List.takeWhile_append_of_pos hxs, hys.takeWhile_eq, List.append_nil]

theorem takeWhile_append_of_stops (hys : Stops p ys) :
    (xs ++ ys).takeWhile p = xs.takeWhile p := by
  rw [List.takeWhile_append]
  split
  · rename_i hall
    rw [hys.takeWhile_eq, List.append_nil]
    exact (List.takeWhile_prefix p).eq_of_length hall |>.symm
  · rfl

theorem rdropWhile_append_of_all (hys : forall a, a ∈ ys -> p a = true) :
    (xs ++ ys).rdropWhile p = xs.rdropWhile p := by
  rw [List.rdropWhile, List.reverse_append,
    List.dropWhile_append_of_pos fun a ha => hys a (List.mem_reverse.mp ha),
    List.rdropWhile]

theorem rdropWhile_append_cons {a : α} (ha : p a = false) :
    (xs ++ a :: ys).rdropWhile p = xs ++ a :: ys.rdropWhile p := by
  induction ys using List.reverseRecOn with
  | nil =>
      rw [List.rdropWhile_concat_neg]
      · rfl
      · rw [ha]
        decide
  | append_singleton ys b ih =>
      rw [← List.cons_append, ← List.append_assoc]
      cases hb : p b with
      | true =>
          rw [List.rdropWhile_concat_pos _ _ _ hb, ih,
            List.rdropWhile_concat_pos _ _ _ hb]
      | false =>
          have hneg : ¬ p b = true := by
            rw [hb]
            decide
          rw [List.rdropWhile_concat_neg _ _ _ hneg,
            List.rdropWhile_concat_neg _ _ _ hneg, List.append_assoc]
          rfl

end Scan
end CoverAI
