import CoverAI.Text.Scan

/-!
# Trimming of lists

What satisfies a predicate is taken off both ends.  A list is trimmed when
neither end satisfies it, and these are the lists that trimming leaves alone.
-/

namespace CoverAI
namespace Scan

variable {α : Type} {p : α -> Bool} {xs : List α}

def trim (p : α -> Bool) (xs : List α) : List α :=
  (xs.dropWhile p).rdropWhile p

def Unpadded (p : α -> Bool) (xs : List α) : Prop :=
  Stops p xs ∧ Stops p xs.reverse

theorem stops_dropWhile (xs : List α) : Stops p (xs.dropWhile p) := by
  intro a ha
  have hne : xs.dropWhile p ≠ [] := by
    intro hnil
    rw [hnil] at ha
    cases ha
  rw [List.head?_eq_some_head hne] at ha
  cases ha
  exact List.head_dropWhile_not p hne

theorem Stops.dropWhile_eq (h : Stops p xs) : xs.dropWhile p = xs := by
  cases xs with
  | nil => rfl
  | cons a xs => rw [List.dropWhile_cons, h a rfl, if_neg (by decide)]

/-- What is left of a list still begins where the list does. -/
theorem Stops.of_isPrefix {ys : List α} (h : Stops p xs) (hys : ys <+: xs) :
    Stops p ys := by
  rcases hys with ⟨rest, rfl⟩
  cases ys with
  | nil => exact stops_nil
  | cons a ys => exact stops_cons (h a rfl)

theorem stops_reverse_rdropWhile (xs : List α) :
    Stops p (xs.rdropWhile p).reverse := by
  rw [List.rdropWhile, List.reverse_reverse]
  exact stops_dropWhile _

/-- What is left has at most so many elements exactly if those after them are
taken off. -/
theorem length_rdropWhile_le_iff {k : Nat} (xs : List α) :
    (xs.rdropWhile p).length ≤ k <->
      forall a, a ∈ xs.drop k -> p a = true := by
  constructor
  · intro hlength a ha
    have hsplit : xs.rdropWhile p ++ xs.rtakeWhile p = xs :=
      List.rdropWhile_append_rtakeWhile
    rw [<- hsplit, List.drop_append, List.drop_eq_nil_of_le hlength,
      List.nil_append] at ha
    exact List.mem_rtakeWhile_imp (List.mem_of_mem_drop ha)
  · intro hall
    have hfront : (xs.take k ++ xs.drop k).rdropWhile p =
        (xs.take k).rdropWhile p := rdropWhile_append_of_all hall
    rw [List.take_append_drop] at hfront
    rw [hfront]
    exact (List.rdropWhile_prefix p _).length_le.trans
      (List.length_take_le k xs)

theorem unpadded_trim (xs : List α) : Unpadded p (trim p xs) :=
  ⟨(stops_dropWhile xs).of_isPrefix (List.rdropWhile_prefix p _),
    stops_reverse_rdropWhile _⟩

theorem Unpadded.trim_eq (h : Unpadded p xs) : trim p xs = xs := by
  rw [trim, h.left.dropWhile_eq, List.rdropWhile, h.right.dropWhile_eq,
    List.reverse_reverse]

theorem trim_eq_self_iff : trim p xs = xs <-> Unpadded p xs := by
  constructor
  · intro h
    rw [← h]
    exact unpadded_trim xs
  · exact Unpadded.trim_eq

/-- A trimmed list that is cut is trimmed again unless the cut leaves padding
at its new end. -/
theorem Unpadded.take_iff {n : Nat} (h : Unpadded p xs) :
    Unpadded p (xs.take n) <-> Stops p (xs.take n).reverse := by
  constructor
  · intro htake
    exact htake.right
  · intro htail
    exact ⟨h.left.of_isPrefix (List.take_prefix n xs), htail⟩

/-- A cut within a list ends with the element before the cut. -/
theorem stops_reverse_take_iff {n : Nat} (hle : n + 1 ≤ xs.length) :
    Stops p (xs.take (n + 1)).reverse <->
      forall a, xs[n]? = some a -> p a = false := by
  have hsome : xs[n]? = some xs[n] := List.getElem?_eq_getElem hle
  rw [Stops, List.head?_reverse, List.getLast?_take, if_neg (by omega),
    Nat.add_sub_cancel, hsome, Option.some_or]

end Scan
end CoverAI
