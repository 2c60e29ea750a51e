import Mathlib.Data.List.Basic
import Mathlib.Data.List.Chain

/-!
# Lines

Pieces that are joined with a separator and split again: a piece comes back as
one piece exactly when the separator does not occur in it.
-/

namespace CoverAI
namespace Lines

theorem not_of_mem_splitOnP {α : Type} {p : α -> Bool} {xs piece : List α}
    {a : α} (hpiece : piece ∈ xs.splitOnP p) (ha : a ∈ piece) :
    p a = false := by
  induction xs generalizing piece with
  | nil =>
      cases List.mem_singleton.mp hpiece
      cases ha
  | cons x xs ih =>
      rw [List.splitOnP_cons_eq_if_modifyHead] at hpiece
      split at hpiece
      · rcases List.mem_cons.mp hpiece with rfl | hrest
        · cases ha
        · exact ih hrest ha
      · rename_i hx
        rcases List.exists_cons_of_ne_nil (List.splitOnP_ne_nil p xs) with
          ⟨first, rest, hsplit⟩
        rw [hsplit] at hpiece
        rcases List.mem_cons.mp hpiece with rfl | hrest
        · rcases List.mem_cons.mp ha with rfl | hfirst
          · exact Bool.eq_false_iff.mpr hx
          · exact ih (by rw [hsplit]; exact List.mem_cons_self) hfirst
        · exact ih (by rw [hsplit]; exact List.mem_cons_of_mem first hrest) ha

section Pieces

variable {α : Type} [DecidableEq α] {a : α}

theorem splitOn_intercalate_eq {xss : List (List α)} (h : xss ≠ []) :
    ([a].intercalate xss).splitOn a = xss.flatMap (List.splitOn a) := by
  induction xss with
  | nil => exact absurd rfl h
  | cons xs rest ih =>
      cases rest with
      | nil => rw [List.intercalate_singleton, List.flatMap_singleton]
      | cons ys rest =>
          rw [List.intercalate_cons_cons, List.append_assoc,
            List.singleton_append, List.splitOn_append_cons_self,
            ih (List.cons_ne_nil ys rest)]
          rfl

theorem one_le_length_splitOn (xs : List α) :
    1 ≤ (xs.splitOn a).length :=
  List.length_pos_iff.mpr (List.splitOn_ne_nil a xs)

theorem two_le_length_splitOn {xs : List α} (h : a ∈ xs) :
    2 ≤ (xs.splitOn a).length := by
  rcases List.append_of_mem h with ⟨ys, zs, rfl⟩
  rw [List.splitOn_append_cons_self, List.length_append]
  have hys := one_le_length_splitOn (a := a) ys
  have hzs := one_le_length_splitOn (a := a) zs
  omega

theorem length_le_flatMap_splitOn (xss : List (List α)) :
    xss.length ≤ (xss.flatMap (List.splitOn a)).length := by
  induction xss with
  | nil => exact Nat.le_refl 0
  | cons xs xss ih =>
      rw [List.flatMap_cons, List.length_append, List.length_cons]
      have hxs := one_le_length_splitOn (a := a) xs
      omega

theorem flatMap_splitOn_eq_self_iff (xss : List (List α)) :
    xss.flatMap (List.splitOn a) = xss <-> forall xs, xs ∈ xss -> a ∉ xs := by
  constructor
  · intro h
    induction xss with
    | nil =>
        intro xs hxs
        cases hxs
    | cons xs xss ih =>
        have hnot : a ∉ xs := by
          intro hmem
          have hlength := congrArg List.length h
          rw [List.flatMap_cons, List.length_append, List.length_cons] at hlength
          have htwo := two_le_length_splitOn hmem
          have hrest := length_le_flatMap_splitOn (a := a) xss
          omega
        rw [List.flatMap_cons, List.splitOn_eq_singleton hnot,
          List.singleton_append, List.cons.injEq] at h
        intro ys hys
        rcases List.mem_cons.mp hys with rfl | hold
        · exact hnot
        · exact ih h.right ys hold
  · intro h
    induction xss with
    | nil => rfl
    | cons xs xss ih =>
        rw [List.flatMap_cons, List.splitOn_eq_singleton (h xs List.mem_cons_self),
          ih fun ys hys => h ys (List.mem_cons_of_mem xs hys),
          List.singleton_append]

end Pieces

/-!
# Words

Words that are joined with single separators: the length is known, and no two
separators are neighbours.
-/

section Words

variable {α : Type} {p : α -> Bool} {a : α} {words : List (List α)}

theorem length_intercalate (words : List (List α)) :
    ([a].intercalate words).length =
      words.flatten.length + (words.length - 1) := by
  induction words with
  | nil => rfl
  | cons word rest ih =>
      cases rest with
      | nil => simp
      | cons next rest =>
          rw [List.intercalate_cons_cons, List.length_append,
            List.length_append, ih]
          simp only [List.flatten_cons, List.length_append, List.length_cons,
            List.length_nil]
          omega

/-- No two neighbours satisfy the predicate. -/
def Separated (p : α -> Bool) (xs : List α) : Prop :=
  xs.IsChain fun a b => p a = true -> p b = false

def IsWord (p : α -> Bool) (word : List α) : Prop :=
  word ≠ [] ∧ forall a, a ∈ word -> p a = false

theorem head?_intercalate {word : List α} (hword : word ≠ [])
    (rest : List (List α)) :
    ([a].intercalate (word :: rest)).head? = word.head? := by
  cases rest with
  | nil => rw [List.intercalate_singleton]
  | cons next rest =>
      rw [List.intercalate_cons_cons, List.append_assoc,
        List.head?_append_of_ne_nil _ hword]

theorem IsWord.separated {word : List α} (h : IsWord p word) :
    Separated p word := by
  apply List.Pairwise.isChain
  apply List.pairwise_of_forall_mem_list
  intro a ha b _ hpa
  rw [h.right a ha] at hpa
  cases hpa

theorem separated_intercalate (h : forall word, word ∈ words -> IsWord p word) :
    Separated p ([a].intercalate words) := by
  induction words with
  | nil => exact List.IsChain.nil
  | cons word rest ih =>
      rw [List.forall_mem_cons] at h
      cases rest with
      | nil =>
          rw [List.intercalate_singleton]
          exact h.left.separated
      | cons next rest =>
          have hnext := h.right next List.mem_cons_self
          rw [List.intercalate_cons_cons, List.append_assoc,
            List.singleton_append, Separated, List.isChain_append,
            List.isChain_cons]
          refine ⟨h.left.separated, ⟨?_, ih h.right⟩, ?_⟩
          · intro b hb _
            rw [head?_intercalate hnext.left] at hb
            exact hnext.right b (List.mem_of_mem_head? hb)
          · intro b hb c _ hpb
            rw [h.left.right b (List.mem_of_mem_getLast? hb)] at hpb
            cases hpb

/-- Two neighbours that are left cannot both satisfy the predicate. -/
theorem Separated.not_all_drop {xs : List α} {k : Nat} (h : Separated p xs)
    (hk : k + 2 ≤ xs.length) : ¬ forall a, a ∈ xs.drop k -> p a = true := by
  intro hall
  have hchain : Separated p (xs.drop k) := List.IsChain.drop h k
  have hlength : 2 ≤ (xs.drop k).length := by
    rw [List.length_drop]
    omega
  rcases List.exists_cons_of_length_pos (by omega : 0 < (xs.drop k).length) with
    ⟨b, rest, hb⟩
  rw [hb] at hall hchain hlength
  cases rest with
  | nil =>
      rw [List.length_singleton] at hlength
      omega
  | cons c rest =>
      rw [Separated, List.isChain_cons_cons] at hchain
      have hc := hall c (List.mem_cons_of_mem b List.mem_cons_self)
      rw [hchain.left (hall b List.mem_cons_self)] at hc
      cases hc

end Words

/-!
# Texts
-/

/-- `text.split("\n")` -/
def splitLines (text : String) : List String :=
  (text.toList.splitOn '\n').map String.ofList

/-- `"\n".join(lines)` -/
def joinLines (lines : List String) : String :=
  "\n".intercalate lines

/-- The text is a line: no newline occurs in it. -/
def IsLine (text : String) : Prop :=
  '\n' ∉ text.toList

instance (text : String) : Decidable (IsLine text) :=
  inferInstanceAs (Decidable ('\n' ∉ text.toList))

theorem isLine_append {text more : String} :
    IsLine (text ++ more) <-> IsLine text ∧ IsLine more := by
  rw [IsLine, String.toList_append, List.mem_append, not_or]
  rfl

theorem isLine_ofList {cs : List Char} :
    IsLine (String.ofList cs) <-> '\n' ∉ cs := by
  rw [IsLine, String.toList_ofList]

theorem isLine_intercalate {separator : String} (hsep : IsLine separator)
    (texts : List String) :
    IsLine (separator.intercalate texts) <->
      forall text, text ∈ texts -> IsLine text := by
  induction texts with
  | nil =>
      constructor
      · intro _ text htext
        cases htext
      · intro _
        exact of_decide_eq_true rfl
  | cons text rest ih =>
      rw [List.forall_mem_cons]
      cases rest with
      | nil =>
          rw [String.intercalate_singleton]
          constructor
          · intro h
            constructor
            · exact h
            · intro other hother
              cases hother
          · intro h
            exact h.left
      | cons next rest =>
          rw [String.intercalate_cons_cons, isLine_append, isLine_append, ih,
            and_iff_left hsep]

theorem splitLines_joinLines {lines : List String} (h : lines ≠ []) :
    splitLines (joinLines lines) = lines.flatMap splitLines := by
  have hne : lines.map String.toList ≠ [] := by
    intro hnil
    exact h (List.map_eq_nil_iff.mp hnil)
  rw [splitLines, joinLines, String.toList_intercalate]
  change (List.splitOn '\n' (['\n'].intercalate (lines.map String.toList))).map
    String.ofList = _
  rw [splitOn_intercalate_eq hne, List.flatMap_map, List.map_flatMap]
  rfl

theorem flatMap_splitLines_eq_self_iff (lines : List String) :
    lines.flatMap splitLines = lines <->
      forall text, text ∈ lines -> IsLine text := by
  have hlists : lines.flatMap splitLines =
      ((lines.map String.toList).flatMap (List.splitOn '\n')).map
        String.ofList := by
    rw [List.flatMap_map, List.map_flatMap]
    rfl
  have hback : (lines.map String.toList).map String.ofList = lines := by
    rw [List.map_map]
    exact (List.map_congr_left fun text _ => String.ofList_toList).trans
      (List.map_id lines)
  rw [hlists]
  have hinj : Function.Injective (List.map String.ofList) :=
    List.map_injective_iff.mpr fun _ _ h => String.ofList_inj.mp h
  constructor
  · intro h text htext
    have hpieces := hinj (h.trans hback.symm)
    exact (flatMap_splitOn_eq_self_iff _).mp hpieces text.toList
      (List.mem_map_of_mem htext)
  · intro h
    have hpieces := (flatMap_splitOn_eq_self_iff
      (a := '\n') (lines.map String.toList)).mpr (by
        intro xs hxs
        rcases List.mem_map.mp hxs with ⟨text, htext, rfl⟩
        exact h text htext)
    rw [hpieces, hback]

/-- A text with known lines in front splits into these and the rest. -/
theorem splitLines_joinLines_append_iff {front lines : List String}
    (h : lines ≠ []) :
    splitLines (joinLines (front ++ lines)) =
        front.flatMap splitLines ++ lines <->
      forall text, text ∈ lines -> IsLine text := by
  have hne : front ++ lines ≠ [] := by
    intro hnil
    exact h (List.append_eq_nil_iff.mp hnil).right
  rw [splitLines_joinLines hne, List.flatMap_append, List.append_cancel_left_eq]
  exact flatMap_splitLines_eq_self_iff lines

end Lines
end CoverAI
