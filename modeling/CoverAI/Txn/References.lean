import Mathlib.Data.List.Perm.Subperm
import CoverAI.Txn.Table

/-!
# What the rows of a table give

Each row under its key gives some facts: that it is there, what its columns
hold, which other rows it refers to.  This module has what an insertion and an
update make of the facts of a whole table.
-/

namespace Txn
namespace Table

variable {row φ : Type} {check : row -> Bool}

/-- Some row of the table gives the fact. -/
def Gives (T : Table row check) (gives : Int -> row -> List φ) (f : φ) : Prop :=
  exists id r, T.get id = some r ∧ f ∈ gives id r

variable {T : Table row check} {gives : Int -> row -> List φ} {id : Int}
  {r : row} {f : φ}

theorem gives_of_gives_insert (h : (T.insert id r).Gives gives f) :
    T.Gives gives f ∨ f ∈ gives id r := by
  rcases h with ⟨k, found, hget, hf⟩
  rw [get_insert] at hget
  split at hget
  · rename_i hnew
    cases hget
    rw [hnew.left] at hf
    exact Or.inr hf
  · exact Or.inl ⟨k, found, hget, hf⟩

theorem gives_insert (hfree : T.get id = none) (hcheck : check r = true) :
    (T.insert id r).Gives gives f <-> T.Gives gives f ∨ f ∈ gives id r := by
  constructor
  · exact gives_of_gives_insert
  · intro h
    rcases h with hold | hnew
    · rcases hold with ⟨k, found, hget, hf⟩
      exact ⟨k, found, get_insert_of_some hget id r, hf⟩
    · exact ⟨id, r, get_insert_self hfree hcheck, hnew⟩

theorem gives_of_gives_modify {g : row -> row} {P : φ -> Prop}
    (hg : forall r f, f ∈ gives id (g r) -> f ∈ gives id r ∨ P f)
    (h : (T.modify id g).Gives gives f) : T.Gives gives f ∨ P f := by
  rcases h with ⟨k, found, hget, hf⟩
  rw [get_modify] at hget
  split at hget
  · rename_i hk
    subst hk
    rcases Option.map_eq_some_iff.mp hget with ⟨old, hold, rfl⟩
    unfold checkedUpdate at hf
    split at hf
    · rcases hg old f hf with hkept | hnew
      · exact Or.inl ⟨k, old, hold, hkept⟩
      · exact Or.inr hnew
    · exact Or.inl ⟨k, old, hold, hf⟩
  · exact Or.inl ⟨k, found, hget, hf⟩

/-- An update of columns that no fact is about. -/
theorem gives_modify {g : row -> row}
    (hg : forall r, gives id (g r) = gives id r) :
    (T.modify id g).Gives gives f <-> T.Gives gives f := by
  constructor
  · intro h
    have hsame : forall r f, f ∈ gives id (g r) -> f ∈ gives id r ∨ False :=
      fun r f hf => Or.inl (hg r ▸ hf)
    rcases gives_of_gives_modify hsame h with hkept | hfalse
    · exact hkept
    · exact hfalse.elim
  · intro h
    rcases h with ⟨k, found, hget, hf⟩
    by_cases hk : k = id
    · subst hk
      refine ⟨k, checkedUpdate check g found, ?_, ?_⟩
      · rw [get_modify_self, hget, Option.map_some]
      · unfold checkedUpdate
        split
        · rw [hg]
          exact hf
        · exact hf
    · exact ⟨k, found, (get_modify_of_ne T hk g).trans hget, hf⟩

theorem get_modify_eq_none {k : Int} (h : T.get k = none) (id : Int)
    (g : row -> row) : (T.modify id g).get k = none := by
  rw [get_modify]
  split
  · rename_i hk
    rw [← hk, h]
    rfl
  · exact h

/-!
# Counting through references
-/

/-- If each row of one kind is referred to by a row of another kind, there are
no fewer of these. -/
theorem count_le_of_referred {row' : Type} {check' : row' -> Bool}
    {U : Table row' check'} {p : row -> Bool} {q : row' -> Bool}
    (ref : row' -> Int)
    (h : forall id r, T.get id = some r -> p r = true ->
      exists k r', U.get k = some r' ∧ q r' = true ∧ ref r' = id) :
    T.count p ≤ U.count q := by
  let keys := (T.rows.filter fun entry => p entry.2).map Prod.fst
  let refs := (U.rows.filter fun entry => q entry.2).map fun entry => ref entry.2
  have hnodup : keys.Nodup :=
    T.keysNodup.sublist (List.filter_sublist.map Prod.fst)
  have hsubset : keys ⊆ refs := by
    intro id hid
    rcases List.mem_map.mp hid with ⟨⟨key, r⟩, hmem, rfl⟩
    rcases List.mem_filter.mp hmem with ⟨hrow, hp⟩
    rcases h key r (get_of_mem hrow) hp with ⟨k, r', hget, hq, href⟩
    apply List.mem_map.mpr
    exact ⟨(k, r'), List.mem_filter.mpr ⟨mem_of_get hget, hq⟩, href⟩
  calc T.count p = keys.length := by
        rw [count, List.countP_eq_length_filter, List.length_map]
    _ ≤ refs.length := (hnodup.subperm hsubset).length_le
    _ = U.count q := by
        rw [count, List.countP_eq_length_filter, List.length_map]

end Table
end Txn
