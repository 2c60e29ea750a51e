import Mathlib.Order.Monotone.Basic
import Mathlib.Order.Bounds.Defs
import Mathlib.Algebra.Order.Group.Int
import Mathlib.Data.Int.SuccPred

/-!
# Periods of time

A grid cuts the time line into consecutive periods, numbered by the integers,
and finds the number of the period an instant lies in.  The floor of an instant
is the start of its period.
-/

namespace Calendar

structure Grid where
  start : Int -> Int
  index : Int -> Int
  start_lt_succ : forall k, start k < start (k + 1)
  start_index_le : forall t, start (index t) ≤ t
  lt_start_succ : forall t, t < start (index t + 1)

namespace Grid

variable (G : Grid)

theorem start_lt_start_iff {m n : Int} : G.start m < G.start n <-> m < n :=
  (strictMono_int_of_lt_succ G.start_lt_succ).lt_iff_lt

theorem start_le_start_iff {m n : Int} : G.start m ≤ G.start n <-> m ≤ n :=
  (strictMono_int_of_lt_succ G.start_lt_succ).le_iff_le

def floor (t : Int) : Int :=
  G.start (G.index t)

theorem floor_le (t : Int) : G.floor t ≤ t :=
  G.start_index_le t

/-- The floor is the latest start that is not after the instant. -/
theorem start_le_floor {t k : Int} (h : G.start k ≤ t) :
    G.start k ≤ G.floor t := by
  have hlt : k < G.index t + 1 := by
    rw [← G.start_lt_start_iff]
    exact lt_of_le_of_lt h (G.lt_start_succ t)
  exact G.start_le_start_iff.mpr (by omega)

theorem floor_mono {s t : Int} (h : s ≤ t) : G.floor s ≤ G.floor t :=
  G.start_le_floor ((G.floor_le s).trans h)

/-- The period of an instant is the one whose bounds it lies between. -/
theorem index_eq_iff {t k : Int} :
    G.index t = k <-> G.start k ≤ t ∧ t < G.start (k + 1) := by
  constructor
  · intro h
    rw [<- h]
    exact ⟨G.start_index_le t, G.lt_start_succ t⟩
  · intro h
    have hle : k < G.index t + 1 := by
      rw [<- G.start_lt_start_iff]
      exact lt_of_le_of_lt h.left (G.lt_start_succ t)
    have hge : G.index t < k + 1 := by
      rw [<- G.start_lt_start_iff]
      exact lt_of_le_of_lt (G.start_index_le t) h.right
    omega

theorem index_start (k : Int) : G.index (G.start k) = k :=
  G.index_eq_iff.mpr ⟨le_refl _, G.start_lt_succ k⟩

theorem floor_start (k : Int) : G.floor (G.start k) = G.start k := by
  rw [floor, index_start]

theorem floor_floor (t : Int) : G.floor (G.floor t) = G.floor t :=
  G.floor_start (G.index t)

theorem floor_eq_floor_iff {s t : Int} :
    G.floor s = G.floor t <-> G.index s = G.index t := by
  constructor
  · intro h
    rw [<- G.index_start (G.index s), <- G.index_start (G.index t)]
    exact congrArg G.index h
  · intro h
    rw [floor, h, floor]

theorem isGreatest_floor (t : Int) :
    IsGreatest {s | (exists k, s = G.start k) ∧ s ≤ t} (G.floor t) := by
  constructor
  · exact ⟨⟨G.index t, rfl⟩, G.floor_le t⟩
  · intro s hs
    rcases hs with ⟨⟨k, rfl⟩, hle⟩
    exact G.start_le_floor hle

/-- A grid of whole units, shifted: unit `d` is the interval from
`d * unit - offset` on. -/
def scale (unit offset : Int) (hunit : 0 < unit) : Grid where
  start := fun k => G.start k * unit - offset
  index := fun t => G.index ((t + offset) / unit)
  start_lt_succ := by
    intro k
    have h := Int.mul_lt_mul_of_pos_right (G.start_lt_succ k) hunit
    omega
  start_index_le := by
    intro t
    have h := Int.mul_le_mul_of_nonneg_right
      (G.start_index_le ((t + offset) / unit)) (Int.le_of_lt hunit)
    have hdiv := Int.ediv_mul_le (t + offset) (ne_of_gt hunit)
    omega
  lt_start_succ := by
    intro t
    have h : (t + offset) / unit + 1 ≤
        G.start (G.index ((t + offset) / unit) + 1) :=
      G.lt_start_succ ((t + offset) / unit)
    have hmul := Int.mul_le_mul_of_nonneg_right h (Int.le_of_lt hunit)
    have hdiv := Int.lt_ediv_add_one_mul_self (t + offset) hunit
    omega

/-- Every unit is a period of its own. -/
def units : Grid where
  start := fun k => k
  index := fun t => t
  start_lt_succ := by
    intro k
    omega
  start_index_le := fun t => le_refl t
  lt_start_succ := by
    intro t
    omega

/-- A shifted unit starts in the unit before, or in the same one, depending on
where in its unit the instant lies. -/
theorem floor_units_scale (unit offset : Int) (hunit : 0 < unit)
    (hoffset : 0 ≤ offset) (hle : offset ≤ unit) (t : Int) :
    (units.scale unit offset hunit).floor t =
      if t % unit < unit - offset then t - t % unit - offset
      else t - t % unit + (unit - offset) := by
  change (t + offset) / unit * unit - offset = _
  have hmod := Int.emod_add_mul_ediv t unit
  have hnonneg := Int.emod_nonneg t (ne_of_gt hunit)
  have hlt := Int.emod_lt_of_pos t hunit
  split
  · have hdiv : (t + offset) / unit = t / unit :=
      ((Int.ediv_emod_unique (r := t % unit + offset) hunit).mpr
        ⟨by omega, by omega, by omega⟩).left
    rw [hdiv, Int.mul_comm]
    omega
  · have hunits : t % unit + offset - unit + unit * (t / unit + 1) =
        t + offset := by
      rw [Int.mul_add]
      omega
    have hdiv : (t + offset) / unit = t / unit + 1 :=
      ((Int.ediv_emod_unique (r := t % unit + offset - unit) hunit).mpr
        ⟨hunits, by omega, by omega⟩).left
    rw [hdiv, Int.add_mul, Int.mul_comm]
    omega

end Grid
end Calendar
