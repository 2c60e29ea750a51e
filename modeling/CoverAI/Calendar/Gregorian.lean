import CoverAI.Calendar.Grid

/-!
# The proleptic Gregorian calendar

Days are numbered from 1970-01-01, months from January of the year 0.  The
first day of a month is written down from the leap year rule and the lengths of
the months; the month of a day is computed by an estimate of the year that is
off by at most one.
-/

namespace Calendar

def IsLeap (y : Int) : Prop :=
  (y % 4 = 0 ∧ y % 100 ≠ 0) ∨ y % 400 = 0

instance (y : Int) : Decidable (IsLeap y) :=
  inferInstanceAs (Decidable ((y % 4 = 0 ∧ y % 100 ≠ 0) ∨ y % 400 = 0))

def leapDay (y : Int) : Int :=
  if IsLeap y then 1 else 0

/-- The leap years from the year 0 up to the year before `y`. -/
def leapDaysBefore (y : Int) : Int :=
  (y + 3) / 4 - (y + 99) / 100 + (y + 399) / 400

/-- The day number of January 1. -/
def yearStart (y : Int) : Int :=
  365 * y + leapDaysBefore y - 719528

def monthLengths (leap : Int) : List Int :=
  [31, 28 + leap, 31, 30, 31, 30, 31, 31, 30, 31, 30, 31]

/-- The days of the year before month `m`, counted from 0. -/
def daysBeforeMonth (leap : Int) (m : Nat) : Int :=
  ((monthLengths leap).take m).sum

/-- The day number of the first day of month number `k`. -/
def monthStart (k : Int) : Int :=
  yearStart (k / 12) + daysBeforeMonth (leapDay (k / 12)) (k % 12).toNat

/-!
# Years
-/

theorem leapDay_nonneg (y : Int) : 0 ≤ leapDay y := by
  unfold leapDay
  split <;> omega

theorem leapDaysBefore_succ (y : Int) :
    leapDaysBefore (y + 1) = leapDaysBefore y + leapDay y := by
  unfold leapDaysBefore leapDay
  by_cases h : IsLeap y
  · rw [if_pos h]
    unfold IsLeap at h
    omega
  · rw [if_neg h]
    unfold IsLeap at h
    omega

theorem yearStart_succ (y : Int) :
    yearStart (y + 1) = yearStart y + 365 + leapDay y := by
  unfold yearStart
  rw [leapDaysBefore_succ]
  omega

/-- The mean length of a year is 146097/400 days. -/
def yearEstimate (d : Int) : Int :=
  (d + 719528) * 400 / 146097

def yearOf (d : Int) : Int :=
  let y := yearEstimate d
  if yearStart (y + 1) ≤ d then y + 1
  else if d < yearStart y then y - 1
  else y

theorem yearStart_estimate_sub_one_le (d : Int) :
    yearStart (yearEstimate d - 1) ≤ d := by
  unfold yearStart leapDaysBefore yearEstimate
  omega

theorem lt_yearStart_estimate_add_two (d : Int) :
    d < yearStart (yearEstimate d + 2) := by
  unfold yearStart leapDaysBefore yearEstimate
  omega

theorem yearStart_yearOf_le (d : Int) : yearStart (yearOf d) ≤ d := by
  unfold yearOf
  simp only
  split
  · assumption
  · split
    · exact yearStart_estimate_sub_one_le d
    · rename_i h
      omega

theorem lt_yearStart_yearOf_succ (d : Int) :
    d < yearStart (yearOf d + 1) := by
  unfold yearOf
  simp only
  split
  · rw [add_assoc]
    exact lt_yearStart_estimate_add_two d
  · split
    · rename_i h
      simpa using h
    · rename_i h _
      omega

/-!
# Blocks of days

The month of a day of the year is found by going through the lengths of the
months.
-/

def locate : List Int -> Int -> Nat
  | [], _ => 0
  | len :: rest, n => if n < len then 0 else locate rest (n - len) + 1

theorem locate_lt_length {lens : List Int} {n : Int} (h : n < lens.sum)
    (hn : 0 ≤ n) : locate lens n < lens.length := by
  induction lens generalizing n with
  | nil =>
      simp only [List.sum_nil] at h
      omega
  | cons len rest ih =>
      simp only [locate, List.length_cons]
      split
      · omega
      · rw [List.sum_cons] at h
        have hrest := ih (n := n - len) (by omega) (by omega)
        omega

theorem sum_take_locate_le {lens : List Int} {n : Int} (hn : 0 ≤ n) :
    (lens.take (locate lens n)).sum ≤ n := by
  induction lens generalizing n with
  | nil => simpa [locate] using hn
  | cons len rest ih =>
      simp only [locate]
      split
      · simpa using hn
      · have hrest := ih (n := n - len) (by omega)
        rw [List.take_succ_cons, List.sum_cons]
        omega

theorem lt_sum_take_locate_succ {lens : List Int} {n : Int}
    (h : n < lens.sum) : n < (lens.take (locate lens n + 1)).sum := by
  induction lens generalizing n with
  | nil => simpa [locate] using h
  | cons len rest ih =>
      rw [List.sum_cons] at h
      simp only [locate]
      split
      · simpa
      · have hrest := ih (n := n - len) (by omega)
        rw [List.take_succ_cons, List.sum_cons]
        omega

theorem sum_take_lt_succ {lens : List Int} {m : Nat} (hm : m < lens.length)
    (hpos : forall len, len ∈ lens -> 0 < len) :
    (lens.take m).sum < (lens.take (m + 1)).sum := by
  have hlen := hpos (lens.get ⟨m, hm⟩) (List.get_mem lens ⟨m, hm⟩)
  have htake : lens.take (m + 1) = lens.take m ++ [lens.get ⟨m, hm⟩] :=
    List.take_succ_eq_append_getElem hm
  rw [htake, List.sum_append, List.sum_singleton]
  omega

/-!
# Months
-/

theorem sum_monthLengths (leap : Int) : (monthLengths leap).sum = 365 + leap := by
  simp [monthLengths]
  omega

theorem pos_of_mem_monthLengths {leap : Int} (hleap : 0 ≤ leap) :
    forall len, len ∈ monthLengths leap -> 0 < len := by
  intro len hlen
  simp only [monthLengths, List.mem_cons, List.not_mem_nil, or_false] at hlen
  omega

/-- The month, counted from 0, of a day of the year. -/
def monthOfYearDay (leap n : Int) : Nat :=
  locate (monthLengths leap) n

def monthOf (d : Int) : Int :=
  12 * yearOf d +
    monthOfYearDay (leapDay (yearOf d)) (d - yearStart (yearOf d))

theorem monthStart_of_lt {m : Nat} (y : Int) (hm : m < 12) :
    monthStart (12 * y + m) = yearStart y + daysBeforeMonth (leapDay y) m := by
  have hdiv : (12 * y + m) / 12 = y := by omega
  have hmod : ((12 * y + m) % 12).toNat = m := by omega
  rw [monthStart, hdiv, hmod]

theorem monthStart_january (y : Int) : monthStart (12 * y) = yearStart y := by
  have h := monthStart_of_lt (m := 0) y (by omega)
  simpa [daysBeforeMonth] using h

/-- The twelfth month ends where the next year starts. -/
theorem monthStart_succ_of_lt {m : Nat} (y : Int) (hm : m < 12) :
    monthStart (12 * y + m + 1) =
      yearStart y + daysBeforeMonth (leapDay y) (m + 1) := by
  by_cases hdec : m = 11
  · have hnext : 12 * y + m + 1 = 12 * (y + 1) := by omega
    have hall : daysBeforeMonth (leapDay y) (m + 1) = 365 + leapDay y := by
      rw [hdec, ← sum_monthLengths]
      rfl
    rw [hnext, monthStart_january, yearStart_succ, hall]
    omega
  · have hnext : 12 * y + m + 1 = 12 * y + ((m + 1 : Nat) : Int) := by omega
    rw [hnext, monthStart_of_lt y (by omega)]

theorem monthStart_lt_succ (k : Int) : monthStart k < monthStart (k + 1) := by
  obtain ⟨y, m, hm, rfl⟩ :
      exists (y : Int) (m : Nat), m < 12 ∧ k = 12 * y + m :=
    ⟨k / 12, (k % 12).toNat, by omega, by omega⟩
  rw [monthStart_of_lt y hm, monthStart_succ_of_lt y hm]
  have hlt : daysBeforeMonth (leapDay y) m <
      daysBeforeMonth (leapDay y) (m + 1) :=
    sum_take_lt_succ hm (pos_of_mem_monthLengths (leapDay_nonneg y))
  omega

theorem yearDay_lt (d : Int) :
    d - yearStart (yearOf d) < (monthLengths (leapDay (yearOf d))).sum := by
  have h := lt_yearStart_yearOf_succ d
  rw [yearStart_succ] at h
  rw [sum_monthLengths]
  omega

theorem monthOfYearDay_lt (d : Int) :
    monthOfYearDay (leapDay (yearOf d)) (d - yearStart (yearOf d)) < 12 :=
  locate_lt_length (yearDay_lt d)
    (Int.sub_nonneg_of_le (yearStart_yearOf_le d))

theorem monthStart_monthOf_le (d : Int) : monthStart (monthOf d) ≤ d := by
  rw [monthOf, monthStart_of_lt _ (monthOfYearDay_lt d)]
  have h : daysBeforeMonth (leapDay (yearOf d))
      (monthOfYearDay (leapDay (yearOf d)) (d - yearStart (yearOf d))) ≤
        d - yearStart (yearOf d) :=
    sum_take_locate_le (Int.sub_nonneg_of_le (yearStart_yearOf_le d))
  omega

theorem lt_monthStart_monthOf_succ (d : Int) :
    d < monthStart (monthOf d + 1) := by
  rw [monthOf, monthStart_succ_of_lt _ (monthOfYearDay_lt d)]
  have h := lt_sum_take_locate_succ (yearDay_lt d)
  unfold daysBeforeMonth monthOfYearDay
  omega

def months : Grid where
  start := monthStart
  index := monthOf
  start_lt_succ := monthStart_lt_succ
  start_index_le := monthStart_monthOf_le
  lt_start_succ := lt_monthStart_monthOf_succ

example : monthStart (12 * 2024 + 2) - monthStart (12 * 2024 + 1) = 29 := by
  decide

end Calendar
