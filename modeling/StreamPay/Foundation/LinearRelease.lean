import Mathlib.Algebra.Order.Ring.Int
import Mathlib.Tactic.Linarith
import Mathlib.Tactic.Ring

/-!
# Linear release in whole units

A total that is released linearly over a window has released, after a part of
the window, the corresponding share of the total rounded down.  This file gives
the bounds of the rounded share, its monotonicity in each argument and what is
lost by splitting a total into parts.
-/

namespace Foundation

/-- The share of `total` released after `elapsed` out of `duration`, in whole units. -/
def released (total elapsed duration : ℤ) : ℤ :=
  total * elapsed / duration

section

variable {total elapsed duration : ℤ}

theorem released_nonneg (totalNonneg : 0 ≤ total) (elapsedNonneg : 0 ≤ elapsed)
    (window : 0 < duration) : 0 ≤ released total elapsed duration :=
  Int.ediv_nonneg (Int.mul_nonneg totalNonneg elapsedNonneg) window.le

/-- Before the end of the window something is still withheld. -/
theorem released_lt_total (totalPos : 0 < total) (window : 0 < duration)
    (beforeEnd : elapsed < duration) : released total elapsed duration < total := by
  simp only [released]
  rw [Int.ediv_lt_iff_lt_mul window]
  exact Int.mul_lt_mul_of_pos_left beforeEnd totalPos

theorem released_le_total (totalNonneg : 0 ≤ total) (window : 0 < duration)
    (byEnd : elapsed ≤ duration) : released total elapsed duration ≤ total := by
  simp only [released]
  apply Int.ediv_le_of_le_mul window
  exact Int.mul_le_mul_of_nonneg_left byEnd totalNonneg

theorem released_mono_elapsed {later : ℤ} (totalNonneg : 0 ≤ total) (window : 0 < duration)
    (order : elapsed ≤ later) :
    released total elapsed duration ≤ released total later duration := by
  simp only [released]
  apply Int.ediv_le_ediv window
  exact Int.mul_le_mul_of_nonneg_left order totalNonneg

theorem released_mono_total {larger : ℤ} (elapsedNonneg : 0 ≤ elapsed) (window : 0 < duration)
    (order : total ≤ larger) :
    released total elapsed duration ≤ released larger elapsed duration := by
  simp only [released]
  apply Int.ediv_le_ediv window
  exact Int.mul_le_mul_of_nonneg_right order elapsedNonneg

/-- A longer window releases at most as much after the same time. -/
theorem released_anti_duration {longer : ℤ} (totalNonneg : 0 ≤ total) (elapsedNonneg : 0 ≤ elapsed)
    (window : 0 < duration) (order : duration ≤ longer) :
    released total elapsed longer ≤ released total elapsed duration := by
  have kept : 0 ≤ released total elapsed longer :=
    released_nonneg totalNonneg elapsedNonneg (window.trans_le order)
  have bound : released total elapsed longer * longer ≤ total * elapsed :=
    Int.ediv_mul_le (total * elapsed) (window.trans_le order).ne'
  rw [released, released, Int.le_ediv_iff_mul_le window]
  calc released total elapsed longer * duration
      ≤ released total elapsed longer * longer := Int.mul_le_mul_of_nonneg_left order kept
    _ ≤ total * elapsed := bound

/-- The rounded share is the exact one rounded down. -/
theorem released_mul_le (window : 0 < duration) :
    released total elapsed duration * duration ≤ total * elapsed :=
  Int.ediv_mul_le (total * elapsed) window.ne'

/-- Rounding withholds less than one unit. -/
theorem lt_released_add_one_mul (window : 0 < duration) :
    total * elapsed < (released total elapsed duration + 1) * duration :=
  Int.lt_ediv_add_one_mul_self (total * elapsed) window

/-- Shares of two totals after the same time are in proportion, up to one unit of rounding. -/
theorem mul_released_lt {scale : ℤ} (totalPos : 0 < total) (scaleNonneg : 0 ≤ scale)
    (window : 0 < duration) :
    scale * released total elapsed duration < total * (released scale elapsed duration + 1) := by
  have lower : released total elapsed duration * duration ≤ total * elapsed :=
    released_mul_le window
  have upper : scale * elapsed < (released scale elapsed duration + 1) * duration :=
    lt_released_add_one_mul window
  apply lt_of_mul_lt_mul_right _ window.le
  calc scale * released total elapsed duration * duration
      = scale * (released total elapsed duration * duration) := by ring
    _ ≤ scale * (total * elapsed) := Int.mul_le_mul_of_nonneg_left lower scaleNonneg
    _ = total * (scale * elapsed) := by ring
    _ < total * ((released scale elapsed duration + 1) * duration) :=
      Int.mul_lt_mul_of_pos_left upper totalPos
    _ = total * (released scale elapsed duration + 1) * duration := by ring

/-- Truncating and flooring division agree on the share of a nonnegative total. -/
theorem tdiv_eq_released (totalNonneg : 0 ≤ total) (elapsedNonneg : 0 ≤ elapsed) :
    (total * elapsed).tdiv duration = released total elapsed duration :=
  Int.tdiv_eq_ediv_of_nonneg (Int.mul_nonneg totalNonneg elapsedNonneg)

end

section

variable {totals : List ℤ} {elapsed duration : ℤ}

theorem sum_released_mul_le (window : 0 < duration) :
    (totals.map fun total => released total elapsed duration).sum * duration ≤
      totals.sum * elapsed := by
  induction totals with
  | nil => simp
  | cons total rest ih =>
      have first : released total elapsed duration * duration ≤ total * elapsed :=
        released_mul_le window
      simp only [List.map_cons, List.sum_cons]
      linarith

theorem sum_mul_le_sum_released (window : 0 < duration) :
    totals.sum * elapsed ≤
      (totals.map fun total => released total elapsed duration).sum * duration +
        totals.length * (duration - 1) := by
  induction totals with
  | nil => simp
  | cons total rest ih =>
      have first : total * elapsed < (released total elapsed duration + 1) * duration :=
        lt_released_add_one_mul window
      simp only [List.map_cons, List.sum_cons, List.length_cons, Nat.cast_add, Nat.cast_one]
      linarith

/-- The parts of a total never release more than the total. -/
theorem sum_released_le (window : 0 < duration) :
    (totals.map fun total => released total elapsed duration).sum ≤
      released totals.sum elapsed duration := by
  rw [released, Int.le_ediv_iff_mul_le window]
  exact sum_released_mul_le window

/-- The parts of a total lag it by less than one unit each. -/
theorem released_sum_lt (window : 0 < duration) (nonempty : totals ≠ []) :
    released totals.sum elapsed duration <
      (totals.map fun total => released total elapsed duration).sum + totals.length := by
  have count : 0 < (totals.length : ℤ) := by
    exact_mod_cast List.length_pos_iff.mpr nonempty
  have upper : totals.sum * elapsed ≤
      (totals.map fun total => released total elapsed duration).sum * duration +
        totals.length * (duration - 1) :=
    sum_mul_le_sum_released window
  rw [released, Int.ediv_lt_iff_lt_mul window]
  linarith

end

end Foundation
