/-
Module: ProtectionPool.Library.LinearRelease
Purpose: A total released linearly over a period, rounded down: what is released
  by a given time never falls as time passes, stays between nothing and the total,
  and reaches the total when the period is over.
Trusted boundary: none
Main exports: released, released_nonneg, released_le, released_mono, released_over,
  released_lt_iff
-/
import Mathlib.Algebra.Order.Ring.Int
import Mathlib.Tactic.Common

namespace LinearRelease

/-- What is released of a total by a time, over a period from its start. -/
def released (total : Int) (period start now : Nat) : Int :=
  total * ((min (now - start) period : Nat) : Int) / period

variable {total : Int} {period start now later : Nat}

theorem released_nonneg (nonneg : 0 ≤ total) : 0 ≤ released total period start now :=
  Int.ediv_nonneg (Int.mul_nonneg nonneg (Int.natCast_nonneg _)) (Int.natCast_nonneg _)

/-- Nothing that was released is taken back. -/
theorem released_mono (nonneg : 0 ≤ total) (positive : 0 < period) (passes : now ≤ later) :
    released total period start now ≤ released total period start later := by
  have elapsed : min (now - start) period ≤ min (later - start) period :=
    min_le_min_right _ (Nat.sub_le_sub_right passes _)
  exact Int.ediv_le_ediv (by exact_mod_cast positive)
    (Int.mul_le_mul_of_nonneg_left (by exact_mod_cast elapsed) nonneg)

/-- The whole total is released once the period is over. -/
theorem released_over (positive : 0 < period) (ended : start + period ≤ now) :
    released total period start now = total := by
  rw [released, min_eq_right (by omega)]
  exact Int.mul_ediv_cancel _ (by omega)

/-- Never more than the total is released. -/
theorem released_le (nonneg : 0 ≤ total) (positive : 0 < period) :
    released total period start now ≤ total :=
  calc released total period start now ≤ released total period start (now + start + period) :=
        released_mono nonneg positive (by omega)
    _ = total := released_over positive (by omega)

/-- The whole total is released only once the period is over. -/
theorem released_lt_iff (total_pos : 0 < total) (positive : 0 < period) :
    released total period start now < total ↔ now < start + period := by
  constructor
  · intro less
    by_contra ended
    exact absurd (released_over positive (not_lt.mp ended)) less.ne
  · intro before
    have elapsed : ((min (now - start) period : Nat) : Int) < period := by omega
    exact Int.ediv_lt_of_lt_mul (by omega) (Int.mul_lt_mul_of_pos_left elapsed total_pos)

end LinearRelease
