/-
Module: ProtectionPool.Library.Accrual
Purpose: Credits for stretches of time that a split never raises: two stretches are
  credited no more apart than they are together.  The law survives counting whole
  periods only, scaling, and taking proportional parts rounded down, so it holds of a
  schedule put together from these.
Trusted boundary: none
Main exports: Accrual, Accrual.mono, Accrual.resume, Accrual.periods, Accrual.scale,
  Accrual.slice
-/
import Mathlib.Algebra.Order.Ring.Defs
import ProtectionPool.Library.Proportion

/-- Credits that are never negative and that a split of the time never raises. -/
structure Accrual {R : Type} [CommRing R] [LinearOrder R] (earns : Nat → R) : Prop where
  nonneg : ∀ n, 0 ≤ earns n
  add_le : ∀ m n, earns m + earns n ≤ earns (m + n)

namespace Accrual

section Ordered

variable {R : Type} [CommRing R] [LinearOrder R] [IsStrictOrderedRing R] {earns : Nat → R}
  {m n : Nat}

/-- More time earns no less. -/
theorem mono (accrual : Accrual earns) (longer : m ≤ n) : earns m ≤ earns n := by
  have split : earns m + earns (n - m) ≤ earns n := by
    have together := accrual.add_le m (n - m)
    rwa [Nat.add_sub_cancel' longer] at together
  exact le_trans (le_add_of_nonneg_right (accrual.nonneg _)) split

omit [IsStrictOrderedRing R] in
/-- A stretch that is interrupted earns no more up to the interruption and from it on
than it does as a whole. -/
theorem resume (accrual : Accrual earns) {start since now : Nat} (before : start ≤ since)
    (after : since ≤ now) :
    earns (since - start) + earns (now - since) ≤ earns (now - start) := by
  have whole : (since - start) + (now - since) = now - start := by omega
  exact (accrual.add_le _ _).trans_eq (congrArg earns whole)

/-- Only whole periods count: what is cut off at the end of each part may make up a
period of the whole. -/
theorem periods (accrual : Accrual earns) (period : Nat) :
    Accrual fun n => earns (n / period) where
  nonneg _ := accrual.nonneg _
  add_le m n := by
    have whole : m / period + n / period ≤ (m + n) / period := Nat.div_add_div_le_add_div
    exact (accrual.add_le _ _).trans (accrual.mono whole)

/-- The credits at a multiple of the rate. -/
theorem scale (accrual : Accrual earns) {factor : R} (nonneg : 0 ≤ factor) :
    Accrual fun n => factor * earns n where
  nonneg _ := mul_nonneg nonneg (accrual.nonneg _)
  add_le m n := by
    rw [← mul_add]
    exact mul_le_mul_of_nonneg_left (accrual.add_le m n) nonneg

end Ordered

/-- A part of the credits, rounded down: what is cut off of each part may make up a
unit of the whole. -/
theorem slice {earns : Nat → Int} (accrual : Accrual earns) {part whole : Int}
    (nonneg : 0 ≤ part) (scale : 0 ≤ whole) :
    Accrual fun n => Proportion.slice (earns n) part whole where
  nonneg _ := Proportion.slice_nonneg (accrual.nonneg _) nonneg scale
  add_le m n :=
    calc Proportion.slice (earns m) part whole + Proportion.slice (earns n) part whole
        ≤ Proportion.slice (earns m + earns n) part whole :=
          Proportion.slice_add_le (accrual.nonneg m) (accrual.nonneg n) nonneg scale
      _ ≤ Proportion.slice (earns (m + n)) part whole :=
          Proportion.slice_mono (add_nonneg (accrual.nonneg m) (accrual.nonneg n))
            (accrual.add_le m n) nonneg (le_refl part) scale

end Accrual
