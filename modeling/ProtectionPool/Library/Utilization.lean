/-
Module: ProtectionPool.Library.Utilization
Purpose: Shares of a base at a rate that falls as more of the base is taken.  Both
  the utilisation and the share are rounded toward zero, and the base is divided by
  as well as multiplied with; still a larger base or a smaller part taken never
  makes the share smaller.
Trusted boundary: none
Main exports: Utilization.utilization, Utilization.share, Utilization.Rate,
  Utilization.share_le_share
-/
import Mathlib.Algebra.Order.Ring.Int

namespace Utilization

/-- How much of a base is taken, in parts of `scale`. -/
def utilization (scale allocated base : Int) : Int := (allocated * scale).tdiv base

/-- The share of a base at the rate its utilisation calls for. -/
def share (rate : Int → Int) (scale denominator allocated base : Int) : Int :=
  (base * rate (utilization scale allocated base)).tdiv denominator

/-- A rate that is never negative, never rises with the utilisation and is constant
where nothing is taken. -/
structure Rate (rate : Int → Int) : Prop where
  nonneg : ∀ used, 0 ≤ rate used
  antitone : ∀ ⦃less used⦄, less ≤ used → rate used ≤ rate less
  idle : ∀ used, used ≤ 0 → rate used = rate 0

variable {rate : Int → Int} {scale denominator allocated allocated' base base' : Int}

theorem utilization_nonpos (scaled : 0 ≤ scale) (taken : 0 ≤ allocated) (negative : base ≤ 0) :
    utilization scale allocated base ≤ 0 :=
  Int.tdiv_nonpos_of_nonneg_of_nonpos (Int.mul_nonneg taken scaled) negative

/-- A larger base of which less is taken is used less. -/
theorem utilization_le (scaled : 0 ≤ scale) (taken : 0 ≤ allocated') (less : allocated' ≤ allocated)
    (positive : 0 < base) (larger : base ≤ base') :
    utilization scale allocated' base' ≤ utilization scale allocated base := by
  have nonneg : 0 ≤ allocated' * scale := Int.mul_nonneg taken scaled
  have positive' : 0 < base' := positive.trans_le larger
  rw [utilization, utilization, Int.tdiv_eq_ediv_of_nonneg nonneg,
    Int.tdiv_eq_ediv_of_nonneg (Int.mul_nonneg (taken.trans less) scaled),
    Int.le_ediv_iff_mul_le positive]
  calc allocated' * scale / base' * base
      ≤ allocated' * scale / base' * base' :=
        Int.mul_le_mul_of_nonneg_left larger (Int.ediv_nonneg nonneg positive'.le)
    _ ≤ allocated' * scale := Int.ediv_mul_le _ positive'.ne'
    _ ≤ allocated * scale := Int.mul_le_mul_of_nonneg_right less scaled

/-- A larger base of which less is taken has no smaller a product with its rate. -/
theorem mul_rate_le (falling : Rate rate) (scaled : 0 ≤ scale) (taken : 0 ≤ allocated')
    (less : allocated' ≤ allocated) (larger : base ≤ base') :
    base * rate (utilization scale allocated base) ≤
      base' * rate (utilization scale allocated' base') := by
  rcases lt_or_ge 0 base with positive | nonpos
  · exact Int.mul_le_mul larger
      (falling.antitone (utilization_le scaled taken less positive larger))
      (falling.nonneg _) (positive.le.trans larger)
  rcases lt_or_ge base' 0 with negative | nonneg
  · -- Both bases are negative, so both have the rate of an idle base.
    rw [falling.idle _ (utilization_nonpos scaled (taken.trans less) nonpos),
      falling.idle _ (utilization_nonpos scaled taken negative.le)]
    exact Int.mul_le_mul_of_nonneg_right larger (falling.nonneg 0)
  · exact (Int.mul_nonpos_of_nonpos_of_nonneg nonpos (falling.nonneg _)).trans
      (Int.mul_nonneg nonneg (falling.nonneg _))

/-- A larger base of which less is taken has no smaller a share. -/
theorem share_le_share (falling : Rate rate) (scaled : 0 ≤ scale) (divided : 0 < denominator)
    (taken : 0 ≤ allocated') (less : allocated' ≤ allocated) (larger : base ≤ base') :
    share rate scale denominator allocated base ≤ share rate scale denominator allocated' base' :=
  Int.tdiv_le_tdiv divided (mul_rate_le falling scaled taken less larger)

/-- A base of zero has no share. -/
theorem share_zero : share rate scale denominator allocated 0 = 0 := by
  rw [share, zero_mul, Int.zero_tdiv]

end Utilization
