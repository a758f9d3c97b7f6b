/-
Module: ProtectionPool.Library.Progressive
Purpose: Progressive rates: a base rate and further ones that each apply beyond a
  threshold.  Two quantities never earn more apart than together, and a whole number
  of units earns the sum of the rates that apply to each.
Trusted boundary: none
Main exports: Bracket, beyond, earned, marginal, earned_add_le, earned_eq_sum,
  Progressive.accrual
-/
import Mathlib.Algebra.BigOperators.Intervals
import Mathlib.Tactic.Linarith
import ProtectionPool.Library.Accrual

namespace Progressive

variable {R : Type} [CommRing R] [LinearOrder R] [IsStrictOrderedRing R]

/-- A rate that applies beyond a threshold. -/
structure Bracket (R : Type) [CommRing R] [LinearOrder R] where
  threshold : R
  rate : R
  threshold_nonneg : 0 ≤ threshold
  rate_nonneg : 0 ≤ rate

/-- The part of a quantity beyond a threshold. -/
def beyond (threshold quantity : R) : R := max (quantity - threshold) 0

/-- What a quantity earns over a list of brackets. -/
def earned (brackets : List (Bracket R)) (quantity : R) : R :=
  (brackets.map fun bracket => bracket.rate * beyond bracket.threshold quantity).sum

variable {threshold x y : R} {brackets : List (Bracket R)} {bracket : Bracket R}

omit [IsStrictOrderedRing R] in
@[simp] theorem earned_nil : earned [] x = 0 := rfl

omit [IsStrictOrderedRing R] in
@[simp] theorem earned_cons : earned (bracket :: brackets) x =
    bracket.rate * beyond bracket.threshold x + earned brackets x := rfl

omit [IsStrictOrderedRing R] in
theorem beyond_nonneg : 0 ≤ beyond threshold x := le_max_right _ _

theorem beyond_mono (more : x ≤ y) : beyond threshold x ≤ beyond threshold y :=
  max_le_max (sub_le_sub_right more _) (le_refl 0)

/-- Two quantities reach no further beyond a threshold than their sum does. -/
theorem beyond_add_le (nonneg : 0 ≤ threshold) (first : 0 ≤ x) (second : 0 ≤ y) :
    beyond threshold x + beyond threshold y ≤ beyond threshold (x + y) := by
  rcases le_total x threshold with short | long
  · have none : beyond threshold x = 0 := max_eq_right (sub_nonpos.mpr short)
    rw [none, zero_add]
    exact beyond_mono (le_add_of_nonneg_left first)
  · rcases le_total y threshold with short | far
    · have none : beyond threshold y = 0 := max_eq_right (sub_nonpos.mpr short)
      rw [none, add_zero]
      exact beyond_mono (le_add_of_nonneg_right second)
    · have reached : x + y - threshold ≤ beyond threshold (x + y) := le_max_left _ _
      rw [beyond, beyond, max_eq_left (sub_nonneg.mpr long), max_eq_left (sub_nonneg.mpr far)]
      linarith

theorem earned_nonneg : 0 ≤ earned brackets x := by
  induction brackets with
  | nil => exact le_refl 0
  | cons bracket brackets inductionHypothesis =>
      exact add_nonneg (mul_nonneg bracket.rate_nonneg beyond_nonneg) inductionHypothesis

/-- Two quantities earn no more than their sum does. -/
theorem earned_add_le (first : 0 ≤ x) (second : 0 ≤ y) :
    earned brackets x + earned brackets y ≤ earned brackets (x + y) := by
  induction brackets with
  | nil => simp
  | cons bracket brackets inductionHypothesis =>
      have here : bracket.rate * beyond bracket.threshold x +
          bracket.rate * beyond bracket.threshold y ≤
            bracket.rate * beyond bracket.threshold (x + y) := by
        rw [← mul_add]
        exact mul_le_mul_of_nonneg_left (beyond_add_le bracket.threshold_nonneg first second)
          bracket.rate_nonneg
      simp only [earned_cons]
      linarith

/-! ### Unit by unit -/

section Units

variable {brackets : List (Bracket Int)} {bracket : Bracket Int} {x : Int}

/-- The rate that applies to the unit a quantity ends with. -/
def marginal (brackets : List (Bracket Int)) (x : Int) : Int :=
  (brackets.map fun bracket => if bracket.threshold < x then bracket.rate else 0).sum

@[simp] theorem marginal_nil : marginal [] x = 0 := rfl

@[simp] theorem marginal_cons : marginal (bracket :: brackets) x =
    (if bracket.threshold < x then bracket.rate else 0) + marginal brackets x := rfl

/-- One more unit lies beyond the thresholds it exceeds. -/
theorem beyond_add_one {threshold : Int} :
    beyond threshold (x + 1) = beyond threshold x + if threshold < x + 1 then 1 else 0 := by
  unfold beyond
  split_ifs <;> omega

/-- One more unit earns its rate. -/
theorem earned_add_one : earned brackets (x + 1) =
    earned brackets x + marginal brackets (x + 1) := by
  induction brackets with
  | nil => rfl
  | cons bracket brackets inductionHypothesis =>
      have here : bracket.rate * beyond bracket.threshold (x + 1) =
          bracket.rate * beyond bracket.threshold x +
            if bracket.threshold < x + 1 then bracket.rate else 0 := by
        rw [beyond_add_one, mul_add, mul_ite, mul_one, mul_zero]
      rw [earned_cons, earned_cons, marginal_cons, here, inductionHypothesis]
      exact add_add_add_comm _ _ _ _

theorem earned_zero : earned brackets (0 : Int) = 0 := by
  induction brackets with
  | nil => rfl
  | cons bracket brackets inductionHypothesis =>
      have none : beyond bracket.threshold 0 = 0 :=
        max_eq_right (sub_nonpos.mpr bracket.threshold_nonneg)
      rw [earned_cons, none, mul_zero, inductionHypothesis, add_zero]

/-- A number of units earns the sum of their rates. -/
theorem earned_eq_sum (n : Nat) :
    earned brackets (n : Int) = ∑ unit ∈ Finset.Icc 1 n, marginal brackets unit := by
  induction n with
  | zero => exact earned_zero
  | succ n inductionHypothesis =>
      rw [Finset.sum_Icc_succ_top (Nat.le_add_left 1 n), ← inductionHypothesis, Nat.cast_succ]
      exact earned_add_one

end Units

/-- Units earn no more when they are split. -/
theorem accrual : Accrual fun n : Nat => earned brackets (n : R) where
  nonneg _ := earned_nonneg
  add_le m n := by
    rw [Nat.cast_add]
    exact earned_add_le (Nat.cast_nonneg m) (Nat.cast_nonneg n)

end Progressive
