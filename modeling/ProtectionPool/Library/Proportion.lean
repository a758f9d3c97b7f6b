/-
Module: ProtectionPool.Library.Proportion
Purpose: Proportional parts of an integer amount, rounded toward zero: what part
  of a total a number of shares stands for, and how many shares stand for an
  amount.  Going to shares and back loses nothing exactly when the division is
  exact.
Trusted boundary: none
Main exports: Proportion.slice, le_slice_iff, slice_whole, slice_lt, slice_mono,
  slice_add_le, mul_rest_le, slice_le_of_le_slice, slice_slice_eq_iff
-/
import Mathlib.Algebra.Order.Ring.Int
import Mathlib.Data.Int.Notation

namespace Proportion

/-- The part of a total that `part` out of `whole` stands for. -/
def slice (total part whole : Int) : Int := (total * part).tdiv whole

variable {total part whole : Int}

theorem slice_nonneg (amount : 0 ≤ total) (taken : 0 ≤ part) (scale : 0 ≤ whole) :
    0 ≤ slice total part whole :=
  Int.tdiv_nonneg (Int.mul_nonneg amount taken) scale

/-- What lies below a slice lies below the exact proportion. -/
theorem le_slice_iff {z : Int} (amount : 0 ≤ total) (taken : 0 ≤ part) (scale : 0 < whole) :
    z ≤ slice total part whole ↔ z * whole ≤ total * part := by
  rw [slice, Int.tdiv_eq_ediv_of_nonneg (Int.mul_nonneg amount taken),
    Int.le_ediv_iff_mul_le scale]

theorem slice_mul_le (amount : 0 ≤ total) (taken : 0 ≤ part) (scale : 0 < whole) :
    slice total part whole * whole ≤ total * part :=
  (le_slice_iff amount taken scale).mp le_rfl

/-- The slice of the whole is the total. -/
theorem slice_whole (scale : 0 < whole) : slice total whole whole = total :=
  Int.mul_tdiv_cancel total scale.ne'

/-- A slice is at most the total. -/
theorem slice_le (amount : 0 ≤ total) (taken : 0 ≤ part) (within : part ≤ whole)
    (scale : 0 < whole) : slice total part whole ≤ total := by
  have product := slice_mul_le amount taken scale
  have bounded : total * part ≤ total * whole := Int.mul_le_mul_of_nonneg_left within amount
  exact Int.le_of_mul_le_mul_right (product.trans bounded) scale

/-- A part short of the whole leaves some of a positive total. -/
theorem slice_lt (amount : 0 < total) (taken : 0 ≤ part) (short : part < whole) :
    slice total part whole < total := by
  have scale : 0 < whole := lt_of_le_of_lt taken short
  have product := slice_mul_le amount.le taken scale
  have bounded : total * part < total * whole := Int.mul_lt_mul_of_pos_left short amount
  exact lt_of_mul_lt_mul_right (product.trans_lt bounded) scale.le

/-- A larger part of a larger total is no smaller. -/
theorem slice_mono {total' part' : Int} (amount : 0 ≤ total) (more : total ≤ total')
    (taken : 0 ≤ part) (larger : part ≤ part') (scale : 0 ≤ whole) :
    slice total part whole ≤ slice total' part' whole := by
  have product : total * part ≤ total' * part' :=
    mul_le_mul more larger taken (amount.trans more)
  rcases scale.eq_or_lt with rfl | scale
  · simp only [slice, Int.tdiv_zero, le_refl]
  · exact Int.tdiv_le_tdiv scale product

/-- The slices of two totals are no more than the slice of both. -/
theorem slice_add_le {total' : Int} (amount : 0 ≤ total) (amount' : 0 ≤ total')
    (taken : 0 ≤ part) (scale : 0 ≤ whole) :
    slice total part whole + slice total' part whole ≤ slice (total + total') part whole := by
  rcases scale.eq_or_lt with rfl | scale
  · simp only [slice, Int.tdiv_zero, add_zero, le_refl]
  · rw [le_slice_iff (add_nonneg amount amount') taken scale, add_mul, add_mul]
    exact add_le_add (slice_mul_le amount taken scale) (slice_mul_le amount' taken scale)

/-- What is left of a total is worth no less for each part that is left. -/
theorem mul_rest_le (amount : 0 ≤ total) (taken : 0 ≤ part) (scale : 0 < whole) :
    total * (whole - part) ≤ (total - slice total part whole) * whole := by
  have product := slice_mul_le amount taken scale
  calc total * (whole - part) = total * whole - total * part := mul_sub _ _ _
    _ ≤ total * whole - slice total part whole * whole := Int.sub_le_sub_left product _
    _ = (total - slice total part whole) * whole := (sub_mul _ _ _).symm

/-! ### To shares and back -/

section Exchange

variable {amount book shares : Int}

/-- No more shares than stand for an amount are worth at most the amount. -/
theorem slice_le_of_le_slice {taken : Int} (wanted : 0 ≤ amount) (position : 0 < book)
    (held : 0 < shares) (nonneg : 0 ≤ taken) (within : taken ≤ slice amount shares book) :
    slice book taken shares ≤ amount := by
  have there := (le_slice_iff wanted held.le position).mp within
  have back := slice_mul_le position.le nonneg held
  rw [mul_comm book] at back
  exact Int.le_of_mul_le_mul_right (back.trans there) held

/-- The shares that stand for an amount are worth at most the amount. -/
theorem slice_slice_le (wanted : 0 ≤ amount) (position : 0 < book) (held : 0 < shares) :
    slice book (slice amount shares book) shares ≤ amount :=
  slice_le_of_le_slice wanted position held (slice_nonneg wanted held.le position.le) le_rfl

/-- The sign of the shares does not matter to what comes back. -/
theorem slice_slice_neg :
    slice book (slice amount (-shares) book) (-shares) =
      slice book (slice amount shares book) shares := by
  simp only [slice, mul_neg, Int.neg_tdiv, Int.tdiv_neg, neg_neg]

/-- The shares that stand for an amount are worth the amount exactly when the
division leaves no rest. -/
theorem slice_slice_eq_iff (wanted : 0 ≤ amount) (position : 0 < book) (held : 0 < shares) :
    slice book (slice amount shares book) shares = amount ↔ book ∣ amount * shares := by
  have exchanged := slice_nonneg wanted held.le position.le
  have there := slice_mul_le wanted held.le position
  constructor
  · intro returned
    have back := slice_mul_le position.le exchanged held
    rw [returned, mul_comm book] at back
    exact Dvd.intro_left _ (le_antisymm there back)
  · intro exact
    apply le_antisymm (slice_slice_le wanted position held)
    rw [le_slice_iff position.le exchanged held, slice,
      Int.mul_tdiv_cancel' exact]

end Exchange

end Proportion
