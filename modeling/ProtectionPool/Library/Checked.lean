/-
Module: ProtectionPool.Library.Checked
Purpose: Fallible computations over fixed-width integers: overflow-checked
  arithmetic in an arbitrary `Except` monad, and the inversion rules that
  read the facts off a computation that succeeded.
Trusted boundary: none
Main exports: InI128, InHalf, i128, u32, u64, saturateI128, bind_eq_ok, Leaves,
  leaves_bind, Avoids, avoids_bind, Within, within_bind, le_saturateI128, share_le
-/
import Mathlib.Algebra.Order.Ring.Int
import Mathlib.Data.Int.Notation
import Mathlib.Tactic.SplitIfs
import Mathlib.Order.MinMax

namespace Checked

variable {ε α β : Type}

/-! ### Sequencing -/

/-- A sequence succeeds exactly when its first part does and the rest succeeds
on that value. -/
@[simp] theorem bind_eq_ok {x : Except ε α} {f : α → Except ε β} {b : β} :
    (x >>= f) = .ok b ↔ ∃ a, x = .ok a ∧ f a = .ok b := by
  cases x <;> simp [bind, Except.bind]

/-- Both branches of a conditional computation, told apart by the test. -/
theorem ite_eq_ok {p : Prop} [Decidable p] {x y : Except ε α} {a : α} :
    (if p then x else y) = .ok a ↔ (p ∧ x = .ok a) ∨ (¬ p ∧ y = .ok a) := by
  split_ifs with h <;> simp [h]

/-- A computation that reports success has a result. -/
theorem exists_eq_ok {x : Except ε α} (succeeds : x.isOk = true) : ∃ a, x = .ok a := by
  cases x with
  | error e => cases succeeds
  | ok a => exact ⟨a, rfl⟩

/-- Whether a computation succeeds with a value that passes a test. -/
instance decidableExistsOk {x : Except ε α} {p : α → Prop} [DecidablePred p] :
    Decidable (∃ a, x = .ok a ∧ p a) :=
  match x with
  | .ok a => decidable_of_iff (p a) (by simp)
  | .error _ => isFalse (by simp)

/-! ### Views a computation leaves alone -/

/-- Whatever a computation ends in has a given view. -/
def Leaves {γ : Type} (view : α → γ) (seen : γ) (x : Except ε α) : Prop :=
  ∀ a, x = .ok a → view a = seen

section Leaves

variable {γ : Type} {view : α → γ} {seen : γ}

@[simp] theorem leaves_ok {a : α} : Leaves view seen (.ok a : Except ε α) ↔ view a = seen := by
  simp [Leaves]

/-- A sequence leaves a view alone when its last part does, after any success of
the parts before it. -/
@[simp] theorem leaves_bind {x : Except ε β} {f : β → Except ε α} :
    Leaves view seen (x >>= f) ↔ ∀ b, x = .ok b → Leaves view seen (f b) := by
  simp only [Leaves, bind_eq_ok, forall_exists_index, and_imp]
  exact forall_comm.trans (forall_congr' fun _ => forall_comm)

/-- A conditional leaves a view alone when both branches do. -/
theorem leaves_ite {p : Prop} [Decidable p] {x y : Except ε α} :
    Leaves view seen (if p then x else y) ↔
      (p → Leaves view seen x) ∧ (¬ p → Leaves view seen y) := by
  split_ifs with h <;> simp [h]

end Leaves

/-! ### Errors a computation does not end in -/

/-- A computation does not fail with a given error. -/
def Avoids (e : ε) (x : Except ε α) : Prop := x ≠ .error e

section Avoids

variable {e : ε}

@[simp] theorem avoids_ok {a : α} : Avoids e (.ok a) := by simp [Avoids]

@[simp] theorem avoids_error {e' : ε} : Avoids e (.error e' : Except ε α) ↔ e' ≠ e := by
  simp [Avoids]

/-- A sequence avoids an error when its first part does and, after any success of
it, the rest does. -/
@[simp] theorem avoids_bind {x : Except ε α} {f : α → Except ε β} :
    Avoids e (x >>= f) ↔ Avoids e x ∧ ∀ a, x = .ok a → Avoids e (f a) := by
  cases x <;> simp [Avoids, bind, Except.bind]

/-- A conditional avoids an error when both branches do. -/
theorem avoids_ite {p : Prop} [Decidable p] {x y : Except ε α} :
    Avoids e (if p then x else y) ↔ (p → Avoids e x) ∧ (¬ p → Avoids e y) := by
  split_ifs with h <;> simp [h]

theorem not_avoids {x : Except ε α} : ¬ Avoids e x ↔ x = .error e := not_not

instance decidableAvoids [DecidableEq ε] (e : ε) (x : Except ε α) : Decidable (Avoids e x) :=
  match x with
  | .ok _ => isTrue avoids_ok
  | .error e' => decidable_of_iff (e' ≠ e) avoids_error.symm

/-- A check fails with its own error alone. -/
theorem avoids_check {p : Prop} [Decidable p] {a : α} {fault : ε} :
    Avoids e (if p then .ok a else .error fault) ↔ (fault = e → p) := by
  split_ifs with h <;> simp [h]

end Avoids

/-! ### Allowed failures -/

/-- A computation fails with allowed errors alone. -/
def Within (allowed : ε → Prop) (x : Except ε α) : Prop := ∀ e, x = .error e → allowed e

section Within

variable {allowed : ε → Prop}

@[simp] theorem within_ok {a : α} : Within allowed (.ok a) := nofun

@[simp] theorem within_error {e : ε} : Within allowed (.error e : Except ε α) ↔ allowed e := by
  simp [Within]

/-- A sequence fails within what is allowed when its first part does and, after any success
of it, the rest does. -/
@[simp] theorem within_bind {x : Except ε α} {f : α → Except ε β} :
    Within allowed (x >>= f) ↔ Within allowed x ∧ ∀ a, x = .ok a → Within allowed (f a) := by
  cases x <;> simp [Within, bind, Except.bind]

theorem within_ite {p : Prop} [Decidable p] {x y : Except ε α} :
    Within allowed (if p then x else y) ↔ (p → Within allowed x) ∧ (¬ p → Within allowed y) := by
  split_ifs with h <;> simp [h]

theorem within_check {p : Prop} [Decidable p] {a : α} {fault : ε} :
    Within allowed (if p then .ok a else .error fault) ↔ (¬ p → allowed fault) := by
  split_ifs with h <;> simp [h]

/-- What fails within less fails within more. -/
theorem Within.mono {more : ε → Prop} {x : Except ε α} (within : Within allowed x)
    (implied : ∀ e, allowed e → more e) : Within more x :=
  fun e failed => implied e (within e failed)

end Within

/-! ### Fixed-width integers -/

def i128Min : Int := -2 ^ 127
def i128Max : Int := 2 ^ 127 - 1

/-- The values a signed 128-bit integer holds. -/
def InI128 (x : Int) : Prop := i128Min ≤ x ∧ x ≤ i128Max

instance (x : Int) : Decidable (InI128 x) :=
  inferInstanceAs (Decidable (_ ∧ _))

/-- What lies between zero and a value that fits does too. -/
theorem InI128.of_le {x y : Int} (upper : InI128 y) (nonneg : 0 ≤ x) (below : x ≤ y) : InI128 x :=
  ⟨le_trans (by decide) nonneg, below.trans upper.2⟩

/-- The negated range is within the range. -/
theorem InI128.of_neg_le {x y : Int} (upper : InI128 y) (nonpos : x ≤ 0) (above : -y ≤ x) :
    InI128 x := by
  have extremes : i128Min ≤ -i128Max := by decide
  exact ⟨extremes.trans ((Int.neg_le_neg upper.2).trans above), nonpos.trans (by decide)⟩

/-- What fits after scaling by more fits after scaling by less. -/
theorem InI128.scale {x scale less : Int} (fits : InI128 (x * scale)) (nonneg : 0 ≤ less)
    (below : less ≤ scale) : InI128 (x * less) := by
  obtain ⟨lower, upper⟩ := fits
  rcases le_total 0 x with positive | negative
  · exact ⟨le_trans (by decide) (Int.mul_nonneg positive nonneg),
      (Int.mul_le_mul_of_nonneg_left below positive).trans upper⟩
  · exact ⟨lower.trans (Int.mul_le_mul_of_nonpos_left negative below),
      (Int.mul_nonpos_of_nonpos_of_nonneg negative nonneg).trans (by decide)⟩

/-- The values any two of which fit together. -/
def InHalf (x : Int) : Prop := -2 ^ 126 ≤ x ∧ x < 2 ^ 126

theorem InHalf.add {x y : Int} (first : InHalf x) (second : InHalf y) : InI128 (x + y) := by
  unfold InHalf InI128 i128Min i128Max at *
  omega

theorem InHalf.sub {x y : Int} (first : InHalf x) (second : InHalf y) : InI128 (x - y) := by
  unfold InHalf InI128 i128Min i128Max at *
  omega

/-- What still fits after scaling leaves room for a sum. -/
theorem InI128.inHalf {x scale : Int} (fits : InI128 (x * scale)) (scales : 4 ≤ scale) :
    InHalf x := by
  have quadruple := fits.scale (by decide) scales
  unfold InI128 i128Min i128Max at quadruple
  exact ⟨by omega, by omega⟩

/-- A signed 128-bit result under overflow checking. -/
def i128 (fault : ε) (x : Int) : Except ε Int :=
  if InI128 x then .ok x else .error fault

/-- An unsigned 32-bit result under overflow checking. -/
def u32 (fault : ε) (n : Nat) : Except ε Nat :=
  if n < 2 ^ 32 then .ok n else .error fault

/-- An unsigned 64-bit result under overflow checking. -/
def u64 (fault : ε) (n : Nat) : Except ε Nat :=
  if n < 2 ^ 64 then .ok n else .error fault

/-- Clamp an exact result into the signed 128-bit range. -/
def saturateI128 (x : Int) : Int := max i128Min (min i128Max x)

@[simp] theorem i128_eq_ok {fault : ε} {x y : Int} :
    i128 fault x = .ok y ↔ InI128 x ∧ y = x := by
  unfold i128
  split_ifs with fits
  · rw [Except.ok.injEq, and_iff_right fits, eq_comm]
  · simp only [fits, false_and]

@[simp] theorem u32_eq_ok {fault : ε} {n m : Nat} :
    u32 fault n = .ok m ↔ n < 2 ^ 32 ∧ m = n := by
  unfold u32
  split_ifs with fits
  · rw [Except.ok.injEq, and_iff_right fits, eq_comm]
  · simp only [fits, false_and]

@[simp] theorem u64_eq_ok {fault : ε} {n m : Nat} :
    u64 fault n = .ok m ↔ n < 2 ^ 64 ∧ m = n := by
  unfold u64
  split_ifs with fits
  · rw [Except.ok.injEq, and_iff_right fits, eq_comm]
  · simp only [fits, false_and]

/-- Checked arithmetic fails with its fault alone, and only on a result that does not
fit. -/
@[simp] theorem avoids_i128 {fault e : ε} {x : Int} :
    Avoids e (i128 fault x) ↔ (fault = e → InI128 x) := avoids_check

@[simp] theorem avoids_u32 {fault e : ε} {n : Nat} :
    Avoids e (u32 fault n) ↔ (fault = e → n < 2 ^ 32) := avoids_check

@[simp] theorem avoids_u64 {fault e : ε} {n : Nat} :
    Avoids e (u64 fault n) ↔ (fault = e → n < 2 ^ 64) := avoids_check

@[simp] theorem within_i128 {allowed : ε → Prop} {fault : ε} {x : Int} :
    Within allowed (i128 fault x) ↔ (¬ InI128 x → allowed fault) := within_check

@[simp] theorem within_u32 {allowed : ε → Prop} {fault : ε} {n : Nat} :
    Within allowed (u32 fault n) ↔ (¬ n < 2 ^ 32 → allowed fault) := within_check

@[simp] theorem within_u64 {allowed : ε → Prop} {fault : ε} {n : Nat} :
    Within allowed (u64 fault n) ↔ (¬ n < 2 ^ 64 → allowed fault) := within_check

/-- Saturation is invisible on a result that fits. -/
theorem saturateI128_of_fits {x : Int} (fits : InI128 x) : saturateI128 x = x := by
  rw [saturateI128, min_eq_right fits.2, max_eq_right fits.1]

/-- Saturation never goes below what lies below both the exact result and the
upper bound. -/
theorem le_saturateI128 {x y : Int} (fits : y ≤ i128Max) (below : y ≤ x) : y ≤ saturateI128 x :=
  (le_min fits below).trans (le_max_right _ _)

/-- Whether saturation stays above a value within the range, the lower bound
apart, depends on the exact result alone. -/
theorem le_saturateI128_iff {x y : Int} (above : i128Min < y) (fits : y ≤ i128Max) :
    y ≤ saturateI128 x ↔ y ≤ x := by
  constructor
  · intro below
    rcases le_max_iff.mp below with low | within
    · exact absurd low (not_le.mpr above)
    · exact (le_min_iff.mp within).2
  · exact le_saturateI128 fits

/-- Saturation never goes above what lies above both the exact result and the
lower bound. -/
theorem saturateI128_le_of_le {x y : Int} (above : i128Min ≤ y) (below : x ≤ y) :
    saturateI128 x ≤ y :=
  max_le above ((min_le_right _ _).trans below)

theorem saturateI128_le (x : Int) : saturateI128 x ≤ i128Max :=
  max_le (by decide) (min_le_left _ _)

/-! ### Shares -/

/-- What lies below a positive truncated quotient lies below it exactly. -/
theorem mul_le_of_le_tdiv {x y z : Int} (denominator : 0 < y) (positive : 0 < z)
    (below : z ≤ x.tdiv y) : z * y ≤ x := by
  have nonneg : 0 ≤ x := by
    by_contra negative
    have opposite := Int.tdiv_nonneg (Int.neg_nonneg_of_nonpos (not_le.mp negative).le)
      denominator.le
    rw [Int.neg_tdiv] at opposite
    omega
  rw [Int.tdiv_eq_ediv_of_nonneg nonneg] at below
  exact (Int.le_ediv_iff_mul_le denominator).mp below

/-- A truncated quotient is positive exactly when the whole goes in once. -/
theorem tdiv_pos_iff {x y : Int} (denominator : 0 < y) : 0 < x.tdiv y ↔ y ≤ x := by
  constructor
  · intro positive
    have once := mul_le_of_le_tdiv denominator one_pos positive
    rwa [one_mul] at once
  · intro within
    have nonneg : 0 ≤ x := denominator.le.trans within
    rw [Int.tdiv_eq_ediv_of_nonneg nonneg]
    exact (Int.le_ediv_iff_mul_le denominator).mpr (by rwa [zero_add, one_mul])

/-- A positive share of a base at some rate is at most its share at a higher
rate. -/
theorem share_le {base rate top denominator share : Int} (bounds : 0 ≤ rate ∧ rate ≤ top)
    (scale : 0 < denominator) (positive : 0 < share)
    (within : share ≤ (base * rate).tdiv denominator) : share * denominator ≤ base * top := by
  have scaled := mul_le_of_le_tdiv scale positive within
  have product : 0 < base * rate := lt_of_lt_of_le (Int.mul_pos positive scale) scaled
  have nonneg : 0 ≤ base := by
    by_contra negative
    have := Int.mul_nonpos_of_nonpos_of_nonneg (not_le.mp negative).le bounds.1
    omega
  exact scaled.trans (Int.mul_le_mul_of_nonneg_left bounds.2 nonneg)

end Checked
