/-
Module: ProtectionPool.Proofs.Slippage
Purpose: The slippage floor of the permissionless deployment against yield that has
  accrued at the vault.  The floor is 95% of the shares the pool's own book price
  predicts, so a vault that mints at its true price meets it as long as that price is
  at most 20/19 of the book price; above, every deposit large enough for rounding not
  to matter is refused.
Trusted boundary: the vault's answer is a parameter
Main exports: MintsAtPrice, auto_deploy_meets_floor
-/
import Mathlib.Tactic.Linarith
import Mathlib.Tactic.Ring
import ProtectionPool.Books.VaultCalls

namespace ProtectionPool

open Checked Proportion

variable {D : Type}

/-- A fee-free vault takes a deposit and mints shares for it at its redemption price, a
number of XLM for a number of shares. -/
def MintsAtPrice (env : Env) (amount priceXlm priceShares : Int) : Prop :=
  env.vault.pulled = amount ∧ env.vault.minted = slice amount priceShares priceXlm

/-- The shares the slippage floor asks for a deposit of an amount. -/
def leastShares (s : State D) (amount : Int) : Int :=
  slice (slice amount s.totalDeployedShares s.totalDeployedXlm)
    (bpsDenominator - maxRebalanceSlippageBps) bpsDenominator

/-- A position is open, and there is an amount to deploy. -/
def HasRoom (host : Host D) (s : State D) (amount : Int) : Prop :=
  (0 < s.totalDeployedShares ∧ 0 < s.totalDeployedXlm) ∧ idleDeployable host s = .ok amount

instance (host : Host D) (s : State D) (amount : Int) : Decidable (HasRoom host s amount) :=
  decidable_of_iff ((0 < s.totalDeployedShares ∧ 0 < s.totalDeployedXlm) ∧
    ∃ idle, idleDeployable host s = .ok idle ∧ idle = amount) (by simp [HasRoom])

variable {host : Host D} {env : Env} {s s' : State D} {vault : Address}
  {amount least priceXlm priceShares : Int}

/-! ### The one check that fails so -/

theorem idleDeployable_avoids {e : PoolError} :
    Avoids (.error e) (idleDeployable host s) := by
  simp [idleDeployable, deployCeiling, avoids_ite]

/-- A deposit that mints what was asked for meets the floor. -/
theorem depositAndBook_avoids (enough : least ≤ env.vault.minted) :
    Avoids (.error .minSharesNotMet) (depositAndBook host env s vault amount least) := by
  simp [depositAndBook, vaultDeposit]
  intros
  exact enough

theorem autoDeployLiquidity_avoids
    (enough : ∀ amount, idleDeployable host s = .ok amount →
      leastShares s amount ≤ env.vault.minted) :
    Avoids (.error .minSharesNotMet) (autoDeployLiquidity host env s) := by
  simp [autoDeployLiquidity, requireNotPaused, idleDeployable_avoids, avoids_ite, slippageFloor]
  intro _ _ _ amount deployable _ vault _ _ _ _
  exact depositAndBook_avoids (enough amount deployable)

/-- What is deployed met the floor. -/
theorem autoDeployLiquidity_floor {result : Int × State D}
    (deployable : idleDeployable host s = .ok amount) (some : amount ≠ 0)
    (stepped : autoDeployLiquidity host env s = .ok result) :
    leastShares s amount ≤ env.vault.minted := by
  simp only [autoDeployLiquidity, bind_eq_ok, deployable, Except.ok.injEq,
    exists_eq_left'] at stepped
  obtain ⟨_, -, _, -, outcome⟩ := stepped
  rcases ite_eq_ok.mp outcome with ⟨none, -⟩ | ⟨-, outcome⟩
  · exact absurd none some
  · simp only [bind_eq_ok, okOr_eq_ok, i128_eq_ok, slippageFloor, depositAndBook,
      vaultDeposit_eq_ok, rejectIf_eq_ok, Except.ok.injEq] at outcome
    obtain ⟨vault, -, _, -, _, ⟨-, rfl⟩, _, ⟨_, ⟨-, rfl⟩, rfl⟩, _, ⟨-, -, rfl⟩, _, ⟨-, rfl⟩, _, met,
      -⟩ := outcome
    simpa [liquidBalance, leastShares, slice] using met

/-! ### The floor against the price -/

/-- The floor is met as long as the price is at most 20/19 of the book price. -/
theorem leastShares_le (opened : 0 < s.totalDeployedShares ∧ 0 < s.totalDeployedXlm)
    (price : 0 < priceXlm ∧ 0 < priceShares) (nonneg : 0 ≤ amount)
    (gain : priceXlm * s.totalDeployedShares * (bpsDenominator - maxRebalanceSlippageBps) ≤
      s.totalDeployedXlm * priceShares * bpsDenominator) :
    leastShares s amount ≤ slice amount priceShares priceXlm := by
  have expected := slice_mul_le nonneg opened.1.le opened.2
  have scaled : leastShares s amount * bpsDenominator ≤
      slice amount s.totalDeployedShares s.totalDeployedXlm *
        (bpsDenominator - maxRebalanceSlippageBps) :=
    slice_mul_le (slice_nonneg nonneg opened.1.le opened.2.le) (by decide) (by decide)
  have scale : 0 < bpsDenominator * s.totalDeployedXlm := Int.mul_pos (by decide) opened.2
  rw [le_slice_iff nonneg price.2.le price.1]
  refine Int.le_of_mul_le_mul_right ?_ scale
  calc leastShares s amount * priceXlm * (bpsDenominator * s.totalDeployedXlm)
      = leastShares s amount * bpsDenominator * (priceXlm * s.totalDeployedXlm) := by ring
    _ ≤ slice amount s.totalDeployedShares s.totalDeployedXlm *
          (bpsDenominator - maxRebalanceSlippageBps) * (priceXlm * s.totalDeployedXlm) :=
        Int.mul_le_mul_of_nonneg_right scaled (Int.mul_pos price.1 opened.2).le
    _ = slice amount s.totalDeployedShares s.totalDeployedXlm * s.totalDeployedXlm *
          (priceXlm * (bpsDenominator - maxRebalanceSlippageBps)) := by ring
    _ ≤ amount * s.totalDeployedShares *
          (priceXlm * (bpsDenominator - maxRebalanceSlippageBps)) :=
        Int.mul_le_mul_of_nonneg_right expected (Int.mul_pos price.1 (by decide)).le
    _ = amount * (priceXlm * s.totalDeployedShares *
          (bpsDenominator - maxRebalanceSlippageBps)) := by ring
    _ ≤ amount * (s.totalDeployedXlm * priceShares * bpsDenominator) :=
        Int.mul_le_mul_of_nonneg_left gain nonneg
    _ = amount * priceShares * (bpsDenominator * s.totalDeployedXlm) := by ring

/-- The floor is missed above that price by every deposit that outweighs the
rounding. -/
theorem lt_leastShares (opened : 0 < s.totalDeployedShares ∧ 0 < s.totalDeployedXlm)
    (price : 0 < priceXlm ∧ 0 < priceShares) (nonneg : 0 ≤ amount)
    (excess : priceXlm * s.totalDeployedXlm *
        (bpsDenominator + (bpsDenominator - maxRebalanceSlippageBps)) ≤
      amount * (priceXlm * s.totalDeployedShares * (bpsDenominator - maxRebalanceSlippageBps) -
        s.totalDeployedXlm * priceShares * bpsDenominator)) :
    slice amount priceShares priceXlm < leastShares s amount := by
  have minted := slice_mul_le nonneg price.2.le price.1
  have expected : amount * s.totalDeployedShares <
      (slice amount s.totalDeployedShares s.totalDeployedXlm + 1) * s.totalDeployedXlm :=
    not_le.mp fun below => absurd ((le_slice_iff nonneg opened.1.le opened.2).mpr below) (by omega)
  have scale : 0 < priceXlm * s.totalDeployedXlm := Int.mul_pos price.1 opened.2
  refine Int.lt_iff_add_one_le.mpr ((le_slice_iff (slice_nonneg nonneg opened.1.le opened.2.le)
    (by decide) (by decide)).mpr ?_)
  refine Int.le_of_mul_le_mul_right ?_ scale
  generalize slice amount priceShares priceXlm = least at *
  generalize slice amount s.totalDeployedShares s.totalDeployedXlm = predicted at *
  have room : (least + 1) * bpsDenominator * (priceXlm * s.totalDeployedXlm) ≤
      (amount * priceShares + priceXlm) * (bpsDenominator * s.totalDeployedXlm) := by
    calc _ = (least * priceXlm + priceXlm) * (bpsDenominator * s.totalDeployedXlm) := by ring
      _ ≤ _ := Int.mul_le_mul_of_nonneg_right (by omega) (Int.mul_pos (by decide) opened.2).le
  have asked : (amount * s.totalDeployedShares - s.totalDeployedXlm) *
        (priceXlm * (bpsDenominator - maxRebalanceSlippageBps)) ≤
      predicted * (bpsDenominator - maxRebalanceSlippageBps) *
        (priceXlm * s.totalDeployedXlm) := by
    calc _ ≤ predicted * s.totalDeployedXlm *
          (priceXlm * (bpsDenominator - maxRebalanceSlippageBps)) :=
          Int.mul_le_mul_of_nonneg_right (by linarith) (Int.mul_pos price.1 (by decide)).le
      _ = _ := by ring
  linarith

/-- With an open position and a fee-free vault that mints at its price, the
permissionless deployment does not fail with `MinSharesNotMet` as long as that price
is at most 20/19 of the book price.  Above, it never succeeds with an amount that
outweighs the rounding of shares. -/
theorem auto_deploy_meets_floor (host : Host D) {env : Env} {s : State D}
    {priceXlm priceShares : Int} (opened : 0 < s.totalDeployedShares ∧ 0 < s.totalDeployedXlm)
    (price : 0 < priceXlm ∧ 0 < priceShares)
    (mints : ∀ amount, idleDeployable host s = .ok amount →
      MintsAtPrice env amount priceXlm priceShares) :
    (priceXlm * s.totalDeployedShares * (bpsDenominator - maxRebalanceSlippageBps) ≤
        s.totalDeployedXlm * priceShares * bpsDenominator →
      autoDeployLiquidity host env s ≠ .error (.error .minSharesNotMet)) ∧
    ∀ amount, idleDeployable host s = .ok amount →
      priceXlm * s.totalDeployedXlm *
          (bpsDenominator + (bpsDenominator - maxRebalanceSlippageBps)) ≤
        amount * (priceXlm * s.totalDeployedShares * (bpsDenominator - maxRebalanceSlippageBps) -
          s.totalDeployedXlm * priceShares * bpsDenominator) →
      ∀ result, autoDeployLiquidity host env s ≠ .ok result := by
  constructor
  · intro gain
    apply autoDeployLiquidity_avoids
    intro amount deployable
    rw [(mints amount deployable).2]
    exact leastShares_le opened price (idleDeployable_ok deployable).1 gain
  · intro amount deployable excess result succeeded
    have nonneg := (idleDeployable_ok deployable).1
    have some : amount ≠ 0 := by
      rintro rfl
      rw [zero_mul] at excess
      have positive : 0 < priceXlm * s.totalDeployedXlm *
          (bpsDenominator + (bpsDenominator - maxRebalanceSlippageBps)) :=
        Int.mul_pos (Int.mul_pos price.1 opened.2) (by decide)
      exact absurd excess (not_le.mpr positive)
    have met := autoDeployLiquidity_floor deployable some succeeded
    rw [(mints amount deployable).2] at met
    exact absurd met (not_le.mpr (lt_leastShares opened price nonneg excess))

/-! ### On two concrete prices -/

/-- Half of the deposits are at a vault at a price of one, and a tenth more may be
deployed. -/
def sampleRoom : List (Action Nat) :=
  sampleVault ++
    [.invoke (.of [party 1] ⟨50000, 50000, 0, 0⟩) (.deployToVault 50000 0),
      callBy 1 (.setDeployBps 6000)]

/-- A gain of 5% goes through: the vault mints 9523 shares, and 9500 are asked for. -/
theorem auto_deploy_meets_floor_sample :
    ∃ log s result, (poolSystem sampleHost).Run System.anyStep log s ∧ HasRoom sampleHost s 10000 ∧
      autoDeployLiquidity sampleHost (.of [] ⟨10000, 9523, 0, 0⟩) s = .ok result ∧
      autoDeployLiquidity sampleHost (.of [] ⟨10000, 9523, 0, 0⟩) s ≠
        .error (.error .minSharesNotMet) := by
  obtain ⟨log, s, run, room, gain, succeeds⟩ :=
    System.exists_run_of_replay (poolSystem sampleHost) System.anyStep samplePool_deployed
      sampleRoom
      (fun _ s => HasRoom sampleHost s 10000 ∧
        105 * s.totalDeployedShares * (bpsDenominator - maxRebalanceSlippageBps) ≤
          s.totalDeployedXlm * 100 * bpsDenominator ∧
        (autoDeployLiquidity sampleHost (.of [] ⟨10000, 9523, 0, 0⟩) s).isOk = true)
      (by decide +kernel)
  obtain ⟨result, ok⟩ := exists_eq_ok succeeds
  have price : 0 < (105 : Int) ∧ 0 < (100 : Int) := by decide
  have mints : ∀ amount, idleDeployable sampleHost s = .ok amount →
      MintsAtPrice (.of [] ⟨10000, 9523, 0, 0⟩) amount 105 100 := by
    intro amount deployable
    obtain rfl : 10000 = amount := Except.ok.inj (room.2.symm.trans deployable)
    exact ⟨rfl, by decide⟩
  exact ⟨log, s, result, run, room, ok,
    (auto_deploy_meets_floor sampleHost room.1 price mints).1 gain⟩

/-- A gain of 6% does not: the vault mints 9433 shares at a price above the book
price, and the call asks for 9500. -/
theorem gain_disables_auto_deploy :
    ∃ log s, (poolSystem sampleHost).Run System.anyStep log s ∧ HasRoom sampleHost s 10000 ∧
      s.totalDeployedXlm * 100 ≤ 106 * s.totalDeployedShares ∧
      MintsAtPrice (.of [] ⟨10000, 9433, 0, 0⟩) 10000 106 100 ∧
      autoDeployLiquidity sampleHost (.of [] ⟨10000, 9433, 0, 0⟩) s =
        .error (.error .minSharesNotMet) := by
  obtain ⟨log, s, run, room, above, fails⟩ :=
    System.exists_run_of_replay (poolSystem sampleHost) System.anyStep samplePool_deployed
      sampleRoom
      (fun _ s => HasRoom sampleHost s 10000 ∧
        s.totalDeployedXlm * 100 ≤ 106 * s.totalDeployedShares ∧
        ¬ Avoids (Failure.error .minSharesNotMet)
          (autoDeployLiquidity sampleHost (.of [] ⟨10000, 9433, 0, 0⟩) s))
      (by decide +kernel)
  exact ⟨log, s, run, room, above, ⟨rfl, by decide⟩, not_avoids.mp fails⟩

end ProtectionPool
