/-
Module: ProtectionPool.Model.ReviewerKit
Purpose: The reviewer's kit (`reviewer-kit/safu-stellar-reviewer-kit.py`): the figures it
  shows of a claim, which it computes again from the record it reads, in unbounded
  integers, and its words for a payout that was refused.
Trusted boundary: none
Main exports: ReviewerKit.vestingSnapshot, ReviewerKit.outflowCap, ReviewerKit.poolErrors,
  ReviewerKit.explainError, ReviewerKit.check
-/
import ProtectionPool.Model.Claim

namespace ProtectionPool

namespace ReviewerKit

variable {D : Type} [DecidableEq D]

/-! ### Constants of the kit -/

/-- `LEDGERS_PER_DAY` -/
def ledgersPerDay : Int := 17280

/-- `VESTING_LEDGERS` -/
def vestingLedgers : Int := 45 * ledgersPerDay

/-- `COLLECTION_INACTIVITY_LEDGERS` -/
def collectionInactivityLedgers : Int := 100 * ledgersPerDay

/-- `BPS_DENOMINATOR` -/
def bpsDenominator : Int := 10000

/-- `POOL_ERRORS`: the errors the kit has a word for, by their numbers. -/
def poolErrors : Nat → Option PoolError
  | 1 => some .noStake
  | 31 => some .wrongBeneficiary
  | 43 => some .stakeSuspended
  | 53 => some .noSuchClaim
  | 59 => some .claimNotActive
  | 60 => some .claimFullyStreamed
  | 62 => some .cooldownNotPassed
  | 63 => some .nothingVested
  | 64 => some .dailyOutflowCapReached
  | 80 => some .insufficientLiquidity
  | 93 => some .paused
  | _ => none

/-! ### Figures -/

/-- What `vesting_snapshot` returns. -/
structure VestingSnapshot where
  cooldownPassed : Bool
  ledgersToCooldown : Int
  elapsedVestingLedgers : Int
  vestedTotal : Int
  claimable : Int
  fullyVested : Bool

/-- `vesting_snapshot` -/
def vestingSnapshot (claim : Claim) (nowLedger : Int) : VestingSnapshot :=
  let cooldownEnd : Int := claim.cooldownEndsLedger
  let vestingEnd : Int := claim.vestingEndsLedger
  let elapsedEnd := min nowLedger vestingEnd
  let elapsed := max 0 (elapsedEnd - cooldownEnd)
  let vestedTotal := (claim.entitlement * elapsed).fdiv vestingLedgers
  let claimable := vestedTotal - claim.streamed
  { cooldownPassed := decide (nowLedger ≥ cooldownEnd)
    ledgersToCooldown := max 0 (cooldownEnd - nowLedger)
    elapsedVestingLedgers := elapsed
    vestedTotal := vestedTotal
    claimable := max 0 claimable
    fullyVested := decide (nowLedger ≥ vestingEnd) }

/-- What `outflow_cap` returns. -/
structure OutflowCap where
  totalStaked : Int
  totalAllocated : Int
  capBase : Int
  bps : Int
  capToday : Int

/-- `outflow_cap`, over the two totals the kit reads. -/
def outflowCap (totalStaked totalAllocated : Int) (claim : Claim) : OutflowCap :=
  let capBase := max totalStaked claim.totalStakedSnapshot
  let bps : Int :=
    if capBase = 0 then 100
    else
      let utilizationBps := (totalAllocated * bpsDenominator).fdiv capBase
      if utilizationBps < 2000 then 500 else if utilizationBps < 5000 then 300 else 100
  { totalStaked := totalStaked
    totalAllocated := totalAllocated
    capBase := capBase
    bps := bps
    capToday := (capBase * bps).fdiv bpsDenominator }

/-! ### Answers -/

/-- What `cmd_check` shows of a claim. -/
structure Report where
  vesting : VestingSnapshot
  cap : OutflowCap
  deadline : Int
  left : Int
  passed : Bool
  ready : Bool

/-- `cmd_check`, of one claim.  The hint that a claim is ready stands under the notice that
its deadline has passed. -/
def check (s : State D) (claimId : D) : Option Report :=
  (s.claims.get claimId).map fun claim =>
    let vesting := vestingSnapshot claim s.sequence
    let deadline := claim.lastCollectedLedger + collectionInactivityLedgers
    let left := deadline - s.sequence
    { vesting := vesting
      cap := outflowCap s.totalStaked s.totalAllocated claim
      deadline := deadline
      left := left
      passed := decide (left ≤ 0)
      ready := decide (left ≤ 0) && decide (vesting.claimable > 0) }

/-- The kit's word for a simulation that was rejected. -/
inductive Explanation where
  | named (error : PoolError) (code : Nat)
  | notAStreamError (code : Nat)
  | raw
deriving DecidableEq

/-- `explain_error`, of the code that was found in the answer. -/
def explainError : Option Nat → Explanation
  | some code =>
      match poolErrors code with
      | some error => .named error code
      | none => .notAStreamError code
  | none => .raw

end ReviewerKit

end ProtectionPool
