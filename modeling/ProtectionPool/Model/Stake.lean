/-
Module: ProtectionPool.Model.Stake
Purpose: Depositing and withdrawing principal, and the points a deposit earns
  (`stake.rs`).
Trusted boundary: none
Main exports: computePointsForRecord, stake, setBeneficiary, withdraw,
  emergencyExit
-/
import ProtectionPool.Model.Storage

namespace ProtectionPool

variable {D : Type} [DecidableEq D]

/-- A deposit that is still in the pool: the test `stake`, the exits and the
views share. -/
def StakeRecord.isLive (r : StakeRecord D) : Bool :=
  decide (0 < r.amount) && !r.withdrawn

/-- `min_stake` -/
def minStake (s : State D) : Outcome Int := do
  let scaled ← i128 (s.poolCap * minStakeBps)
  .ok (scaled.tdiv stakeBpsDenominator)

/-- `max_stake` -/
def maxStake (s : State D) : Outcome Int := do
  let scaled ← i128 (s.poolCap * maxStakeBps)
  .ok (scaled.tdiv stakeBpsDenominator)

/-- The tenure bands of `compute_points_for_record`, over whole days. -/
def pointsBase (d : Int) : Int :=
  let d1 := min d 90
  let d2 := if 90 < d then min d 180 - 90 else 0
  let d3 := if 180 < d then min d 365 - 180 else 0
  let d4 := if 365 < d then d - 365 else 0
  d1 * 100 + d2 * 120 + d3 * 150 + d4 * 200

/-- `compute_points_for_record` -/
def computePointsForRecord (s : State D) (record : StakeRecord D) : Outcome Int :=
  if record.amount ≤ 0 ∨ record.withdrawn then .ok 0
  else do
    let d : Int := ((s.sequence - record.stakedAtLedger) / ledgersPerDay : Nat)
    let denom ← maxStake s
    if denom ≤ 0 then .ok 0
    else do
      let product ← i128 (pointsBase d * record.amount)
      .ok (product.tdiv denom)

/-- `compute_points` -/
def computePoints (s : State D) (wallet : Address) : Outcome Int :=
  match s.stakes.get wallet with
  | some r => computePointsForRecord s r
  | none => .ok 0

/-- `vault::require_liquidity` -/
def requireLiquidity (host : Host D) (s : State D) (amount : Int) : Outcome Unit :=
  rejectIf (liquidBalance host s < amount) .insufficientLiquidity

/-- The record a successful `stake` writes. -/
def freshStake (host : Host D) (s : State D) (amount : Int) (beneficiary : Address) :
    StakeRecord D where
  beneficiaryHash := addressHash host beneficiary
  amount := amount
  stakedAtLedger := s.sequence
  stakedAtTimestamp := s.timestamp
  penaltyLockedUntilLedger := 0
  withdrawn := false
  suspended := false
  activeClaimId := none
  reservedClaimId := none

/-- `stake` -/
def stake (host : Host D) (env : Env) (s : State D) (staker : Address) (amount : Int)
    (beneficiary : Address) : Outcome (State D) := do
  requireNotPaused s
  requireAuth host env staker
  rejectIf (amount ≤ 0) .stakeNotPositive
  let least ← minStake s
  rejectIf (amount < least) .stakeOutOfRange
  let most ← maxStake s
  rejectIf (amount > most) .stakeOutOfRange
  rejectIf ((s.stakes.get staker).any StakeRecord.isLive) .alreadyStaked
  let totalStaked ← i128 (s.totalStaked + amount)
  rejectIf (totalStaked > s.poolCap) .poolCapExceeded
  rejectIf (beneficiary = staker) .beneficiaryIsStaker
  rejectIf (beneficiary = s.oracle) .beneficiaryIsOracle
  rejectIf (beneficiary = s.admin) .beneficiaryIsAdmin
  rejectIf (beneficiary = s.coSigner) .beneficiaryIsCoSigner
  let totalStakers ← u32 (s.totalStakers + 1)
  transfer env
    { s with
      stakes := s.stakes.set staker (freshStake host s amount beneficiary)
      totalStaked := totalStaked
      totalStakers := totalStakers }
    staker host.contract amount

/-- `set_beneficiary` -/
def setBeneficiary (host : Host D) (env : Env) (s : State D)
    (staker newBeneficiary : Address) : Outcome (State D) := do
  requireNotPaused s
  requireAuth host env staker
  rejectIf (newBeneficiary = staker) .beneficiaryIsStaker
  rejectIf (newBeneficiary = s.oracle) .beneficiaryIsOracle
  rejectIf (newBeneficiary = s.admin) .beneficiaryIsAdmin
  rejectIf (newBeneficiary = s.coSigner) .beneficiaryIsCoSigner
  let record ← okOr (s.stakes.get staker) .noStake
  rejectIf (record.amount ≤ 0) .noStake
  rejectIf record.withdrawn .stakeForfeited
  .ok { s with
    stakes := s.stakes.set staker
      { record with beneficiaryHash := addressHash host newBeneficiary } }

/-- The points branch of `withdraw`: bank what the ending cycle earned. -/
def bankPoints (s : State D) (staker : Address) (finalPoints : Int) :
    Outcome (Store Address Int) :=
  if 0 < finalPoints then do
    let banked ← i128 (getPointsBalance s staker + finalPoints)
    .ok (s.pointsBalances.set staker banked)
  else .ok s.pointsBalances

/-- `withdraw` -/
def withdraw (host : Host D) (env : Env) (s : State D) (staker beneficiary : Address) :
    Outcome (State D) := do
  requireNotPaused s
  requireAuth host env staker
  let record ← okOr (s.stakes.get staker) .noStake
  rejectIf (record.amount ≤ 0) .noStake
  rejectIf record.withdrawn .alreadyWithdrawn
  rejectIf record.activeClaimId.isSome .claimActive
  rejectIf (s.sequence < record.penaltyLockedUntilLedger) .penaltyLockActive
  rejectIf (addressHash host beneficiary ≠ record.beneficiaryHash) .wrongBeneficiary
  let finalPoints ← computePoints s staker
  requireLiquidity host s record.amount
  let pointsBalances ← bankPoints s staker finalPoints
  let totalStaked ← i128 (s.totalStaked - record.amount)
  transfer env
    { s with
      stakes := s.stakes.set staker { record with withdrawn := true, amount := 0 }
      pointsBalances := pointsBalances
      totalStaked := totalStaked
      totalStakers := s.totalStakers - 1 }
    host.contract beneficiary record.amount

/-- `emergency_exit` -/
def emergencyExit (host : Host D) (env : Env) (s : State D) (staker : Address) :
    Outcome (State D) := do
  requireAuth host env staker
  let record ← okOr (s.stakes.get staker) .noStake
  rejectIf (record.amount ≤ 0 ∨ record.withdrawn) .noActiveStake
  rejectIf record.activeClaimId.isSome .claimActive
  requireLiquidity host s record.amount
  let totalStaked ← i128 (s.totalStaked - record.amount)
  transfer env
    { s with
      stakes := s.stakes.set staker { record with withdrawn := true, amount := 0 }
      totalStaked := totalStaked
      totalStakers := s.totalStakers - 1 }
    host.contract staker record.amount

end ProtectionPool
