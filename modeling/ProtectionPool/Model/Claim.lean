/-
Module: ProtectionPool.Model.Claim
Purpose: The claim operations: submission with its admission queue, the time
  gate, approval and forfeiture, the expiry sweeps, the payout stream and the
  false-positive reversal (`claim.rs`).
Trusted boundary: none
Main exports: activateClaim, admitClaim, submitClaim, tryReleaseQueuedClaim,
  expireQueuedClaim, unlockPendingClaim, approveClaim, expirePendingApproval,
  expireStaleClaim, claimStream, cancelClaim
-/
import ProtectionPool.Model.Coverage
import ProtectionPool.Model.Stake

namespace ProtectionPool

open Checked

variable {D : Type} [DecidableEq D]

/-- Admitted, nothing forfeited yet. -/
def ClaimStatus.isPending : ClaimStatus → Bool
  | .pendingTime | .awaitingApproval => true
  | _ => false

/-- The statuses that hold a reservation in `total_allocated`. -/
def ClaimStatus.isLive : ClaimStatus → Bool
  | .pendingTime | .awaitingApproval | .active => true
  | _ => false

theorem ClaimStatus.isLive_of_isPending {status : ClaimStatus}
    (pending : status.isPending = true) : status.isLive = true := by
  cases status <;> first | rfl | cases pending

theorem ClaimStatus.ne_of_isPending {status other : ClaimStatus}
    (pending : status.isPending = true) (out : other.isPending = false) : status ≠ other := by
  rintro rfl
  rw [out] at pending
  cases pending

/-- `a.saturating_sub(b)` on `i128`. -/
def saturatingSub (a b : Int) : Int := saturateI128 (a - b)

/-! ### Activation and admission -/

/-- What `activate_claim` leaves in its two mutable arguments and in storage,
and the lifetime points it burned. -/
structure Activation (D : Type) where
  record : StakeRecord D
  claim : Claim
  state : State D
  pointsBurned : Int

/-- `activate_claim` -/
def activateClaim (s : State D) (record : StakeRecord D) (claim : Claim) :
    Outcome (Activation D) := do
  let points ← computePointsForRecord s record
  let lifetimeBalance ← i128 (getPointsBalance s claim.wallet + points)
  let totalStaked ← i128 (s.totalStaked - record.amount)
  let cooldownEnds ← u32 (s.sequence + cooldownLedgers)
  let vestingEnds ← u32 (cooldownEnds + vestingLedgers)
  .ok {
    record := { record with withdrawn := true }
    claim := { claim with
      totalStakedSnapshot := s.totalStaked
      stake := record.amount
      cooldownEndsLedger := cooldownEnds
      vestingEndsLedger := vestingEnds
      lastCollectedLedger := cooldownEnds
      status := .active }
    state := { s with
      pointsBalances := s.pointsBalances.set claim.wallet 0
      totalStaked := totalStaked
      totalStakers := s.totalStakers - 1 }
    pointsBurned := lifetimeBalance }

/-- A claim as it is first recorded, before any activation. -/
def freshClaim (wallet : Address) (txHash : BytesN 32) (hackTimestamp : Nat)
    (entitlement stake : Int) (tier : Nat) (status : ClaimStatus) (deadline : Nat) : Claim where
  wallet := wallet
  txHash := txHash
  hackTimestamp := hackTimestamp
  entitlement := entitlement
  streamed := 0
  stake := stake
  cooldownEndsLedger := 0
  vestingEndsLedger := 0
  totalStakedSnapshot := 0
  tier := tier
  status := status
  approveDeadlineLedger := deadline
  lastCollectedLedger := 0

/-- Whether the 90-day time gate of a deposit has passed. -/
def gateMet (s : State D) (record : StakeRecord D) : Bool :=
  decide (timeGateLedgers ≤ s.sequence - record.stakedAtLedger)

/-- The status and approval deadline of a newly admitted claim. -/
def admissionStatus (s : State D) (record : StakeRecord D) : Outcome (ClaimStatus × Nat) :=
  if gateMet s record then do
    let deadline ← u32 (s.sequence + approveWindowLedgers)
    .ok (.awaitingApproval, deadline)
  else .ok (.pendingTime, 0)

/-- `admit_claim` -/
def admitClaim (s : State D) (wallet : Address) (txHash : BytesN 32) (claimId : D)
    (entitlement : Int) (tier hackTimestamp : Nat) (record : StakeRecord D)
    (countTowardOracleLimit : Bool) : Outcome (State D) := do
  let day := currentDay s
  let daily := getDailyEntitlement s day
  let dayEntitlement ← i128 (daily.1 + entitlement)
  let dayCount ← u32 (daily.2 + if countTowardOracleLimit then 1 else 0)
  let totalAllocated ← i128 (s.totalAllocated + entitlement)
  let admitted ← admissionStatus s record
  .ok { s with
    lastEntitlementDay := day
    dailyEntitlementTotal := dayEntitlement
    dailyClaimCount := dayCount
    totalAllocated := totalAllocated
    stakes := s.stakes.set wallet
      { record with activeClaimId := some claimId, reservedClaimId := none }
    claims := s.claims.set claimId
      (freshClaim wallet txHash hackTimestamp entitlement record.amount tier
        admitted.1 admitted.2) }

/-! ### Submission -/

/-- The signature check of `submit_claim`, made only for the oracle. -/
def verifyCaller (host : Host D) (s : State D) (caller wallet : Address)
    (txHash : BytesN 32) (entitlement : Int) (tier hackTimestamp deadline : Nat)
    (signature : BytesN 64) : Outcome Unit :=
  if caller = s.oracle then
    verifyOracleSignature host s wallet txHash entitlement tier hackTimestamp deadline signature
  else .ok ()

/-- The record checks of `submit_claim`, in the source's order. -/
def requireEligibleStake (s : State D) (record : StakeRecord D) (entitlement : Int)
    (tier hackTimestamp : Nat) : Outcome Unit := do
  rejectIf (record.amount ≤ 0) .noActiveStake
  rejectIf record.withdrawn .alreadyWithdrawn
  rejectIf record.suspended .stakeSuspended
  rejectIf record.activeClaimId.isSome .claimAlreadyActiveForStake
  rejectIf record.reservedClaimId.isSome .claimAlreadyQueued
  let cap ← tierCap record.amount tier
  rejectIf (entitlement > cap) .entitlementExceedsTierCap
  rejectIf (hackTimestamp > s.timestamp) .hackTimestampInFuture
  rejectIf (hackTimestamp < record.stakedAtTimestamp) .hackPredatesStake
  let windowEnd ← u64 (hackTimestamp + claimWindowSeconds)
  rejectIf (s.timestamp > windowEnd) .claimWindowExpired

/-- The oracle's own daily submission limit. -/
def oracleRateLimited (s : State D) (caller : Address) (dayCount : Nat) : Bool :=
  decide (caller = s.oracle) && decide (max (s.totalStakers / 10) 1 ≤ dayCount)

/-- The queue branch of `submit_claim`: the claim is stored as `Reserved` and
takes the wallet's queue slot. -/
def queueClaim (s : State D) (wallet : Address) (txHash : BytesN 32) (claimId : D)
    (entitlement : Int) (tier hackTimestamp : Nat) (record : StakeRecord D) : State D :=
  { s with
    stakes := s.stakes.set wallet { record with reservedClaimId := some claimId }
    claims := s.claims.set claimId
      (freshClaim wallet txHash hackTimestamp entitlement record.amount tier .reserved 0) }

/-- `submit_claim` -/
def submitClaim (host : Host D) (env : Env) (s : State D) (caller wallet : Address)
    (txHash : BytesN 32) (entitlement : Int) (tier hackTimestamp deadline : Nat)
    (signature : BytesN 64) : Outcome (D × State D) := do
  requireNotPaused s
  rejectIf (caller ≠ s.oracle ∧ caller ≠ s.admin) .callerNotOracleOrAdmin
  requireAuth host env caller
  rejectIf (entitlement ≤ 0) .entitlementNotPositive
  let _ ← tierRatio tier
  verifyCaller host s caller wallet txHash entitlement tier hackTimestamp deadline signature
  let record ← okOr (s.stakes.get wallet) .noStake
  requireEligibleStake s record entitlement tier hackTimestamp
  let allocatedAfter ← i128 (s.totalAllocated + entitlement)
  let daily := getDailyEntitlement s (currentDay s)
  let dayAfter ← i128 (daily.1 + entitlement)
  let stress ← stressCap s
  let claimId := computeClaimId host wallet txHash
  rejectIf ((s.claims.get claimId).any fun existing => existing.status ≠ .unused)
    .claimAlreadyExists
  if allocatedAfter > s.totalStaked ∨ dayAfter > stress ∨
      oracleRateLimited s caller daily.2 = true then
    .ok (claimId, queueClaim s wallet txHash claimId entitlement tier hackTimestamp record)
  else do
    let admitted ← admitClaim s wallet txHash claimId entitlement tier hackTimestamp record
      (decide (caller = s.oracle))
    .ok (claimId, admitted)

/-- `try_release_queued_claim` -/
def tryReleaseQueuedClaim (s : State D) (claimId : D) : Outcome (State D) := do
  requireNotPaused s
  let claim ← okOr (s.claims.get claimId) .noSuchQueuedClaim
  rejectIf (claim.status ≠ .reserved) .noSuchQueuedClaim
  let record ← okOr (s.stakes.get claim.wallet) .noStake
  rejectIf (record.activeClaimId.any fun activeId => activeId ≠ claimId)
    .walletHasDifferentActiveClaim
  let allocatedAfter ← i128 (s.totalAllocated + claim.entitlement)
  rejectIf (allocatedAfter > s.totalStaked) .queueReleaseNotYetEligible
  let daily := getDailyEntitlement s (currentDay s)
  let dayAfter ← i128 (daily.1 + claim.entitlement)
  let stress ← stressCap s
  rejectIf (dayAfter > stress) .queueReleaseNotYetEligible
  admitClaim s claim.wallet claim.txHash claimId claim.entitlement claim.tier
    claim.hackTimestamp record false

/-- `expire_queued_claim` -/
def expireQueuedClaim (s : State D) (claimId : D) : Outcome (State D) := do
  requireNotPaused s
  let claim ← okOr (s.claims.get claimId) .noSuchQueuedClaim
  rejectIf (claim.status ≠ .reserved) .noSuchQueuedClaim
  let windowEnd ← u64 (claim.hackTimestamp + claimWindowSeconds)
  rejectIf (s.timestamp ≤ windowEnd) .queueNotYetExpired
  let record ← okOr (s.stakes.get claim.wallet) .noStake
  .ok { s with
    stakes := s.stakes.set claim.wallet { record with reservedClaimId := none }
    claims := s.claims.set claimId { claim with status := .expired } }

/-! ### Approval -/

/-- `unlock_pending_claim` -/
def unlockPendingClaim (s : State D) (claimId : D) : Outcome (State D) := do
  requireNotPaused s
  let claim ← okOr (s.claims.get claimId) .noSuchClaim
  rejectIf (claim.status ≠ .pendingTime) .claimNotPending
  let record ← okOr (s.stakes.get claim.wallet) .noStake
  let gate ← u32 (record.stakedAtLedger + timeGateLedgers)
  rejectIf (s.sequence < gate) .timeGateNotMet
  let deadline ← u32 (s.sequence + approveWindowLedgers)
  .ok { s with
    claims := s.claims.set claimId
      { claim with status := .awaitingApproval, approveDeadlineLedger := deadline } }

/-- `approve_claim` -/
def approveClaim (host : Host D) (env : Env) (s : State D) (claimId : D) :
    Outcome (State D) := do
  requireNotPaused s
  let claim ← okOr (s.claims.get claimId) .noSuchClaim
  requireAuth host env claim.wallet
  rejectIf (claim.status ≠ .awaitingApproval) .claimNotAwaitingApproval
  rejectIf (s.sequence > claim.approveDeadlineLedger) .approvalWindowExpired
  let record ← okOr (s.stakes.get claim.wallet) .noStake
  rejectIf record.suspended .stakeSuspended
  let activation ← activateClaim s record claim
  .ok { activation.state with
    stakes := s.stakes.set claim.wallet activation.record
    claims := s.claims.set claimId activation.claim }

/-! ### Expiry sweeps -/

/-- `expire_pending_approval` -/
def expirePendingApproval (s : State D) (claimId : D) : Outcome (State D) := do
  let claim ← okOr (s.claims.get claimId) .noSuchClaim
  rejectIf (claim.status ≠ .awaitingApproval) .claimNotAwaitingApproval
  let record ← okOr (s.stakes.get claim.wallet) .noStake
  rejectIf record.suspended .stakeSuspended
  rejectIf (s.sequence ≤ claim.approveDeadlineLedger) .approvalWindowNotExpired
  .ok { s with
    totalAllocated := saturatingSub s.totalAllocated claim.entitlement
    stakes := s.stakes.set claim.wallet { record with activeClaimId := none }
    claims := s.claims.set claimId { claim with status := .expired } }

/-- `expire_stale_claim` -/
def expireStaleClaim (s : State D) (claimId : D) : Outcome (State D) := do
  let claim ← okOr (s.claims.get claimId) .noSuchClaim
  rejectIf (claim.status ≠ .active) .claimNotActive
  rejectIf (claim.streamed ≥ claim.entitlement) .claimFullyStreamed
  let record ← okOr (s.stakes.get claim.wallet) .noStake
  rejectIf record.suspended .stakeSuspended
  rejectIf (s.sequence - claim.lastCollectedLedger ≤ collectionInactivityLedgers) .claimNotStale
  let remaining ← i128 (claim.entitlement - claim.streamed)
  .ok { s with
    totalAllocated := saturatingSub s.totalAllocated remaining
    stakes := s.stakes.set claim.wallet { record with activeClaimId := none }
    claims := s.claims.set claimId { claim with status := .expired } }

/-! ### Payout -/

/-- What has vested of a claim by now, over the 45 days after its cooldown. -/
def vestedTotal (s : State D) (claim : Claim) : Outcome Int := do
  let elapsed : Int :=
    (min s.sequence claim.vestingEndsLedger - claim.cooldownEndsLedger : Nat)
  let product ← i128 (claim.entitlement * elapsed)
  .ok (product.tdiv vestingLedgers)

/-- Today's payout cap as it applies to a claim. -/
def outflowCap (s : State D) (claim : Claim) : Outcome Int := do
  let capBase := max s.totalStaked claim.totalStakedSnapshot
  let bps ← dynamicOutflowBps s capBase
  let product ← i128 (capBase * bps)
  .ok (product.tdiv bpsDenominator)

/-- The amount `claim_stream` pays now: what has vested and was not paid yet,
up to what is left of today's cap. -/
def transferAmount (s : State D) (claim : Claim) : Outcome Int := do
  let vested ← vestedTotal s claim
  let claimable ← i128 (vested - claim.streamed)
  rejectIf (claimable ≤ 0) .nothingVested
  let cap ← outflowCap s claim
  let availableToday := saturatingSub cap (getDailyOutflow s (currentDay s))
  let amount := min claimable availableToday
  rejectIf (amount ≤ 0) .dailyOutflowCapReached
  .ok amount

/-- `claim_stream`; returns the amount paid. -/
def claimStream (host : Host D) (env : Env) (s : State D) (claimId : D)
    (beneficiary : Address) : Outcome (Int × State D) := do
  requireNotPaused s
  let claim ← okOr (s.claims.get claimId) .noSuchClaim
  requireAuth host env claim.wallet
  rejectIf (claim.status ≠ .active) .claimNotActive
  rejectIf (s.sequence < claim.cooldownEndsLedger) .cooldownNotPassed
  rejectIf (claim.streamed ≥ claim.entitlement) .claimFullyStreamed
  let record ← okOr (s.stakes.get claim.wallet) .noStake
  rejectIf record.suspended .stakeSuspended
  rejectIf (addressHash host beneficiary ≠ record.beneficiaryHash) .wrongBeneficiary
  let amount ← transferAmount s claim
  requireLiquidity host s amount
  let streamed ← i128 (claim.streamed + amount)
  let dailyOutflow ← i128 (getDailyOutflow s (currentDay s) + amount)
  let paid ← transfer env
    { s with
      totalAllocated := saturatingSub s.totalAllocated amount
      lastOutflowDay := currentDay s
      dailyOutflow := dailyOutflow
      claims := s.claims.set claimId
        { claim with
          streamed := streamed
          lastCollectedLedger := s.sequence
          status := if streamed ≥ claim.entitlement then .completed else claim.status } }
    host.contract beneficiary amount
  .ok (amount, paid)

/-! ### Reversal -/

/-- The part of `cancel_claim` that restores a forfeited stake, with the
365-day penalty lock. -/
def restoreStake (s : State D) (record : StakeRecord D) (claim : Claim) :
    Outcome (StakeRecord D × State D) :=
  if claim.status = .active then do
    let lockedUntil ← u32 (s.sequence + penaltyLockLedgers)
    let totalStaked ← i128 (s.totalStaked + claim.stake)
    let totalStakers ← u32 (s.totalStakers + 1)
    .ok ({ record with withdrawn := false, penaltyLockedUntilLedger := lockedUntil },
      { s with totalStaked := totalStaked, totalStakers := totalStakers })
  else .ok (record, s)

/-- `cancel_claim` -/
def cancelClaim (host : Host D) (env : Env) (s : State D) (claimId : D) :
    Outcome (State D) := do
  requireAuth host env s.admin
  let claim ← okOr (s.claims.get claimId) .noSuchClaim
  rejectIf (claim.status ≠ .active ∧ claim.status ≠ .pendingTime ∧
    claim.status ≠ .awaitingApproval) .claimNotCancellable
  let unstreamed ← i128 (claim.entitlement - claim.streamed)
  let record ← okOr (s.stakes.get claim.wallet) .noStake
  let restored ← restoreStake s record claim
  .ok { restored.2 with
    totalAllocated := saturatingSub s.totalAllocated unstreamed
    stakes := s.stakes.set claim.wallet { restored.1 with activeClaimId := none }
    claims := s.claims.set claimId { claim with status := .cancelled } }

end ProtectionPool
