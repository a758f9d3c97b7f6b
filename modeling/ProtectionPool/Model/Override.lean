/-
Module: ProtectionPool.Model.Override
Purpose: The 2-of-2 override flow and the revocation of signed approvals
  (`claim.rs`, override and D1 blocks).
Trusted boundary: none
Main exports: approveOverride, executeOverride, cancelPendingOverride,
  revokeApproval
-/
import ProtectionPool.Model.Claim

namespace ProtectionPool

open Checked

variable {D : Type} [DecidableEq D]

/-- The request an approval is recorded on: the stored one, or a new one with
the caller's parameters. -/
def pendingRequest (s : State D) (claimId : D) (wallet : Address) (txHash : BytesN 32)
    (entitlement : Int) (tier : Nat) : OverrideRequest :=
  (s.overrides.get claimId).getD
    { wallet := wallet
      txHash := txHash
      entitlement := entitlement
      tier := tier
      ownerApprover := none
      coSignerApprover := none }

/-- Record the caller's approval in the role or roles it currently holds. -/
def recordApproval (s : State D) (caller : Address) (req : OverrideRequest) : OverrideRequest :=
  { req with
    ownerApprover := if caller = s.admin then some s.admin else req.ownerApprover
    coSignerApprover := if caller = s.coSigner then some s.coSigner else req.coSignerApprover }

/-- Both approvals match the current admin and co-signer, or the two roles are
one address. -/
def overrideReady (s : State D) (req : OverrideRequest) : Bool :=
  (decide (req.ownerApprover = some s.admin) && decide (req.coSignerApprover = some s.coSigner))
    || decide (s.coSigner = s.admin)

/-- `total_allocated` without the reservation the overridden claim still
holds. -/
def releasedAllocation (s : State D) (existing : Option Claim) : Outcome Int :=
  match existing with
  | some c =>
      if c.status.isLive then do
        let unstreamed ← i128 (c.entitlement - c.streamed)
        .ok (saturatingSub s.totalAllocated unstreamed)
      else .ok s.totalAllocated
  | none => .ok s.totalAllocated

/-- The payments an override carries over: those of a claim still `Active`. -/
def carriedStreamed (existing : Option Claim) : Int :=
  match existing with
  | some c => if c.status = .active then c.streamed else 0
  | none => 0

/-- The re-execution branch of `execute_override`: the stake is already
forfeited, only the clocks and the snapshot start again. -/
def reexecuteClaim (s : State D) (record : StakeRecord D) (claim : Claim) :
    Outcome (Activation D) := do
  let cooldownEnds ← u32 (s.sequence + cooldownLedgers)
  let vestingEnds ← u32 (cooldownEnds + vestingLedgers)
  .ok {
    record := record
    claim := { claim with
      cooldownEndsLedger := cooldownEnds
      vestingEndsLedger := vestingEnds
      totalStakedSnapshot := s.totalStaked
      lastCollectedLedger := cooldownEnds }
    state := s
    pointsBurned := 0 }

/-- The two ways an override puts its claim into effect: a standing stake is
forfeited now, a forfeited one already was. -/
def overrideActivation (s : State D) (record : StakeRecord D) (claim : Claim) :
    Outcome (Activation D) :=
  if record.withdrawn then reexecuteClaim s record claim else activateClaim s record claim

/-- `total_staked` as the override's solvency check sees it: a forfeited
principal counts as still there. -/
def effectiveTotalStaked (s : State D) (record : StakeRecord D) : Outcome Int :=
  if record.withdrawn then i128 (s.totalStaked + record.amount) else .ok s.totalStaked

/-- `execute_override` -/
def executeOverride (s : State D) (claimId : D) (req : OverrideRequest) :
    Outcome (State D) := do
  let existing := s.claims.get claimId
  rejectIf (existing.any fun c => c.status = .completed) .claimAlreadyCompleted
  let released ← releasedAllocation s existing
  let record ← okOr (s.stakes.get req.wallet) .noStake
  rejectIf (record.activeClaimId.any fun activeId => activeId ≠ claimId)
    .walletHasDifferentActiveClaim
  rejectIf (record.amount ≤ 0) .noStakeAmountForOverride
  let cap ← tierCap record.amount req.tier
  rejectIf (req.entitlement > cap) .entitlementExceedsTierCap
  let effective ← effectiveTotalStaked s record
  let totalAllocated ← i128 (released + req.entitlement)
  rejectIf (totalAllocated > effective) .insolvent
  let claim : Claim :=
    { freshClaim req.wallet req.txHash s.timestamp req.entitlement record.amount req.tier
        .active 0 with
      streamed := carriedStreamed existing }
  let activation ← overrideActivation { s with totalAllocated := totalAllocated } record claim
  let slot := activation.record.reservedClaimId
  .ok { activation.state with
    stakes := s.stakes.set req.wallet
      { activation.record with
        activeClaimId := some claimId
        reservedClaimId := if slot = some claimId then none else slot }
    claims := s.claims.set claimId activation.claim }

/-- `approve_override` -/
def approveOverride (host : Host D) (env : Env) (s : State D) (caller wallet : Address)
    (txHash : BytesN 32) (entitlement : Int) (tier : Nat) : Outcome (State D) := do
  requireNotPaused s
  rejectIf (caller ≠ s.admin ∧ caller ≠ s.coSigner) .callerNotAdminOrCoSigner
  requireAuth host env caller
  rejectIf (entitlement ≤ 0) .entitlementNotPositive
  let _ ← tierRatio tier
  let claimId := computeClaimId host wallet txHash
  let pending := pendingRequest s claimId wallet txHash entitlement tier
  rejectIf (pending.entitlement ≠ entitlement ∨ pending.tier ≠ tier) .overrideParamsMismatch
  let req := recordApproval s caller pending
  if overrideReady s req = true then do
    let executed ← executeOverride s claimId req
    .ok { executed with overrides := executed.overrides.remove claimId }
  else .ok { s with overrides := s.overrides.set claimId req }

/-- `cancel_pending_override` -/
def cancelPendingOverride (host : Host D) (env : Env) (s : State D) (caller wallet : Address)
    (txHash : BytesN 32) : Outcome (State D) := do
  rejectIf (caller ≠ s.admin) .callerNotAdmin
  requireAuth host env s.admin
  let claimId := computeClaimId host wallet txHash
  let _ ← okOr (s.overrides.get claimId) .noPendingOverride
  .ok { s with overrides := s.overrides.remove claimId }

/-- `revoke_approval` -/
def revokeApproval (host : Host D) (env : Env) (s : State D) (caller wallet : Address)
    (txHash : BytesN 32) (entitlement : Int) (tier hackTimestamp deadline : Nat) :
    Outcome (State D) := do
  rejectIf (caller ≠ s.admin) .callerNotAdmin
  requireAuth host env s.admin
  requireOpenDeadline s deadline
  let payload := buildApprovalPayload host wallet txHash entitlement tier hackTimestamp deadline
  .ok (setApprovalRevoked s (approvalHash host payload))

end ProtectionPool
